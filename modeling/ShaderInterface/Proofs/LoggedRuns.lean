import ShaderInterface.Log.Logged

/-! Runs that may fail and that log. What can fail in a run is a list, in the order in which it is
asked for, and the first fault of the list is the answer. A run that reports its failures logs one
error and nothing behind it if it fails, and none if it succeeds; runs put together from such runs
are such runs. -/
namespace ShaderInterface

namespace Fault

variable {α : Type}

def of? : Except Fault α → Option Fault
  | .ok _ => none
  | .error fault => some fault

@[simp] theorem of?_ok (value : α) : of? (.ok value) = none := rfl

@[simp] theorem of?_error (fault : Fault) : of? (.error fault : Except Fault α) = some fault := rfl

theorem of?_eq_some_iff {outcome : Except Fault α} {fault : Fault} :
    of? outcome = some fault ↔ outcome = .error fault := by
  cases outcome <;> simp

/-- The first of the faults that things asked for one after another raise. -/
def first? (faults : List (Option Fault)) : Option Fault := faults.findSome? id

@[simp] theorem first?_none (rest : List (Option Fault)) :
    first? (none :: rest) = first? rest := rfl

@[simp] theorem first?_some (fault : Fault) (rest : List (Option Fault)) :
    first? (some fault :: rest) = some fault := rfl

end Fault

namespace Message

variable {front messages : List Message} {minimum : Severity}

theorem mem_atLeast {message : Message} :
    message ∈ atLeast minimum messages ↔ message ∈ messages ∧ minimum ≤ message.severity := by
  rw [atLeast, List.mem_filter, decide_eq_true_iff]

theorem atLeast_append (front back : List Message) :
    atLeast minimum (front ++ back) = atLeast minimum front ++ atLeast minimum back :=
  List.filter_append ..

theorem atLeast_trace (messages : List Message) : atLeast .trace messages = messages :=
  List.filter_eq_self.mpr fun message _ => decide_eq_true (Nat.zero_le message.severity.rank)

theorem atLeast_cons_of_le {message : Message} (heard : minimum ≤ message.severity)
    (rest : List Message) :
    atLeast minimum (message :: rest) = message :: atLeast minimum rest :=
  List.filter_cons_of_pos (decide_eq_true heard)

def Without (severity : Severity) (messages : List Message) : Prop :=
  ∀ message ∈ messages, message.severity ≠ severity

theorem without_nil (severity : Severity) : Without severity [] := fun _ => nofun

theorem without_of_severity {severity other : Severity}
    (all : ∀ message ∈ messages, message.severity = other) (differ : other ≠ severity) :
    Without severity messages := by
  intro message mem
  rw [all message mem]
  exact differ

theorem Without.append {severity : Severity} {back : List Message}
    (first : Without severity front) (second : Without severity back) :
    Without severity (front ++ back) := by
  intro message mem
  rcases List.mem_append.mp mem with mem | mem
  · exact first message mem
  · exact second message mem

theorem Without.atLeast {severity : Severity} (minimum : Severity)
    (without : Without severity messages) : Without severity (atLeast minimum messages) :=
  fun message mem => without message (mem_atLeast.mp mem).1

/-- Messages of which the last one, and no other, is an error: with this source and this text, and
raised at a known place. -/
def EndsInFailure (source text : String) (messages : List Message) : Prop :=
  ∃ front last, messages = front ++ [last] ∧ Without .error front ∧ last.severity = .error ∧
    last.source = source ∧ last.text = text ∧ last.located = true

theorem endsInFailure_failure (source text : String) (site : Site) :
    EndsInFailure source text [failure source text site] :=
  ⟨[], _, rfl, without_nil .error, rfl, rfl, rfl, rfl⟩

theorem EndsInFailure.append {source text : String} (mild : Without .error front)
    (ends : EndsInFailure source text messages) :
    EndsInFailure source text (front ++ messages) := by
  obtain ⟨before, last, rfl, milder, report⟩ := ends
  exact ⟨front ++ before, last, (List.append_assoc ..).symm, mild.append milder, report⟩

theorem le_error (severity : Severity) : severity ≤ .error := by
  cases severity <;> decide

theorem EndsInFailure.atLeast {source text : String} (minimum : Severity)
    (ends : EndsInFailure source text messages) :
    EndsInFailure source text (atLeast minimum messages) := by
  obtain ⟨before, last, rfl, mild, severity, report⟩ := ends
  have heard : minimum ≤ last.severity := severity ▸ le_error minimum
  refine ⟨Message.atLeast minimum before, last, ?_, mild.atLeast minimum, severity, report⟩
  rw [atLeast_append, atLeast_cons_of_le heard]
  rfl

/-- Messages with a warning exactly on a condition, and that in front of everything else. -/
def WarnsIf (condition : Prop) (messages : List Message) : Prop :=
  ((∃ message ∈ messages, message.severity = .warn) ↔ condition) ∧
    ∀ message ∈ messages, message.severity = .warn → messages.head? = some message

theorem warnsIf_of_not {condition : Prop} (silent : Without .warn messages)
    (fails : ¬ condition) : WarnsIf condition messages := by
  refine ⟨⟨?_, fun holds => absurd holds fails⟩, ?_⟩
  · rintro ⟨message, mem, warns⟩
    exact absurd warns (silent message mem)
  · intro message mem warns
    exact absurd warns (silent message mem)

theorem warnsIf_cons {condition : Prop} {warning : Message} (warns : warning.severity = .warn)
    (silent : Without .warn messages) (holds : condition) :
    WarnsIf condition (warning :: messages) := by
  refine ⟨⟨fun _ => holds, fun _ => ⟨warning, List.mem_cons_self, warns⟩⟩, ?_⟩
  intro message mem other
  rcases List.mem_cons.mp mem with rfl | mem
  · rfl
  · exact absurd other (silent message mem)

theorem WarnsIf.atLeast {condition : Prop} (heard : minimum ≤ .warn)
    (warns : WarnsIf condition messages) : WarnsIf condition (atLeast minimum messages) := by
  obtain ⟨exists_iff, leads⟩ := warns
  refine ⟨?_, ?_⟩
  · rw [← exists_iff]
    constructor
    · rintro ⟨message, mem, severity⟩
      exact ⟨message, (mem_atLeast.mp mem).1, severity⟩
    · rintro ⟨message, mem, severity⟩
      exact ⟨message, mem_atLeast.mpr ⟨mem, severity ▸ heard⟩, severity⟩
  · intro message mem severity
    obtain ⟨rest, rfl⟩ :=
      List.head?_eq_some_iff.mp (leads message (mem_atLeast.mp mem).1 severity)
    rw [atLeast_cons_of_le (severity ▸ heard)]
    rfl

end Message

namespace Logged

variable {α β : Type}

theorem andThen_eq_ok_iff {first : Logged α} {next : α → Logged β} {result : β} :
    (first.andThen next).outcome = .ok result ↔
      ∃ value, first.outcome = .ok value ∧ (next value).outcome = .ok result := by
  rw [andThen]
  cases first.outcome <;> simp [after]

theorem andThen_outcome_ok {first : Logged α} {next : α → Logged β} {value : α}
    (done : first.outcome = .ok value) :
    (first.andThen next).outcome = (next value).outcome := by
  rw [andThen, done]
  rfl

theorem andThen_outcome_error {first : Logged α} {next : α → Logged β} {fault : Fault}
    (failed : first.outcome = .error fault) : (first.andThen next).outcome = .error fault := by
  rw [andThen, failed]

theorem pure_andThen (value : α) (next : α → Logged β) :
    (pure value).andThen next = next value := rfl

/-- A silent step in between is seen only through what it hands on. -/
theorem andThen_pure_andThen (first : Logged α) (change : α → α) (next : α → Logged β) :
    (first.andThen fun value => .pure (change value)).andThen next =
      first.andThen fun value => next (change value) := by
  obtain ⟨messages, outcome⟩ := first
  cases outcome with
  | error fault => rfl
  | ok value => simp [andThen, after, pure]

def delivered (minimum : Severity) (run : Logged α) : List Message :=
  Message.atLeast minimum run.messages

/-- A run that reports: a failure as its last message and only error, in the words that the caller
is handed; a success without an error. -/
def Reports (source : String) (run : Logged α) : Prop :=
  match run.outcome with
  | .ok _ => Message.Without .error run.messages
  | .error fault =>
    fault.kind = .reflectorError ∧ Message.EndsInFailure source fault.text run.messages

section Reports

variable {source : String} {run : Logged α}

theorem reports_of_ok {messages : List Message} {value : α}
    (mild : Message.Without .error messages) :
    Reports source (⟨messages, .ok value⟩ : Logged α) := mild

theorem reports_report (text : String) (site : Site) :
    Reports source (report source text site : Logged α) :=
  ⟨rfl, Message.endsInFailure_failure source text site⟩

theorem Reports.after {messages : List Message} (mild : Message.Without .error messages)
    (reports : Reports source run) : Reports source (after messages run) := by
  obtain ⟨own, outcome⟩ := run
  cases outcome with
  | ok value => exact mild.append reports
  | error fault => exact ⟨reports.1, reports.2.append mild⟩

theorem Reports.andThen {next : α → Logged β} (reports : Reports source run)
    (rest : ∀ value, Reports source (next value)) : Reports source (run.andThen next) := by
  obtain ⟨own, outcome⟩ := run
  cases outcome with
  | ok value => exact (rest value).after reports
  | error fault => exact reports

theorem Reports.failed {fault : Fault} (reports : Reports source run)
    (failed : run.outcome = .error fault) : fault.kind = .reflectorError ∧
      ∀ minimum, Message.EndsInFailure source fault.text (run.delivered minimum) := by
  rw [Reports, failed] at reports
  exact ⟨reports.1, fun minimum => reports.2.atLeast minimum⟩

theorem Reports.succeeded {value : α} (reports : Reports source run)
    (done : run.outcome = .ok value) (minimum : Severity) :
    Message.Without .error (run.delivered minimum) := by
  rw [Reports, done] at reports
  exact reports.atLeast minimum

end Reports

/-- A run that ends each success with a message about its value. -/
def ClosesWith (closing : α → Message) (run : Logged α) : Prop :=
  ∀ value, run.outcome = .ok value → ∃ front, run.messages = front ++ [closing value]

section ClosesWith

variable {closing : α → Message} {run : Logged α}

theorem closesWith_of_error {fault : Fault} (failed : run.outcome = .error fault) :
    ClosesWith closing run := by
  intro value done
  cases failed.symm.trans done

theorem ClosesWith.after (messages : List Message) (closes : ClosesWith closing run) :
    ClosesWith closing (after messages run) := by
  intro value done
  obtain ⟨front, ends⟩ := closes value done
  refine ⟨messages ++ front, ?_⟩
  rw [Logged.after, ends, List.append_assoc]

theorem closesWith_andThen {first : Logged β} {next : β → Logged α}
    (rest : ∀ value, ClosesWith closing (next value)) :
    ClosesWith closing (first.andThen next) := by
  obtain ⟨own, outcome⟩ := first
  cases outcome with
  | ok value => exact (rest value).after own
  | error fault => exact closesWith_of_error rfl

theorem ClosesWith.getLast?_delivered {value : α} {minimum : Severity}
    (closes : ClosesWith closing run) (done : run.outcome = .ok value)
    (heard : minimum ≤ (closing value).severity) :
    (run.delivered minimum).getLast? = some (closing value) := by
  obtain ⟨front, ends⟩ := closes value done
  rw [delivered, ends, Message.atLeast_append, Message.atLeast_cons_of_le heard]
  exact List.getLast?_concat ..

end ClosesWith

end Logged

end ShaderInterface
