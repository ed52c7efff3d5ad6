import ShaderInterface.Proofs.LoggedRuns
import ShaderInterface.Spirv.Backend

/-! What a reading tells of itself. Each of its failures is handed out and logged in the same words,
once and last; a reading that succeeds ends with its summary. The only warning is about an entry
point that was not asked for, and it comes before everything else. -/
namespace ShaderInterface.Spirv

namespace Listing

variable {outline : Outline} {used : Resolved → Bool}

theorem append_messages (state : State) (standing : Option Global) (isUsed : Bool)
    (resolved : Resolved) :
    (append outline state standing isUsed resolved).messages = state.messages := by
  rw [append]
  split <;> rfl

theorem add_messages_severity {state : State} (traced : Option Global × Resolved)
    (debug : ∀ message ∈ state.messages, message.severity = .debug) :
    ∀ message ∈ (add outline used state traced).messages, message.severity = .debug := by
  obtain ⟨standing, resolved⟩ := traced
  cases standing with
  | none => simpa only [add, append_messages] using debug
  | some declared =>
    rw [add]
    split
    · intro message mem
      rcases List.mem_append.mp mem with earlier | skipped
      · exact debug message earlier
      · rw [List.mem_singleton.mp skipped]
        rfl
    · simpa only [append_messages] using debug

theorem foldl_add_messages_severity (traced : List (Option Global × Resolved)) {state : State}
    (debug : ∀ message ∈ state.messages, message.severity = .debug) :
    ∀ message ∈ (traced.foldl (add outline used) state).messages, message.severity = .debug := by
  induction traced generalizing state with
  | nil => exact debug
  | cons item rest ih => exact ih (add_messages_severity item debug)

theorem list_messages_severity {entry : EntryPoint} {keys : List InterfaceKey}
    {found : List Resolved} {message : Message}
    (mem : message ∈ (list outline entry keys found).messages) : message.severity = .debug := by
  have start : ∀ message ∈ ([] : List Message), message.severity = .debug := fun _ => nofun
  exact foldl_add_messages_severity _ start message mem

end Listing

theorem readEntry_messages_severity {outline : Outline} {declared : EntryPoint}
    {entry : Resolution.Entry} {message : Message}
    (mem : message ∈ (readEntry outline declared entry).messages) : message.severity = .debug := by
  rcases List.mem_append.mp mem with listed | last
  · exact Listing.list_messages_severity listed
  · rw [List.mem_singleton.mp last]
    rfl

theorem readEntry_without {outline : Outline} {declared : EntryPoint} {entry : Resolution.Entry}
    {severity : Severity} (differ : .debug ≠ severity) :
    Message.Without severity (readEntry outline declared entry).messages :=
  Message.without_of_severity (fun _ => readEntry_messages_severity) differ

/-- The module leaves it open which entry point is meant. -/
def LeavesOpen (config : Config) (outline : Outline) : Prop :=
  config.entryPoint = none ∧ 1 < outline.entryPoints.length

section Stages

variable {resolver : Resolver} {config : Config} {words : List UInt32} {outline : Outline}

theorem choiceMessages_of_leavesOpen (name : String) (isOpen : LeavesOpen config outline) :
    ∃ warning, choiceMessages config outline name = [warning] ∧ warning.severity = .warn := by
  rw [choiceMessages, isOpen.1, Option.isNone_none, Bool.true_and, if_pos (decide_eq_true isOpen.2)]
  exact ⟨_, rfl, rfl⟩

theorem choiceMessages_of_not_leavesOpen (name : String) (settled : ¬ LeavesOpen config outline) :
    choiceMessages config outline name = [] := by
  rw [choiceMessages, if_neg]
  rintro both
  rw [Bool.and_eq_true, Option.isNone_iff_eq_none, decide_eq_true_iff] at both
  exact settled both

theorem choiceMessages_without_errors (name : String) :
    Message.Without .error (choiceMessages config outline name) := by
  by_cases isOpen : LeavesOpen config outline
  · obtain ⟨warning, logged, severity⟩ := choiceMessages_of_leavesOpen name isOpen
    rw [logged]
    refine Message.without_of_severity (fun message mem => ?_) (by decide : Severity.warn ≠ .error)
    rw [List.mem_singleton.mp mem, severity]
  · rw [choiceMessages_of_not_leavesOpen name isOpen]
    exact Message.without_nil .error

theorem exists_chooseEntry_of_leavesOpen (isOpen : LeavesOpen config outline) :
    ∃ declared, chooseEntry config outline = .ok declared := by
  obtain ⟨unnamed, several⟩ := isOpen
  rw [chooseEntry, unnamed]
  cases entries : outline.entryPoints with
  | nil =>
    rw [entries] at several
    cases several
  | cons first rest => exact ⟨first, rfl⟩

theorem refuse_reports {α : Type} (text : String) :
    Logged.Reports "galaxy3d::spirq" (refuse text : Logged α) :=
  Logged.reports_report text site

theorem readOutline_reports : Logged.Reports "galaxy3d::spirq" (readOutline words) := by
  rw [readOutline]
  cases scan words with
  | ok outline => exact Logged.reports_of_ok (Message.without_nil .error)
  | error fault => exact refuse_reports fault.text

theorem readOutlined_reports :
    Logged.Reports "galaxy3d::spirq" (readOutlined resolver config words outline) := by
  rw [readOutlined]
  cases chooseEntry config outline with
  | error fault => exact refuse_reports fault.text
  | ok declared =>
    refine Logged.Reports.after (choiceMessages_without_errors declared.name) ?_
    cases resolveChosen resolver config words declared.name with
    | error fault => exact refuse_reports fault.text
    | ok entry => exact Logged.reports_of_ok (readEntry_without (by decide))

theorem refuse_without {α : Type} {severity : Severity} (text : String)
    (differ : .error ≠ severity) : Message.Without severity (refuse text : Logged α).messages := by
  refine Message.without_of_severity (fun message mem => ?_) differ
  rw [List.mem_singleton.mp mem]
  rfl

/-- The warning about an open choice is the only one, and it comes first. -/
theorem warnsIf_after_choiceMessages {run : Logged Reading} (name : String)
    (silent : Message.Without .warn run.messages) :
    Message.WarnsIf (LeavesOpen config outline)
      (Logged.after (choiceMessages config outline name) run).messages := by
  rw [Logged.after]
  by_cases isOpen : LeavesOpen config outline
  · obtain ⟨warning, logged, severity⟩ := choiceMessages_of_leavesOpen name isOpen
    rw [logged]
    exact Message.warnsIf_cons severity silent isOpen
  · rw [choiceMessages_of_not_leavesOpen name isOpen]
    exact Message.warnsIf_of_not silent isOpen

theorem readOutlined_warnsIf (resolver : Resolver) (config : Config) (words : List UInt32)
    (outline : Outline) : Message.WarnsIf (LeavesOpen config outline)
      (readOutlined resolver config words outline).messages := by
  rw [readOutlined]
  cases chosen : chooseEntry config outline with
  | error fault =>
    refine Message.warnsIf_of_not (refuse_without fault.text (by decide)) fun isOpen => ?_
    obtain ⟨declared, same⟩ := exists_chooseEntry_of_leavesOpen isOpen
    cases same.symm.trans chosen
  | ok declared =>
    refine warnsIf_after_choiceMessages declared.name ?_
    cases resolveChosen resolver config words declared.name with
    | error fault => exact refuse_without fault.text (by decide)
    | ok entry => exact readEntry_without (by decide)

theorem readWith_warnsIf :
    Message.WarnsIf (∃ outline, scan words = .ok outline ∧ LeavesOpen config outline)
      (readWith resolver config words).messages := by
  rw [readWith, readOutline]
  cases scanned : scan words with
  | error fault =>
    refine Message.warnsIf_of_not (refuse_without fault.text (by decide)) ?_
    rintro ⟨outline, same, _⟩
    cases same
  | ok outline =>
    have condition : (∃ other, (.ok outline : Except ScanFault Outline) = .ok other ∧
        LeavesOpen config other) ↔ LeavesOpen config outline := by simp
    rw [Logged.pure_andThen, condition]
    exact readOutlined_warnsIf resolver config words outline

theorem readWith_reports_failures :
    Logged.Reports "galaxy3d::spirq" (readWith resolver config words) :=
  readOutline_reports.andThen fun _ => readOutlined_reports

theorem readOutlined_closesWith :
    Logged.ClosesWith Reading.summary (readOutlined resolver config words outline) := by
  rw [readOutlined]
  cases chooseEntry config outline with
  | error fault => exact Logged.closesWith_of_error rfl
  | ok declared =>
    refine Logged.ClosesWith.after _ ?_
    cases resolveChosen resolver config words declared.name with
    | error fault => exact Logged.closesWith_of_error rfl
    | ok entry =>
      intro reading done
      cases done
      exact ⟨_, rfl⟩

theorem readWith_closesWith :
    Logged.ClosesWith Reading.summary (readWith resolver config words) :=
  Logged.closesWith_andThen fun _ => readOutlined_closesWith

end Stages

def EntryFault.fault (raised : EntryFault) : Fault := ⟨.reflectorError, raised.text⟩

section Refusals

variable (resolver : Resolver) (config : Config) (words : List UInt32)

def resolutionFault? : Option Fault :=
  match resolver config.combineImageSamplers words with
  | .error text => some ⟨.reflectorError, "SPIR-V reflection failed: " ++ text⟩
  | .ok _ => none

def missingFault? (name : String) : Option Fault :=
  match resolver config.combineImageSamplers words with
  | .error _ => none
  | .ok entries =>
    if name ∈ entries.map (·.name) then none
    else some ⟨.reflectorError, "Entry point '" ++ name ++ "' missing from spirq reflection"⟩

/-- What can go wrong once a module has been scanned, first to last: it declares no entry point, or
not the one that is asked for, or its interfaces cannot be resolved, or the entry point is not among
the resolved ones. -/
def outlineRefusals (outline : Outline) : List (Option Fault) :=
  let names := outline.entryPoints.map (·.name)
  [if config.entryPoint = none ∧ names = [] then
      some ⟨.reflectorError, "SPIR-V module declares no entry point"⟩
    else none,
   config.entryPoint.bind fun name =>
    if name ∈ names then none
    else some ⟨.reflectorError, "Entry point '" ++ name ++ "' not found"⟩,
   resolutionFault? resolver config words,
   (config.entryPoint.or names.head?).bind (missingFault? resolver config words)]

def refusals : List (Option Fault) :=
  match scan words with
  | .error fault => [some ⟨.reflectorError, fault.text⟩]
  | .ok outline => outlineRefusals resolver config words outline

variable {resolver config words}

private theorem isSome_find?_name {α : Type} {nameOf : α → String} {items : List α}
    {name : String} :
    (items.find? (nameOf · == name)).isSome ↔ name ∈ items.map nameOf := by
  rw [List.find?_isSome, List.mem_map]
  simp only [beq_iff_eq]

theorem of?_resolveChosen (name : String) :
    Fault.of? ((resolveChosen resolver config words name).mapError EntryFault.fault) =
      Fault.first? [resolutionFault? resolver config words,
        missingFault? resolver config words name] := by
  rw [resolveChosen, resolutionFault?, missingFault?]
  cases resolver config.combineImageSamplers words with
  | error fault => rfl
  | ok entries =>
    simp only [← isSome_find?_name]
    cases entries.find? (·.name == name) <;> rfl

theorem of?_readOutlined_of_chosen {outline : Outline} {declared : EntryPoint}
    (chosen : chooseEntry config outline = .ok declared) :
    Fault.of? (readOutlined resolver config words outline).outcome =
      Fault.first? [resolutionFault? resolver config words,
        missingFault? resolver config words declared.name] := by
  rw [← of?_resolveChosen, readOutlined, chosen]
  dsimp only [Logged.after]
  cases resolveChosen resolver config words declared.name <;> rfl

theorem of?_readOutlined (outline : Outline) :
    Fault.of? (readOutlined resolver config words outline).outcome =
      Fault.first? (outlineRefusals resolver config words outline) := by
  rw [outlineRefusals]
  cases asked : config.entryPoint with
  | none =>
    cases entries : outline.entryPoints with
    | nil =>
      have refused : chooseEntry config outline = .error .noneDeclared := by
        rw [chooseEntry, asked, entries]
        rfl
      rw [readOutlined, refused]
      rfl
    | cons first rest =>
      have chosen : chooseEntry config outline = .ok first := by
        rw [chooseEntry, asked, entries]
        rfl
      exact of?_readOutlined_of_chosen chosen
  | some name =>
    simp only [Option.bind_some, Option.some_or, ← isSome_find?_name]
    cases found : outline.entryPoints.find? (·.name == name) with
    | none =>
      have refused : chooseEntry config outline = .error (.notFound name) := by
        simp only [chooseEntry, asked, Outline.entryPoint?, found]
      rw [readOutlined, refused]
      rfl
    | some entry =>
      have chosen : chooseEntry config outline = .ok entry := by
        simp only [chooseEntry, asked, Outline.entryPoint?, found]
      -- The resolved interfaces are searched for the name found, which is the one asked for.
      have same : entry.name = name :=
        beq_iff_eq.mp (List.find?_some (p := fun item : EntryPoint => item.name == name) found)
      subst same
      exact of?_readOutlined_of_chosen chosen

/-- A reading answers with the first thing that goes wrong in it. -/
theorem of?_readWith :
    Fault.of? (readWith resolver config words).outcome =
      Fault.first? (refusals resolver config words) := by
  rw [readWith, readOutline, refusals]
  cases scan words with
  | error fault => rfl
  | ok outline => exact of?_readOutlined outline

/-- A reading fails with the first thing that goes wrong in it. Whatever severities are heard, its
fault is logged as the last message and as the only error; a reading that succeeds logs none, and
its summary is the last message. A warning is logged if the words can be scanned and leave it open
which entry point is meant, and then it comes first. -/
theorem readWith_reports (resolver : Resolver) (config : Config) (words : List UInt32) :
    (∀ fault, (readWith resolver config words).outcome = .error fault ↔
      Fault.first? (refusals resolver config words) = some fault) ∧
    (∀ fault, (readWith resolver config words).outcome = .error fault →
      fault.kind = .reflectorError ∧ ∀ minimum,
        Message.EndsInFailure "galaxy3d::spirq" fault.text
          ((readWith resolver config words).delivered minimum)) ∧
    (∀ reading, (readWith resolver config words).outcome = .ok reading → ∀ minimum,
      Message.Without .error ((readWith resolver config words).delivered minimum) ∧
      (minimum ≤ .debug → ((readWith resolver config words).delivered minimum).getLast? =
        some (.plain .debug "galaxy3d::spirq"
          ("Reflected entry point '" ++ reading.entryPoint ++ "': " ++
            toString reading.resources.length ++ " raw resources, " ++
            toString reading.members.length ++ " raw variables")))) ∧
    ∀ minimum, minimum ≤ .warn →
      Message.WarnsIf (∃ outline, scan words = .ok outline ∧
          config.entryPoint = none ∧ 1 < outline.entryPoints.length)
        ((readWith resolver config words).delivered minimum) := by
  refine ⟨fun fault => ?_, fun fault failed => readWith_reports_failures.failed failed,
    fun reading done minimum => ⟨readWith_reports_failures.succeeded done minimum, fun heard => ?_⟩,
    fun minimum heard => readWith_warnsIf.atLeast heard⟩
  · rw [← of?_readWith, Fault.of?_eq_some_iff]
  · exact readWith_closesWith.getLast?_delivered done heard

end Refusals

def twoEntries : List UInt32 :=
  [119734787, 66304, 0, 20, 0, 196622, 1, 1, 262159, 0, 1, 6647407, 262159, 4, 2, 7305076]

/-- The choice between the two is warned about before the memory model is refused; an entry point of
another name is refused first and needs no warning. -/
theorem readWith_reports_twoEntries :
    (readWith resolveModule .standard twoEntries).outcome =
      .error ⟨.reflectorError, "SPIR-V reflection failed: unsupported addressing model"⟩ ∧
    Message.EndsInFailure "galaxy3d::spirq"
      "SPIR-V reflection failed: unsupported addressing model"
      ((readWith resolveModule .standard twoEntries).delivered .error) ∧
    (∃ message ∈ (readWith resolveModule .standard twoEntries).delivered .trace,
      message.severity = .warn) ∧
    (readWith resolveModule ⟨false, some "three"⟩ twoEntries).outcome =
      .error ⟨.reflectorError, "Entry point 'three' not found"⟩ := by
  obtain ⟨fails, reports, -, warns⟩ := readWith_reports resolveModule .standard twoEntries
  obtain ⟨unnamed, -⟩ := readWith_reports resolveModule ⟨false, some "three"⟩ twoEntries
  have failed := (fails
    ⟨.reflectorError, "SPIR-V reflection failed: unsupported addressing model"⟩).mpr
    (by decide +kernel)
  exact ⟨failed, (reports _ failed).2 .error,
    (warns .trace (by decide)).1.mpr ⟨_, rfl, rfl, by decide⟩, (unnamed _).mpr (by decide +kernel)⟩

end ShaderInterface.Spirv
