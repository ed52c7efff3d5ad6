import ShaderInterface.Log.Session
import ShaderInterface.Proofs.SizeAgreement
import ShaderInterface.Proofs.LoggedRuns

/-! Delivery over whole sessions. What a step says and answers is written out for each step. What it
says reaches the sink that was put in place last, and no other, if it is at least as serious as the
severity that was set last. What a reflection comes to is the same whoever listens. -/
namespace ShaderInterface.Log

namespace Step

/-- The sinks that steps put in place, first to last, behind a number of recorders. Each recorder is
a new one. -/
def sinksFrom (recorders : Nat) : List Step → List Sink
  | [] => []
  | .installRecorder :: rest => .recorder recorders :: sinksFrom (recorders + 1) rest
  | .restoreConsole :: rest => .console :: sinksFrom recorders rest
  | _ :: rest => sinksFrom recorders rest

def latestSink (steps : List Step) : Sink := (sinksFrom 0 steps).getLast?.getD .console

def minimum? : Step → Option Severity
  | setMinimum severity => some severity
  | _ => none

def latestMinimum (steps : List Step) : Severity :=
  (steps.filterMap minimum?).getLast?.getD .info

def isReflection : Step → Bool
  | compact .. => true
  | reflect .. => true
  | _ => false

theorem le_of_mem_sinksFrom {recorders serial : Nat} {steps : List Step}
    (put : .recorder serial ∈ sinksFrom recorders steps) : recorders ≤ serial := by
  induction steps generalizing recorders with
  | nil => cases put
  | cons step steps ih =>
    cases step with
    | installRecorder =>
      rcases List.mem_cons.mp put with same | later
      · cases same
        exact Nat.le_refl _
      · exact Nat.le_of_succ_le (ih later)
    | restoreConsole =>
      rcases List.mem_cons.mp put with same | later
      · cases same
      · exact ih later
    | _ => exact ih put

theorem nodup_sinksFrom (recorders : Nat) (steps : List Step) :
    ((sinksFrom recorders steps).filter (· ≠ .console)).Nodup := by
  induction steps generalizing recorders with
  | nil => exact .nil
  | cons step steps ih =>
    cases step with
    | installRecorder =>
      refine List.nodup_cons.mpr ⟨fun again => ?_, ih _⟩
      have later := le_of_mem_sinksFrom (List.mem_of_mem_filter again)
      omega
    | _ => exact ih recorders

end Step

/-- What a step says, first to last, and what it answers while a severity is the least to be heard.
A plain message knows no place; failures, and messages logged in detail, know the file and the line
they come from. A compaction or a reflection says and answers what its run does. -/
inductive Step.Yields (minimum : Severity) : Step → List Message → Answer → Prop
  | installRecorder : Yields minimum .installRecorder [] .nothing
  | restoreConsole : Yields minimum .restoreConsole [] .nothing
  | setMinimum (severity : Severity) : Yields minimum (.setMinimum severity) [] .nothing
  | getMinimum : Yields minimum .getMinimum [] (.severity minimum)
  | log (severity : Severity) (source text : String) :
    Yields minimum (.log severity source text) [⟨severity, source, text, none, none⟩] .nothing
  | logDetailed (severity : Severity) (source text file : String) (line : UInt32) :
    Yields minimum (.logDetailed severity source text ⟨file, line⟩)
      [⟨severity, source, text, some file, some line⟩] .nothing
  | general (severity : Severity) (source text : String) (site : Site) :
    Yields minimum (.short (.general severity) source text site)
      [⟨severity, source, text, none, none⟩] .nothing
  | trace (source text : String) (site : Site) :
    Yields minimum (.short .trace source text site) [⟨.trace, source, text, none, none⟩] .nothing
  | debug (source text : String) (site : Site) :
    Yields minimum (.short .debug source text site) [⟨.debug, source, text, none, none⟩] .nothing
  | info (source text : String) (site : Site) :
    Yields minimum (.short .info source text site) [⟨.info, source, text, none, none⟩] .nothing
  | warn (source text : String) (site : Site) :
    Yields minimum (.short .warn source text site) [⟨.warn, source, text, none, none⟩] .nothing
  | error (source text file : String) (line : UInt32) :
    Yields minimum (.short .error source text ⟨file, line⟩)
      [⟨.error, source, text, some file, some line⟩] .nothing
  | raise (source text file : String) (line : UInt32) :
    Yields minimum (.raise source text ⟨file, line⟩)
      [⟨.error, source, text, some file, some line⟩] (.fault ⟨.reflectorError, text⟩)
  | compacted {stage : Stage} {reader : Reader} {said : List Message} {made : Reflection} :
    Compaction.compact stage reader = ⟨said, .ok made⟩ →
      Yields minimum (.compact stage reader) said (.reflection made)
  | notCompacted {stage : Stage} {reader : Reader} {said : List Message} {raised : Fault} :
    Compaction.compact stage reader = ⟨said, .error raised⟩ →
      Yields minimum (.compact stage reader) said (.fault raised)
  | reflected {backend : Backend} {words : List UInt32} {stage : Stage} {said : List Message}
    {made : Reflection} : reflectShader backend words stage = ⟨said, .ok made⟩ →
      Yields minimum (.reflect backend words stage) said (.reflection made)
  | notReflected {backend : Backend} {words : List UInt32} {stage : Stage} {said : List Message}
    {raised : Fault} : reflectShader backend words stage = ⟨said, .error raised⟩ →
      Yields minimum (.reflect backend words stage) said (.fault raised)

theorem Step.Yields.unique {minimum : Severity} {step : Step} {said other : List Message}
    {answer another : Answer} (one : step.Yields minimum said answer)
    (two : step.Yields minimum other another) : said = other ∧ answer = another := by
  cases one with
  | compacted run | notCompacted run | reflected run | notReflected run =>
    -- A run has one outcome: two derivations that disagree on it close here.
    cases two
    all_goals
      rename_i again
      cases run.symm.trans again
    exact ⟨rfl, rfl⟩
  | _ =>
    cases two
    exact ⟨rfl, rfl⟩

/-- What a step yields tells its whole outcome. -/
theorem Outcome.eq_of_yields {minimum : Severity} {sink : Sink} {step : Step} {outcome : Outcome}
    {said known : List Message} {answer : Answer} (yields : step.Yields minimum said outcome.answer)
    (delivered : outcome.deliveries = (said.filter (minimum ≤ ·.severity)).map (⟨sink, ·⟩))
    (own : step.Yields minimum known answer) :
    outcome = ⟨answer, (known.filter (minimum ≤ ·.severity)).map (⟨sink, ·⟩)⟩ := by
  obtain ⟨rfl, same⟩ := yields.unique own
  rw [← delivered, ← same]

namespace Session
open Step

def after (session : Session) (steps : List Step) : Session := steps.foldl next session

/-- What the reflections among the steps come to. -/
def reflections (session : Session) (steps : List Step) : List Answer :=
  ((steps.zip (session.run steps)).filter (·.1.isReflection)).map (·.2.answer)

def deliveries (session : Session) (messages : List Message) : List Delivery :=
  (messages.filter (session.least ≤ ·.severity)).map (⟨session.sink, ·⟩)

theorem flatMap_dispatch (session : Session) (messages : List Message) :
    messages.flatMap session.dispatch = session.deliveries messages := by
  induction messages with
  | nil => rfl
  | cons message rest ih =>
    rw [List.flatMap_cons, ih, dispatch, deliveries, deliveries]
    by_cases mild : message.severity.rank < session.least.rank
    · have missed : ¬ session.least ≤ message.severity := Nat.not_le.mpr mild
      rw [if_pos mild, List.filter_cons_of_neg (by simpa using missed), List.nil_append]
    · have heard : session.least ≤ message.severity := Nat.not_lt.mp mild
      rw [if_neg mild, List.filter_cons_of_pos (by simpa using heard), List.map_cons]
      rfl

theorem dispatch_eq (session : Session) (message : Message) :
    session.dispatch message = session.deliveries [message] := by
  rw [← flatMap_dispatch, List.flatMap_singleton]

theorem exists_yields_reflecting {session : Session} {step : Step} (run : Logged Reflection)
    (made : ∀ {said reflection}, run = ⟨said, .ok reflection⟩ →
      step.Yields session.least said (.reflection reflection))
    (refused : ∀ {said raised}, run = ⟨said, .error raised⟩ →
      step.Yields session.least said (.fault raised)) :
    ∃ said, step.Yields session.least said (session.reflecting run).answer ∧
      (session.reflecting run).deliveries = session.deliveries said := by
  obtain ⟨said, result⟩ := run
  refine ⟨said, ?_, flatMap_dispatch session said⟩
  cases result with
  | ok reflection => exact made rfl
  | error raised => exact refused rfl

theorem exists_yields (session : Session) (step : Step) :
    ∃ said, step.Yields session.least said (session.outcome step).answer ∧
      (session.outcome step).deliveries = session.deliveries said := by
  cases step with
  | installRecorder => exact ⟨_, .installRecorder, rfl⟩
  | restoreConsole => exact ⟨_, .restoreConsole, rfl⟩
  | setMinimum severity => exact ⟨_, .setMinimum severity, rfl⟩
  | getMinimum => exact ⟨_, .getMinimum, rfl⟩
  | log severity source text => exact ⟨_, .log severity source text, dispatch_eq ..⟩
  | logDetailed severity source text site =>
    exact ⟨_, .logDetailed severity source text .., dispatch_eq ..⟩
  | short form source text site =>
    cases form with
    | general severity => exact ⟨_, .general severity source text site, dispatch_eq ..⟩
    | trace => exact ⟨_, .trace source text site, dispatch_eq ..⟩
    | debug => exact ⟨_, .debug source text site, dispatch_eq ..⟩
    | info => exact ⟨_, .info source text site, dispatch_eq ..⟩
    | warn => exact ⟨_, .warn source text site, dispatch_eq ..⟩
    | error => exact ⟨_, .error source text .., dispatch_eq ..⟩
  | raise source text site => exact ⟨_, .raise source text .., dispatch_eq ..⟩
  | compact stage reader => exact exists_yields_reflecting _ .compacted .notCompacted
  | reflect backend words stage => exact exists_yields_reflecting _ .reflected .notReflected

/-- A reflection comes to the same in any session. -/
theorem answer_of_isReflection {step : Step} (asked : step.isReflection) (session other : Session) :
    (session.outcome step).answer = (other.outcome step).answer := by
  cases step with
  | compact | reflect => rfl
  | _ => cases asked

theorem length_run (session : Session) (steps : List Step) :
    (session.run steps).length = steps.length := by
  induction steps generalizing session with
  | nil => rfl
  | cons step steps ih => rw [run, List.length_cons, ih, List.length_cons]

theorem run_getElem? (session : Session) (before : List Step) (step : Step) (rest : List Step) :
    (session.run (before ++ step :: rest))[before.length]? =
      some ((session.after before).outcome step) := by
  induction before generalizing session with
  | nil => rfl
  | cons first before ih => exact ih (session.next first)

theorem after_sink (session : Session) (steps : List Step) :
    (session.after steps).sink =
      (sinksFrom session.recorders steps).getLast?.getD session.sink := by
  induction steps generalizing session with
  | nil => rfl
  | cons step steps ih =>
    rw [after, List.foldl_cons]
    refine (ih (session.next step)).trans ?_
    cases step with
    | installRecorder | restoreConsole =>
      rw [sinksFrom, List.getLast?_cons]
      rfl
    | _ => rfl

theorem after_least (session : Session) (steps : List Step) :
    (session.after steps).least =
      (steps.filterMap minimum?).getLast?.getD session.least := by
  induction steps generalizing session with
  | nil => rfl
  | cons step steps ih =>
    rw [after, List.foldl_cons]
    refine (ih (session.next step)).trans ?_
    cases step with
    | setMinimum severity =>
      have set : minimum? (.setMinimum severity) = some severity := rfl
      rw [List.filterMap_cons_some set, List.getLast?_cons]
      exact congrArg _ (Severity.ofByte_toByte severity)
    | _ => rfl

theorem start_after_sink (steps : List Step) : (start.after steps).sink = latestSink steps :=
  after_sink start steps

theorem start_after_least (steps : List Step) :
    (start.after steps).least = latestMinimum steps := after_least start steps

theorem reflections_eq (session : Session) (steps : List Step) :
    session.reflections steps =
      (steps.filter (·.isReflection)).map fun step => (start.outcome step).answer := by
  induction steps generalizing session with
  | nil => rfl
  | cons step steps ih =>
    have rest := ih (session.next step)
    rw [reflections] at rest ⊢
    rw [run, List.zip_cons_cons, List.filter_cons, List.filter_cons]
    by_cases asked : step.isReflection
    · rw [if_pos asked, if_pos asked, List.map_cons, List.map_cons, rest]
      exact congrArg (· :: _) (answer_of_isReflection asked _ _)
    · rw [if_neg asked, if_neg asked, rest]

/-- In a session each step says and answers what it yields. What it says is delivered to the sink
that was put in place last and to no other, if it is at least as serious as the severity set last,
so that no failure is held back; messages keep their order and their content. Sinks and severities
are set apart from each other. Whatever sessions ask for the same reflections are answered alike. -/
theorem run_delivers (steps : List Step) :
    (start.run steps).length = steps.length ∧
    (∀ before step rest, steps = before ++ step :: rest →
      ∃ outcome said, (start.run steps)[before.length]? = some outcome ∧
        step.Yields (latestMinimum before) said outcome.answer ∧
        outcome.deliveries =
          (said.filter (latestMinimum before ≤ ·.severity)).map (⟨latestSink before, ·⟩) ∧
        ∀ message ∈ said, message.severity = .error →
          ⟨latestSink before, message⟩ ∈ outcome.deliveries) ∧
    ((sinksFrom 0 steps).filter (· ≠ .console)).Nodup ∧
    (∀ session : Session, (session.next .installRecorder).least = session.least ∧
      (session.next .restoreConsole).least = session.least ∧
      ∀ severity, (session.next (.setMinimum severity)).sink = session.sink) ∧
    ∀ (session : Session) (others : List Step),
      others.filter (·.isReflection) = steps.filter (·.isReflection) →
        session.reflections others = start.reflections steps := by
  refine ⟨length_run start steps, ?_, nodup_sinksFrom 0 steps,
    fun _ => ⟨rfl, rfl, fun _ => rfl⟩, ?_⟩
  · rintro before step rest rfl
    obtain ⟨said, yields, delivered⟩ := exists_yields (start.after before) step
    rw [deliveries, start_after_sink, start_after_least] at delivered
    rw [start_after_least] at yields
    refine ⟨_, said, run_getElem? start before step rest, yields, delivered, ?_⟩
    intro message mem failure
    have heard : latestMinimum before ≤ message.severity := failure ▸ Message.le_error _
    rw [delivered]
    exact List.mem_map.mpr ⟨message, List.mem_filter.mpr ⟨mem, decide_eq_true heard⟩, rfl⟩
  · intro session others same
    rw [reflections_eq, reflections_eq, same]

def unreading : Backend := fun _ => .report "test" "unreadable" ⟨"there", 4⟩

theorem reflectShader_unreading : reflectShader unreading [7] .vertex =
    ⟨[⟨.error, "test", "unreadable", some "there", some 4⟩],
      .error ⟨.reflectorError, "unreadable"⟩⟩ := rfl

/-- A session that changes sinks and severities around messages and reflections. -/
def sampleSteps : List Step :=
  [.log .info "test" "heard", .setMinimum .warn, .installRecorder, .log .info "test" "missed",
   .short .warn "test" "short" ⟨"here", 1⟩, .compact .fragment Compaction.sampleReader,
   .raise "test" "broken" ⟨"here", 2⟩, .restoreConsole, .setMinimum .debug, .installRecorder,
   .logDetailed .debug "test" "detailed" ⟨"here", 3⟩, .compact .vertex Compaction.sampleReader,
   .reflect unreading [7] .vertex, .getMinimum]

def sampleSummary : Message :=
  ⟨.debug, "galaxy3d::reflection",
    "Reflected Vertex entry point 'main': 1 vertex inputs, 2 resources, 3 variables, 38 name bytes",
    none, none⟩

theorem compact_sample_run : Compaction.compact .vertex Compaction.sampleReader =
    ⟨[⟨.trace, "galaxy3d::reflection", "Dropped resource 'linear': Unused", none, none⟩,
      ⟨.trace, "galaxy3d::reflection", "Dropped resource 'color': StageOutput", none, none⟩,
      ⟨.trace, "galaxy3d::reflection", "Dropped stage input 'normal': Unused", none, none⟩,
      sampleSummary],
      .ok Compaction.sampleReflection⟩ := by
  rfl

/-- What each step of the sample comes to that says or answers something. -/
theorem run_delivers_sample :
    (start.run sampleSteps)[0]? =
      some ⟨.nothing, [⟨.console, ⟨.info, "test", "heard", none, none⟩⟩]⟩ ∧
    (start.run sampleSteps)[3]? = some ⟨.nothing, []⟩ ∧
    (start.run sampleSteps)[4]? =
      some ⟨.nothing, [⟨.recorder 0, ⟨.warn, "test", "short", none, none⟩⟩]⟩ ∧
    (start.run sampleSteps)[6]? = some ⟨.fault ⟨.reflectorError, "broken"⟩,
      [⟨.recorder 0, ⟨.error, "test", "broken", some "here", some 2⟩⟩]⟩ ∧
    (start.run sampleSteps)[10]? =
      some ⟨.nothing, [⟨.recorder 1, ⟨.debug, "test", "detailed", some "here", some 3⟩⟩]⟩ ∧
    (start.run sampleSteps)[11]? = some ⟨.reflection Compaction.sampleReflection,
      [⟨.recorder 1, sampleSummary⟩]⟩ ∧
    (start.run sampleSteps)[12]? = some ⟨.fault ⟨.reflectorError, "unreadable"⟩,
      [⟨.recorder 1, ⟨.error, "test", "unreadable", some "there", some 4⟩⟩]⟩ ∧
    (start.run sampleSteps)[13]? = some ⟨.severity .debug, []⟩ ∧
    (Session.mk .console 255 0).reflections
        [.compact .fragment Compaction.sampleReader, .installRecorder,
          .compact .vertex Compaction.sampleReader, .reflect unreading [7] .vertex] =
      start.reflections sampleSteps := by
  obtain ⟨-, delivers, -, -, alike⟩ := run_delivers sampleSteps
  -- The step at a position, taken apart from the steps before and behind it.
  have comesTo {position : Nat} {step : Step} {said : List Message} {answer : Answer}
      (here : sampleSteps = sampleSteps.take position ++ step :: sampleSteps.drop (position + 1))
      (inside : (sampleSteps.take position).length = position)
      (yields : step.Yields (latestMinimum (sampleSteps.take position)) said answer) :
      (start.run sampleSteps)[position]? = some ⟨answer,
        (said.filter (latestMinimum (sampleSteps.take position) ≤ ·.severity)).map
          (⟨latestSink (sampleSteps.take position), ·⟩)⟩ := by
    obtain ⟨outcome, known, found, told, delivered, -⟩ := delivers _ _ _ here
    rw [inside] at found
    rw [found, Outcome.eq_of_yields told delivered yields]
  refine ⟨?_, ?_, ?_, ?_, ?_, ?_, ?_, ?_, alike _ _ rfl⟩
  · exact comesTo rfl rfl (.log .info "test" "heard")
  · exact comesTo rfl rfl (.log .info "test" "missed")
  · exact comesTo rfl rfl (.warn "test" "short" ⟨"here", 1⟩)
  · exact comesTo rfl rfl (.raise "test" "broken" "here" 2)
  · exact comesTo rfl rfl (.logDetailed .debug "test" "detailed" "here" 3)
  · exact comesTo rfl rfl (.compacted compact_sample_run)
  · exact comesTo rfl rfl (.notReflected reflectShader_unreading)
  · exact comesTo rfl rfl .getMinimum

end Session

end ShaderInterface.Log
