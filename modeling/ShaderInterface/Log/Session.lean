import ShaderInterface.Log.Line
import ShaderInterface.Reflection.Bytecode

/-! Logging sessions: one sink receives the messages that are serious enough, and both the sink and
the least severity may change between steps. What a step answers never depends on the sink. -/
namespace ShaderInterface.Log

/-- Where messages go: the console, or the recorder that was the `serial`-th to be installed. -/
inductive Sink
  | console
  | recorder (serial : Nat)
  deriving DecidableEq

/-- What is in force between two steps. The least severity is kept as its byte. -/
structure Session where
  sink : Sink
  minimum : UInt8
  recorders : Nat
  deriving DecidableEq

inductive Shorthand
  | general (severity : Severity)
  | trace
  | debug
  | info
  | warn
  | error
  deriving DecidableEq

/-- One step of a session. Short forms and failures stand at a site of the program. -/
inductive Step
  | installRecorder
  | restoreConsole
  | setMinimum (severity : Severity)
  | getMinimum
  | log (severity : Severity) (source text : String)
  | logDetailed (severity : Severity) (source text : String) (site : Site)
  | short (form : Shorthand) (source text : String) (site : Site)
  | raise (source text : String) (site : Site)
  | compact (stage : Stage) (reader : Reader)
  | reflect (backend : Backend) (words : List UInt32) (stage : Stage)

inductive Answer
  | nothing
  | severity (severity : Severity)
  | fault (fault : Fault)
  | reflection (reflection : Reflection)
  deriving DecidableEq

def Answer.ofOutcome : Except Fault Reflection → Answer
  | .ok made => reflection made
  | .error raised => fault raised

structure Delivery where
  sink : Sink
  message : Message
  deriving DecidableEq

/-- What came of a step: its answer, and the deliveries made on the way, first to last. -/
structure Outcome where
  answer : Answer
  deliveries : List Delivery
  deriving DecidableEq

namespace Session

def start : Session := ⟨.console, Severity.info.toByte, 0⟩

def least (session : Session) : Severity := .ofByte session.minimum

def next (session : Session) : Step → Session
  | .installRecorder =>
    { session with sink := .recorder session.recorders, recorders := session.recorders + 1 }
  | .restoreConsole => { session with sink := .console }
  | .setMinimum severity => { session with minimum := severity.toByte }
  | _ => session

/-- Hands a message to the sink in force, unless it is not serious enough. -/
def dispatch (session : Session) (message : Message) : List Delivery :=
  if message.severity.rank < session.least.rank then [] else [⟨session.sink, message⟩]

def log (session : Session) (severity : Severity) (source text : String) : List Delivery :=
  session.dispatch (.plain severity source text)

def logDetailed (session : Session) (severity : Severity) (source text : String) (site : Site) :
    List Delivery :=
  session.dispatch (.placed severity source text site)

/-- Logs by a short form. Only the one for failures tells where it stands. -/
def short (session : Session) (form : Shorthand) (source text : String) (site : Site) :
    List Delivery :=
  match form with
  | .general severity => session.log severity source text
  | .trace => session.log .trace source text
  | .debug => session.log .debug source text
  | .info => session.log .info source text
  | .warn => session.log .warn source text
  | .error => session.logDetailed .error source text site

def reflecting (session : Session) (run : Logged Reflection) : Outcome :=
  ⟨.ofOutcome run.outcome, run.messages.flatMap session.dispatch⟩

def outcome (session : Session) : Step → Outcome
  | .installRecorder | .restoreConsole | .setMinimum _ => ⟨.nothing, []⟩
  | .getMinimum => ⟨.severity session.least, []⟩
  | .log severity source text => ⟨.nothing, session.log severity source text⟩
  | .logDetailed severity source text site =>
    ⟨.nothing, session.logDetailed severity source text site⟩
  | .short form source text site => ⟨.nothing, session.short form source text site⟩
  | .raise source text site =>
    ⟨.fault ⟨.reflectorError, text⟩, session.short .error source text site⟩
  | .compact stage reader => session.reflecting (Compaction.compact stage reader)
  | .reflect backend words stage => session.reflecting (reflectShader backend words stage)

def run (session : Session) : List Step → List Outcome
  | [] => []
  | step :: rest => session.outcome step :: (session.next step).run rest

end Session

end ShaderInterface.Log
