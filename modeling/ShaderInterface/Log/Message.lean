import ShaderInterface.Fault

/-! Log messages. Nothing here writes anything: a function that has something to report returns it,
and a session delivers it. -/
namespace ShaderInterface

/-- How serious a message is. -/
inductive Severity
  | trace
  | debug
  | info
  | warn
  | error
  deriving DecidableEq

namespace Severity

def all : List Severity := [trace, debug, info, warn, error]

def rank : Severity → Nat
  | trace => 0
  | debug => 1
  | info => 2
  | warn => 3
  | error => 4

def name : Severity → String
  | trace => "Trace"
  | debug => "Debug"
  | info => "Info"
  | warn => "Warn"
  | error => "Error"

def label : Severity → String
  | trace => "TRACE"
  | debug => "DEBUG"
  | info => "INFO "
  | warn => "WARN "
  | error => "ERROR"

def toByte (severity : Severity) : UInt8 := .ofNat severity.rank

/-- The severity that a byte stands for; every byte behind the last one stands for a failure. -/
def ofByte : UInt8 → Severity
  | 0 => trace
  | 1 => debug
  | 2 => info
  | 3 => warn
  | _ => error

@[simp] theorem ofByte_toByte (severity : Severity) : ofByte severity.toByte = severity := by
  cases severity <;> rfl

instance : LE Severity := ⟨fun a b => a.rank ≤ b.rank⟩

instance (a b : Severity) : Decidable (a ≤ b) :=
  inferInstanceAs (Decidable (a.rank ≤ b.rank))

end Severity

structure Site where
  file : String
  line : UInt32
  deriving DecidableEq

/-- One message. Messages logged in detail know the place that raised them. -/
structure Message where
  severity : Severity
  source : String
  text : String
  file : Option String
  line : Option UInt32
  deriving DecidableEq

namespace Message

def plain (severity : Severity) (source text : String) : Message :=
  ⟨severity, source, text, none, none⟩

def placed (severity : Severity) (source text : String) (site : Site) : Message :=
  ⟨severity, source, text, some site.file, some site.line⟩

def failure (source text : String) (site : Site) : Message :=
  placed .error source text site

/-- The place, when both the file and the line are known. -/
def site? (message : Message) : Option Site :=
  match message.file, message.line with
  | some file, some line => some ⟨file, line⟩
  | _, _ => none

def located (message : Message) : Bool := message.site?.isSome

def atLeast (minimum : Severity) (messages : List Message) : List Message :=
  messages.filter fun message => minimum ≤ message.severity

end Message

end ShaderInterface
