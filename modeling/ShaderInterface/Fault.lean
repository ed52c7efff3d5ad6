import ShaderInterface.Text.Quoted

/-! Failures of reflection. A fault has one of three kinds and a text that says what went wrong;
the modules that raise one define their causes and word them here as text. -/
namespace ShaderInterface

/-- Who is to blame for a failure: the caller, the module reader, or the library itself. -/
inductive FaultKind
  | invalidInput
  | reflectorError
  | invariantViolation
  deriving DecidableEq

namespace FaultKind

def all : List FaultKind := [invalidInput, reflectorError, invariantViolation]

def name : FaultKind → String
  | invalidInput => "InvalidInput"
  | reflectorError => "ReflectorError"
  | invariantViolation => "InvariantViolation"

def heading : FaultKind → String
  | invalidInput => "Invalid input: "
  | reflectorError => "Reflector error: "
  | invariantViolation => "Invariant violation: "

end FaultKind

structure Fault where
  kind : FaultKind
  text : String
  deriving DecidableEq

namespace Fault

def display (fault : Fault) : String :=
  fault.kind.heading ++ fault.text

/-- The form shown to a developer: the kind applied to the quoted text. -/
def debug (fault : Fault) : String :=
  fault.kind.name ++ "(" ++ Text.Quoted.quote fault.text ++ ")"

end Fault

end ShaderInterface
