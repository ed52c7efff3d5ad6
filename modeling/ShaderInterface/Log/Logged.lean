import ShaderInterface.Log.Message

/-! Results that carry the messages raised on the way to them. -/
namespace ShaderInterface

/-- The outcome of a computation that may fail, with the messages it raised, first to last. -/
structure Logged (α : Type) where
  messages : List Message
  outcome : Except Fault α

namespace Logged

variable {α β : Type}

def pure (value : α) : Logged α := ⟨[], .ok value⟩

def fail (fault : Fault) : Logged α := ⟨[], .error fault⟩

def after (messages : List Message) (run : Logged α) : Logged α :=
  ⟨messages ++ run.messages, run.outcome⟩

/-- A failure of the module reader, which is also reported at the place that raised it. -/
def report (source text : String) (site : Site) : Logged α :=
  ⟨[.failure source text site], .error ⟨.reflectorError, text⟩⟩

def andThen (first : Logged α) (next : α → Logged β) : Logged β :=
  match first.outcome with
  | .ok value => after first.messages (next value)
  | .error fault => ⟨first.messages, .error fault⟩

end Logged

end ShaderInterface
