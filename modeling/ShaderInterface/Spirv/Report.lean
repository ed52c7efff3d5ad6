import ShaderInterface.Log.Logged
import ShaderInterface.Spirv.Scan

/-! How the module reader reports: its failures are logged once, where they are raised, and handed
to the caller with the same text. -/
namespace ShaderInterface.Spirv

def source : String := "galaxy3d::spirq"

def site : Site := ⟨"ShaderInterface/Spirv/Report.lean", 1⟩

def refuse {α : Type} (text : String) : Logged α := .report source text site

/-- The outline of a module, or a report of what is wrong with it. -/
def readOutline (words : List UInt32) : Logged Outline :=
  match scan words with
  | .ok outline => .pure outline
  | .error fault => refuse fault.text

end ShaderInterface.Spirv
