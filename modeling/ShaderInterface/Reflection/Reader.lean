import ShaderInterface.Declared.Resource
import ShaderInterface.Log.Logged
import ShaderInterface.Reflection.Basic

/-! Module readers: whatever has parsed a shader module and can list its interface. -/
namespace ShaderInterface

/-- A parsed module. Each answer may be a failure of its own. -/
structure Reader where
  entryPoint : Except Fault String
  resources : Except Fault (List Declared.Resource)
  members : Except Fault (List Declared.Member)
  workgroupSize : Except Fault WorkgroupSize
  controlPoints : Except Fault UInt32

namespace Reader

/-- The three lists, asked for in this order; the first failure is the answer. -/
def listing (reader : Reader) : Except Fault Declared.Listing := do
  let entryPoint ← reader.entryPoint
  let resources ← reader.resources
  let members ← reader.members
  return ⟨entryPoint, resources, members⟩

def workgroupSizeAt (reader : Reader) (stage : Stage) : Except Fault WorkgroupSize :=
  if stage = .compute then reader.workgroupSize else .ok .zero

def controlPointsAt (reader : Reader) (stage : Stage) : Except Fault UInt32 :=
  if stage = .tessellationControl then reader.controlPoints else .ok 0

end Reader

/-- A way to parse the words of a shader module. -/
abbrev Backend := List UInt32 → Logged Reader

end ShaderInterface
