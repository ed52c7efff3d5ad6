import ShaderInterface.Binding.Descriptor
import ShaderInterface.Binding.PixelFormat
import ShaderInterface.Reflection.NamePool
import ShaderInterface.Stage

/-! The reflection of one shader: what a descriptor layout is built from. It owns its names and
refers to nothing outside. -/
namespace ShaderInterface

structure WorkgroupSize where
  x : UInt32
  y : UInt32
  z : UInt32
  deriving DecidableEq

namespace WorkgroupSize

def zero : WorkgroupSize := ⟨0, 0, 0⟩

end WorkgroupSize

structure VertexInput where
  name : NameRef
  size : UInt32
  deriving DecidableEq

/-- A resource to bind. The size counts descriptors, and bytes for a root constant block. -/
structure BoundResource where
  descriptor : DescriptorType
  set : UInt32
  register : UInt32
  size : UInt32
  usedStages : StageSet
  dimension : TextureDimension
  access : ResourceAccess
  format : PixelFormat
  name : NameRef
  deriving DecidableEq

/-- A member of the block at position `parent` among the bound resources. -/
structure BlockVariable where
  offset : UInt32
  size : UInt32
  parent : Nat
  name : NameRef
  deriving DecidableEq

/-- The reflection of one shader. Only the compute stage has a workgroup size, and only the
tessellation control stage a number of control points; elsewhere they are zero. -/
structure Reflection where
  stage : Stage
  pool : NamePool
  entryPoint : NameRef
  vertexInputs : List VertexInput
  resources : List BoundResource
  members : List BlockVariable
  workgroupSize : WorkgroupSize
  controlPoints : UInt32
  deriving DecidableEq

namespace Reflection

def name (reflection : Reflection) (ref : NameRef) : String := reflection.pool.name ref

/-- The first resource of a name, and its position. -/
def findResource? (reflection : Reflection) (name : String) : Option (BoundResource × Nat) :=
  reflection.resources.zipIdx.find? fun (resource, _) => reflection.name resource.name == name

def membersOf (reflection : Reflection) (position : Nat) : List BlockVariable :=
  reflection.members.filter (·.parent == position)

end Reflection

end ShaderInterface
