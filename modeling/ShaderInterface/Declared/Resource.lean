import ShaderInterface.Declared.Format
import ShaderInterface.Declared.Kind

/-! The full list of what a shader declares at its interface, used or not: resources, and the
members of those that are blocks. -/
namespace ShaderInterface.Declared

/-- The ids under which a module knows a resource: those of the variable, of the type behind its
pointer, and of that type with every pointer and array stripped. Zero stands for an unknown one. -/
structure Ids where
  id : UInt32
  typeId : UInt32
  baseId : UInt32
  deriving DecidableEq

/-- One declared resource. The binding of a stage input or output is its location. The size counts
descriptors, and bytes for push constant blocks, stage inputs and stage outputs. -/
structure Resource where
  name : String
  ids : Ids
  kind : Kind
  dimension : Dimension
  access : Access
  format : Format
  set : UInt32
  binding : UInt32
  size : UInt32
  used : Bool
  deriving DecidableEq

/-- One member of the declared block at position `parent` of the list of resources. Offset and size
are in bytes; a member of unknown size has size zero. -/
structure Member where
  name : String
  typeId : UInt32
  parentIds : Ids
  parent : Nat
  used : Bool
  offset : UInt32
  size : UInt32
  deriving DecidableEq

/-- Everything a module reader lists for one entry point. -/
structure Listing where
  entryPoint : String
  resources : List Resource
  members : List Member
  deriving DecidableEq

end ShaderInterface.Declared
