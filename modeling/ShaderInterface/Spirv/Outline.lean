import ShaderInterface.Spirv.Record

/-! The outline of a module: what its instructions declare, in order. Where several records speak of
the same thing, the last one counts. -/
namespace ShaderInterface.Spirv

/-- What a variable holds behind its pointers and arrays. -/
inductive TypeCategory
  | image
  | sampler
  | accelerationStructure
  | struct
  | other
  deriving DecidableEq

namespace TypeCategory

def all : List TypeCategory := [image, sampler, accelerationStructure, struct, other]

def name : TypeCategory → String
  | image => "Image"
  | sampler => "Sampler"
  | accelerationStructure => "AccelerationStructure"
  | struct => "Struct"
  | other => "Other"

def ofShape? : Option Shape → TypeCategory
  | some .image => image
  | some .sampler => sampler
  | some .accelerationStructure => accelerationStructure
  | some (.struct _) => struct
  | _ => other

end TypeCategory

/-- The records of a module, in the order of its instructions. -/
structure Outline where
  records : List Record
  deriving DecidableEq

namespace Outline

/-- What the last record to say something says. -/
def last? {α : Type} (outline : Outline) (read : Record → Option α) : Option α :=
  outline.records.reverse.findSome? read

def entryPoints (outline : Outline) : List EntryPoint :=
  outline.records.filterMap fun
    | .entryPoint entry => some entry
    | _ => none

def globals (outline : Outline) : List Global :=
  outline.records.filterMap fun
    | .global declared => some declared
    | _ => none

def name? (outline : Outline) (id : UInt32) : Option String :=
  outline.last? fun
    | .idName target text => if target = id then some text else none
    | _ => none

def shape? (outline : Outline) (id : UInt32) : Option Shape :=
  outline.last? fun
    | .type target shape => if target = id then some shape else none
    | _ => none

def placement? (outline : Outline) (id : UInt32) (slot : Slot) : Option UInt32 :=
  outline.last? fun
    | .placement target of value => if target = id ∧ of = slot then some value else none
    | _ => none

def entryPoint? (outline : Outline) (name : String) : Option EntryPoint :=
  outline.entryPoints.find? (·.name == name)

def position? (outline : Outline) (id : UInt32) : Option Nat :=
  outline.globals.findIdx? (·.id == id)

/-- The type behind a pointer type, and any other type itself. -/
def pointee (outline : Outline) (type : UInt32) : UInt32 :=
  match outline.shape? type with
  | some (.pointer pointee) => pointee
  | _ => type

def target? (outline : Outline) (type : UInt32) : Option UInt32 :=
  match outline.shape? type with
  | some (.pointer pointee) => some pointee
  | some (.array element) => some element
  | _ => none

/-- The type behind at most `bound` pointers and arrays. -/
def baseWithin (outline : Outline) : (bound : Nat) → UInt32 → UInt32
  | 0, type => type
  | bound + 1, type =>
    match outline.target? type with
    | some target => outline.baseWithin bound target
    | none => type

/-- The longest chain of pointers and arrays that is followed to its end. -/
def maxTypeDepth : Nat := 32

def base (outline : Outline) (type : UInt32) : UInt32 :=
  outline.baseWithin maxTypeDepth type

def members (outline : Outline) (type : UInt32) : List UInt32 :=
  match outline.shape? type with
  | some (.struct members) => members
  | _ => []

def category (outline : Outline) (type : UInt32) : TypeCategory :=
  .ofShape? (outline.shape? (outline.base type))

def bindingSlot (outline : Outline) (id : UInt32) : UInt32 × UInt32 :=
  ((outline.placement? id .set).getD 0, (outline.placement? id .binding).getD 0)

def isDescriptor (declared : Global) : Bool :=
  declared.storage == .uniformConstant || declared.storage == .uniform ||
    declared.storage == .storageBuffer

/-- The descriptor variable of a slot: the first of the wanted category, or else the first. -/
def descriptor? (outline : Outline) (set binding : UInt32) (category : TypeCategory) :
    Option Global :=
  let candidates := outline.globals.filter fun declared =>
    isDescriptor declared && outline.bindingSlot declared.id == (set, binding)
  (candidates.find? fun declared => outline.category declared.pointerType == category).or
    candidates.head?

/-- Whether a variable may go by a name: where both it and the request are named, they agree. -/
def mayBeNamed (outline : Outline) (name : Option String) (declared : Global) : Bool :=
  match name, outline.name? declared.id with
  | some wanted, some given => wanted == given
  | _, _ => true

/-- The input or output of an entry point at a location and component. -/
def interface? (outline : Outline) (entry : EntryPoint) (storage : StorageClass)
    (location component : UInt32) (name : Option String) : Option Global :=
  outline.globals.find? fun declared =>
    declared.storage == storage && entry.interface.contains declared.id &&
      outline.placement? declared.id .location == some location &&
      (outline.placement? declared.id .component).getD 0 == component &&
      outline.mayBeNamed name declared

def pushConstants (outline : Outline) : List Global :=
  outline.globals.filter (·.storage == .pushConstant)

/-- The push constant variable of an entry point: the one of the wanted name, else the one whose
block has the wanted name, else the first that the entry point lists, else the first. -/
def pushConstant? (outline : Outline) (entry : EntryPoint) (name block : Option String) :
    Option Global :=
  let declared := outline.pushConstants
  let named := name.bind fun name =>
    declared.find? fun candidate => outline.name? candidate.id == some name
  let ofBlock := block.bind fun block =>
    declared.find? fun candidate =>
      outline.name? (outline.base candidate.pointerType) == some block
  let listed := declared.find? fun candidate => entry.interface.contains candidate.id
  ((named.or ofBlock).or listed).or declared.head?

end Outline

end ShaderInterface.Spirv
