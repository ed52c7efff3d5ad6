import ShaderInterface.Sorting
import ShaderInterface.Spirv.Resolution.Module
import ShaderInterface.Spirv.Resolved

/-! The interface of an entry point: each variable of module scope becomes a resolved variable, or
nothing if it cannot be bound. -/
namespace ShaderInterface.Spirv.Resolution

structure ResolvedMode where
  mode : ExecutionMode
  operands : List UInt32
  deriving DecidableEq

/-- The interface of an entry point: every variable of the module, and those that the entry point
refers to. -/
structure Entry where
  name : String
  modes : List ResolvedMode
  declared : List Resolved
  referenced : List Resolved
  deriving DecidableEq

def sortById (globals : List (UInt32 × Variable)) : List (UInt32 × Variable) :=
  Sorting.sortByRank (fun (id, _) => id.toNat) globals

def descriptorSlot (registry : Registry) (id : UInt32) : UInt32 × UInt32 :=
  match registry.decorationValue? id none .binding with
  | some binding => ((registry.decorationValue? id none .descriptorSet).getD 0, binding)
  | none => (0, 0)

/-- The access to what a storage descriptor binds: as the variable says, else as its type says. -/
def storageAccess (registry : Registry) (id : UInt32) (type : Ty) : Declared.Access :=
  match registry.isDecorated id none .nonReadable, registry.isDecorated id none .nonWritable with
  | true, true => .readWrite
  | true, false => .writeOnly
  | false, true => .readOnly
  | false, false => type.access?.getD .readWrite

/-- The type under one level of array, and the number of its elements. -/
def splitArray : Ty → Ty × UInt32
  | .array element length _ => (element, length.getD 0)
  | other => (other, 1)

def bindImage : Ty → Ty
  | .image image sampling format =>
    if sampling = .storage then .storageImage image.extent format else .sampledImage image
  | other => other

/-- How a type is bound by a descriptor, if it is bound at all. -/
def binding? (storage : StorageClass) (access : Declared.Access) : Ty → Option DescriptorBinding
  | .struct .. =>
    some (if storage = .storageBuffer then .storageBuffer access else .uniformBuffer)
  | .sampledImage image =>
    some (if image.extent.dim = .buffer then .uniformTexelBuffer else .sampledImage)
  | .combinedImageSampler image =>
    some (if image.extent.dim = .buffer then .uniformTexelBuffer else .combinedImageSampler)
  | .storageImage extent _ =>
    some (if extent.dim = .buffer then .storageTexelBuffer access else .storageImage access)
  | .sampler => some .sampler
  | .subpassData .. => some .inputAttachment
  | .accelerationStructure => some .accelerationStructure
  | _ => none

def descriptor? (registry : Registry) (id : UInt32) (var : Variable) : Option Resolved :=
  let (element, count) := splitArray var.type
  let type := bindImage element
  let (set, slot) := descriptorSlot registry id
  (binding? var.storage (storageAccess registry id type) type).map fun binding =>
    .descriptor (registry.name? id none) set slot binding type count

def located? (registry : Registry) (id : UInt32) (var : Variable)
    (make : Option String → UInt32 → UInt32 → Ty → Resolved) : Option Resolved :=
  (registry.decorationValue? id none .location).map fun location =>
    make (registry.name? id none) location
      ((registry.decorationValue? id none .component).getD 0) var.type

def pushConstant? (registry : Registry) (id : UInt32) (var : Variable) : Option Resolved :=
  match var.type with
  | .struct .. => some (.pushConstant (registry.name? id none) var.type)
  | _ => none

/-- A variable as one of an interface, if it is one. -/
def resolve? (registry : Registry) (id : UInt32) (var : Variable) : Option Resolved :=
  match var.storage with
  | .input => located? registry id var .input
  | .output => located? registry id var .output
  | .pushConstant => pushConstant? registry id var
  | .uniform => descriptor? registry id var
  | .storageBuffer => descriptor? registry id var
  | .uniformConstant => descriptor? registry id var
  | _ => none

def specConstants (registry : Registry) : List Resolved :=
  registry.constants.reverse.filterMap fun (id, constant) =>
    constant.specId.map fun specId => .specConstant (registry.name? id none) specId

def modeOperand (registry : Registry) : ModeOperand → Except Fault UInt32
  | .literal word => .ok word
  | .constant id => (registry.constant id).map (·.value.toWord)

def resolveMode (registry : Registry) (mode : Mode) : Except Fault ResolvedMode :=
  (mode.operands.mapM (modeOperand registry)).map fun operands => ⟨mode.mode, operands⟩

/-- The interface of a declared entry point; `arrange` has the last word on the variables. -/
def resolveEntry (registry : Registry) (arrange : List Resolved → List Resolved)
    (entry : EntryDeclaration) : Except Fault Entry := do
  let modes ← entry.modes.mapM (resolveMode registry)
  let globals := sortById registry.globals
  let references := Functions.references registry entry.function
  let resolved (kept : List (UInt32 × Variable)) : List Resolved :=
    arrange (kept.filterMap fun (id, var) => resolve? registry id var) ++
      specConstants registry
  return {
    name := entry.name, modes
    declared := resolved globals
    referenced := resolved (globals.filter fun (id, _) => references.contains id) }

def entries (arrange : List Resolved → List Resolved) (instructions : List Instruction) :
    Except Fault (List Entry) := do
  let registry ← Registry.ofInstructions instructions
  registry.entries.mapM (resolveEntry registry arrange)

namespace Entry

def modeOperands? (entry : Entry) (mode : ExecutionMode) : Option (List UInt32) :=
  (entry.modes.find? (·.mode == mode)).map (·.operands)

end Entry

end ShaderInterface.Spirv.Resolution
