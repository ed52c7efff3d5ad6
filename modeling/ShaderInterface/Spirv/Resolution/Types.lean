import ShaderInterface.Spirv.Resolution.Registry

/-! Declaring types. A type made of an unknown one is refused, but for arrays, structs and pointers:
those are passed over, and so is what is made of them. -/
namespace ShaderInterface.Spirv.Resolution.Types

open Operands

/-- Declares a type of which only the id is read. -/
def addLeaf (type : Ty) (registry : Registry) (operands : List UInt32) : Except Fault Registry := do
  let (id, _) ← word operands
  registry.setType id type

def addInteger (registry : Registry) (operands : List UInt32) : Except Fault Registry := do
  let (id, rest) ← word operands
  let (bits, rest) ← word rest
  let (signed, _) ← bool rest
  registry.setType id (.scalar (.integer bits signed))

def addFloat (registry : Registry) (operands : List UInt32) : Except Fault Registry := do
  let (id, rest) ← word operands
  let (bits, _) ← word rest
  registry.setType id (.scalar (.float bits))

def addVector (registry : Registry) (operands : List UInt32) : Except Fault Registry := do
  let (id, rest) ← word operands
  let (component, rest) ← word rest
  let (count, _) ← word rest
  match ← registry.type component with
  | .scalar scalar => registry.setType id (.vector scalar count)
  | _ => .error (.nestedType id)

def addMatrix (registry : Registry) (operands : List UInt32) : Except Fault Registry := do
  let (id, rest) ← word operands
  let (column, rest) ← word rest
  let (count, _) ← word rest
  match ← registry.type column with
  | .vector scalar rows => registry.setType id (.matrix scalar rows count none none)
  | _ => .error (.nestedType id)

/-- How an image is used, by its operand. -/
def sampling (operand : UInt32) : Except Fault Sampling :=
  match operand with
  | 0 => .ok .unknown
  | 1 => .ok .sampled
  | 2 => .ok .storage
  | _ => .error .imageSampling

def depth (operand : UInt32) : Except Fault (Option Bool) :=
  match operand with
  | 0 => .ok (some false)
  | 1 => .ok (some true)
  | 2 => .ok none
  | _ => .error .imageDepth

def addImage (registry : Registry) (operands : List UInt32) : Except Fault Registry := do
  let (id, rest) ← word operands
  let (component, rest) ← word rest
  let (dim, rest) ← enumerant Dim.ofNumber? rest
  let (depthOperand, rest) ← word rest
  let (arrayed, rest) ← bool rest
  let (multisampled, rest) ← bool rest
  let (samplingOperand, rest) ← word rest
  let (format, _) ← enumerant Declared.Format.ofOperand? rest
  match ← registry.type component with
  | .scalar scalar =>
    if dim = .subpassData then registry.setType id (.subpassData scalar multisampled)
    else do
      let sampling ← sampling samplingOperand
      let depth ← depth depthOperand
      registry.setType id (.image ⟨scalar, depth, ⟨dim, arrayed, multisampled⟩⟩ sampling format)
  | _ => .error (.nestedType id)

def addSampledImage (registry : Registry) (operands : List UInt32) : Except Fault Registry := do
  let (id, rest) ← word operands
  let (image, _) ← word rest
  match ← registry.type image with
  | .image sampled _ _ => registry.setType id (.combinedImageSampler sampled)
  | _ => .error (.nestedType id)

/-- Hands the mark of a storage block on from the element of an array to the array. -/
def inheritBufferBlock (registry : Registry) (element array : UInt32) : Registry :=
  if registry.isDecorated element none .bufferBlock &&
      !registry.isDecorated array none .bufferBlock then
    { registry with decorations := ⟨array, none, .bufferBlock, []⟩ :: registry.decorations }
  else registry

def addArray (registry : Registry) (operands : List UInt32) : Except Fault Registry := do
  let (id, rest) ← word operands
  let (element, rest) ← word rest
  let (length, _) ← word rest
  let registry := inheritBufferBlock registry element id
  match registry.type? element with
  | none => return registry
  | some type => do
    let constant ← registry.constant length
    match constant.value.length? with
    | none => .error .arraySize
    | some count =>
      registry.setType id
        (.array type (some count) (registry.decorationValue? id none .arrayStride))

def addRuntimeArray (registry : Registry) (operands : List UInt32) : Except Fault Registry := do
  let (id, rest) ← word operands
  let (element, _) ← word rest
  match registry.type? element with
  | none => return registry
  | some type =>
    registry.setType id (.array type none (registry.decorationValue? id none .arrayStride))

/-- Takes the layout that a member gives to a matrix into its type, under every level of array. -/
def layMatrix (order : Option MatrixOrder) (stride : Option UInt32) : Ty → Ty
  | .array element length arrayStride => .array (layMatrix order stride element) length arrayStride
  | .matrix component rows columns _ _ => .matrix component rows columns order stride
  | other => other

def matrixOrder? (registry : Registry) (id member : UInt32) : Option MatrixOrder :=
  if registry.isDecorated id (some member) .rowMajor then some .byRow
  else if registry.isDecorated id (some member) .colMajor then some .byColumn
  else none

def member (registry : Registry) (id position : UInt32) (type : Ty) : Except Fault Member :=
  match registry.access? id (some position) with
  | none => .error .memberAccess
  | some access =>
    .ok {
      name := registry.name? id (some position)
      offset := (registry.decorationValue? id (some position) .offset).map (·.toNat)
      access
      type := layMatrix (matrixOrder? registry id position)
        (registry.decorationValue? id (some position) .matrixStride) type }

/-- The members of a struct from a position on, or none if the type of one is unknown. -/
def members (registry : Registry) (id : UInt32) :
    UInt32 → List UInt32 → Except Fault (Option (List Member))
  | _, [] => .ok (some [])
  | position, type :: rest =>
    match registry.type? type with
    | none => .ok none
    | some type => do
      let first ← member registry id position type
      let others ← members registry id (position + 1) rest
      return others.map (first :: ·)

def addStruct (registry : Registry) (operands : List UInt32) : Except Fault Registry := do
  let (id, types) ← word operands
  match ← members registry id 0 types with
  | none => return registry
  | some members =>
    registry.setType id (.struct (registry.name? id none) (.ofList members))

/-- Declares a pointer; one to a uniform marked as a storage block points to storage. -/
def addPointer (registry : Registry) (operands : List UInt32) : Except Fault Registry := do
  let (id, rest) ← word operands
  let (storage, rest) ← enumerant StorageClass.ofNumber? rest
  let (target, _) ← word rest
  match registry.type? target with
  | none => return registry
  | some type =>
    let storage :=
      if storage = .uniform ∧ registry.isDecorated target none .bufferBlock then .storageBuffer
      else storage
    registry.setType id (.pointer storage type)

def addForwardPointer (registry : Registry) (operands : List UInt32) :
    Except Fault Registry := do
  let (id, rest) ← word operands
  let _ ← enumerant StorageClass.ofNumber? rest
  registry.setType id .deviceAddress

/-- Types; those of functions are passed over. -/
def types : Step := fun registry instruction =>
  let operands := instruction.operands
  match instruction.opcode with
  | .typeVoid => (addLeaf (.scalar .void) registry operands).map some
  | .typeBool => (addLeaf (.scalar .boolean) registry operands).map some
  | .typeInt => (addInteger registry operands).map some
  | .typeFloat => (addFloat registry operands).map some
  | .typeVector => (addVector registry operands).map some
  | .typeMatrix => (addMatrix registry operands).map some
  | .typeImage => (addImage registry operands).map some
  | .typeSampler => (addLeaf .sampler registry operands).map some
  | .typeSampledImage => (addSampledImage registry operands).map some
  | .typeArray => (addArray registry operands).map some
  | .typeRuntimeArray => (addRuntimeArray registry operands).map some
  | .typeStruct => (addStruct registry operands).map some
  | .typePointer => (addPointer registry operands).map some
  | .typeForwardPointer => (addForwardPointer registry operands).map some
  | .typeAccelerationStructureKHR => (addLeaf .accelerationStructure registry operands).map some
  | .typeRayQueryKHR => (addLeaf .rayQuery registry operands).map some
  | .typeFunction => .ok (some registry)
  | _ => .ok none

end ShaderInterface.Spirv.Resolution.Types
