import ShaderInterface.Spirv.Instruction
import ShaderInterface.Spirv.Operand
import ShaderInterface.Spirv.Vocabulary

/-! What an outline collects from single instructions: entry points, names, the decorations that
place a variable, types as far as they lead to other types, and the variables of module scope. -/
namespace ShaderInterface.Spirv

/-- An entry point: the function it starts at, and the variables it lists as its interface. -/
structure EntryPoint where
  model : ExecutionModel
  function : UInt32
  name : String
  interface : List UInt32
  deriving DecidableEq

structure Global where
  id : UInt32
  pointerType : UInt32
  storage : StorageClass
  deriving DecidableEq

/-- A decoration that places a variable. -/
inductive Slot
  | set
  | binding
  | location
  | component
  deriving DecidableEq

def Slot.ofNumber? (number : UInt32) : Option Slot :=
  match Decoration.mk number with
  | .descriptorSet => some .set
  | .binding => some .binding
  | .location => some .location
  | .component => some .component
  | _ => none

/-- A type, as far as it leads to other types. -/
inductive Shape
  | image
  | sampler
  | accelerationStructure
  | array (element : UInt32)
  | pointer (pointee : UInt32)
  | struct (members : List UInt32)
  deriving DecidableEq

/-- What one instruction adds to an outline. -/
inductive Record
  | entryPoint (entry : EntryPoint)
  | idName (target : UInt32) (text : String)
  | placement (target : UInt32) (slot : Slot) (value : UInt32)
  | type (id : UInt32) (shape : Shape)
  | global (declared : Global)
  deriving DecidableEq

inductive RecordFault
  | operand (fault : OperandFault)
  | executionModel (number : UInt32)
  | storageClass (number : UInt32)
  deriving DecidableEq

def RecordFault.text : RecordFault → String
  | operand fault => fault.text
  | executionModel number => "unknown execution model " ++ toString number.toNat
  | storageClass number => "unknown storage class " ++ toString number.toNat

namespace Record

def word (operands : List UInt32) : Except RecordFault (UInt32 × List UInt32) :=
  (Operand.word operands).mapError .operand

def text (operands : List UInt32) : Except RecordFault (String × List UInt32) :=
  (Operand.text operands).mapError .operand

def readEntryPoint (operands : List UInt32) : Except RecordFault Record := do
  let (number, rest) ← word operands
  match ExecutionModel.ofNumber? number with
  | none => .error (.executionModel number)
  | some model => do
    let (function, rest) ← word rest
    let (name, interface) ← text rest
    return .entryPoint ⟨model, function, name, interface⟩

def readName (operands : List UInt32) : Except RecordFault Record := do
  let (target, rest) ← word operands
  let (text, _) ← text rest
  return .idName target text

/-- Reads target and decoration, and the value of a decoration that places a variable. -/
def readPlacement (operands : List UInt32) : Except RecordFault (Option Record) := do
  let (target, rest) ← word operands
  let (number, rest) ← word rest
  match Slot.ofNumber? number with
  | none => return none
  | some slot => do
    let (value, _) ← word rest
    return some (.placement target slot value)

def readLeaf (shape : Shape) (operands : List UInt32) : Except RecordFault Record := do
  let (id, _) ← word operands
  return .type id shape

def readArray (operands : List UInt32) : Except RecordFault Record := do
  let (id, rest) ← word operands
  let (element, _) ← word rest
  return .type id (.array element)

def readPointer (operands : List UInt32) : Except RecordFault Record := do
  let (id, rest) ← word operands
  let (_, rest) ← word rest
  let (pointee, _) ← word rest
  return .type id (.pointer pointee)

def readStruct (operands : List UInt32) : Except RecordFault Record := do
  let (id, members) ← word operands
  return .type id (.struct members)

def readGlobal (operands : List UInt32) : Except RecordFault Record := do
  let (pointerType, rest) ← word operands
  let (id, rest) ← word rest
  let (number, _) ← word rest
  match StorageClass.ofNumber? number with
  | none => .error (.storageClass number)
  | some storage => return .global ⟨id, pointerType, storage⟩

/-- What an instruction outside every function adds; most instructions add nothing. -/
def ofInstruction (instruction : Instruction) : Except RecordFault (Option Record) :=
  let operands := instruction.operands
  match instruction.opcode with
  | .entryPoint => (readEntryPoint operands).map some
  | .name => (readName operands).map some
  | .decorate => readPlacement operands
  | .typeImage => (readLeaf .image operands).map some
  | .typeSampledImage => (readLeaf .image operands).map some
  | .typeSampler => (readLeaf .sampler operands).map some
  | .typeAccelerationStructureKHR => (readLeaf .accelerationStructure operands).map some
  | .typeArray => (readArray operands).map some
  | .typeRuntimeArray => (readArray operands).map some
  | .typePointer => (readPointer operands).map some
  | .typeStruct => (readStruct operands).map some
  | .variableDecl => (readGlobal operands).map some
  | _ => .ok none

end Record

end ShaderInterface.Spirv
