import ShaderInterface.Spirv.Evaluation
import ShaderInterface.Spirv.Resolution.Registry

/-! Declaring constants. Only scalars have a value; composite constants are passed over. -/
namespace ShaderInterface.Spirv.Resolution.Constants

open Operands

def value (type : Ty) (words : List UInt32) : Except Fault Value :=
  match type with
  | .scalar scalar =>
    match scalar.read? words with
    | some value => .ok value
    | none => .error (.constantWords scalar words.length)
  | other => .error (.constantType other)

/-- How a constant's value comes from its type and words. -/
abbrev ValueReader := Ty → List UInt32 → Except Fault Value

def truth (value : Bool) : ValueReader := fun _ _ => .ok (.bool value)

def addConstant (read : ValueReader) (registry : Registry) (operands : List UInt32) :
    Except Fault Registry := do
  let (typeId, rest) ← word operands
  let (id, words) ← word rest
  let type ← registry.type typeId
  let value ← read type words
  registry.setConstant id ⟨value, none⟩

def specId (registry : Registry) (id : UInt32) : Except Fault UInt32 :=
  match registry.decoration? id none .specId with
  | none => .error (.specIdMissing id)
  | some [] => .error (.specIdEmpty id)
  | some (value :: _) => .ok value

def addSpecConstant (read : ValueReader) (registry : Registry) (operands : List UInt32) :
    Except Fault Registry := do
  let (typeId, rest) ← word operands
  let (id, words) ← word rest
  let specId ← specId registry id
  let type ← registry.type typeId
  let value ← read type words
  registry.setConstant id ⟨value, some specId⟩

/-- The values of the operands of an operation. -/
def operandValues (registry : Registry) (result : UInt32) (ids : List UInt32) :
    Except Fault (List Value) :=
  match ids.mapM fun id => registry.constants.lookup id with
  | some constants => .ok (constants.map (·.value))
  | none => .error (.expression result)

def addOperation (registry : Registry) (operands : List UInt32) : Except Fault Registry := do
  let (typeId, rest) ← word operands
  let (id, rest) ← word rest
  let (number, ids) ← word rest
  let opcode : Opcode := ⟨number.toNat⟩
  if !opcode.isKnown then .error .operation
  else do
    let type ← registry.type typeId
    let values ← operandValues registry id ids
    match Evaluation.evaluate? opcode values type with
    | some value => registry.setConstant id ⟨value, none⟩
    | none => .error (.evaluation opcode values type)

/-- Constants; those without a value of their own are passed over. -/
def constants : Step := fun registry instruction =>
  let operands := instruction.operands
  match instruction.opcode with
  | .constantTrue => (addConstant (truth true) registry operands).map some
  | .constantFalse => (addConstant (truth false) registry operands).map some
  | .constant => (addConstant value registry operands).map some
  | .specConstantTrue => (addSpecConstant (truth true) registry operands).map some
  | .specConstantFalse => (addSpecConstant (truth false) registry operands).map some
  | .specConstant => (addSpecConstant value registry operands).map some
  | .specConstantOp => (addOperation registry operands).map some
  | .constantComposite => .ok (some registry)
  | .constantSampler => .ok (some registry)
  | .constantNull => .ok (some registry)
  | .constantPipeStorage => .ok (some registry)
  | .specConstantComposite => .ok (some registry)
  | _ => .ok none

end ShaderInterface.Spirv.Resolution.Constants
