import ShaderInterface.Spirv.Operand
import ShaderInterface.Spirv.Opcode
import ShaderInterface.Spirv.Value

/-! What can be wrong with the declarations of a module whose instructions are sound. -/
namespace ShaderInterface.Spirv.Resolution

/-- Why a module's declarations cannot be resolved. -/
inductive Fault
  | operand (fault : OperandFault)
  | enumerant
  | importExists (id : UInt32)
  | addressingModel
  | memoryModel
  | entryPointExists
  | executionMode
  | entryPointMissing
  | decorationExists (id : UInt32)
  | typeExists (id : UInt32) (old new : Ty)
  | typeMissing (id : UInt32)
  | nestedType (id : UInt32)
  | imageSampling
  | imageDepth
  | constantExists (id : UInt32)
  | constantMissing (id : UInt32)
  | arraySize
  | memberAccess
  | constantWords (scalar : Scalar) (words : Nat)
  | constantType (type : Ty)
  | specIdMissing (id : UInt32)
  | specIdEmpty (id : UInt32)
  | operation
  | expression (id : UInt32)
  | evaluation (opcode : Opcode) (operands : List Value) (type : Ty)
  | variableExists (id : UInt32)
  | functionExists (id : UInt32)
  | functionEnd
  | functionCall
  | accessChainExists
  | unexpected (opcode : Opcode)
  deriving DecidableEq

namespace Fault

def text : Fault → String
  | operand fault => fault.text
  | enumerant => "invalid enum value"
  | importExists id => "extended instruction set id " ++ wordText id ++ " already exists"
  | addressingModel => "unsupported addressing model"
  | memoryModel => "unsupported memory model"
  | entryPointExists => "duplicate entry point at a same id"
  | executionMode => "invalid execution mode"
  | entryPointMissing => "execution mode for non-existing entry point"
  | decorationExists id => "duplicate decoration at id " ++ wordText id
  | typeExists id old new =>
    "type collision at id " ++ wordText id ++ ": " ++ old.text ++ " vs " ++ new.text
  | typeMissing id => "missing type id " ++ wordText id
  | nestedType id => "broken nested type: " ++ wordText id
  | imageSampling => "unsupported image sampling type"
  | imageDepth => "unsupported image depth type"
  | constantExists id => "constant id " ++ wordText id ++ " already exists"
  | constantMissing id => "constant id " ++ wordText id ++ " not found"
  | arraySize => "invalid array size"
  | memberAccess => "missing access type"
  | constantWords scalar words =>
    "cannot parse " ++ scalar.text ++ " from " ++ toString (4 * words) ++ " bytes"
  | constantType type => "cannot parse " ++ type.text ++ " as a constant value"
  | specIdMissing id => "missing decoration at id " ++ wordText id
  | specIdEmpty id =>
    "expected a single operand for decoration SpecId at id " ++ wordText id
  | operation => "invalid specialization constant op opcode"
  | expression id => "broken expression tree at id " ++ wordText id
  | evaluation opcode operands type =>
    "cannot evaluate " ++ opcode.text ++ " with " ++
      Text.Structured.list (operands.map Value.text) ++ " as " ++ type.text
  | variableExists id => "variable id " ++ wordText id ++ " already existed"
  | functionExists id => "function id " ++ wordText id ++ " already existed"
  | functionEnd => "unexpected OpFunctionEnd"
  | functionCall => "unexpected OpFunctionCall"
  | accessChainExists => "duplicate access chain at a same id"
  | unexpected opcode => "unexpected opcode " ++ opcode.text

end Fault

end ShaderInterface.Spirv.Resolution
