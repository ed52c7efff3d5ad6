import ShaderInterface.Text.Utf8
import ShaderInterface.Word

/-! Reading operands off the front of an instruction's words. Each reader hands back the words it
has not read. A text operand takes whole words; its last word is the first whose highest byte is
zero. -/
namespace ShaderInterface.Spirv

/-- Why an operand cannot be read. -/
inductive OperandFault
  | tooShort
  | unterminated
  | notText (flaw : Text.Utf8.Flaw)
  deriving DecidableEq

def OperandFault.text : OperandFault → String
  | tooShort => "operand is too short"
  | unterminated => "string is not null-terminated"
  | notText flaw => flaw.text

namespace Operand

def word : List UInt32 → Except OperandFault (UInt32 × List UInt32)
  | [] => .error .tooShort
  | first :: rest => .ok (first, rest)

/-- Splits off the words of a text operand. -/
def splitText : List UInt32 → Option (List UInt32 × List UInt32)
  | [] => none
  | first :: rest =>
    if first >>> 24 = 0 then some ([first], rest)
    else (splitText rest).map fun (words, rest) => (first :: words, rest)

/-- The text bytes in the words of a text operand: those before the first zero. -/
def textBytes (words : List UInt32) : List UInt8 :=
  (words.flatMap Word.toBytes).takeWhile (· != 0)

def text (operands : List UInt32) : Except OperandFault (String × List UInt32) :=
  match splitText operands with
  | none => .error .unterminated
  | some (words, rest) =>
    match Text.Utf8.decode (textBytes words) with
    | .ok text => .ok (text, rest)
    | .error flaw => .error (.notText flaw)

end Operand

end ShaderInterface.Spirv
