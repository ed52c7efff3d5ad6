import ShaderInterface.Spirv.Opcode

/-! Instructions and how a module's words split into them. The first word of an instruction holds
its word count in the high half and its opcode in the low half. -/
namespace ShaderInterface.Spirv

/-- One instruction: the opcode and the words behind the first. -/
structure Instruction where
  opcode : Opcode
  operands : List UInt32
  deriving DecidableEq

namespace Instruction

def size (instruction : Instruction) : Nat := instruction.operands.length + 1

def totalSize : List Instruction → Nat
  | [] => 0
  | instruction :: rest => instruction.size + totalSize rest

end Instruction

/-- How a sequence of words ends: with its last instruction, or at a word count that is zero or asks
for more words than there are. -/
inductive Ending
  | complete
  | zeroCount
  | overrun
  deriving DecidableEq

/-- The complete instructions at the front of a sequence of words, and what stops them. -/
structure InstructionStream where
  instructions : List Instruction
  ending : Ending
  deriving DecidableEq

namespace InstructionStream

def countOf (head : UInt32) : Nat := head.toNat / 0x10000

def opcodeOf (head : UInt32) : Opcode := ⟨head.toNat % 0x10000⟩

def splitWithin : (bound : Nat) → List UInt32 → InstructionStream
  | _, [] => ⟨[], .complete⟩
  | 0, _ :: _ => ⟨[], .overrun⟩
  | bound + 1, head :: rest =>
    if countOf head = 0 then ⟨[], .zeroCount⟩
    else if rest.length + 1 < countOf head then ⟨[], .overrun⟩
    else
      let following := splitWithin bound (rest.drop (countOf head - 1))
      ⟨⟨opcodeOf head, rest.take (countOf head - 1)⟩ :: following.instructions,
       following.ending⟩

/-- Splits words into instructions; there cannot be more of them than words. -/
def split (words : List UInt32) : InstructionStream := splitWithin words.length words

end InstructionStream

end ShaderInterface.Spirv
