import ShaderInterface.Reflection.Compaction
import ShaderInterface.Word

/-! Reflecting a shader from its words, or from bytes that spell them in little-endian order. Bytes
that start at a word boundary are read where they stand; others are gathered four at a time. -/
namespace ShaderInterface

/-- Why bytecode is refused before any backend sees it. -/
inductive BytecodeFlaw
  | empty
  | ragged (bytes : Nat)
  deriving DecidableEq

def BytecodeFlaw.fault : BytecodeFlaw → Fault
  | empty => ⟨.invalidInput, "Shader bytecode is empty"⟩
  | ragged bytes =>
    ⟨.invalidInput, "Shader bytecode length " ++ toString bytes ++ " is not a multiple of 4"⟩

/-- Bytes in memory, with their distance from the word boundary before them. -/
structure Bytecode where
  bytes : List UInt8
  misalignment : Nat
  deriving DecidableEq

namespace Bytecode

def isAligned (code : Bytecode) : Bool := code.misalignment % 4 == 0

/-- The words seen where the bytes stand: word `k` lies at byte `4 * k`. -/
def wordsInPlace (code : Bytecode) : List UInt32 :=
  let memory := code.bytes.toArray
  let byte (i : Nat) : UInt8 := memory[i]?.getD 0
  (List.range (code.bytes.length / 4)).map fun k =>
    Word.ofBytes (byte (4 * k)) (byte (4 * k + 1)) (byte (4 * k + 2)) (byte (4 * k + 3))

def gatherWords : List UInt8 → List UInt32
  | a :: b :: c :: d :: rest => Word.ofBytes a b c d :: gatherWords rest
  | _ => []

def words (code : Bytecode) : List UInt32 :=
  if code.isAligned then code.wordsInPlace else gatherWords code.bytes

end Bytecode

/-- Parses a shader's words and compacts the result. -/
def reflectShader (backend : Backend) (words : List UInt32) (stage : Stage) : Logged Reflection :=
  if words.isEmpty then .fail BytecodeFlaw.empty.fault
  else (backend words).andThen (Compaction.compact stage)

/-- Parses the words that a shader's bytes spell and compacts the result. -/
def reflectBytes (backend : Backend) (code : Bytecode) (stage : Stage) : Logged Reflection :=
  if code.bytes.isEmpty then .fail BytecodeFlaw.empty.fault
  else if code.bytes.length % 4 ≠ 0 then
    .fail (BytecodeFlaw.ragged code.bytes.length).fault
  else reflectShader backend code.words stage

end ShaderInterface
