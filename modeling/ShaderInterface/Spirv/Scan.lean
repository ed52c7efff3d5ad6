import ShaderInterface.Spirv.Outline
import ShaderInterface.Text.Hex

/-! Scanning a module: its header, its instructions, and the outline they add up to. What is wrong
is told with the position of a word. An instruction is looked at only once the one behind it has
been found, so a zero word count hides the instruction before it. -/
namespace ShaderInterface.Spirv

/-- Why a module is refused. Positions count words from the start of the module. -/
inductive ScanFault
  | shortHeader (words : Nat)
  | magicNumber (word : UInt32)
  | unknownOpcode (opcode : Opcode) (position : Nat)
  | malformed (opcode : Opcode) (position : Nat) (fault : RecordFault)
  | zeroCountAt (position : Nat)
  | zeroCountAfter (position : Nat)
  | overrun (position : Nat)
  deriving DecidableEq

namespace ScanFault

def text : ScanFault → String
  | shortHeader words =>
    "SPIR-V module is " ++ toString words ++ " words long, shorter than its header"
  | magicNumber word => "Invalid SPIR-V magic number: 0x" ++ Text.Hex.padded 8 word.toNat
  | unknownOpcode opcode position =>
    "Unknown opcode " ++ toString opcode.number ++ " at word " ++ toString position
  | malformed opcode position fault =>
    "Malformed " ++ opcode.text ++ " at word " ++ toString position ++ ": " ++ fault.text
  | zeroCountAt position =>
    "Malformed SPIR-V module at word " ++ toString position ++ ": instruction length is zero"
  | zeroCountAfter position =>
    "Malformed SPIR-V module after word " ++ toString position ++ ": instruction length is zero"
  | overrun position =>
    "Instruction at word " ++ toString position ++ " runs past the end of the module"

end ScanFault

namespace Scan

def magicNumber : UInt32 := 0x07230203

def headerWords : Nat := 5

/-- Whether a function is open behind an instruction, given whether one is open before it. -/
def insideAfter (inside : Bool) (instruction : Instruction) : Bool :=
  match instruction.opcode with
  | .function => true
  | .functionEnd => false
  | _ => inside

/-- What an instruction adds; the variables of a function are not looked at. -/
def collect (inside : Bool) (instruction : Instruction) : Except RecordFault (Option Record) :=
  if inside && instruction.opcode == .variableDecl then .ok none
  else Record.ofInstruction instruction

/-- The records of instructions that start at a word position. -/
def walk (inside : Bool) (position : Nat) : List Instruction → Except ScanFault (List Record)
  | [] => .ok []
  | instruction :: rest =>
    if !instruction.opcode.isKnown then
      .error (.unknownOpcode instruction.opcode position)
    else match collect inside instruction with
      | .error fault => .error (.malformed instruction.opcode position fault)
      | .ok found =>
        match walk (insideAfter inside instruction) (position + instruction.size) rest with
        | .error fault => .error fault
        | .ok records => .ok (found.toList ++ records)

def body (stream : InstructionStream) : Except ScanFault Outline :=
  let instructions := stream.instructions
  match stream.ending with
  | .complete => (walk false headerWords instructions).map Outline.mk
  | .overrun => do
    let _ ← walk false headerWords instructions
    .error (.overrun (headerWords + Instruction.totalSize instructions))
  | .zeroCount => do
    let _ ← walk false headerWords instructions.dropLast
    if instructions.isEmpty then .error (.zeroCountAt headerWords)
    else
      .error (.zeroCountAfter (headerWords + Instruction.totalSize instructions.dropLast))

def instructions (words : List UInt32) : InstructionStream :=
  .split (words.drop headerWords)

end Scan

/-- The outline of a module. -/
def scan (words : List UInt32) : Except ScanFault Outline :=
  if words.length < Scan.headerWords then .error (.shortHeader words.length)
  else match words.head? with
    | some word =>
      if word = Scan.magicNumber then Scan.body (Scan.instructions words)
      else .error (.magicNumber word)
    | none => .error (.shortHeader 0)

end ShaderInterface.Spirv
