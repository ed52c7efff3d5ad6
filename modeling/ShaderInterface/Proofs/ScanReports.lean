import ShaderInterface.Proofs.ScanFaults
import ShaderInterface.Spirv.Report

/-! What a reader reports of a module that cannot be scanned. The words of each fault are written
out with the opcode and the word position that belong in them, so that a report tells which
instruction is to blame, or what stops the reading, and where. -/
namespace ShaderInterface.Spirv

open InstructionStream (Reads)

def readNames : List (Opcode × String) :=
  [(⟨15⟩, "EntryPoint"), (⟨5⟩, "Name"), (⟨71⟩, "Decorate"), (⟨25⟩, "TypeImage"),
   (⟨27⟩, "TypeSampledImage"), (⟨26⟩, "TypeSampler"), (⟨5341⟩, "TypeAccelerationStructureKHR"),
   (⟨28⟩, "TypeArray"), (⟨29⟩, "TypeRuntimeArray"), (⟨32⟩, "TypePointer"), (⟨30⟩, "TypeStruct"),
   (⟨59⟩, "Variable")]

/-- What is told of an operand that cannot be read. -/
inductive OperandFault.Tells : OperandFault → String → Prop
  | tooShort : Tells .tooShort "operand is too short"
  | unterminated : Tells .unterminated "string is not null-terminated"
  | invalid (width index : Nat) : Tells (.notText (.invalid width index))
      ("invalid utf-8 sequence of " ++ toString width ++ " bytes from index " ++ toString index)
  | incomplete (index : Nat) : Tells (.notText (.incomplete index))
      ("incomplete utf-8 byte sequence from index " ++ toString index)

inductive RecordFault.Tells : RecordFault → String → Prop
  | operand {fault : OperandFault} {flaw : String} (told : fault.Tells flaw) :
      Tells (.operand fault) flaw
  | executionModel (number : UInt32) :
      Tells (.executionModel number) ("unknown execution model " ++ toString number.toNat)
  | storageClass (number : UInt32) :
      Tells (.storageClass number) ("unknown storage class " ++ toString number.toNat)

/-- What is told of the instructions of a module. -/
inductive ScanFault.Tells : ScanFault → String → Prop
  | unknownOpcode (number position : Nat) : Tells (.unknownOpcode ⟨number⟩ position)
      ("Unknown opcode " ++ toString number ++ " at word " ++ toString position)
  | malformed {opcode : Opcode} {name flaw : String} {fault : RecordFault} (position : Nat)
      (named : (opcode, name) ∈ readNames) (told : fault.Tells flaw) :
      Tells (.malformed opcode position fault)
        ("Malformed " ++ name ++ " at word " ++ toString position ++ ": " ++ flaw)
  | zeroCountAt (position : Nat) : Tells (.zeroCountAt position)
      ("Malformed SPIR-V module at word " ++ toString position ++ ": instruction length is zero")
  | zeroCountAfter (position : Nat) : Tells (.zeroCountAfter position)
      ("Malformed SPIR-V module after word " ++ toString position ++ ": instruction length is zero")
  | overrun (position : Nat) : Tells (.overrun position)
      ("Instruction at word " ++ toString position ++ " runs past the end of the module")

theorem Opcode.text_eq_of_mem_readNames {opcode : Opcode} {name : String}
    (named : (opcode, name) ∈ readNames) : opcode.text = name := by
  have all : ∀ pair ∈ readNames, pair.1.text = pair.2 := by decide
  exact all _ named

theorem Opcode.mem_readNames {opcode : Opcode} (read : opcode ∈ Record.readOpcodes) :
    (opcode, opcode.text) ∈ readNames := by
  have all : ∀ opcode ∈ Record.readOpcodes, ∃ pair ∈ readNames, pair.1 = opcode := by decide
  obtain ⟨⟨_, name⟩, named, rfl⟩ := all opcode read
  rw [text_eq_of_mem_readNames named]
  exact named

theorem OperandFault.tells_iff {fault : OperandFault} {flaw : String} :
    fault.Tells flaw ↔ flaw = fault.text := by
  constructor
  · rintro ⟨⟩ <;> rfl
  · rintro rfl
    match fault with
    | .tooShort => exact .tooShort
    | .unterminated => exact .unterminated
    | .notText (.invalid width index) => exact .invalid width index
    | .notText (.incomplete index) => exact .incomplete index

theorem RecordFault.tells_iff {fault : RecordFault} {flaw : String} :
    fault.Tells flaw ↔ flaw = fault.text := by
  constructor
  · rintro (told | _ | _)
    · exact OperandFault.tells_iff.mp told
    · rfl
    · rfl
  · rintro rfl
    cases fault with
    | operand fault => exact .operand (OperandFault.tells_iff.mpr rfl)
    | executionModel number => exact .executionModel number
    | storageClass number => exact .storageClass number

theorem ScanFault.Tells.eq_text {fault : ScanFault} {text : String} (told : fault.Tells text) :
    text = fault.text := by
  cases told with
  | malformed position named told =>
    obtain rfl := Opcode.text_eq_of_mem_readNames named
    obtain rfl := RecordFault.tells_iff.mp told
    rfl
  | _ => rfl

theorem Record.Refuses.mem_readOpcodes {opcode : Opcode} {operands : List UInt32}
    {fault : RecordFault} (refused : Refuses opcode operands fault) : opcode ∈ readOpcodes := by
  cases refused with
  | leaf type =>
    have all : ∀ opcode ∈ leafOpcodes, opcode ∈ readOpcodes := by decide
    exact all _ type
  | array type _ =>
    have all : ∀ opcode ∈ arrayOpcodes, opcode ∈ readOpcodes := by decide
    exact all _ type
  | _ => decide

theorem Scan.Blames.tells_text {before : List Instruction} {instruction : Instruction}
    {fault : ScanFault} (blamed : Blames before instruction fault) : fault.Tells fault.text := by
  cases blamed with
  | unknown _ => exact .unknownOpcode _ _
  | malformed _ _ refused =>
    exact .malformed _ (Opcode.mem_readNames refused.mem_readOpcodes)
      (RecordFault.tells_iff.mpr rfl)

theorem Scan.Detects.tells_text {stream : InstructionStream} {fault : ScanFault}
    (detected : Detects stream fault) : fault.Tells fault.text := by
  cases detected with
  | atEnd first | beforeOverrun first | beforeZero first =>
    obtain ⟨_, _, _, _, _, blamed⟩ := first
    exact blamed.tells_text
  | overrun _ => exact .overrun _
  | zeroAfter _ => exact .zeroCountAfter _
  | zeroAt => exact .zeroCountAt 5

theorem readOutline_eq_error_iff {words : List UInt32} {raised : Fault} :
    (readOutline words).outcome = .error raised ↔
      ∃ fault, scan words = .error fault ∧ raised = ⟨.reflectorError, fault.text⟩ := by
  rw [readOutline]
  cases scan words with
  | ok outline => simp [Logged.pure]
  | error fault => simp [refuse, Logged.report, eq_comm]

/-- The report of a module with a header tells what is wrong with the earliest instruction to blame,
or else what stops the instructions, and the word where that is. Nothing else is reported. -/
theorem scan_detects {words : List UInt32} (header : 5 ≤ words.length)
    (magic : words.head? = some 0x07230203) :
    (∃ stream, Reads (words.drop 5) stream) ∧
      ∀ stream, Reads (words.drop 5) stream → ∀ raised,
        (readOutline words).outcome = .error raised ↔
          ∃ fault text, Scan.Detects stream fault ∧ fault.Tells text ∧
            raised = ⟨.reflectorError, text⟩ := by
  refine ⟨⟨_, InstructionStream.split_eq_iff.mp rfl⟩, fun stream reads raised => ?_⟩
  simp only [readOutline_eq_error_iff, scan_eq_error_iff header magic reads]
  constructor
  · rintro ⟨fault, detected, rfl⟩
    exact ⟨fault, fault.text, detected, detected.tells_text, rfl⟩
  · rintro ⟨fault, text, detected, told, rfl⟩
    exact ⟨fault, detected, by rw [told.eq_text]⟩

/-- A pointer type without its pointee, between a sampler type and words that stop the reading. -/
def shortPointer (rest : List UInt32) : List UInt32 :=
  [0x07230203, 0x10000, 0, 20, 0] ++ [0x2001a, 2] ++ [0x30020, 3, 0] ++ rest

/-- A word count of zero hides the pointer type, one that is too large does not. -/
theorem scan_detects_shortPointer :
    5 ≤ (shortPointer [0]).length ∧ (shortPointer [0]).head? = some 0x07230203 ∧
      Reads ((shortPointer [0]).drop 5)
        ⟨[⟨.typeSampler, [2]⟩, ⟨.typePointer, [3, 0]⟩], .zeroCount⟩ ∧
      (readOutline (shortPointer [0])).outcome = .error ⟨.reflectorError,
        "Malformed SPIR-V module after word 7: instruction length is zero"⟩ ∧
      (∃ fault, Scan.Detects ⟨[⟨.typeSampler, [2]⟩, ⟨.typePointer, [3, 0]⟩], .zeroCount⟩ fault ∧
        fault.Tells "Malformed SPIR-V module after word 7: instruction length is zero") ∧
      Reads ((shortPointer [0x2001a]).drop 5)
        ⟨[⟨.typeSampler, [2]⟩, ⟨.typePointer, [3, 0]⟩], .overrun⟩ ∧
      (readOutline (shortPointer [0x2001a])).outcome = .error ⟨.reflectorError,
        "Malformed TypePointer at word 7: operand is too short"⟩ ∧
      ∃ fault, Scan.Detects ⟨[⟨.typeSampler, [2]⟩, ⟨.typePointer, [3, 0]⟩], .overrun⟩ fault ∧
        fault.Tells "Malformed TypePointer at word 7: operand is too short" := by
  have hidden := InstructionStream.split_eq_iff.mp
    (show InstructionStream.split ((shortPointer [0]).drop 5) =
      ⟨[⟨.typeSampler, [2]⟩, ⟨.typePointer, [3, 0]⟩], .zeroCount⟩ by decide)
  have reached := InstructionStream.split_eq_iff.mp
    (show InstructionStream.split ((shortPointer [0x2001a]).drop 5) =
      ⟨[⟨.typeSampler, [2]⟩, ⟨.typePointer, [3, 0]⟩], .overrun⟩ by decide)
  have stopped : (readOutline (shortPointer [0])).outcome = .error ⟨.reflectorError,
      "Malformed SPIR-V module after word 7: instruction length is zero"⟩ := rfl
  have short : (readOutline (shortPointer [0x2001a])).outcome = .error ⟨.reflectorError,
      "Malformed TypePointer at word 7: operand is too short"⟩ := rfl
  obtain ⟨zero, _, noCount, zeroTold, same⟩ :=
    ((scan_detects (by decide) (by decide)).2 _ hidden _).mp stopped
  cases same
  obtain ⟨fault, _, detected, told, same⟩ :=
    ((scan_detects (by decide) (by decide)).2 _ reached _).mp short
  cases same
  exact ⟨by decide, by decide, hidden, stopped, ⟨zero, noCount, zeroTold⟩, reached, short,
    ⟨fault, detected, told⟩⟩

end ShaderInterface.Spirv
