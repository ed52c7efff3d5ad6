import ShaderInterface.Proofs.RecordOperands

/-! What is wrong with the operands of an instruction that is not collected. The first operand that
cannot be read decides: an entry point's execution model is looked at before its function, a
variable's storage class after its other words. -/
namespace ShaderInterface.Spirv

namespace Operand

/-- Words that do not begin with a text, and what is wrong with them. -/
inductive RefusesText (operands : List UInt32) : OperandFault → Prop
  | unterminated (endless : ∀ word ∈ operands, word >>> 24 ≠ 0) :
      RefusesText operands .unterminated
  | notText {words rest : List UInt32} {flaw : Text.Utf8.Flaw} (same : operands = words ++ rest)
      (ended : Terminated words) (read : Text.Utf8.decode (textBytes words) = .error flaw) :
      RefusesText operands (.notText flaw)

private theorem splitText_eq_none_iff {operands : List UInt32} :
    splitText operands = none ↔ ∀ word ∈ operands, word >>> 24 ≠ 0 := by
  induction operands with
  | nil => simp [splitText]
  | cons word operands ih =>
    rw [splitText, List.forall_mem_cons]
    split
    · rename_i zero
      simp [zero]
    · rename_i further
      rw [Option.map_eq_none_iff, ih]
      exact ⟨fun others => ⟨further, others⟩, And.right⟩

theorem text_eq_error_iff {operands : List UInt32} {fault : OperandFault} :
    text operands = .error fault ↔ RefusesText operands fault := by
  constructor
  · intro h
    unfold text at h
    split at h
    · rename_i endless
      cases h
      exact .unterminated (splitText_eq_none_iff.mp endless)
    · rename_i words rest found
      obtain ⟨same, ended⟩ := splitText_eq_some_iff.mp found
      split at h
      · cases h
      · rename_i read
        cases h
        exact .notText same ended read
  · intro refused
    cases refused with
    | unterminated endless => rw [text, splitText_eq_none_iff.mpr endless]
    | notText same ended read =>
      rw [text, splitText_eq_some_iff.mpr ⟨same, ended⟩]
      simp only [read]

theorem spells_or_refusesText (operands : List UInt32) :
    (∃ words rest name, operands = words ++ rest ∧ Spells words name) ∨
      ∃ fault, RefusesText operands fault := by
  cases read : text operands with
  | error fault => exact .inr ⟨fault, text_eq_error_iff.mp read⟩
  | ok found =>
    obtain ⟨words, same, spelled⟩ := text_eq_ok_iff.mp read
    exact .inl ⟨words, found.2, found.1, same, spelled⟩

end Operand

namespace Record

/-- Operands in which an operation does not find what it reads, and what is wrong with them. -/
inductive Refuses : Opcode → List UInt32 → RecordFault → Prop
  | noModel : Refuses .entryPoint [] (.operand .tooShort)
  | model {number : UInt32} {rest : List UInt32}
      (unknown : ExecutionModel.numbers.has number = false) :
      Refuses .entryPoint (number :: rest) (.executionModel number)
  | noFunction {number : UInt32} (model : ExecutionModel.numbers.has number = true) :
      Refuses .entryPoint [number] (.operand .tooShort)
  | entryName {number function : UInt32} {rest : List UInt32} {fault : OperandFault}
      (model : ExecutionModel.numbers.has number = true)
      (unnamed : Operand.RefusesText rest fault) :
      Refuses .entryPoint (number :: function :: rest) (.operand fault)
  | noTarget : Refuses .name [] (.operand .tooShort)
  | name {target : UInt32} {rest : List UInt32} {fault : OperandFault}
      (unnamed : Operand.RefusesText rest fault) : Refuses .name (target :: rest) (.operand fault)
  | decorate {operands : List UInt32} (few : operands.length < 2) :
      Refuses .decorate operands (.operand .tooShort)
  | noValue {target number : UInt32} (placing : ⟨number⟩ ∈ placingDecorations) :
      Refuses .decorate [target, number] (.operand .tooShort)
  | leaf {opcode : Opcode} (type : opcode ∈ leafOpcodes) : Refuses opcode [] (.operand .tooShort)
  | array {opcode : Opcode} {operands : List UInt32} (type : opcode ∈ arrayOpcodes)
      (few : operands.length < 2) : Refuses opcode operands (.operand .tooShort)
  | pointer {operands : List UInt32} (few : operands.length < 3) :
      Refuses .typePointer operands (.operand .tooShort)
  | global {operands : List UInt32} (few : operands.length < 3) :
      Refuses .variableDecl operands (.operand .tooShort)
  | storage {type id number : UInt32} {rest : List UInt32}
      (unknown : StorageClass.numbers.has number = false) :
      Refuses .variableDecl (type :: id :: number :: rest) (.storageClass number)

private theorem word_cons (first : UInt32) (rest : List UInt32) :
    word (first :: rest) = .ok (first, rest) := rfl

private theorem text_of_refusesText {operands : List UInt32} {fault : OperandFault}
    (unnamed : Operand.RefusesText operands fault) : text operands = .error (.operand fault) := by
  rw [text, Operand.text_eq_error_iff.mpr unnamed]
  rfl

private theorem readEntryPoint_of_unknown {number : UInt32} (rest : List UInt32)
    (unknown : ExecutionModel.numbers.has number = false) :
    readEntryPoint (number :: rest) = .error (.executionModel number) := by
  simp [readEntryPoint, word_cons, bind, Except.bind, ExecutionModel.ofNumber?, unknown]

private theorem readEntryPoint_of_model {number : UInt32} (rest : List UInt32)
    (model : ExecutionModel.numbers.has number = true) :
    readEntryPoint (number :: rest) = (do
      let (function, rest) ← word rest
      let (name, interface) ← text rest
      return .entryPoint ⟨⟨number⟩, function, name, interface⟩) := by
  simp [readEntryPoint, word_cons, bind, Except.bind, ExecutionModel.ofNumber?, model]

private theorem readEntryPoint_of_unnamed {number function : UInt32} {rest : List UInt32}
    {fault : OperandFault} (model : ExecutionModel.numbers.has number = true)
    (unnamed : Operand.RefusesText rest fault) :
    readEntryPoint (number :: function :: rest) = .error (.operand fault) := by
  rw [readEntryPoint_of_model _ model]
  show (text rest >>= _) = _
  rw [text_of_refusesText unnamed]
  rfl

private theorem readName_of_unnamed {target : UInt32} {rest : List UInt32} {fault : OperandFault}
    (unnamed : Operand.RefusesText rest fault) :
    readName (target :: rest) = .error (.operand fault) := by
  show (text rest >>= _) = _
  rw [text_of_refusesText unnamed]
  rfl

private theorem readGlobal_of_unknown {type id number : UInt32} (rest : List UInt32)
    (unknown : StorageClass.numbers.has number = false) :
    readGlobal (type :: id :: number :: rest) = .error (.storageClass number) := by
  simp [readGlobal, word_cons, bind, Except.bind, StorageClass.ofNumber?, unknown]

section Refused

variable {opcode : Opcode} {operands : List UInt32} {fault : RecordFault}

private theorem eq_of_length_lt_two (few : operands.length < 2) :
    operands = [] ∨ ∃ a, operands = [a] := by
  match operands, few with
  | [], _ => exact .inl rfl
  | [a], _ => exact .inr ⟨a, rfl⟩

private theorem eq_of_length_lt_three (few : operands.length < 3) :
    operands = [] ∨ (∃ a, operands = [a]) ∨ ∃ a b, operands = [a, b] := by
  match operands, few with
  | [], _ => exact .inl rfl
  | [a], _ => exact .inr (.inl ⟨a, rfl⟩)
  | [a, b], _ => exact .inr (.inr ⟨a, b, rfl⟩)

private theorem ofInstruction_of_refuses (h : Refuses opcode operands fault) :
    ofInstruction ⟨opcode, operands⟩ = .error fault := by
  cases h with
  | noModel => rfl
  | model unknown =>
    exact congrArg (Except.map some) (readEntryPoint_of_unknown _ unknown)
  | noFunction model => exact congrArg (Except.map some) (readEntryPoint_of_model _ model)
  | entryName model unnamed =>
    exact congrArg (Except.map some) (readEntryPoint_of_unnamed model unnamed)
  | noTarget => rfl
  | name unnamed => exact congrArg (Except.map some) (readName_of_unnamed unnamed)
  | decorate few => rcases eq_of_length_lt_two few with rfl | ⟨_, rfl⟩ <;> rfl
  | @noValue target number placing =>
    simp only [placingDecorations, List.mem_cons, List.not_mem_nil, or_false] at placing
    rcases placing with same | same | same | same <;> cases same <;> rfl
  | leaf type =>
    simp only [leafOpcodes, List.mem_cons, List.not_mem_nil, or_false] at type
    rcases type with rfl | rfl | rfl | rfl | rfl <;> rfl
  | array type few =>
    simp only [arrayOpcodes, List.mem_cons, List.not_mem_nil, or_false] at type
    rcases eq_of_length_lt_two few with rfl | ⟨_, rfl⟩ <;> rcases type with rfl | rfl <;> rfl
  | pointer few => rcases eq_of_length_lt_three few with rfl | ⟨_, rfl⟩ | ⟨_, _, rfl⟩ <;> rfl
  | global few => rcases eq_of_length_lt_three few with rfl | ⟨_, rfl⟩ | ⟨_, _, rfl⟩ <;> rfl
  | storage unknown => exact congrArg (Except.map some) (readGlobal_of_unknown _ unknown)

private theorem readable_or_refuses_leaf (type : opcode ∈ leafOpcodes) :
    Readable opcode operands ∨ ∃ fault, Refuses opcode operands fault := by
  cases operands with
  | nil => exact .inr ⟨_, .leaf type⟩
  | cons id rest => exact .inl (.leaf type)

private theorem readable_or_refuses_array (type : opcode ∈ arrayOpcodes) :
    Readable opcode operands ∨ ∃ fault, Refuses opcode operands fault := by
  match operands with
  | [] | [_] => exact .inr ⟨_, .array type (by simp)⟩
  | id :: element :: rest => exact .inl (.array type)

private theorem readable_or_refuses_entryPoint :
    Readable .entryPoint operands ∨ ∃ fault, Refuses .entryPoint operands fault := by
  match operands with
  | [] => exact .inr ⟨_, .noModel⟩
  | number :: rest =>
    cases model : ExecutionModel.numbers.has number with
    | false => exact .inr ⟨_, .model model⟩
    | true =>
      match rest with
      | [] => exact .inr ⟨_, .noFunction model⟩
      | function :: rest =>
        rcases Operand.spells_or_refusesText rest with ⟨_, _, _, rfl, named⟩ | ⟨_, unnamed⟩
        · exact .inl (.entryPoint model named)
        · exact .inr ⟨_, .entryName model unnamed⟩

private theorem readable_or_refuses_name :
    Readable .name operands ∨ ∃ fault, Refuses .name operands fault := by
  match operands with
  | [] => exact .inr ⟨_, .noTarget⟩
  | target :: rest =>
    rcases Operand.spells_or_refusesText rest with ⟨_, _, _, rfl, named⟩ | ⟨_, unnamed⟩
    · exact .inl (.name named)
    · exact .inr ⟨_, .name unnamed⟩

private theorem readable_or_refuses_decorate :
    Readable .decorate operands ∨ ∃ fault, Refuses .decorate operands fault := by
  match operands with
  | [] | [_] => exact .inr ⟨_, .decorate (by simp)⟩
  | [target, number] =>
    by_cases placing : ⟨number⟩ ∈ placingDecorations
    · exact .inr ⟨_, .noValue placing⟩
    · exact .inl (.decorate fun needed => absurd needed placing)
  | target :: number :: value :: rest => exact .inl (.decorate fun _ => List.cons_ne_nil _ _)

private theorem readable_or_refuses_pointer :
    Readable .typePointer operands ∨ ∃ fault, Refuses .typePointer operands fault := by
  match operands with
  | [] | [_] | [_, _] => exact .inr ⟨_, .pointer (by simp)⟩
  | id :: storage :: pointee :: rest => exact .inl .pointer

private theorem readable_or_refuses_global :
    Readable .variableDecl operands ∨ ∃ fault, Refuses .variableDecl operands fault := by
  match operands with
  | [] | [_] | [_, _] => exact .inr ⟨_, .global (by simp)⟩
  | pointerType :: id :: number :: rest =>
    cases storage : StorageClass.numbers.has number with
    | false => exact .inr ⟨_, .storage storage⟩
    | true => exact .inl (.global storage)

theorem readable_or_refuses (opcode : Opcode) (operands : List UInt32) :
    Readable opcode operands ∨ ∃ fault, Refuses opcode operands fault := by
  by_cases other : opcode ∉ readOpcodes
  · exact .inl (.unread other)
  have known := Decidable.not_not.mp other
  simp only [readOpcodes, List.mem_cons, List.not_mem_nil, or_false] at known
  -- One case for each operation, in the order of `readOpcodes`.
  rcases known with rfl | rfl | rfl | rfl | rfl | rfl | rfl | rfl | rfl | rfl | rfl | rfl
  · exact readable_or_refuses_entryPoint
  · exact readable_or_refuses_name
  · exact readable_or_refuses_decorate
  · exact readable_or_refuses_leaf (by decide)
  · exact readable_or_refuses_leaf (by decide)
  · exact readable_or_refuses_leaf (by decide)
  · exact readable_or_refuses_leaf (by decide)
  · exact readable_or_refuses_array (by decide)
  · exact readable_or_refuses_array (by decide)
  · exact readable_or_refuses_pointer
  · exact readable_or_refuses_leaf (by decide)
  · exact readable_or_refuses_global

end Refused

/-- An instruction that is not collected is refused for exactly what is wrong with its operands. -/
theorem ofInstruction_eq_error_iff {instruction : Instruction} {fault : RecordFault} :
    ofInstruction instruction = .error fault ↔
      Refuses instruction.opcode instruction.operands fault := by
  constructor
  · intro h
    -- Operands with another fault would fail with that one.
    rcases readable_or_refuses instruction.opcode instruction.operands with
      readable | ⟨other, refused⟩
    · obtain ⟨found, collected⟩ := exists_ofInstruction_eq_ok_iff.mpr readable
      cases collected.symm.trans h
    · cases (ofInstruction_of_refuses refused).symm.trans h
      exact refused
  · exact ofInstruction_of_refuses

end Record

end ShaderInterface.Spirv
