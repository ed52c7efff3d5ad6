import ShaderInterface.Proofs.TextOperands
import ShaderInterface.Spirv.Record

/-! The operands that an instruction must have. Each reader succeeds on operands of one form and
says what it makes of them; words behind those that it reads do not matter. -/
namespace ShaderInterface.Spirv

theorem bind_eq_ok_iff {ε α β : Type} {first : Except ε α} {next : α → Except ε β} {b : β} :
    first >>= next = .ok b ↔ ∃ a, first = .ok a ∧ next a = .ok b := by
  cases first <;> simp [bind, Except.bind]

theorem map_eq_ok_iff {ε α β : Type} {first : Except ε α} {f : α → β} {b : β} :
    first.map f = .ok b ↔ ∃ a, first = .ok a ∧ f a = b := by
  cases first <;> simp [Except.map]

private theorem mapError_eq_ok_iff {ε δ α : Type} {first : Except ε α} {f : ε → δ} {a : α} :
    first.mapError f = .ok a ↔ first = .ok a := by
  constructor <;> intro h <;> cases first <;> cases h <;> rfl

namespace Record

section Readers

private theorem word_bind_eq_ok_iff {α : Type} {operands : List UInt32}
    {next : UInt32 × List UInt32 → Except RecordFault α} {read : α} :
    word operands >>= next = .ok read ↔
      ∃ first rest, operands = first :: rest ∧ next (first, rest) = .ok read := by
  simp only [word, bind_eq_ok_iff, mapError_eq_ok_iff, Prod.exists]
  cases operands <;> simp [Operand.word, and_assoc]

private theorem text_bind_eq_ok_iff {α : Type} {operands : List UInt32}
    {next : String × List UInt32 → Except RecordFault α} {read : α} :
    text operands >>= next = .ok read ↔ ∃ words rest name,
      operands = words ++ rest ∧ Operand.Spells words name ∧ next (name, rest) = .ok read := by
  simp only [text, bind_eq_ok_iff, mapError_eq_ok_iff, Prod.exists, Operand.text_eq_ok_iff]
  constructor
  · rintro ⟨name, rest, ⟨words, same, named⟩, following⟩
    exact ⟨words, rest, name, same, named, following⟩
  · rintro ⟨words, rest, name, same, named, following⟩
    exact ⟨name, rest, ⟨words, same, named⟩, following⟩

private theorem pure_eq_ok_iff {α : Type} {result read : α} :
    (pure result : Except RecordFault α) = .ok read ↔ result = read :=
  Except.ok.injEq result read ▸ Iff.rfl

variable {operands : List UInt32} {record : Record}

theorem readEntryPoint_eq_ok_iff :
    readEntryPoint operands = .ok record ↔ ∃ number function words interface name,
      operands = number :: function :: (words ++ interface) ∧
        ExecutionModel.numbers.has number ∧ Operand.Spells words name ∧
          .entryPoint ⟨⟨number⟩, function, name, interface⟩ = record := by
  simp only [readEntryPoint, word_bind_eq_ok_iff, ExecutionModel.ofNumber?]
  constructor
  · rintro ⟨number, _, rfl, read⟩
    by_cases known : ExecutionModel.numbers.has number = true
    · simp only [known, if_true, word_bind_eq_ok_iff, text_bind_eq_ok_iff, pure_eq_ok_iff] at read
      obtain ⟨function, _, rfl, words, interface, name, rfl, named, same⟩ := read
      exact ⟨number, function, words, interface, name, rfl, known, named, same⟩
    · simp [known] at read
  · rintro ⟨number, function, words, interface, name, rfl, known, named, rfl⟩
    refine ⟨number, _, rfl, ?_⟩
    simp only [known, if_true, word_bind_eq_ok_iff, text_bind_eq_ok_iff]
    exact ⟨function, _, rfl, words, interface, name, rfl, named, rfl⟩

theorem readName_eq_ok_iff :
    readName operands = .ok record ↔ ∃ target words rest text,
      operands = target :: (words ++ rest) ∧ Operand.Spells words text ∧
        .idName target text = record := by
  simp only [readName, word_bind_eq_ok_iff, text_bind_eq_ok_iff, pure_eq_ok_iff]
  constructor
  · rintro ⟨target, _, rfl, words, rest, text, rfl, named, same⟩
    exact ⟨target, words, rest, text, rfl, named, same⟩
  · rintro ⟨target, words, rest, text, rfl, named, same⟩
    exact ⟨target, _, rfl, words, rest, text, rfl, named, same⟩

theorem readPlacement_eq_ok_iff {found : Option Record} :
    readPlacement operands = .ok found ↔ ∃ target number rest,
      operands = target :: number :: rest ∧
        ((Slot.ofNumber? number = none ∧ none = found) ∨
          ∃ slot value behind, Slot.ofNumber? number = some slot ∧ rest = value :: behind ∧
            some (.placement target slot value) = found) := by
  simp only [readPlacement, word_bind_eq_ok_iff]
  constructor
  · rintro ⟨target, _, rfl, number, rest, rfl, read⟩
    refine ⟨target, number, rest, rfl, ?_⟩
    cases placing : Slot.ofNumber? number with
    | none =>
      simp only [placing, pure_eq_ok_iff] at read
      exact .inl ⟨rfl, read⟩
    | some slot =>
      simp only [placing, word_bind_eq_ok_iff, pure_eq_ok_iff] at read
      obtain ⟨value, behind, rfl, same⟩ := read
      exact .inr ⟨slot, value, behind, rfl, rfl, same⟩
  · rintro ⟨target, number, rest, rfl, read⟩
    refine ⟨target, _, rfl, number, rest, rfl, ?_⟩
    rcases read with ⟨other, rfl⟩ | ⟨slot, value, behind, placing, rfl, rfl⟩
    · simp only [other]
      rfl
    · simp only [placing]
      rfl

theorem readLeaf_eq_ok_iff {shape : Shape} :
    readLeaf shape operands = .ok record ↔
      ∃ id rest, operands = id :: rest ∧ .type id shape = record := by
  simp only [readLeaf, word_bind_eq_ok_iff, pure_eq_ok_iff]

theorem readArray_eq_ok_iff :
    readArray operands = .ok record ↔ ∃ id element rest,
      operands = id :: element :: rest ∧ .type id (.array element) = record := by
  simp only [readArray, word_bind_eq_ok_iff, pure_eq_ok_iff]
  constructor
  · rintro ⟨id, _, rfl, element, rest, rfl, same⟩
    exact ⟨id, element, rest, rfl, same⟩
  · rintro ⟨id, element, rest, rfl, same⟩
    exact ⟨id, _, rfl, element, rest, rfl, same⟩

theorem readPointer_eq_ok_iff :
    readPointer operands = .ok record ↔ ∃ id storage pointee rest,
      operands = id :: storage :: pointee :: rest ∧ .type id (.pointer pointee) = record := by
  simp only [readPointer, word_bind_eq_ok_iff, pure_eq_ok_iff]
  constructor
  · rintro ⟨id, _, rfl, storage, _, rfl, pointee, rest, rfl, same⟩
    exact ⟨id, storage, pointee, rest, rfl, same⟩
  · rintro ⟨id, storage, pointee, rest, rfl, same⟩
    exact ⟨id, _, rfl, storage, _, rfl, pointee, rest, rfl, same⟩

theorem readStruct_eq_ok_iff :
    readStruct operands = .ok record ↔
      ∃ id members, operands = id :: members ∧ .type id (.struct members) = record := by
  simp only [readStruct, word_bind_eq_ok_iff, pure_eq_ok_iff]

theorem readGlobal_eq_ok_iff :
    readGlobal operands = .ok record ↔ ∃ type id number rest,
      operands = type :: id :: number :: rest ∧ StorageClass.numbers.has number ∧
        .global ⟨id, type, ⟨number⟩⟩ = record := by
  simp only [readGlobal, word_bind_eq_ok_iff, StorageClass.ofNumber?]
  constructor
  · rintro ⟨type, _, rfl, id, _, rfl, number, rest, rfl, read⟩
    by_cases known : StorageClass.numbers.has number = true
    · simp only [known, if_true, pure_eq_ok_iff] at read
      exact ⟨type, id, number, rest, rfl, known, read⟩
    · simp [known] at read
  · rintro ⟨type, id, number, rest, rfl, known, rfl⟩
    refine ⟨type, _, rfl, id, _, rfl, number, rest, rfl, ?_⟩
    simp only [known, if_true]
    rfl

end Readers

def readOpcodes : List Opcode :=
  [.entryPoint, .name, .decorate, .typeImage, .typeSampledImage, .typeSampler,
   .typeAccelerationStructureKHR, .typeArray, .typeRuntimeArray, .typePointer, .typeStruct,
   .variableDecl]

/-- The types of which only the id must be there. -/
def leafOpcodes : List Opcode :=
  [.typeImage, .typeSampledImage, .typeSampler, .typeAccelerationStructureKHR, .typeStruct]

def arrayOpcodes : List Opcode := [.typeArray, .typeRuntimeArray]

def placingDecorations : List Decoration := [.descriptorSet, .binding, .location, .component]

/-- Operands in which an operation finds what it reads. -/
inductive Readable : Opcode → List UInt32 → Prop
  | entryPoint {number function : UInt32} {words interface : List UInt32} {name : String}
      (model : ExecutionModel.numbers.has number) (named : Operand.Spells words name) :
      Readable .entryPoint (number :: function :: (words ++ interface))
  | name {target : UInt32} {words rest : List UInt32} {text : String}
      (named : Operand.Spells words text) : Readable .name (target :: (words ++ rest))
  | decorate {target number : UInt32} {rest : List UInt32}
      (value : ⟨number⟩ ∈ placingDecorations → rest ≠ []) :
      Readable .decorate (target :: number :: rest)
  | leaf {opcode : Opcode} {id : UInt32} {rest : List UInt32} (type : opcode ∈ leafOpcodes) :
      Readable opcode (id :: rest)
  | array {opcode : Opcode} {id element : UInt32} {rest : List UInt32}
      (type : opcode ∈ arrayOpcodes) : Readable opcode (id :: element :: rest)
  | pointer {id storage pointee : UInt32} {rest : List UInt32} :
      Readable .typePointer (id :: storage :: pointee :: rest)
  | global {type id number : UInt32} {rest : List UInt32}
      (storage : StorageClass.numbers.has number) :
      Readable .variableDecl (type :: id :: number :: rest)
  | unread {opcode : Opcode} {operands : List UInt32} (other : opcode ∉ readOpcodes) :
      Readable opcode operands

private theorem ofNumber?_eq_none_iff {number : UInt32} :
    Slot.ofNumber? number = none ↔ ⟨number⟩ ∉ placingDecorations := by
  unfold Slot.ofNumber?
  split <;> simp_all [placingDecorations]

theorem ofInstruction_of_other {opcode : Opcode} (operands : List UInt32)
    (other : opcode ∉ readOpcodes) : ofInstruction ⟨opcode, operands⟩ = .ok none := by
  unfold ofInstruction
  split
  case h_13 => rfl
  all_goals
    rename_i same
    obtain rfl : opcode = _ := same
    exact absurd (by decide) other

section Collected

variable {opcode : Opcode} {operands : List UInt32} {found : Option Record}

private theorem readable_of_leaf {shape : Shape} (type : opcode ∈ leafOpcodes)
    (h : (readLeaf shape operands).map some = .ok found) : Readable opcode operands := by
  obtain ⟨_, read, _⟩ := map_eq_ok_iff.mp h
  obtain ⟨_, _, rfl, _⟩ := readLeaf_eq_ok_iff.mp read
  exact .leaf type

private theorem readable_of_array (type : opcode ∈ arrayOpcodes)
    (h : (readArray operands).map some = .ok found) : Readable opcode operands := by
  obtain ⟨_, read, _⟩ := map_eq_ok_iff.mp h
  obtain ⟨_, _, _, rfl, _⟩ := readArray_eq_ok_iff.mp read
  exact .array type

private theorem readable_of_ofInstruction (h : ofInstruction ⟨opcode, operands⟩ = .ok found) :
    Readable opcode operands := by
  by_cases other : opcode ∉ readOpcodes
  · exact .unread other
  have known := Decidable.not_not.mp other
  simp only [readOpcodes, List.mem_cons, List.not_mem_nil, or_false] at known
  -- One case for each operation, in the order of `readOpcodes`.
  rcases known with rfl | rfl | rfl | rfl | rfl | rfl | rfl | rfl | rfl | rfl | rfl | rfl
  · obtain ⟨_, read, _⟩ := map_eq_ok_iff.mp h
    obtain ⟨_, _, _, _, _, rfl, model, named, _⟩ := readEntryPoint_eq_ok_iff.mp read
    exact .entryPoint model named
  · obtain ⟨_, read, _⟩ := map_eq_ok_iff.mp h
    obtain ⟨_, _, _, _, rfl, named, _⟩ := readName_eq_ok_iff.mp read
    exact .name named
  · obtain ⟨_, _, _, rfl, ⟨unplaced, _⟩ | ⟨_, _, _, _, rfl, _⟩⟩ := readPlacement_eq_ok_iff.mp h
    · exact .decorate fun placing => absurd placing (ofNumber?_eq_none_iff.mp unplaced)
    · exact .decorate fun _ => List.cons_ne_nil _ _
  · exact readable_of_leaf (by decide) h
  · exact readable_of_leaf (by decide) h
  · exact readable_of_leaf (by decide) h
  · exact readable_of_leaf (by decide) h
  · exact readable_of_array (by decide) h
  · exact readable_of_array (by decide) h
  · obtain ⟨_, read, _⟩ := map_eq_ok_iff.mp h
    obtain ⟨_, _, _, _, rfl, _⟩ := readPointer_eq_ok_iff.mp read
    exact .pointer
  · obtain ⟨_, read, _⟩ := map_eq_ok_iff.mp h
    obtain ⟨_, _, rfl, _⟩ := readStruct_eq_ok_iff.mp read
    exact .leaf (by decide)
  · obtain ⟨_, read, _⟩ := map_eq_ok_iff.mp h
    obtain ⟨_, _, _, _, rfl, storage, _⟩ := readGlobal_eq_ok_iff.mp read
    exact .global storage

private theorem exists_ofInstruction_of_readable (h : Readable opcode operands) :
    ∃ found, ofInstruction ⟨opcode, operands⟩ = .ok found := by
  cases h with
  | entryPoint model named =>
    exact ⟨_, map_eq_ok_iff.mpr ⟨_, readEntryPoint_eq_ok_iff.mpr
      ⟨_, _, _, _, _, rfl, model, named, rfl⟩, rfl⟩⟩
  | name named =>
    exact ⟨_, map_eq_ok_iff.mpr ⟨_, readName_eq_ok_iff.mpr
      ⟨_, _, _, _, rfl, named, rfl⟩, rfl⟩⟩
  | @decorate target number rest value =>
    cases placing : Slot.ofNumber? number with
    | none => exact ⟨none, readPlacement_eq_ok_iff.mpr ⟨_, _, _, rfl, .inl ⟨placing, rfl⟩⟩⟩
    | some slot =>
      have needed : ⟨number⟩ ∈ placingDecorations := by
        refine Decidable.byContradiction fun other => ?_
        cases (ofNumber?_eq_none_iff.mpr other).symm.trans placing
      obtain ⟨word, behind, rfl⟩ := List.exists_cons_of_ne_nil (value needed)
      exact ⟨_, readPlacement_eq_ok_iff.mpr
        ⟨_, _, _, rfl, .inr ⟨slot, word, behind, placing, rfl, rfl⟩⟩⟩
  | leaf type =>
    simp only [leafOpcodes, List.mem_cons, List.not_mem_nil, or_false] at type
    rcases type with rfl | rfl | rfl | rfl | rfl <;> exact ⟨_, rfl⟩
  | array type =>
    simp only [arrayOpcodes, List.mem_cons, List.not_mem_nil, or_false] at type
    rcases type with rfl | rfl <;> exact ⟨_, rfl⟩
  | pointer => exact ⟨_, rfl⟩
  | global storage =>
    exact ⟨_, map_eq_ok_iff.mpr ⟨_, readGlobal_eq_ok_iff.mpr
      ⟨_, _, _, _, rfl, storage, rfl⟩, rfl⟩⟩
  | unread other => exact ⟨none, ofInstruction_of_other _ other⟩

end Collected

/-- An instruction is collected exactly if its operation finds what it reads. -/
theorem exists_ofInstruction_eq_ok_iff {instruction : Instruction} :
    (∃ found, ofInstruction instruction = .ok found) ↔
      Readable instruction.opcode instruction.operands :=
  ⟨fun ⟨_, collected⟩ => readable_of_ofInstruction collected, exists_ofInstruction_of_readable⟩

end Record

end ShaderInterface.Spirv
