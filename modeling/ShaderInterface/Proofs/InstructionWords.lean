import ShaderInterface.Spirv.Instruction

/-! Instructions and the words that spell them. Splitting finds the instructions of every sequence
of words that instructions spell, and ends with the last word of no other sequence. -/
namespace ShaderInterface.Spirv

namespace InstructionStream

/-- Words that spell instructions, one behind the other. The first word of each holds how many
words there are up to the next. -/
inductive Spells : List UInt32 → List Instruction → Prop
  | nil : Spells [] []
  | cons {head : UInt32} {operands rest : List UInt32} {following : List Instruction}
      (count : countOf head = operands.length + 1) (behind : Spells rest following) :
      Spells (head :: (operands ++ rest)) (⟨opcodeOf head, operands⟩ :: following)

/-- The complete instructions at the front of words, and what stops them. -/
def Reads (words : List UInt32) : InstructionStream → Prop
  | ⟨instructions, .complete⟩ => Spells words instructions
  | ⟨instructions, .zeroCount⟩ => ∃ front head rest, words = front ++ head :: rest ∧
      Spells front instructions ∧ countOf head = 0
  | ⟨instructions, .overrun⟩ => ∃ front head rest, words = front ++ head :: rest ∧
      Spells front instructions ∧ rest.length + 1 < countOf head

private theorem Reads.cons {head : UInt32} {operands rest : List UInt32}
    {following : List Instruction} {ending : Ending} (count : countOf head = operands.length + 1)
    (behind : Reads rest ⟨following, ending⟩) :
    Reads (head :: (operands ++ rest)) ⟨⟨opcodeOf head, operands⟩ :: following, ending⟩ := by
  cases ending with
  | complete => exact Spells.cons count behind
  | zeroCount =>
    obtain ⟨front, last, tail, rfl, spelled, zero⟩ := behind
    exact ⟨_, last, tail, by simp, Spells.cons count spelled, zero⟩
  | overrun =>
    obtain ⟨front, last, tail, rfl, spelled, overruns⟩ := behind
    exact ⟨_, last, tail, by simp, Spells.cons count spelled, overruns⟩

private theorem splitWithin_congr {bound larger : Nat} {words : List UInt32}
    (enough : words.length ≤ bound) (also : words.length ≤ larger) :
    splitWithin bound words = splitWithin larger words := by
  fun_induction splitWithin bound words generalizing larger
  case case1 => cases larger <;> rfl
  case case2 => cases enough
  all_goals
    obtain ⟨larger, rfl⟩ : ∃ smaller, larger = smaller + 1 :=
      ⟨larger - 1, by rw [List.length_cons] at also; omega⟩
    rw [splitWithin]
  case case3 zero => rw [if_pos zero]
  case case4 nonzero overruns => rw [if_neg nonzero, if_pos overruns]
  case case5 bound head rest nonzero inside following ih =>
    simp only [List.length_cons] at enough also
    have same : following = splitWithin larger (rest.drop (countOf head - 1)) := by
      apply ih <;> rw [List.length_drop] <;> omega
    rw [if_neg nonzero, if_neg inside, ← same]

theorem split_append {front : List UInt32} {instructions : List Instruction}
    (h : Spells front instructions) (tail : List UInt32) : split (front ++ tail) =
      ⟨instructions ++ (split tail).instructions, (split tail).ending⟩ := by
  induction h with
  | nil => rfl
  | @cons head operands rest following count behind ih =>
    have inside : ¬ (operands ++ rest ++ tail).length + 1 < countOf head := by
      simp only [List.length_append]
      omega
    -- The bound left for the rest is larger than its length, which does not matter.
    have within : splitWithin (operands ++ rest ++ tail).length (rest ++ tail) =
        split (rest ++ tail) := by
      refine splitWithin_congr ?_ (Nat.le_refl _)
      simp only [List.length_append]
      omega
    rw [List.cons_append, split, List.length_cons, splitWithin, if_neg (by omega), if_neg inside,
      count, Nat.add_sub_cancel, List.append_assoc, List.take_left, List.drop_left,
      ← List.append_assoc, within, ih]
    rfl

private theorem reads_of_splitWithin {bound : Nat} {words : List UInt32}
    {instructions : List Instruction} {ending : Ending} (enough : words.length ≤ bound)
    (h : splitWithin bound words = ⟨instructions, ending⟩) :
    Reads words ⟨instructions, ending⟩ := by
  fun_induction splitWithin bound words generalizing instructions
  case case1 =>
    cases h
    exact .nil
  case case2 => cases enough
  case case3 bound head rest zero =>
    cases h
    exact ⟨[], head, rest, rfl, .nil, zero⟩
  case case4 bound head rest nonzero overruns =>
    cases h
    exact ⟨[], head, rest, rfl, .nil, overruns⟩
  case case5 bound head rest nonzero inside following ih =>
    obtain ⟨rfl, ending⟩ := InstructionStream.mk.inj h
    simp only [List.length_cons] at enough
    have count : countOf head = (rest.take (countOf head - 1)).length + 1 := by
      rw [List.length_take]
      omega
    have short : (rest.drop (countOf head - 1)).length ≤ bound := by
      rw [List.length_drop]
      omega
    have behind := Reads.cons count (ih short (show following = _ by rw [← ending]))
    rwa [List.take_append_drop] at behind

/-- Splitting finds the complete instructions and what stops them. -/
theorem split_eq_iff {words : List UInt32} {stream : InstructionStream} :
    split words = stream ↔ Reads words stream := by
  constructor
  · exact reads_of_splitWithin (Nat.le_refl _)
  · intro reads
    obtain ⟨instructions, ending⟩ := stream
    cases ending with
    | complete =>
      have nothing := split_append reads []
      rw [List.append_nil] at nothing
      rw [nothing]
      exact congrArg (InstructionStream.mk · .complete) (List.append_nil instructions)
    | zeroCount =>
      obtain ⟨front, head, rest, rfl, spelled, zero⟩ := reads
      rw [split_append spelled, split, List.length_cons, splitWithin, if_pos zero, List.append_nil]
    | overrun =>
      obtain ⟨front, head, rest, rfl, spelled, overruns⟩ := reads
      rw [split_append spelled, split, List.length_cons, splitWithin, if_neg (by omega),
        if_pos overruns, List.append_nil]

theorem split_eq_complete_iff {words : List UInt32} {instructions : List Instruction} :
    split words = ⟨instructions, .complete⟩ ↔ Spells words instructions :=
  split_eq_iff

theorem Spells.unique {words : List UInt32} {instructions others : List Instruction}
    (h : Spells words instructions) (also : Spells words others) : instructions = others := by
  have same := (split_eq_complete_iff.mpr h).symm.trans (split_eq_complete_iff.mpr also)
  exact (InstructionStream.mk.inj same).1

theorem Spells.length_eq {words : List UInt32} {instructions : List Instruction}
    (h : Spells words instructions) : words.length = Instruction.totalSize instructions := by
  induction h with
  | nil => rfl
  | cons count behind ih =>
    simp only [List.length_cons, List.length_append, Instruction.totalSize, Instruction.size, ih]
    omega

theorem spells_append_iff {front tail : List UInt32} {instructions all : List Instruction}
    (h : Spells front instructions) : Spells (front ++ tail) all ↔
      ∃ behind, all = instructions ++ behind ∧ Spells tail behind := by
  simp only [← split_eq_complete_iff, split_append h tail]
  constructor
  · intro same
    obtain ⟨rfl, complete⟩ := InstructionStream.mk.inj same
    exact ⟨_, rfl, by rw [← complete]⟩
  · rintro ⟨behind, rfl, found⟩
    rw [found]

theorem Spells.split {words : List UInt32} {before after : List Instruction}
    (h : Spells words (before ++ after)) :
    ∃ front back, words = front ++ back ∧ Spells front before ∧ Spells back after := by
  induction before generalizing words with
  | nil => exact ⟨[], words, rfl, .nil, h⟩
  | cons first before ih =>
    cases h with
    | @cons head operands rest _ count behind =>
      obtain ⟨front, back, rfl, spelled, others⟩ := ih behind
      exact ⟨head :: (operands ++ front), back, by simp, .cons count spelled, others⟩

end InstructionStream

namespace Instruction

def words (instruction : Instruction) : List UInt32 :=
  .ofNat (instruction.size * 0x10000 + instruction.opcode.number) :: instruction.operands

/-- Whether size and opcode fit into the halves of a word. -/
def Fits (instruction : Instruction) : Prop :=
  instruction.size < 0x10000 ∧ instruction.opcode.number < 0x10000

theorem spells_flatMap_words {instructions : List Instruction}
    (fits : ∀ instruction ∈ instructions, instruction.Fits) :
    InstructionStream.Spells (instructions.flatMap words) instructions := by
  induction instructions with
  | nil => exact .nil
  | cons instruction following ih =>
    obtain ⟨⟨size, opcode⟩, others⟩ := List.forall_mem_cons.mp fits
    have number : (UInt32.ofNat (instruction.size * 0x10000 + instruction.opcode.number)).toNat =
        instruction.size * 0x10000 + instruction.opcode.number :=
      UInt32.toNat_ofNat_of_lt' (by rw [UInt32.size]; omega)
    have count : InstructionStream.countOf
        (.ofNat (instruction.size * 0x10000 + instruction.opcode.number)) = instruction.size := by
      rw [InstructionStream.countOf, number]
      omega
    have code : InstructionStream.opcodeOf
        (.ofNat (instruction.size * 0x10000 + instruction.opcode.number)) =
          instruction.opcode := by
      have low : (instruction.size * 0x10000 + instruction.opcode.number) % 0x10000 =
          instruction.opcode.number := by
        omega
      rw [InstructionStream.opcodeOf, number, low]
    have spelled := InstructionStream.Spells.cons count (ih others)
    rw [code] at spelled
    exact spelled

/-- Words spell no other instructions than those whose words they are. -/
theorem spells_iff {words : List UInt32} {instructions : List Instruction} :
    InstructionStream.Spells words instructions ↔
      (∀ instruction ∈ instructions, instruction.Fits) ∧
        words = instructions.flatMap Instruction.words := by
  constructor
  · intro spelled
    induction spelled with
    | nil => exact ⟨fun _ mem => absurd mem List.not_mem_nil, rfl⟩
    | @cons head operands rest following count behind ih =>
      obtain ⟨fits, rfl⟩ := ih
      have small := head.toNat_lt
      rw [InstructionStream.countOf] at count
      refine ⟨List.forall_mem_cons.mpr ⟨⟨?_, ?_⟩, fits⟩, ?_⟩
      · rw [size, ← count]
        omega
      · exact Nat.mod_lt _ (by decide)
      · have halves : (operands.length + 1) * 0x10000 + head.toNat % 0x10000 = head.toNat := by
          rw [← count]
          omega
        rw [List.flatMap_cons, Instruction.words, size, InstructionStream.opcodeOf, halves,
          UInt32.ofNat_toNat]
        rfl
  · rintro ⟨fits, rfl⟩
    exact spells_flatMap_words fits

end Instruction

end ShaderInterface.Spirv
