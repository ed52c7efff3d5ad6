import Mathlib.Data.List.Induction
import ShaderInterface.Proofs.RecordFaults
import ShaderInterface.Proofs.ScanLanguage

/-! Which fault a scan of a module with a header tells, and where. Instructions are blamed in their
order, each at its own first word; what stops the reading of them is told only when none of those
looked at before is to blame. -/
namespace ShaderInterface.Spirv

open Instruction (totalSize)

namespace Scan

/-- What is wrong with an instruction behind others, told at the instruction's first word. A
variable inside a function is not looked at, so nothing is wrong with it. -/
inductive Blames (before : List Instruction) (instruction : Instruction) : ScanFault → Prop
  | unknown (unknown : instruction.opcode.isKnown = false) :
      Blames before instruction (.unknownOpcode instruction.opcode (5 + totalSize before))
  | malformed {fault : RecordFault} (known : instruction.opcode.isKnown = true)
      (outside : instruction.opcode = .variableDecl → ¬ LeavesOpen before)
      (refused : Record.Refuses instruction.opcode instruction.operands fault) :
      Blames before instruction (.malformed instruction.opcode (5 + totalSize before) fault)

def Blameless (instructions : List Instruction) : Prop :=
  ∀ before instruction after, instructions = before ++ instruction :: after →
    ∀ fault, ¬ Blames before instruction fault

/-- What is wrong with the earliest instruction to blame. -/
def BlamesFirst (instructions : List Instruction) (fault : ScanFault) : Prop :=
  ∃ before instruction after, instructions = before ++ instruction :: after ∧
    Blameless before ∧ Blames before instruction fault

/-- What is wrong with instructions or with what stops them. In front of a word count of zero the
last instruction is not looked at, and the zero is told at that instruction's first word. -/
inductive Detects : InstructionStream → ScanFault → Prop
  | atEnd {instructions : List Instruction} {fault : ScanFault}
      (first : BlamesFirst instructions fault) : Detects ⟨instructions, .complete⟩ fault
  | beforeOverrun {instructions : List Instruction} {fault : ScanFault}
      (first : BlamesFirst instructions fault) : Detects ⟨instructions, .overrun⟩ fault
  | overrun {instructions : List Instruction} (blameless : Blameless instructions) :
      Detects ⟨instructions, .overrun⟩ (.overrun (5 + totalSize instructions))
  | beforeZero {earlier : List Instruction} {last : Instruction} {fault : ScanFault}
      (first : BlamesFirst earlier fault) : Detects ⟨earlier ++ [last], .zeroCount⟩ fault
  | zeroAfter {earlier : List Instruction} {last : Instruction} (blameless : Blameless earlier) :
      Detects ⟨earlier ++ [last], .zeroCount⟩ (.zeroCountAfter (5 + totalSize earlier))
  | zeroAt : Detects ⟨[], .zeroCount⟩ (.zeroCountAt 5)

section Walk

variable {before : List Instruction} {instruction : Instruction} {instructions : List Instruction}
  {fault : ScanFault}

theorem collect_eq_error_iff {fault : RecordFault} :
    collect (before.foldl insideAfter false) instruction = .error fault ↔
      (instruction.opcode = .variableDecl → ¬ LeavesOpen before) ∧
        Record.Refuses instruction.opcode instruction.operands fault := by
  rw [← Record.ofInstruction_eq_error_iff, ← leavesOpen_iff]
  by_cases skipped : before.foldl insideAfter false = true ∧ instruction.opcode = .variableDecl
  · rw [collect_of_skipped skipped]
    constructor
    · intro refused
      cases refused
    · intro blamed
      exact absurd skipped.1 (blamed.1 skipped.2)
  · rw [collect_of_visited skipped]
    exact ⟨fun refused => ⟨fun same inside => skipped ⟨inside, same⟩, refused⟩, And.right⟩

theorem forall_not_blames_iff : (∀ fault, ¬ Blames before instruction fault) ↔
    instruction.opcode.isKnown = true ∧
      ∃ found, collect (before.foldl insideAfter false) instruction = .ok found := by
  constructor
  · intro none
    have known : instruction.opcode.isKnown = true := by
      refine Bool.of_not_eq_false fun unknown => none _ (.unknown unknown)
    refine ⟨known, ?_⟩
    cases collected : collect (before.foldl insideAfter false) instruction with
    | ok found => exact ⟨found, rfl⟩
    | error fault =>
      obtain ⟨outside, refused⟩ := collect_eq_error_iff.mp collected
      exact absurd (.malformed known outside refused) (none _)
  · rintro ⟨known, found, collected⟩ fault blamed
    cases blamed with
    | unknown unknown => cases known.symm.trans unknown
    | malformed _ outside refused =>
      cases collected.symm.trans (collect_eq_error_iff.mpr ⟨outside, refused⟩)

/-- A walk gets to the end of instructions exactly if none is to blame. -/
theorem blameless_iff :
    Blameless instructions ↔ ∃ records, walk false headerWords instructions = .ok records := by
  simp only [exists_walk_eq_ok_iff, Blameless, forall_not_blames_iff]

theorem walk_of_blames (blamed : Blames before instruction fault) (after : List Instruction) :
    walk (before.foldl insideAfter false) (headerWords + totalSize before) (instruction :: after) =
      .error fault := by
  rw [walk]
  cases blamed with
  | unknown unknown =>
    rw [unknown]
    rfl
  | malformed known outside refused =>
    rw [known, collect_eq_error_iff.mpr ⟨outside, refused⟩]
    rfl

theorem walk_of_blamesFirst (first : BlamesFirst instructions fault) :
    walk false headerWords instructions = .error fault := by
  obtain ⟨before, instruction, after, rfl, blameless, blamed⟩ := first
  obtain ⟨records, walked⟩ := blameless_iff.mp blameless
  rw [walk_append, walked]
  simp only [Except.bind, walk_of_blames blamed]
  rfl

theorem Blameless.concat (blameless : Blameless before)
    (none : ∀ fault, ¬ Blames before instruction fault) : Blameless (before ++ [instruction]) := by
  intro earlier other after same
  rcases List.eq_nil_or_concat after with rfl | ⟨between, last, rfl⟩
  · obtain ⟨rfl, single⟩ := List.append_inj' same rfl
    cases single
    exact none
  · rw [List.concat_eq_append, ← List.cons_append, ← List.append_assoc] at same
    exact blameless earlier other between (List.append_inj' same rfl).1

theorem blameless_or_blamesFirst (instructions : List Instruction) :
    Blameless instructions ∨ ∃ fault, BlamesFirst instructions fault := by
  induction instructions using List.reverseRecOn with
  | nil =>
    refine .inl fun before instruction after same => ?_
    cases before <;> cases same
  | append_singleton before last ih =>
    rcases ih with blameless | ⟨fault, earlier, first, after, rfl, blameless, blamed⟩
    · by_cases wrong : ∃ fault, Blames before last fault
      · obtain ⟨fault, blamed⟩ := wrong
        exact .inr ⟨fault, before, last, [], rfl, blameless, blamed⟩
      · exact .inl (blameless.concat (not_exists.mp wrong))
    · exact .inr ⟨fault, earlier, first, after ++ [last], by simp, blameless, blamed⟩

/-- A walk fails with what is wrong with the earliest instruction to blame. -/
theorem walk_eq_error_iff :
    walk false headerWords instructions = .error fault ↔ BlamesFirst instructions fault := by
  constructor
  · intro failed
    rcases blameless_or_blamesFirst instructions with blameless | ⟨other, first⟩
    · obtain ⟨records, walked⟩ := blameless_iff.mp blameless
      cases walked.symm.trans failed
    · cases (walk_of_blamesFirst first).symm.trans failed
      exact first
  · exact walk_of_blamesFirst

end Walk

private theorem body_of_detects {stream : InstructionStream} {fault : ScanFault}
    (detected : Detects stream fault) : body stream = .error fault := by
  cases detected with
  | atEnd first => simp only [body, walk_eq_error_iff.mpr first, Except.map]
  | beforeOverrun first => simp only [body, walk_eq_error_iff.mpr first, bind, Except.bind]
  | overrun blameless =>
    obtain ⟨records, walked⟩ := blameless_iff.mp blameless
    simp only [body, walked, bind, Except.bind]
    rfl
  | beforeZero first =>
    simp only [body, List.dropLast_concat, walk_eq_error_iff.mpr first, bind, Except.bind]
  | zeroAfter blameless =>
    obtain ⟨records, walked⟩ := blameless_iff.mp blameless
    simp only [body, List.dropLast_concat, walked, bind, Except.bind]
    rw [if_neg (by simp)]
    rfl
  | zeroAt => rfl

private theorem detects_of_body {stream : InstructionStream} {fault : ScanFault}
    (failed : body stream = .error fault) : Detects stream fault := by
  obtain ⟨instructions, ending⟩ := stream
  -- Each ending has one answer for a first instruction to blame and one for none; a body gives
  -- the answer that is detected, so that it cannot give another.
  cases ending with
  | complete =>
    rcases blameless_or_blamesFirst instructions with blameless | ⟨other, first⟩
    · obtain ⟨records, walked⟩ := blameless_iff.mp blameless
      simp [body, walked, Except.map] at failed
    · cases (body_of_detects (.atEnd first)).symm.trans failed
      exact .atEnd first
  | overrun =>
    rcases blameless_or_blamesFirst instructions with blameless | ⟨other, first⟩
    · cases (body_of_detects (.overrun blameless)).symm.trans failed
      exact .overrun blameless
    · cases (body_of_detects (.beforeOverrun first)).symm.trans failed
      exact .beforeOverrun first
  | zeroCount =>
    rcases List.eq_nil_or_concat instructions with rfl | ⟨earlier, last, rfl⟩
    · cases failed
      exact .zeroAt
    · rw [List.concat_eq_append] at failed ⊢
      rcases blameless_or_blamesFirst earlier with blameless | ⟨other, first⟩
      · cases (body_of_detects (.zeroAfter blameless)).symm.trans failed
        exact .zeroAfter blameless
      · cases (body_of_detects (.beforeZero first)).symm.trans failed
        exact .beforeZero first

end Scan

open InstructionStream (Reads)

theorem scan_eq_body {words : List UInt32} {stream : InstructionStream} (header : 5 ≤ words.length)
    (magic : words.head? = some 0x07230203) (reads : Reads (words.drop 5) stream) :
    scan words = Scan.body stream := by
  have long : ¬ words.length < Scan.headerWords := Nat.not_lt_of_ge header
  rw [scan, if_neg long, magic, ← InstructionStream.split_eq_iff.mpr reads]
  rfl

/-- A module with a header is refused for exactly what is wrong with the earliest instruction to
blame, or else with what stops the instructions. -/
theorem scan_eq_error_iff {words : List UInt32} {stream : InstructionStream} {fault : ScanFault}
    (header : 5 ≤ words.length) (magic : words.head? = some 0x07230203)
    (reads : Reads (words.drop 5) stream) :
    scan words = .error fault ↔ Scan.Detects stream fault := by
  rw [scan_eq_body header magic reads]
  exact ⟨Scan.detects_of_body, Scan.body_of_detects⟩

end ShaderInterface.Spirv
