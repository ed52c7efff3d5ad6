import ShaderInterface.Proofs.InstructionWords
import ShaderInterface.Proofs.RecordOperands
import ShaderInterface.Spirv.Scan

/-! The language of modules that can be scanned. A scan succeeds exactly on a header with
instructions behind it that end with the last word, are all known, and find in their operands what
they read; a variable inside a function may have any operands. -/
namespace ShaderInterface.Spirv

namespace Scan

/-- Instructions that begin a function and do not end the last one that they begin. -/
def LeavesOpen (before : List Instruction) : Prop :=
  ∃ earlier start between, before = earlier ++ start :: between ∧ start.opcode = .function ∧
    ∀ instruction ∈ between, instruction.opcode ≠ .functionEnd

private theorem leavesOpen_cons_iff {first : Instruction} {following : List Instruction} :
    LeavesOpen (first :: following) ↔ LeavesOpen following ∨
      first.opcode = .function ∧ ∀ instruction ∈ following, instruction.opcode ≠ .functionEnd := by
  constructor
  · rintro ⟨earlier, start, between, same, function, unended⟩
    cases earlier with
    | nil =>
      cases same
      exact .inr ⟨function, unended⟩
    | cons _ earlier =>
      cases same
      exact .inl ⟨earlier, start, between, rfl, function, unended⟩
  · rintro (⟨earlier, start, between, rfl, function, unended⟩ | ⟨function, unended⟩)
    · exact ⟨first :: earlier, start, between, rfl, function, unended⟩
    · exact ⟨[], first, following, rfl, function, unended⟩

theorem insideAfter_eq_true_iff {inside : Bool} {instruction : Instruction} :
    insideAfter inside instruction = true ↔ instruction.opcode = .function ∨
      inside = true ∧ instruction.opcode ≠ .functionEnd := by
  unfold insideAfter
  split <;> simp_all

theorem foldl_insideAfter_eq_true_iff {inside : Bool} {before : List Instruction} :
    before.foldl insideAfter inside = true ↔ LeavesOpen before ∨
      inside = true ∧ ∀ instruction ∈ before, instruction.opcode ≠ .functionEnd := by
  induction before generalizing inside with
  | nil => simp [LeavesOpen]
  | cons first before ih =>
    rw [List.foldl_cons, ih, insideAfter_eq_true_iff, leavesOpen_cons_iff, List.forall_mem_cons,
      or_and_right, and_assoc, or_assoc]

theorem leavesOpen_iff {before : List Instruction} :
    before.foldl insideAfter false = true ↔ LeavesOpen before := by
  simp [foldl_insideAfter_eq_true_iff]

theorem collect_of_skipped {inside : Bool} {instruction : Instruction}
    (skipped : inside = true ∧ instruction.opcode = .variableDecl) :
    collect inside instruction = .ok none := by
  rw [collect, if_pos]
  rwa [Bool.and_eq_true, beq_iff_eq]

theorem collect_of_visited {inside : Bool} {instruction : Instruction}
    (visited : ¬ (inside = true ∧ instruction.opcode = .variableDecl)) :
    collect inside instruction = Record.ofInstruction instruction := by
  rw [collect, if_neg]
  rwa [Bool.and_eq_true, beq_iff_eq]

theorem exists_collect_eq_ok_iff {before : List Instruction} {instruction : Instruction} :
    (∃ found, collect (before.foldl insideAfter false) instruction = .ok found) ↔
      instruction.opcode = .variableDecl ∧ LeavesOpen before ∨
        Record.Readable instruction.opcode instruction.operands := by
  rw [← Record.exists_ofInstruction_eq_ok_iff, ← leavesOpen_iff, and_comm]
  by_cases skipped : before.foldl insideAfter false = true ∧ instruction.opcode = .variableDecl
  · rw [collect_of_skipped skipped]
    exact ⟨fun _ => .inl skipped, fun _ => ⟨none, rfl⟩⟩
  · rw [collect_of_visited skipped]
    exact ⟨.inr, fun accepted => accepted.resolve_left skipped⟩

/-- A walk goes over an instruction that is known and collected, and on from behind it. -/
theorem walk_cons_eq_ok_iff {inside : Bool} {position : Nat} {first : Instruction}
    {following : List Instruction} {records : List Record} :
    walk inside position (first :: following) = .ok records ↔
      first.opcode.isKnown = true ∧ ∃ found, collect inside first = .ok found ∧
        ∃ behind, walk (insideAfter inside first) (position + first.size) following = .ok behind ∧
          found.toList ++ behind = records := by
  rw [walk]
  cases first.opcode.isKnown with
  | false => simp
  | true =>
    cases collect inside first with
    | error fault => simp
    | ok found =>
      cases walk (insideAfter inside first) (position + first.size) following <;> simp

theorem walk_append (inside : Bool) (position : Nat) (before after : List Instruction) :
    walk inside position (before ++ after) = (walk inside position before).bind fun records =>
      (walk (before.foldl insideAfter inside) (position + Instruction.totalSize before) after).map
        (records ++ ·) := by
  induction before generalizing inside position with
  | nil =>
    rw [List.nil_append, List.foldl_nil, Instruction.totalSize, Nat.add_zero]
    cases walk inside position after <;> rfl
  | cons first before ih =>
    rw [List.cons_append, walk, walk, ih, List.foldl_cons, Instruction.totalSize, Nat.add_assoc]
    split
    · rfl
    · cases collect inside first with
      | error fault => rfl
      | ok found =>
        cases walk (insideAfter inside first) (position + first.size) before with
        | error fault => rfl
        | ok records =>
          simp only [Except.bind]
          cases walk _ (position + (first.size + Instruction.totalSize before)) after <;>
            simp [Except.map]

theorem walk_append_eq_ok_iff {inside : Bool} {position : Nat} {before after : List Instruction}
    {records : List Record} : walk inside position (before ++ after) = .ok records ↔
      ∃ front back, walk inside position before = .ok front ∧
        walk (before.foldl insideAfter inside) (position + Instruction.totalSize before) after =
          .ok back ∧ front ++ back = records := by
  rw [walk_append]
  cases walk inside position before with
  | error fault => simp [Except.bind]
  | ok front =>
    simp only [Except.bind, map_eq_ok_iff, Except.ok.injEq, exists_and_left, exists_eq_left']

/-- Where a walk starts shows only in its faults. -/
theorem walk_position {inside : Bool} {position : Nat} {instructions : List Instruction}
    {records : List Record} (walked : walk inside position instructions = .ok records)
    (other : Nat) : walk inside other instructions = .ok records := by
  induction instructions generalizing inside position other records with
  | nil => exact walked
  | cons first following ih =>
    obtain ⟨known, found, collected, behind, walked, same⟩ := walk_cons_eq_ok_iff.mp walked
    exact walk_cons_eq_ok_iff.mpr ⟨known, found, collected, behind, ih walked _, same⟩

theorem exists_walk_eq_ok_iff {inside : Bool} {position : Nat} {instructions : List Instruction} :
    (∃ records, walk inside position instructions = .ok records) ↔
      ∀ before instruction after, instructions = before ++ instruction :: after →
        instruction.opcode.isKnown = true ∧
          ∃ found, collect (before.foldl insideAfter inside) instruction = .ok found := by
  induction instructions generalizing inside position with
  | nil => simp [walk]
  | cons first following ih =>
    constructor
    · rintro ⟨records, walked⟩ before instruction after same
      obtain ⟨known, found, collected, behind, walked, _⟩ := walk_cons_eq_ok_iff.mp walked
      cases before with
      | nil =>
        cases same
        exact ⟨known, found, collected⟩
      | cons _ before =>
        cases same
        exact ih.mp ⟨behind, walked⟩ before instruction after rfl
    · intro each
      obtain ⟨known, found, collected⟩ := each [] first following rfl
      obtain ⟨behind, walked⟩ : ∃ behind, walk (insideAfter inside first)
          (position + first.size) following = .ok behind := by
        refine ih.mpr fun before instruction after same => ?_
        exact each (first :: before) instruction after (congrArg (first :: ·) same)
      exact ⟨_, walk_cons_eq_ok_iff.mpr ⟨known, found, collected, behind, walked, rfl⟩⟩

private theorem body_eq_ok_iff {stream : InstructionStream} {outline : Outline} :
    body stream = .ok outline ↔ ∃ instructions, stream = ⟨instructions, .complete⟩ ∧
      walk false headerWords instructions = .ok outline.records := by
  obtain ⟨instructions, ending⟩ := stream
  cases ending with
  | complete =>
    simp only [body, map_eq_ok_iff, InstructionStream.mk.injEq, and_true, exists_eq_left']
    exact ⟨fun ⟨_, walked, same⟩ => same ▸ walked, fun walked => ⟨_, walked, rfl⟩⟩
  | zeroCount =>
    simp only [body, bind_eq_ok_iff]
    split <;> simp
  | overrun => simp [body, bind_eq_ok_iff]

end Scan

/-- Scanning finds what a walk over the instructions that the words behind the header spell does. -/
theorem scan_eq_ok_iff {words : List UInt32} {outline : Outline} :
    scan words = .ok outline ↔
      Scan.headerWords ≤ words.length ∧ words.head? = some Scan.magicNumber ∧
        ∃ instructions,
          InstructionStream.Spells (words.drop Scan.headerWords) instructions ∧
            Scan.walk false Scan.headerWords instructions = .ok outline.records := by
  simp only [← InstructionStream.split_eq_complete_iff]
  constructor
  · intro scanned
    unfold scan at scanned
    split at scanned
    · cases scanned
    · rename_i long
      split at scanned
      · rename_i word first
        split at scanned
        · rename_i magic
          exact ⟨Nat.le_of_not_lt long, magic ▸ first, Scan.body_eq_ok_iff.mp scanned⟩
        · cases scanned
      · cases scanned
  · rintro ⟨long, magic, walked⟩
    rw [scan, if_neg (Nat.not_lt_of_ge long), magic]
    exact Scan.body_eq_ok_iff.mpr walked

/-- The words of a module that can be scanned: a header, and instructions up to the last word. -/
structure Scannable (words : List UInt32) : Prop where
  header : 5 ≤ words.length
  magic : words.head? = some 0x07230203
  body : ∃ instructions, InstructionStream.Spells (words.drop 5) instructions ∧
    ∀ before instruction after, instructions = before ++ instruction :: after →
      instruction.opcode.isKnown = true ∧
        (instruction.opcode = .variableDecl ∧ Scan.LeavesOpen before ∨
          Record.Readable instruction.opcode instruction.operands)

/-- A scan succeeds on the modules that can be scanned and fails on every other sequence of
words. -/
theorem scan_accepts_iff (words : List UInt32) :
    (∃ outline, scan words = .ok outline) ↔ Scannable words := by
  constructor
  · rintro ⟨outline, scanned⟩
    obtain ⟨header, magic, instructions, spelled, walked⟩ := scan_eq_ok_iff.mp scanned
    refine ⟨header, magic, instructions, spelled, ?_⟩
    intro before instruction after same
    obtain ⟨known, collected⟩ :=
      Scan.exists_walk_eq_ok_iff.mp ⟨_, walked⟩ before instruction after same
    exact ⟨known, Scan.exists_collect_eq_ok_iff.mp collected⟩
  · rintro ⟨header, magic, instructions, spelled, each⟩
    obtain ⟨records, walked⟩ : ∃ records,
        Scan.walk false Scan.headerWords instructions = .ok records := by
      refine Scan.exists_walk_eq_ok_iff.mpr fun before instruction after same => ?_
      obtain ⟨known, accepted⟩ := each before instruction after same
      exact ⟨known, Scan.exists_collect_eq_ok_iff.mpr accepted⟩
    exact ⟨⟨records⟩, scan_eq_ok_iff.mpr ⟨header, magic, instructions, spelled, walked⟩⟩

/-- The words of a module with a sampler type and a function. A variable without a storage class
stands inside the function, or behind its end. -/
def shortVariable (inside : Bool) : List UInt32 :=
  [0x07230203, 0x10000, 0, 20, 0] ++ [0x2001a, 2] ++ [0x50036, 3, 1, 0, 4] ++ [0x200f8, 5] ++
    if inside then [0x3003b, 6, 7] ++ [0x10038] else [0x10038] ++ [0x3003b, 6, 7]

/-- The variable is not looked at where it is local to the function. -/
theorem scan_accepts_iff_shortVariable :
    scan (shortVariable true) = .ok ⟨[.type 2 .sampler]⟩ ∧ Scannable (shortVariable true) ∧
      scan (shortVariable false) = .error (.malformed .variableDecl 15 (.operand .tooShort)) ∧
      ¬ Scannable (shortVariable false) := by
  have accepted : scan (shortVariable true) = .ok ⟨[.type 2 .sampler]⟩ := rfl
  have refused : scan (shortVariable false) =
      .error (.malformed .variableDecl 15 (.operand .tooShort)) := rfl
  refine ⟨accepted, (scan_accepts_iff _).mp ⟨_, accepted⟩, refused, fun scannable => ?_⟩
  obtain ⟨outline, scanned⟩ := (scan_accepts_iff _).mpr scannable
  cases refused.symm.trans scanned

end ShaderInterface.Spirv
