import ShaderInterface.Proofs.ScanLanguage

/-! Modules cut short and modules put together. What is left of a module can be scanned exactly if
it ends where an instruction ends; a module that leaves no function open can be carried on with the
instructions of another. -/
namespace ShaderInterface.Spirv

open InstructionStream (Spells)

namespace InstructionStream

/-- A position in words where an instruction begins or the last one ends. -/
def Boundary (words : List UInt32) (position : Nat) : Prop :=
  ∃ before after, Spells words (before ++ after) ∧ position = Instruction.totalSize before

theorem Spells.take {words : List UInt32} {before after : List Instruction}
    (h : Spells words (before ++ after)) :
    Spells (words.take (Instruction.totalSize before)) before := by
  obtain ⟨front, back, rfl, spelled, _⟩ := h.split
  rwa [← spelled.length_eq, List.take_left]

theorem Spells.exists_append_of_take {words : List UInt32} {all front : List Instruction}
    {position : Nat} (h : Spells words all) (left : Spells (words.take position) front) :
    ∃ behind, all = front ++ behind := by
  rw [← List.take_append_drop position words] at h
  obtain ⟨behind, same, _⟩ := (spells_append_iff left).mp h
  exact ⟨behind, same⟩

/-- The first of the words that instructions spell are spelled by some exactly up to a boundary. -/
theorem exists_spells_take_iff {words : List UInt32} {instructions : List Instruction}
    (h : Spells words instructions) {position : Nat} (within : position ≤ words.length) :
    (∃ front, Spells (words.take position) front) ↔ Boundary words position := by
  constructor
  · rintro ⟨front, spelled⟩
    obtain ⟨back, rfl⟩ := h.exists_append_of_take spelled
    refine ⟨front, back, h, ?_⟩
    rw [← spelled.length_eq, List.length_take, Nat.min_eq_left within]
  · rintro ⟨before, after, spelled, rfl⟩
    exact ⟨before, spelled.take⟩

end InstructionStream

namespace Scan

def EndsFunctions (instructions : List Instruction) : Prop :=
  ∀ before start after, instructions = before ++ start :: after → start.opcode = .function →
    ∃ last ∈ after, last.opcode = .functionEnd

theorem endsFunctions_iff {instructions : List Instruction} :
    EndsFunctions instructions ↔ instructions.foldl insideAfter false = false := by
  rw [Bool.eq_false_iff, ne_eq, leavesOpen_iff]
  constructor
  · rintro ends ⟨before, start, after, same, function, unended⟩
    obtain ⟨last, later, ended⟩ := ends before start after same function
    exact unended last later ended
  · intro closed before start after same function
    refine Classical.byContradiction fun unended => ?_
    refine closed ⟨before, start, after, same, function, fun last later ended => ?_⟩
    exact unended ⟨last, later, ended⟩

end Scan

namespace Outline

theorem last?_append {α : Type} (first second : List Record) (read : Record → Option α) :
    last? ⟨first ++ second⟩ read = (last? ⟨second⟩ read).or (last? ⟨first⟩ read) := by
  rw [last?, List.reverse_append, List.findSome?_append]
  rfl

/-- An outline that lists what one outline lists and then what another does. Of an id it says what
the second says, and what the first says where the second is silent. -/
structure Joins (first second joined : Outline) : Prop where
  entryPoints : joined.entryPoints = first.entryPoints ++ second.entryPoints
  globals : joined.globals = first.globals ++ second.globals
  name : ∀ id, joined.name? id = (second.name? id).or (first.name? id)
  shape : ∀ id, joined.shape? id = (second.shape? id).or (first.shape? id)
  placement : ∀ id slot,
    joined.placement? id slot = (second.placement? id slot).or (first.placement? id slot)

theorem joins_append (first second : Outline) :
    Joins first second ⟨first.records ++ second.records⟩ where
  entryPoints := List.filterMap_append
  globals := List.filterMap_append
  name _ := last?_append first.records second.records _
  shape _ := last?_append first.records second.records _
  placement _ _ := last?_append first.records second.records _

end Outline

section Parts

variable {words : List UInt32} {outline : Outline}

/-- What is left of a module is scanned exactly if the header and whole instructions are left. -/
theorem exists_scan_take_iff (scanned : scan words = .ok outline) {position : Nat}
    (within : position ≤ words.length) : (∃ front, scan (words.take position) = .ok front) ↔
      5 ≤ position ∧ InstructionStream.Boundary (words.drop 5) (position - 5) := by
  obtain ⟨header, magic, instructions, spelled, walked⟩ := scan_eq_ok_iff.mp scanned
  have cut : (words.take position).drop 5 = (words.drop 5).take (position - 5) := List.drop_take
  have inside : position - 5 ≤ (words.drop 5).length := by
    rw [List.length_drop]
    omega
  constructor
  · rintro ⟨front, scanned⟩
    obtain ⟨long, _, left, spelledLeft, _⟩ := scan_eq_ok_iff.mp scanned
    rw [List.length_take, Nat.min_eq_left within] at long
    rw [Scan.headerWords, cut] at spelledLeft
    exact ⟨long, (InstructionStream.exists_spells_take_iff spelled inside).mp ⟨left, spelledLeft⟩⟩
  · rintro ⟨long, before, after, whole, ends⟩
    obtain rfl := spelled.unique whole
    obtain ⟨front, _, walkedFront, _⟩ := Scan.walk_append_eq_ok_iff.mp walked
    refine ⟨⟨front⟩, scan_eq_ok_iff.mpr ⟨?_, ?_, before, ?_, walkedFront⟩⟩
    · rwa [List.length_take, Nat.min_eq_left within]
    · rw [List.head?_take, if_neg (by omega)]
      exact magic
    · rw [Scan.headerWords, cut, ends]
      exact whole.take

theorem records_prefix_of_scan_take (scanned : scan words = .ok outline) {position : Nat}
    {front : Outline} (left : scan (words.take position) = .ok front) :
    front.records <+: outline.records := by
  obtain ⟨header, magic, instructions, spelled, walked⟩ := scan_eq_ok_iff.mp scanned
  obtain ⟨long, _, before, spelledLeft, walkedLeft⟩ := scan_eq_ok_iff.mp left
  rw [List.drop_take] at spelledLeft
  obtain ⟨after, rfl⟩ := spelled.exists_append_of_take spelledLeft
  obtain ⟨records, behind, walkedFront, _, same⟩ := Scan.walk_append_eq_ok_iff.mp walked
  cases walkedLeft.symm.trans walkedFront
  exact ⟨behind, same⟩

theorem scan_append_body (scanned : scan words = .ok outline) {instructions : List Instruction}
    (spelled : Spells (words.drop 5) instructions) (ends : Scan.EndsFunctions instructions)
    {other : List UInt32} {second : Outline} (behind : scan other = .ok second) :
    scan (words ++ other.drop 5) = .ok ⟨outline.records ++ second.records⟩ := by
  obtain ⟨header, magic, same, alike, walked⟩ := scan_eq_ok_iff.mp scanned
  obtain rfl := alike.unique spelled
  obtain ⟨_, _, others, spelledOthers, walkedOthers⟩ := scan_eq_ok_iff.mp behind
  refine scan_eq_ok_iff.mpr ⟨?_, ?_, same ++ others, ?_, ?_⟩
  · rw [List.length_append]
    omega
  · rw [List.head?_append, magic]
    rfl
  · rw [List.drop_append_of_le_length header]
    exact (InstructionStream.spells_append_iff alike).mpr ⟨others, rfl, spelledOthers⟩
  · refine Scan.walk_append_eq_ok_iff.mpr ⟨_, _, walked, ?_, rfl⟩
    -- No function is open behind the first, so the second is walked as at the front of a module.
    rw [Scan.endsFunctions_iff.mp ends]
    exact Scan.walk_position walkedOthers _

/-- Of a module that can be scanned, what is left can be scanned exactly if it ends where an
instruction ends, and lists the first of what the module lists. A second module's instructions can
be carried on behind one that ends its functions, and the outlines join. -/
theorem scan_cut_and_join (scanned : scan words = .ok outline) :
    (∀ position ≤ words.length, (∃ front, scan (words.take position) = .ok front) ↔
      5 ≤ position ∧ InstructionStream.Boundary (words.drop 5) (position - 5)) ∧
    (∀ position ≤ words.length, ∀ front, scan (words.take position) = .ok front →
      front.entryPoints <+: outline.entryPoints ∧ front.globals <+: outline.globals) ∧
    ∀ instructions, Spells (words.drop 5) instructions → Scan.EndsFunctions instructions →
      ∀ other second, scan other = .ok second →
        ∃ joined, scan (words ++ other.drop 5) = .ok joined ∧ outline.Joins second joined := by
  refine ⟨fun position within => exists_scan_take_iff scanned within, ?_, ?_⟩
  · intro position within front left
    have records := records_prefix_of_scan_take scanned left
    exact ⟨records.filterMap _, records.filterMap _⟩
  · intro instructions spelled ends other second behind
    exact ⟨_, scan_append_body scanned spelled ends behind, Outline.joins_append outline second⟩

end Parts

def lit (name : List UInt32) (id : UInt32) : List Instruction :=
  [⟨.entryPoint, [4, 4, 0x74696c, id]⟩, ⟨.name, 10 :: name⟩, ⟨.function, [3, 4, 0, 5]⟩,
    ⟨.variableDecl, [6, 7, 7]⟩, ⟨.functionEnd, []⟩, ⟨.variableDecl, [6, id, 2]⟩]

def litModule (name : List UInt32) (id : UInt32) : List UInt32 :=
  [0x07230203, 0x10000, 0, 20, 0] ++ (lit name id).flatMap Instruction.words

def lights : List UInt32 := [0x6867696c, 0x7374]

def litOutline (name : String) (id : UInt32) : Outline :=
  ⟨[.entryPoint ⟨⟨4⟩, 4, "lit", [id]⟩, .idName 10 name, .global ⟨id, 6, ⟨2⟩⟩]⟩

/-- The module can be cut behind its function but not inside its name, and a second one that takes
the name away carries it on. -/
theorem scan_cut_and_join_lights :
    scan (litModule lights 10) = .ok (litOutline "lights" 10) ∧
      InstructionStream.Boundary ((litModule lights 10).drop 5) 19 ∧
      ¬ InstructionStream.Boundary ((litModule lights 10).drop 5) 7 ∧
      (∃ front, scan ((litModule lights 10).take 24) = .ok front ∧
        front.entryPoints <+: (litOutline "lights" 10).entryPoints ∧ front.globals = []) ∧
      Spells ((litModule lights 10).drop 5) (lit lights 10) ∧
      Scan.EndsFunctions (lit lights 10) ∧
      scan (litModule [0] 11) = .ok (litOutline "" 11) ∧
      ∃ joined, scan (litModule lights 10 ++ (litModule [0] 11).drop 5) = .ok joined ∧
        joined.entryPoints = [⟨⟨4⟩, 4, "lit", [10]⟩, ⟨⟨4⟩, 4, "lit", [11]⟩] ∧
        joined.globals = [⟨10, 6, ⟨2⟩⟩, ⟨11, 6, ⟨2⟩⟩] ∧ joined.name? 10 = some "" := by
  have scanned : scan (litModule lights 10) = .ok (litOutline "lights" 10) := rfl
  have behind : scan (litModule [0] 11) = .ok (litOutline "" 11) := rfl
  have front : scan ((litModule lights 10).take 24) =
      .ok ⟨[.entryPoint ⟨⟨4⟩, 4, "lit", [10]⟩, .idName 10 "lights"]⟩ := rfl
  have spelled : Spells ((litModule lights 10).drop 5) (lit lights 10) :=
    InstructionStream.split_eq_complete_iff.mp rfl
  have ends : Scan.EndsFunctions (lit lights 10) := Scan.endsFunctions_iff.mpr (by decide)
  obtain ⟨cut, left, join⟩ := scan_cut_and_join scanned
  obtain ⟨joined, scannedBoth, joins⟩ := join _ spelled ends _ _ behind
  refine ⟨scanned, ((cut 24 (by decide)).mp ⟨_, front⟩).2, fun inside => ?_,
    ⟨_, front, (left 24 (by decide) _ front).1, rfl⟩, spelled, ends, behind,
    joined, scannedBoth, joins.entryPoints, joins.globals, ?_⟩
  · obtain ⟨_, cutInside⟩ := (cut 12 (by decide)).mpr ⟨by decide, inside⟩
    cases cutInside
  · rw [joins.name]
    rfl

end ShaderInterface.Spirv
