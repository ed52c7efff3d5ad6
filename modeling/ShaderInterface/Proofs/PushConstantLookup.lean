import Mathlib.Data.Prod.Lex
import ShaderInterface.Proofs.ScanOrder

/-! Which push constant variable a request leads to: the least by how well it suits the request, and
of those that suit it alike the first. So the answer stays whatever other variables are left out. -/
namespace ShaderInterface.Spirv

namespace Outline

def GoesBy (outline : Outline) (wanted : Option String) (id : UInt32) : Prop :=
  wanted.isSome = true ∧ outline.name? id = wanted

instance {outline : Outline} {wanted : Option String} {id : UInt32} :
    Decidable (outline.GoesBy wanted id) :=
  inferInstanceAs (Decidable (_ ∧ _))

/-- How far a push constant variable is from what is asked for. -/
def pushRank (outline : Outline) (entry : EntryPoint) (name block : Option String)
    (declared : Global) : Nat :=
  if outline.GoesBy name declared.id then 0
  else if outline.GoesBy block (outline.base declared.pointerType) then 1
  else if declared.id ∈ entry.interface then 2
  else 3

/-- The push constant variable that is least by rank and position among all of the module. -/
def IsPreferred (outline : Outline) (entry : EntryPoint) (name block : Option String)
    (declared : Global) : Prop :=
  ∃ position : Nat, outline.globals[position]? = some declared ∧ declared.storage = .pushConstant ∧
    ∀ (place : Nat) (other : Global), outline.globals[place]? = some other →
      other.storage = .pushConstant →
        toLex (outline.pushRank entry name block declared, position) ≤
          toLex (outline.pushRank entry name block other, place)

/-- A variable of lesser rank than the push constant variables before it, and of no greater rank
than those behind it. -/
structure Leads (rank : Global → Nat) (before : List Global) (declared : Global)
    (after : List Global) : Prop where
  storage : declared.storage = .pushConstant
  before : ∀ earlier ∈ before, earlier.storage = .pushConstant → rank declared < rank earlier
  after : ∀ later ∈ after, later.storage = .pushConstant → rank declared ≤ rank later

section Search

variable {α : Type}

private theorem findSome?_cons_eq_or {β : Type} (f : α → Option β) (first : α) (others : List α) :
    (first :: others).findSome? f = (f first).or (others.findSome? f) := by
  rw [List.findSome?_cons]
  cases f first <;> rfl

theorem findIdx_cons_of_passes {test : α → Bool} {candidate : α} (passes : test candidate = true)
    (others : List (α → Bool)) : (test :: others).findIdx (· candidate) = 0 := by
  rw [List.findIdx_cons, passes]
  rfl

theorem findIdx_cons_of_fails {test : α → Bool} {candidate : α} (fails : test candidate = false)
    (others : List (α → Bool)) :
    (test :: others).findIdx (· candidate) = others.findIdx (· candidate) + 1 := by
  rw [List.findIdx_cons, fails]
  rfl

/-- The first to pass the first of some tests that any passes. Its rank is the number of tests
before that, less than that of all in front of it and no more than that of all behind it. -/
theorem exists_split_of_findSome? {tests : List (α → Bool)} {candidates : List α} {found : α}
    (h : tests.findSome? (fun test => candidates.find? test) = some found) :
    ∃ before after, candidates = before ++ found :: after ∧ (∃ test ∈ tests, test found = true) ∧
      (∀ earlier ∈ before, tests.findIdx (· found) < tests.findIdx (· earlier)) ∧
        ∀ later ∈ after, tests.findIdx (· found) ≤ tests.findIdx (· later) := by
  induction tests with
  | nil => cases h
  | cons test others ih =>
    rw [findSome?_cons_eq_or, Option.or_eq_some_iff] at h
    rcases h with first | ⟨nobody, further⟩
    · obtain ⟨passes, before, after, split, fail⟩ := List.find?_eq_some_iff_append.mp first
      refine ⟨before, after, split, ⟨test, List.mem_cons_self, passes⟩, ?_, ?_⟩
      · intro earlier mem
        have fails : test earlier = false := by simpa using fail earlier mem
        rw [findIdx_cons_of_passes passes, findIdx_cons_of_fails fails]
        exact Nat.succ_pos _
      · intro later _
        rw [findIdx_cons_of_passes passes]
        exact Nat.zero_le _
    · -- No candidate passes this test, so it adds one to the rank of each.
      obtain ⟨before, after, rfl, ⟨passed, mem, passes⟩, less, most⟩ := ih further
      have fails {candidate : α} (here : candidate ∈ before ++ found :: after) :
          test candidate = false := by
        simpa using List.find?_eq_none.mp nobody candidate here
      have own := fails (List.mem_append_right before List.mem_cons_self)
      refine ⟨before, after, rfl, ⟨passed, List.mem_cons_of_mem _ mem, passes⟩, ?_, ?_⟩
      · intro earlier here
        rw [findIdx_cons_of_fails own, findIdx_cons_of_fails (fails (List.mem_append_left _ here))]
        exact Nat.succ_lt_succ (less earlier here)
      · intro later here
        have behind := fails (List.mem_append_right before (List.mem_cons_of_mem _ here))
        rw [findIdx_cons_of_fails own, findIdx_cons_of_fails behind]
        exact Nat.succ_le_succ (most later here)

end Search

section Preference

variable {outline : Outline} {entry : EntryPoint} {name block : Option String} {declared : Global}

def pushTests (outline : Outline) (entry : EntryPoint) (name block : Option String) :
    List (Global → Bool) :=
  [fun candidate => candidate.storage == .pushConstant && outline.GoesBy name candidate.id,
   fun candidate => candidate.storage == .pushConstant &&
    outline.GoesBy block (outline.base candidate.pointerType),
   fun candidate => candidate.storage == .pushConstant && entry.interface.contains candidate.id,
   fun candidate => candidate.storage == .pushConstant]

theorem storage_of_pushTests {test : Global → Bool}
    (mem : test ∈ outline.pushTests entry name block) (passes : test declared = true) :
    declared.storage = .pushConstant := by
  simp only [pushTests, List.mem_cons, List.not_mem_nil, or_false] at mem
  rcases mem with rfl | rfl | rfl | rfl
  · exact eq_of_beq (Bool.and_eq_true_iff.mp passes).1
  · exact eq_of_beq (Bool.and_eq_true_iff.mp passes).1
  · exact eq_of_beq (Bool.and_eq_true_iff.mp passes).1
  · exact eq_of_beq passes

theorem findIdx_pushTests (push : declared.storage = .pushConstant) :
    (outline.pushTests entry name block).findIdx (· declared) =
      outline.pushRank entry name block declared := by
  simp only [pushTests, List.findIdx_cons, List.findIdx_nil, push, beq_self_eq_true,
    Bool.true_and, List.contains_eq_mem, pushRank]
  by_cases named : outline.GoesBy name declared.id
  · simp [named]
  · by_cases ofBlock : outline.GoesBy block (outline.base declared.pointerType)
    · simp [named, ofBlock]
    · by_cases listed : declared.id ∈ entry.interface <;> simp [named, ofBlock, listed]

private theorem bind_find?_eq (wanted : Option String) (idOf : Global → UInt32) :
    (wanted.bind fun text => outline.pushConstants.find? fun candidate =>
      outline.name? (idOf candidate) == some text) =
        outline.globals.find? fun candidate =>
          candidate.storage == .pushConstant && outline.GoesBy wanted (idOf candidate) := by
  cases wanted with
  | none =>
    refine (List.find?_eq_none.mpr fun candidate _ => ?_).symm
    simp [GoesBy]
  | some text =>
    rw [Option.bind_some, pushConstants, List.find?_filter]
    refine congrArg (outline.globals.find? ·) (funext fun candidate => ?_)
    simp [GoesBy, Bool.beq_eq_decide_eq]

theorem pushConstant?_eq (outline : Outline) (entry : EntryPoint) (name block : Option String) :
    outline.pushConstant? entry name block =
      (outline.pushTests entry name block).findSome? fun test => outline.globals.find? test := by
  have listed :
      (outline.pushConstants.find? fun candidate => entry.interface.contains candidate.id) =
        outline.globals.find? fun candidate =>
        candidate.storage == .pushConstant && entry.interface.contains candidate.id := by
    rw [pushConstants, List.find?_filter]
    simp only [Bool.decide_and, Bool.decide_eq_true]
  have first : outline.pushConstants.head? =
      outline.globals.find? fun candidate => candidate.storage == .pushConstant :=
    List.head?_filter
  rw [pushConstant?, bind_find?_eq name fun candidate => candidate.id,
    bind_find?_eq block fun candidate => outline.base candidate.pointerType, listed, first]
  simp only [pushTests, findSome?_cons_eq_or, List.findSome?_nil, Option.or_none, Option.or_assoc]

theorem exists_leads (found : outline.pushConstant? entry name block = some declared) :
    ∃ before after, outline.globals = before ++ declared :: after ∧
      Leads (outline.pushRank entry name block) before declared after := by
  rw [pushConstant?_eq] at found
  obtain ⟨before, after, split, ⟨test, mem, passes⟩, less, most⟩ := exists_split_of_findSome? found
  have push : declared.storage = .pushConstant := storage_of_pushTests mem passes
  refine ⟨before, after, split, push, ?_, ?_⟩
  · intro earlier here also
    rw [← findIdx_pushTests push, ← findIdx_pushTests also]
    exact less earlier here
  · intro later here also
    rw [← findIdx_pushTests push, ← findIdx_pushTests also]
    exact most later here

/-- What leads the push constant variables is the least by rank and position. -/
theorem Leads.isPreferred {before after : List Global}
    (leads : Leads (outline.pushRank entry name block) before declared after)
    (split : outline.globals = before ++ declared :: after) :
    outline.IsPreferred entry name block declared := by
  refine ⟨before.length, ?_, leads.storage, fun place other here push => ?_⟩
  · rw [split, List.getElem?_append_right (Nat.le_refl _), Nat.sub_self, List.getElem?_cons_zero]
  rw [Prod.Lex.toLex_le_toLex]
  rw [split] at here
  rcases Nat.lt_trichotomy place before.length with less | rfl | greater
  · rw [List.getElem?_append_left less] at here
    exact .inl (leads.before other (List.mem_of_getElem? here) push)
  · rw [List.getElem?_append_right (Nat.le_refl _), Nat.sub_self, List.getElem?_cons_zero] at here
    obtain rfl := Option.some.inj here
    exact .inr ⟨rfl, Nat.le_refl _⟩
  · obtain ⟨offset, rfl⟩ := Nat.exists_eq_add_of_lt greater
    rw [List.getElem?_append_right (by omega), Nat.add_assoc, Nat.add_sub_cancel_left,
      List.getElem?_cons_succ] at here
    rcases Nat.lt_or_eq_of_le (leads.after other (List.mem_of_getElem? here) push) with less | same
    · exact .inl less
    · exact .inr ⟨same, by omega⟩

theorem IsPreferred.unique {other : Global} (one : outline.IsPreferred entry name block declared)
    (also : outline.IsPreferred entry name block other) : declared = other := by
  obtain ⟨position, here, push, least⟩ := one
  obtain ⟨place, there, alike, most⟩ := also
  have same := le_antisymm (least place other there alike) (most position declared here push)
  obtain ⟨_, rfl⟩ := Prod.mk.inj (toLex_inj.mp same)
  exact Option.some.inj (here.symm.trans there)

theorem pushConstant?_eq_none_iff : outline.pushConstant? entry name block = none ↔
    ∀ candidate ∈ outline.globals, candidate.storage ≠ .pushConstant := by
  rw [pushConstant?_eq, List.findSome?_eq_none_iff]
  constructor
  · intro nothing candidate mem push
    have last := nothing _ (List.mem_of_getLast? rfl)
    exact List.find?_eq_none.mp last candidate mem (beq_iff_eq.mpr push)
  · intro other test tested
    refine List.find?_eq_none.mpr fun candidate mem passes => other candidate mem ?_
    exact storage_of_pushTests tested passes

theorem pushConstant?_eq_some_iff : outline.pushConstant? entry name block = some declared ↔
    outline.IsPreferred entry name block declared := by
  constructor
  · intro found
    obtain ⟨before, after, split, leads⟩ := exists_leads found
    exact leads.isPreferred split
  · intro preferred
    cases found : outline.pushConstant? entry name block with
    | none =>
      obtain ⟨_, here, push, _⟩ := preferred
      exact absurd push (pushConstant?_eq_none_iff.mp found _ (List.mem_of_getElem? here))
    | some other =>
      obtain ⟨before, after, split, leads⟩ := exists_leads found
      rw [(leads.isPreferred split).unique preferred]

end Preference

/-- An outline with some of the variables of another, and with all else that it has. -/
structure Thins (outline thinner : Outline) : Prop where
  globals : thinner.globals.Sublist outline.globals
  others : ∀ {α : Type} (read : Record → Option α), (∀ declared, read (.global declared) = none) →
    thinner.records.filterMap read = outline.records.filterMap read

section Thinning

variable {outline thinner : Outline}

theorem Thins.refl (outline : Outline) : Thins outline outline where
  globals := List.Sublist.refl _
  others _ _ := rfl

theorem Thins.append {first second firstLeft secondLeft : List Record}
    (one : Thins ⟨first⟩ ⟨firstLeft⟩) (other : Thins ⟨second⟩ ⟨secondLeft⟩) :
    Thins ⟨first ++ second⟩ ⟨firstLeft ++ secondLeft⟩ := by
  constructor
  · rw [Outline.globals, Outline.globals, List.filterMap_append, List.filterMap_append]
    exact one.globals.append other.globals
  · intro α read none
    rw [List.filterMap_append, List.filterMap_append, one.others read none, other.others read none]

theorem Thins.name? (thins : Thins outline thinner) (id : UInt32) :
    thinner.name? id = outline.name? id :=
  last?_congr (thins.others _ fun _ => rfl)

theorem Thins.goesBy_iff (thins : Thins outline thinner) {wanted : Option String} {id : UInt32} :
    thinner.GoesBy wanted id ↔ outline.GoesBy wanted id := by
  rw [GoesBy, GoesBy, thins.name?]

theorem Thins.base (thins : Thins outline thinner) (type : UInt32) :
    thinner.base type = outline.base type :=
  baseWithin_congr (fun _ => last?_congr (thins.others _ fun _ => rfl)) maxTypeDepth type

theorem Thins.pushRank (thins : Thins outline thinner) (entry : EntryPoint)
    (name block : Option String) (declared : Global) :
    thinner.pushRank entry name block declared = outline.pushRank entry name block declared := by
  simp only [Outline.pushRank, thins.goesBy_iff, thins.base]

theorem Leads.sublist {rank : Global → Nat} {before after fewerBefore fewerAfter : List Global}
    {declared : Global} (leads : Leads rank before declared after)
    (front : fewerBefore.Sublist before) (back : fewerAfter.Sublist after) :
    Leads rank fewerBefore declared fewerAfter where
  storage := leads.storage
  before earlier mem := leads.before earlier (front.subset mem)
  after later mem := leads.after later (back.subset mem)

end Thinning

end Outline

namespace Scan

/-- Instructions with some of the variables among them left out. -/
inductive FewerVariables : List Instruction → List Instruction → Prop
  | nil : FewerVariables [] []
  | keep (instruction : Instruction) {left all : List Instruction}
    (fewer : FewerVariables left all) : FewerVariables (instruction :: left) (instruction :: all)
  | leave {instruction : Instruction} {left all : List Instruction}
    (isVariable : instruction.opcode = .variableDecl) (fewer : FewerVariables left all) :
    FewerVariables left (instruction :: all)

section Walk

variable {left all : List Instruction} {inside : Bool} {position : Nat} {records : List Record}

theorem FewerVariables.sublist (fewer : FewerVariables left all) : left.Sublist all := by
  induction fewer with
  | nil => exact .slnil
  | keep instruction _ ih => exact ih.cons_cons instruction
  | leave _ _ ih => exact ih.cons _

theorem fewerVariables_filter (all : List Instruction) :
    FewerVariables (all.filter (·.opcode != .variableDecl)) all := by
  induction all with
  | nil => exact .nil
  | cons first following ih =>
    rw [List.filter_cons]
    split
    · exact .keep first ih
    · next isVariable => exact .leave (by simpa using isVariable) ih

private theorem insideAfter_variable {instruction : Instruction}
    (isVariable : instruction.opcode = .variableDecl) (inside : Bool) :
    insideAfter inside instruction = inside := by
  rw [insideAfter, isVariable]
  rfl

theorem FewerVariables.foldl_insideAfter (fewer : FewerVariables left all) (inside : Bool) :
    left.foldl insideAfter inside = all.foldl insideAfter inside := by
  induction fewer generalizing inside with
  | nil => rfl
  | keep instruction _ ih => rw [List.foldl_cons, List.foldl_cons, ih]
  | leave isVariable _ ih => rw [List.foldl_cons, insideAfter_variable isVariable, ih]

theorem thins_of_collect_variable {instruction : Instruction} {found : Option Record}
    (isVariable : instruction.opcode = .variableDecl)
    (collected : collect inside instruction = .ok found) : Outline.Thins ⟨found.toList⟩ ⟨[]⟩ := by
  cases found with
  | none => exact Outline.Thins.refl _
  | some record =>
    have stems := stems_of_collect collected
    cases record with
    | global declared =>
      constructor
      · exact List.nil_sublist _
      · intro α read none
        simp [none]
    | entryPoint => exact absurd (isVariable.symm.trans stems) (by decide)
    | idName => exact absurd (isVariable.symm.trans stems.1) (by decide)
    | placement => exact absurd (isVariable.symm.trans stems.1) (by decide)
    | type =>
      have type := stems.1
      rw [isVariable] at type
      exact absurd type (by decide)

theorem FewerVariables.exists_walk (fewer : FewerVariables left all)
    (walked : walk inside position all = .ok records) (start : Nat) :
    ∃ recordsLeft, walk inside start left = .ok recordsLeft ∧
      Outline.Thins ⟨records⟩ ⟨recordsLeft⟩ := by
  induction fewer generalizing inside position start records with
  | nil =>
    cases walked
    exact ⟨[], rfl, Outline.Thins.refl _⟩
  | keep instruction _ ih =>
    obtain ⟨known, found, collected, behind, walkedBehind, rfl⟩ := walk_cons_eq_ok_iff.mp walked
    obtain ⟨behindLeft, walkedLeft, thins⟩ := ih walkedBehind (start + instruction.size)
    refine ⟨found.toList ++ behindLeft, ?_, (Outline.Thins.refl ⟨found.toList⟩).append thins⟩
    exact walk_cons_eq_ok_iff.mpr ⟨known, found, collected, behindLeft, walkedLeft, rfl⟩
  | leave isVariable _ ih =>
    obtain ⟨_, found, collected, behind, walkedBehind, rfl⟩ := walk_cons_eq_ok_iff.mp walked
    rw [insideAfter_variable isVariable] at walkedBehind
    obtain ⟨behindLeft, walkedLeft, thins⟩ := ih walkedBehind start
    exact ⟨behindLeft, walkedLeft, (thins_of_collect_variable isVariable collected).append thins⟩

/-- A walk taken apart at the instruction that one of its records comes from. -/
structure SplitAt (inside : Bool) (position : Nat) (before : List Record) (record : Record)
    (after : List Record) (front : List Instruction) (own : Instruction) (back : List Instruction) :
    Prop where
  walkedFront : walk inside position front = .ok before
  known : own.opcode.isKnown = true
  collected : collect (front.foldl insideAfter inside) own = .ok (some record)
  walkedBack : ∃ further,
    walk (insideAfter (front.foldl insideAfter inside) own) further back = .ok after

section Split

variable {before after : List Record} {record : Record} {front back : List Instruction}
  {own : Instruction}

theorem SplitAt.cons {first : Instruction} {found : Option Record}
    (known : first.opcode.isKnown = true) (collected : collect inside first = .ok found)
    (split : SplitAt (insideAfter inside first) (position + first.size) before record after front
      own back) :
    SplitAt inside position (found.toList ++ before) record after (first :: front) own back where
  walkedFront := walk_cons_eq_ok_iff.mpr ⟨known, found, collected, before, split.walkedFront, rfl⟩
  known := split.known
  collected := split.collected
  walkedBack := split.walkedBack

theorem exists_splitAt {instructions : List Instruction}
    (walked : walk inside position instructions = .ok (before ++ record :: after)) :
    ∃ front own back, instructions = front ++ own :: back ∧
      SplitAt inside position before record after front own back := by
  induction instructions generalizing inside position before with
  | nil => simp [walk] at walked
  | cons first following ih =>
    obtain ⟨known, found, collected, behind, walkedBehind, same⟩ := walk_cons_eq_ok_iff.mp walked
    cases found with
    | none =>
      obtain rfl : behind = before ++ record :: after := same
      obtain ⟨front, own, back, rfl, split⟩ := ih walkedBehind
      exact ⟨first :: front, own, back, rfl, split.cons known collected⟩
    | some head =>
      cases before with
      | nil =>
        obtain ⟨rfl, rfl⟩ := List.cons.inj same
        exact ⟨[], first, following, rfl, rfl, known, collected, ⟨_, walkedBehind⟩⟩
      | cons head before =>
        obtain ⟨rfl, rfl⟩ := List.cons.inj same
        obtain ⟨front, own, back, rfl, split⟩ := ih walkedBehind
        exact ⟨first :: front, own, back, rfl, split.cons known collected⟩

theorem SplitAt.exists_walk {frontLeft backLeft : List Instruction}
    (split : SplitAt inside position before record after front own back)
    (fewerFront : FewerVariables frontLeft front) (fewerBack : FewerVariables backLeft back) :
    ∃ beforeLeft afterLeft,
      walk inside position (frontLeft ++ own :: backLeft) =
          .ok (beforeLeft ++ record :: afterLeft) ∧
        Outline.Thins ⟨before⟩ ⟨beforeLeft⟩ ∧ Outline.Thins ⟨after⟩ ⟨afterLeft⟩ := by
  obtain ⟨further, walkedBack⟩ := split.walkedBack
  obtain ⟨beforeLeft, walkedLeft, thinsFront⟩ := fewerFront.exists_walk split.walkedFront position
  obtain ⟨afterLeft, walkedRight, thinsBack⟩ := fewerBack.exists_walk walkedBack
    (position + Instruction.totalSize frontLeft + own.size)
  refine ⟨beforeLeft, afterLeft, ?_, thinsFront, thinsBack⟩
  refine walk_append_eq_ok_iff.mpr ⟨beforeLeft, _, walkedLeft, ?_, rfl⟩
  rw [fewerFront.foldl_insideAfter]
  exact walk_cons_eq_ok_iff.mpr ⟨split.known, _, split.collected, afterLeft, walkedRight, rfl⟩

theorem SplitAt.ofInstruction (split : SplitAt inside position before record after front own back) :
    Record.ofInstruction own = .ok (some record) := by
  by_cases skipped : front.foldl insideAfter inside = true ∧ own.opcode = .variableDecl
  · have nothing := split.collected
    rw [collect_of_skipped skipped] at nothing
    cases nothing
  · exact (collect_of_visited skipped).symm.trans split.collected

end Split

end Walk

end Scan

theorem scan_of_subset {words : List UInt32} {outline other : Outline}
    (scanned : scan words = .ok outline) {instructions left : List Instruction}
    (spelled : InstructionStream.Spells (words.drop 5) instructions) (subset : left ⊆ instructions)
    (walked : Scan.walk false Scan.headerWords left = .ok other.records) :
    scan (words.take 5 ++ left.flatMap Instruction.words) = .ok other := by
  obtain ⟨header, magic, _⟩ := scan_eq_ok_iff.mp scanned
  have five : (words.take 5).length = 5 := by
    rw [List.length_take]
    exact Nat.min_eq_left header
  have fits := (Instruction.spells_iff.mp spelled).1
  refine (scan_append_iff five (Instruction.spells_flatMap_words fun instruction mem =>
    fits instruction (subset mem))).mpr ⟨?_, walked⟩
  rw [List.head?_take]
  exact magic

namespace Outline

private theorem exists_records_of_globals {records : List Record} {before after : List Global}
    {declared : Global} (split : globals ⟨records⟩ = before ++ declared :: after) :
    ∃ front back, records = front ++ .global declared :: back ∧ globals ⟨front⟩ = before ∧
      globals ⟨back⟩ = after := by
  obtain ⟨front, others, rfl, same, rest⟩ := List.filterMap_eq_append_iff.mp split
  obtain ⟨silent, own, back, rfl, none, read, behind⟩ := List.filterMap_eq_cons_iff.mp rest
  refine ⟨front ++ silent, back, ?_, ?_, behind⟩
  · cases own with
    | global other =>
      obtain rfl : other = declared := Option.some.inj read
      rw [List.append_assoc]
    | _ => cases read
  · rw [globals, List.filterMap_append, List.filterMap_eq_nil_iff.mpr none, List.append_nil]
    exact same

theorem Leads.pushConstant?_thinned {entry : EntryPoint} {name block : Option String}
    {declared : Global} {before after beforeLeft afterLeft : List Record}
    (leads : Leads (pushRank ⟨before ++ .global declared :: after⟩ entry name block)
      (globals ⟨before⟩) declared (globals ⟨after⟩))
    (thinsFront : Thins ⟨before⟩ ⟨beforeLeft⟩) (thinsBack : Thins ⟨after⟩ ⟨afterLeft⟩) :
    pushConstant? ⟨beforeLeft ++ .global declared :: afterLeft⟩ entry name block =
      some declared := by
  have thins : Thins ⟨before ++ .global declared :: after⟩
      ⟨beforeLeft ++ .global declared :: afterLeft⟩ :=
    thinsFront.append ((Thins.refl ⟨[.global declared]⟩).append thinsBack)
  have left := leads.sublist thinsFront.globals thinsBack.globals
  rw [← funext (thins.pushRank entry name block)] at left
  refine pushConstant?_eq_some_iff.mpr (left.isPreferred ?_)
  rw [globals, List.filterMap_append, List.filterMap_cons]
  rfl

/-- The lookup finds nothing only where the module has no push constant variable of module scope,
and else the one that is least by rank and position. It is declared by an instruction of its own,
and whatever other variables are left out, it is still found. -/
theorem pushConstant?_least {words : List UInt32} {outline : Outline}
    (scanned : scan words = .ok outline) {instructions : List Instruction}
    (spelled : InstructionStream.Spells (words.drop 5) instructions)
    (entry : EntryPoint) (name block : Option String) :
    (outline.pushConstant? entry name block = none ↔
      ∀ declared ∈ outline.globals, declared.storage ≠ .pushConstant) ∧
    (∀ declared, outline.pushConstant? entry name block = some declared ↔
      outline.IsPreferred entry name block declared) ∧
    ∀ declared, outline.pushConstant? entry name block = some declared →
      ∃ front own back, instructions = front ++ own :: back ∧
        Record.ofInstruction own = .ok (some (.global declared)) ∧
        ∀ frontLeft backLeft, Scan.FewerVariables frontLeft front →
          Scan.FewerVariables backLeft back →
          ∃ thinner, scan (words.take 5 ++
              (frontLeft ++ own :: backLeft).flatMap Instruction.words) = .ok thinner ∧
            thinner.pushConstant? entry name block = some declared := by
  refine ⟨pushConstant?_eq_none_iff, fun declared => pushConstant?_eq_some_iff, ?_⟩
  intro declared found
  obtain ⟨header, magic, same, whole, walked⟩ := scan_eq_ok_iff.mp scanned
  obtain rfl := whole.unique spelled
  -- The variable found is taken back to its place among the records, and from there to the
  -- instruction; leaving out variables on either side keeps it in the lead.
  obtain ⟨before, after, split, leads⟩ := exists_leads found
  obtain ⟨records⟩ := outline
  obtain ⟨recordsFront, recordsBack, rfl, rfl, rfl⟩ := exists_records_of_globals split
  obtain ⟨front, own, back, rfl, around⟩ := Scan.exists_splitAt walked
  refine ⟨front, own, back, rfl, around.ofInstruction, ?_⟩
  intro frontLeft backLeft fewerFront fewerBack
  obtain ⟨beforeLeft, afterLeft, walkedLeft, thinsFront, thinsBack⟩ :=
    around.exists_walk fewerFront fewerBack
  have subset : frontLeft ++ own :: backLeft ⊆ front ++ own :: back :=
    (fewerFront.sublist.append (fewerBack.sublist.cons_cons own)).subset
  exact ⟨⟨beforeLeft ++ .global declared :: afterLeft⟩,
    scan_of_subset scanned spelled subset walkedLeft,
    leads.pushConstant?_thinned thinsFront thinsBack⟩

def firstListed : EntryPoint := ⟨⟨5⟩, 1, "main", [20]⟩

def threeBlocks : List Instruction :=
  [⟨.name, [13, 0x61726150, 0x736d]⟩, ⟨.typeStruct, [10, 5]⟩, ⟨.typePointer, [11, 9, 10]⟩,
    ⟨.variableDecl, [11, 20, 9]⟩, ⟨.typeStruct, [13, 5, 5]⟩, ⟨.typePointer, [14, 9, 13]⟩,
    ⟨.variableDecl, [14, 21, 9]⟩, ⟨.variableDecl, [14, 22, 9]⟩]

/-- The first variable of the named block is found, also where it is the only one that is left. -/
theorem pushConstant?_least_threeBlocks :
    ∃ outline, scan (plainHeader ++ threeBlocks.flatMap Instruction.words) = .ok outline ∧
      InstructionStream.Spells ((plainHeader ++ threeBlocks.flatMap Instruction.words).drop 5)
        threeBlocks ∧
      outline.IsPreferred firstListed none (some "Params") ⟨21, 14, .pushConstant⟩ ∧
      outline.IsPreferred firstListed none (some "Other") ⟨20, 11, .pushConstant⟩ ∧
      ∃ front own back, threeBlocks = front ++ own :: back ∧
        Record.ofInstruction own = .ok (some (.global ⟨21, 14, .pushConstant⟩)) ∧
        ∃ thinner, scan (plainHeader ++ (front.filter (·.opcode != .variableDecl) ++
            own :: back.filter (·.opcode != .variableDecl)).flatMap Instruction.words) =
              .ok thinner ∧
          thinner.pushConstant? firstListed none (some "Params") =
            some ⟨21, 14, .pushConstant⟩ := by
  have scanned : scan (plainHeader ++ threeBlocks.flatMap Instruction.words) =
      .ok ⟨[.idName 13 "Params", .type 10 (.struct [5]), .type 11 (.pointer 10),
        .global ⟨20, 11, .pushConstant⟩, .type 13 (.struct [5, 5]), .type 14 (.pointer 13),
        .global ⟨21, 14, .pushConstant⟩, .global ⟨22, 14, .pushConstant⟩]⟩ := rfl
  have spelled : InstructionStream.Spells
      ((plainHeader ++ threeBlocks.flatMap Instruction.words).drop 5) threeBlocks :=
    InstructionStream.split_eq_complete_iff.mp rfl
  obtain ⟨-, preferred, stays⟩ :=
    pushConstant?_least scanned spelled firstListed none (some "Params")
  obtain ⟨-, listed, -⟩ := pushConstant?_least scanned spelled firstListed none (some "Other")
  obtain ⟨front, own, back, split, declares, leaves⟩ := stays ⟨21, 14, .pushConstant⟩ rfl
  exact ⟨_, scanned, spelled, (preferred _).mp rfl, (listed _).mp rfl, front, own, back, split,
    declares, leaves _ _ (Scan.fewerVariables_filter front) (Scan.fewerVariables_filter back)⟩

end Outline

end ShaderInterface.Spirv
