import ShaderInterface.Proofs.ScanParts
import ShaderInterface.Proofs.ScanRoundTrip

/-! Which variable a descriptor slot leads to: among those that take the slot, the first of the
wanted category, or else the first of all. An answer of that category stays where declarations that
speak of other things are put in behind it. -/
namespace ShaderInterface.Spirv

def Record.subject? : Record → Option UInt32
  | idName target _ | placement target _ _ | type target _ => some target
  | entryPoint _ | global _ => none

namespace Outline

/-- A variable that takes a descriptor slot. A decoration that is missing reads as zero, whether the
other one is there or not. -/
structure Takes (outline : Outline) (set binding : UInt32) (declared : Global) : Prop where
  storage : declared.storage ∈ [StorageClass.uniformConstant, .uniform, .storageBuffer]
  set : (outline.placement? declared.id .set).getD 0 = set
  binding : (outline.placement? declared.id .binding).getD 0 = binding

def isCandidate (outline : Outline) (set binding : UInt32) (declared : Global) : Bool :=
  isDescriptor declared && outline.bindingSlot declared.id == (set, binding)

def IsFirst (outline : Outline) (property : Global → Prop) (declared : Global) : Prop :=
  ∃ before after, outline.globals = before ++ declared :: after ∧ property declared ∧
    ∀ earlier ∈ before, ¬ property earlier

/-- The first variable that takes a slot and is of the wanted category, or the first that takes the
slot where none is of that category. -/
def Picks (outline : Outline) (set binding : UInt32) (wanted : TypeCategory) (declared : Global) :
    Prop :=
  outline.IsFirst (fun candidate => outline.Takes set binding candidate ∧
    outline.category candidate.pointerType = wanted) declared ∨
  (∀ candidate ∈ outline.globals, outline.Takes set binding candidate →
    outline.category candidate.pointerType ≠ wanted) ∧
    outline.IsFirst (outline.Takes set binding) declared

section Pick

variable {outline : Outline} {set binding : UInt32} {wanted : TypeCategory} {declared : Global}

theorem isDescriptor_iff : isDescriptor declared = true ↔
    declared.storage ∈ [StorageClass.uniformConstant, .uniform, .storageBuffer] := by
  simp [isDescriptor, or_assoc]

theorem takes_iff : outline.isCandidate set binding declared = true ↔
    outline.Takes set binding declared := by
  rw [isCandidate, Bool.and_eq_true, isDescriptor_iff, beq_iff_eq, bindingSlot, Prod.mk.injEq]
  exact ⟨fun ⟨storage, set, binding⟩ => ⟨storage, set, binding⟩,
    fun ⟨storage, set, binding⟩ => ⟨storage, set, binding⟩⟩

theorem Picks.takes (picks : outline.Picks set binding wanted declared) :
    outline.Takes set binding declared := by
  rcases picks with ⟨_, _, _, has, _⟩ | ⟨_, _, _, _, has, _⟩
  · exact has.1
  · exact has

theorem find?_eq_some_iff_isFirst {passes : Global → Bool} {property : Global → Prop}
    (same : ∀ candidate, passes candidate = true ↔ property candidate) :
    outline.globals.find? passes = some declared ↔ outline.IsFirst property declared := by
  rw [List.find?_eq_some_iff_append]
  constructor
  · rintro ⟨passed, before, after, split, failed⟩
    refine ⟨before, after, split, (same declared).mp passed, fun earlier mem has => ?_⟩
    exact absurd ((same earlier).mpr has) (by simpa using failed earlier mem)
  · rintro ⟨before, after, split, has, without⟩
    refine ⟨(same declared).mpr has, before, after, split, fun earlier mem => ?_⟩
    simpa using fun passed => without earlier mem ((same earlier).mp passed)

private theorem takes_and_category_iff (candidate : Global) :
    (outline.isCandidate set binding candidate &&
      outline.category candidate.pointerType == wanted) = true ↔
        outline.Takes set binding candidate ∧ outline.category candidate.pointerType = wanted := by
  rw [Bool.and_eq_true, takes_iff, beq_iff_eq]

/-- The two searches of the lookup, each over all variables of module scope. -/
theorem descriptor?_eq (outline : Outline) (set binding : UInt32) (wanted : TypeCategory) :
    outline.descriptor? set binding wanted =
      (outline.globals.find? fun candidate => outline.isCandidate set binding candidate &&
        outline.category candidate.pointerType == wanted).or
          (outline.globals.find? (outline.isCandidate set binding)) := by
  rw [descriptor?, List.find?_filter, List.head?_filter]
  simp only [Bool.decide_and, Bool.decide_eq_true]
  rfl

theorem descriptor?_eq_none_iff : outline.descriptor? set binding wanted = none ↔
    ∀ candidate ∈ outline.globals, ¬ outline.Takes set binding candidate := by
  rw [descriptor?_eq, Option.or_eq_none_iff, List.find?_eq_none, List.find?_eq_none]
  simp only [takes_and_category_iff, takes_iff]
  exact ⟨And.right, fun free => ⟨fun candidate mem both => free candidate mem both.1, free⟩⟩

theorem descriptor?_eq_some_iff : outline.descriptor? set binding wanted = some declared ↔
    outline.Picks set binding wanted declared := by
  rw [descriptor?_eq, Option.or_eq_some_iff, find?_eq_some_iff_isFirst takes_and_category_iff,
    find?_eq_some_iff_isFirst fun _ => takes_iff, List.find?_eq_none, Picks]
  simp only [takes_and_category_iff, not_and, ne_eq]

end Pick

/-- The ids that the variables of module scope lead to: their own, those of their types, and those
of the types behind pointers and arrays. -/
inductive Reaches (outline : Outline) : UInt32 → Prop
  | own {declared : Global} (mem : declared ∈ outline.globals) : Reaches outline declared.id
  | pointer {declared : Global} (mem : declared ∈ outline.globals) :
    Reaches outline declared.pointerType
  | target {type behind : UInt32} (reached : Reaches outline type)
    (leads : outline.target? type = some behind) : Reaches outline behind

/-- Another outline says the same of each id that the variables of this one lead to. -/
structure KeptBy (outline other : Outline) : Prop where
  shape : ∀ id, outline.Reaches id → other.shape? id = outline.shape? id
  placement : ∀ id slot, outline.Reaches id → other.placement? id slot = outline.placement? id slot

section Kept

variable {outline other : Outline} {set binding : UInt32} {declared : Global}

theorem KeptBy.baseWithin (kept : outline.KeptBy other) (bound : Nat) {type : UInt32}
    (reached : outline.Reaches type) :
    other.baseWithin bound type = outline.baseWithin bound type ∧
      outline.Reaches (outline.baseWithin bound type) := by
  induction bound generalizing type with
  | zero => exact ⟨rfl, reached⟩
  | succ bound ih =>
    have targets : other.target? type = outline.target? type := by
      rw [target?, target?, kept.shape type reached]
    rw [Outline.baseWithin, Outline.baseWithin, targets]
    cases leads : outline.target? type with
    | none => exact ⟨rfl, reached⟩
    | some behind => exact ih (reached.target leads)

theorem KeptBy.category (kept : outline.KeptBy other) (mem : declared ∈ outline.globals) :
    other.category declared.pointerType = outline.category declared.pointerType := by
  obtain ⟨same, reached⟩ := kept.baseWithin maxTypeDepth (.pointer mem)
  rw [Outline.category, Outline.category, base, base, same, kept.shape _ reached]

theorem KeptBy.takes_iff (kept : outline.KeptBy other) (mem : declared ∈ outline.globals) :
    other.Takes set binding declared ↔ outline.Takes set binding declared := by
  have slots : other.bindingSlot declared.id = outline.bindingSlot declared.id := by
    rw [bindingSlot, bindingSlot, kept.placement _ _ (.own mem),
      kept.placement _ _ (.own mem)]
  rw [← Outline.takes_iff, ← Outline.takes_iff, isCandidate, isCandidate, slots]

end Kept

section Insertion

variable {front more behind : List Record}

theorem last?_insert {α : Type} {read : Record → Option α}
    (silent : ∀ record ∈ more, read record = none) :
    last? ⟨front ++ more ++ behind⟩ read = last? ⟨front ++ behind⟩ read := by
  have nothing : last? ⟨more⟩ read = none :=
    List.findSome?_eq_none_iff.mpr fun record mem => silent record (List.mem_reverse.mp mem)
  rw [last?_append, last?_append, last?_append, nothing, Option.none_or]

theorem keptBy_insert
    (fresh : ∀ record ∈ more, ∀ id, record.subject? = some id → ¬ Reaches ⟨front ++ behind⟩ id) :
    KeptBy ⟨front ++ behind⟩ ⟨front ++ more ++ behind⟩ := by
  have apart {id : UInt32} (reached : Reaches ⟨front ++ behind⟩ id) {record : Record}
      (mem : record ∈ more) : record.subject? ≠ some id :=
    fun subject => fresh record mem id subject reached
  constructor
  · intro id reached
    refine last?_insert fun record mem => ?_
    have other := apart reached mem
    cases record with
    | type target shape => exact if_neg fun same => other (congrArg some same)
    | _ => rfl
  · intro id slot reached
    refine last?_insert fun record mem => ?_
    have other := apart reached mem
    cases record with
    | placement target of value => exact if_neg fun same => other (congrArg some same.1)
    | _ => rfl

theorem IsFirst.insert {property also : Global → Prop} {declared : Global}
    (first : IsFirst ⟨front ++ behind⟩ property declared) (mem : declared ∈ globals ⟨front⟩)
    (same : ∀ candidate ∈ globals ⟨front⟩, also candidate ↔ property candidate) :
    IsFirst ⟨front ++ more ++ behind⟩ also declared := by
  obtain ⟨before, after, split, has, without⟩ := first
  have joined : globals ⟨front ++ behind⟩ = globals ⟨front⟩ ++ globals ⟨behind⟩ :=
    List.filterMap_append
  have longer : globals ⟨front ++ more ++ behind⟩ =
      globals ⟨front⟩ ++ (globals ⟨more⟩ ++ globals ⟨behind⟩) := by
    rw [List.append_assoc]
    exact List.filterMap_append.trans (congrArg _ List.filterMap_append)
  -- It stands in the front part, and no earlier variable is like it, so its place is there.
  obtain ⟨rest, inFront⟩ : ∃ rest, globals ⟨front⟩ = before ++ declared :: rest := by
    rw [joined, List.append_eq_append_iff] at split
    rcases split with ⟨rest, rfl, _⟩ | ⟨rest, inFront, cut⟩
    · exact absurd has (without declared (List.mem_append_left _ mem))
    · cases rest with
      | nil =>
        rw [List.append_nil] at inFront
        exact absurd has (without declared (inFront ▸ mem))
      | cons first rest =>
        obtain ⟨rfl, _⟩ := List.cons.inj cut
        exact ⟨rest, inFront⟩
  refine ⟨before, rest ++ (globals ⟨more⟩ ++ globals ⟨behind⟩), ?_, (same declared mem).mpr has, ?_⟩
  · rw [longer, inFront, List.append_assoc, List.cons_append]
  · intro earlier here holds
    have inside : earlier ∈ globals ⟨front⟩ := inFront ▸ List.mem_append_left _ here
    exact without earlier here ((same earlier inside).mp holds)

theorem descriptor?_insert {set binding : UInt32} {wanted : TypeCategory} {declared : Global}
    (fresh : ∀ record ∈ more, ∀ id, record.subject? = some id → ¬ Reaches ⟨front ++ behind⟩ id)
    (found : descriptor? ⟨front ++ behind⟩ set binding wanted = some declared)
    (matching : category ⟨front ++ behind⟩ declared.pointerType = wanted)
    (mem : declared ∈ globals ⟨front⟩) :
    descriptor? ⟨front ++ more ++ behind⟩ set binding wanted = some declared := by
  have kept := keptBy_insert fresh
  have listed {candidate : Global} (here : candidate ∈ globals ⟨front⟩) :
      candidate ∈ globals ⟨front ++ behind⟩ := by
    rw [globals, List.filterMap_append]
    exact List.mem_append_left _ here
  rcases descriptor?_eq_some_iff.mp found with first | ⟨without, _, _, _, takes, _⟩
  · refine descriptor?_eq_some_iff.mpr (.inl (first.insert mem fun candidate here => ?_))
    rw [kept.takes_iff (listed here), kept.category (listed here)]
  · exact absurd matching (without declared (listed mem) takes)

end Insertion

end Outline

namespace Declaration

/-- Declarations put in where a module can be cut are scanned with it. They add records of theirs,
though not those of variables where a function is open. -/
theorem scan_insert {words : List UInt32} {outline front : Outline}
    (scanned : scan words = .ok outline) {position : Nat} (within : position ≤ words.length)
    (cut : scan (words.take position) = .ok front) {added : List Declaration}
    (wellFormed : ∀ declaration ∈ added, declaration.WellFormed)
    (short : ∀ declaration ∈ added, declaration.instruction.size < 0x10000) :
    ∃ more behind, outline.records = front.records ++ behind ∧ more.Sublist (added.map record) ∧
      scan (words.take position ++
        (added.flatMap fun declaration => declaration.instruction.words) ++ words.drop position) =
          .ok ⟨front.records ++ more ++ behind⟩ := by
  obtain ⟨_, _, instructions, spelled, walked⟩ := scan_eq_ok_iff.mp scanned
  obtain ⟨header, magic, before, spelledBefore, walkedBefore⟩ := scan_eq_ok_iff.mp cut
  have long : Scan.headerWords ≤ position := by
    rw [List.length_take] at header
    omega
  have parts : words.drop Scan.headerWords =
      (words.take position).drop Scan.headerWords ++ words.drop position := by
    rw [← List.drop_append_of_le_length header, List.take_append_drop]
  rw [parts] at spelled
  obtain ⟨after, rfl, spelledAfter⟩ :=
    (InstructionStream.spells_append_iff spelledBefore).mp spelled
  obtain ⟨_, behind, walkedFront, walkedBehind, same⟩ := Scan.walk_append_eq_ok_iff.mp walked
  cases walkedBefore.symm.trans walkedFront
  obtain ⟨more, fewer, walkedMore⟩ := exists_walk_instructions wellFormed
    (before.foldl Scan.insideAfter false) (Scan.headerWords + Instruction.totalSize before)
  -- The declarations leave open what was open, so the rest is walked over as before.
  have spelledFront := (InstructionStream.spells_append_iff spelledBefore).mpr
    ⟨_, rfl, spells_instructions short⟩
  have walkedFront := Scan.walk_append_eq_ok_iff.mpr ⟨_, _, walkedBefore, walkedMore, rfl⟩
  refine ⟨more, behind, same.symm, fewer, scan_eq_ok_iff.mpr
    ⟨?_, ?_, before ++ added.map instruction ++ after, ?_, ?_⟩⟩
  · rw [List.length_append, List.length_append]
    omega
  · rw [List.head?_append, List.head?_append, magic]
    rfl
  · rw [List.append_assoc, List.drop_append_of_le_length header, ← List.append_assoc]
    exact (InstructionStream.spells_append_iff spelledFront).mpr ⟨_, rfl, spelledAfter⟩
  · refine Scan.walk_append_eq_ok_iff.mpr ⟨_, _, walkedFront, ?_, rfl⟩
    rw [List.foldl_append, foldl_insideAfter_instructions]
    exact Scan.walk_position walkedBehind _

end Declaration

namespace Outline

/-- The lookup finds nothing only where no variable takes the slot, and finds the one that is to be
picked. Declarations put in anywhere behind an answer of the wanted category, in front of functions
or at the end of the module, leave the answer, if they speak of no id that the variables of the
module lead to. -/
theorem descriptor?_picks {words : List UInt32} {outline : Outline}
    (scanned : scan words = .ok outline) (set binding : UInt32) (wanted : TypeCategory) :
    (outline.descriptor? set binding wanted = none ↔
      ∀ declared ∈ outline.globals, ¬ outline.Takes set binding declared) ∧
    (∀ declared, outline.descriptor? set binding wanted = some declared ↔
      outline.Picks set binding wanted declared) ∧
    ∀ declared, outline.descriptor? set binding wanted = some declared →
      outline.category declared.pointerType = wanted →
      ∀ position ≤ words.length, ∀ front, scan (words.take position) = .ok front →
        declared ∈ front.globals →
      ∀ added : List Declaration, (∀ declaration ∈ added, declaration.WellFormed) →
        (∀ declaration ∈ added, declaration.instruction.size < 0x10000) →
        (∀ declaration ∈ added, ∀ id, declaration.record.subject? = some id →
          ¬ outline.Reaches id) →
        ∃ longer, scan (words.take position ++
            (added.flatMap fun declaration => declaration.instruction.words) ++
              words.drop position) = .ok longer ∧
          longer.descriptor? set binding wanted = some declared := by
  refine ⟨descriptor?_eq_none_iff, fun declared => descriptor?_eq_some_iff, ?_⟩
  intro declared found matching position within front cut mem added wellFormed short fresh
  obtain ⟨more, behind, records, fewer, scannedLonger⟩ :=
    Declaration.scan_insert scanned within cut wellFormed short
  obtain ⟨_⟩ := outline
  cases records
  refine ⟨_, scannedLonger,
    descriptor?_insert (fun record here id subject => ?_) found matching mem⟩
  obtain ⟨declaration, written, rfl⟩ := List.mem_map.mp (fewer.subset here)
  exact fresh declaration written id subject

/-- An image and a sampler at one slot, the image with no binding of its own. -/
def sharingSlot : List Declaration :=
  [.placement 10 .set 1, .placement 11 .binding 0, .placement 11 .set 1,
   .image 20 [24, 1, 0, 0, 0, 1, 0], .sampler 21, .pointer 22 0 20, .pointer 23 0 21,
   .global ⟨10, 22, ⟨0⟩⟩ none, .global ⟨11, 23, ⟨0⟩⟩ none]

def sharingModule : List UInt32 :=
  Declaration.moduleWords 0x10000 0 40 0 sharingSlot ++
    [⟨.function, [3, 4, 0, 5]⟩, ⟨.functionEnd, []⟩].flatMap Instruction.words

def sharingOutline : Outline := ⟨sharingSlot.map Declaration.record⟩

def secondSampler : List Declaration := [.placement 12 .set 1, .global ⟨12, 23, ⟨0⟩⟩ none]

def sharingIds : List UInt32 := [10, 22, 20, 11, 23, 21]

private theorem sharing_reaches {id : UInt32} (reached : sharingOutline.Reaches id) :
    sharingIds.contains id = true := by
  have ids : ∀ declared ∈ sharingOutline.globals, sharingIds.contains declared.id = true ∧
      sharingIds.contains declared.pointerType = true := by
    decide +kernel
  have targets : (sharingIds.all fun type =>
      (sharingOutline.target? type).all fun behind => sharingIds.contains behind) = true := by
    decide +kernel
  induction reached with
  | own mem => exact (ids _ mem).1
  | pointer mem => exact (ids _ mem).2
  | target _ leads inside =>
    have closed := List.all_eq_true.mp targets _ (List.contains_iff_mem.mp inside)
    rwa [leads] at closed

theorem descriptor?_picks_sharing :
    scan sharingModule = .ok sharingOutline ∧
      sharingOutline.Picks 1 0 .sampler ⟨11, 23, ⟨0⟩⟩ ∧
      sharingOutline.Picks 1 0 .struct ⟨10, 22, ⟨0⟩⟩ ∧
      (∀ declared ∈ sharingOutline.globals, ¬ sharingOutline.Takes 0 1 declared) ∧
      ∃ longer, scan (sharingModule.take 44 ++
          (secondSampler.flatMap fun declaration => declaration.instruction.words) ++
            sharingModule.drop 44) = .ok longer ∧
        longer.descriptor? 1 0 .sampler = some ⟨11, 23, ⟨0⟩⟩ := by
  have scanned : scan sharingModule = .ok sharingOutline := rfl
  have cut : scan (sharingModule.take 44) = .ok sharingOutline := rfl
  obtain ⟨-, pick, stay⟩ := descriptor?_picks scanned 1 0 .sampler
  refine ⟨scanned, (pick _).mp rfl, ((descriptor?_picks scanned 1 0 .struct).2.1 _).mp rfl,
    (descriptor?_picks scanned 0 1 .sampler).1.mp rfl, ?_⟩
  refine stay ⟨11, 23, ⟨0⟩⟩ rfl rfl 44 (by decide +kernel) _ cut (by decide +kernel) secondSampler
    (by decide +kernel) (by decide +kernel) ?_
  intro declaration mem id subject reached
  have fresh : ∀ declaration ∈ secondSampler,
      declaration.record.subject? = some 12 ∨ declaration.record.subject? = none := by
    decide +kernel
  have outside : sharingIds.contains 12 = false := by decide +kernel
  rcases fresh declaration mem with speaks | silent
  · obtain rfl : 12 = id := Option.some.inj (speaks.symm.trans subject)
    exact absurd (sharing_reaches reached) (by rw [outside]; exact Bool.false_ne_true)
  · cases silent.symm.trans subject

end Outline

end ShaderInterface.Spirv
