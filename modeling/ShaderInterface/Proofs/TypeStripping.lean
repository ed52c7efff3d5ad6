import Mathlib.Data.FinEnum
import Mathlib.Data.Fintype.Pigeonhole
import ShaderInterface.Proofs.ScanRoundTrip

/-! What is behind the pointers and arrays of a type. Types lead to one another in a chain, which
ends at a type that is neither pointer nor array or else comes back to a type it has left, as
nothing keeps records from pointing at themselves or at nothing. Chains of up to 32 links are
followed to their end, and of all others the type behind 32 links is taken. -/
namespace ShaderInterface.Spirv

/-- The category that a type has by its own record. Scalars, vectors and whatever else leads to no
other type are not recorded. -/
inductive TypeCategory.OfRecord : Option Shape → TypeCategory → Prop
  | image : OfRecord (some .image) .image
  | sampler : OfRecord (some .sampler) .sampler
  | accelerationStructure : OfRecord (some .accelerationStructure) .accelerationStructure
  | struct (members : List UInt32) : OfRecord (some (.struct members)) .struct
  | unrecorded : OfRecord none .other

namespace Outline

inductive Wraps (outline : Outline) (outer inner : UInt32) : Prop
  | pointer (shape : outline.shape? outer = some (.pointer inner))
  | array (shape : outline.shape? outer = some (.array inner))

/-- So many pointers and arrays, one behind the other, lead from a type to another. -/
inductive Chain (outline : Outline) : Nat → UInt32 → UInt32 → Prop
  | nil (type : UInt32) : Chain outline 0 type type
  | link {count : Nat} {outer inner last : UInt32} (wraps : outline.Wraps outer inner)
    (behind : Chain outline count inner last) : Chain outline (count + 1) outer last

/-- A chain whose last type is neither pointer nor array, or is not declared at all. -/
structure EndsAt (outline : Outline) (type : UInt32) (count : Nat) (last : UInt32) : Prop where
  chain : outline.Chain count type last
  bare : ∀ inner, ¬ outline.Wraps last inner

def IsCyclic (outline : Outline) (type : UInt32) : Prop :=
  ∃ front round again, outline.Chain front type again ∧ outline.Chain (round + 1) again again

section Chains

variable {outline : Outline} {type outer inner middle last other : UInt32}
  {count front back bound : Nat}

theorem wraps_iff : outline.Wraps outer inner ↔ outline.target? outer = some inner := by
  constructor
  · rintro (shape | shape) <;> rw [target?, shape]
  · intro leads
    rw [target?] at leads
    split at leads
    · next shape =>
      cases leads
      exact .pointer shape
    · next shape =>
      cases leads
      exact .array shape
    · cases leads

theorem bare_iff : (∀ inner, ¬ outline.Wraps outer inner) ↔ outline.target? outer = none := by
  simp only [wraps_iff, Option.eq_none_iff_forall_ne_some, ne_eq]

theorem Wraps.unique (one : outline.Wraps outer inner) (two : outline.Wraps outer other) :
    inner = other :=
  Option.some.inj ((wraps_iff.mp one).symm.trans (wraps_iff.mp two))

theorem chain_zero_iff : outline.Chain 0 type last ↔ type = last := by
  constructor
  · rintro ⟨⟩
    rfl
  · rintro rfl
    exact .nil type

theorem chain_succ_iff : outline.Chain (count + 1) outer last ↔
    ∃ inner, outline.target? outer = some inner ∧ outline.Chain count inner last := by
  simp only [← wraps_iff]
  constructor
  · rintro ⟨⟩
    exact ⟨_, ‹_›, ‹_›⟩
  · rintro ⟨inner, wraps, behind⟩
    exact .link wraps behind

theorem Chain.append (first : outline.Chain front type middle)
    (second : outline.Chain back middle last) : outline.Chain (front + back) type last := by
  induction first with
  | nil => rwa [Nat.zero_add]
  | link wraps _ ih =>
    rw [Nat.add_right_comm]
    exact .link wraps (ih second)

theorem Chain.split (chain : outline.Chain (front + back) type last) :
    ∃ middle, outline.Chain front type middle ∧ outline.Chain back middle last := by
  induction front generalizing type with
  | zero => exact ⟨type, .nil type, by rwa [Nat.zero_add] at chain⟩
  | succ front ih =>
    rw [Nat.add_right_comm] at chain
    cases chain with
    | link wraps behind =>
      obtain ⟨middle, first, second⟩ := ih behind
      exact ⟨middle, .link wraps first, second⟩

theorem Chain.exists_shorter (chain : outline.Chain count type last) (less : bound ≤ count) :
    ∃ middle, outline.Chain bound type middle := by
  obtain ⟨back, rfl⟩ := Nat.exists_eq_add_of_le less
  obtain ⟨middle, first, _⟩ := chain.split
  exact ⟨middle, first⟩

theorem Chain.unique (one : outline.Chain count type last)
    (two : outline.Chain count type other) : last = other := by
  induction one with
  | nil =>
    cases two
    rfl
  | link wraps _ ih =>
    cases two with
    | link also behind =>
      cases wraps.unique also
      exact ih behind

theorem Wraps.baseWithin_succ (wraps : outline.Wraps outer inner) (bound : Nat) :
    outline.baseWithin (bound + 1) outer = outline.baseWithin bound inner := by
  rw [baseWithin, wraps_iff.mp wraps]

theorem baseWithin_of_bare (bare : ∀ inner, ¬ outline.Wraps type inner) (bound : Nat) :
    outline.baseWithin bound type = type := by
  cases bound with
  | zero => rfl
  | succ bound => rw [baseWithin, bare_iff.mp bare]

/-- A chain as long as the bound is followed to its last type, whatever that is. -/
theorem Chain.baseWithin_eq (chain : outline.Chain bound type last) :
    outline.baseWithin bound type = last := by
  induction chain with
  | nil => rfl
  | link wraps _ ih => rw [wraps.baseWithin_succ, ih]

theorem EndsAt.baseWithin_eq (ends : outline.EndsAt type count last) (within : count ≤ bound) :
    outline.baseWithin bound type = last := by
  obtain ⟨chain, bare⟩ := ends
  induction chain generalizing bound with
  | nil => exact baseWithin_of_bare bare bound
  | link wraps _ ih =>
    obtain ⟨bound, rfl⟩ := Nat.exists_eq_add_of_le' (Nat.le_of_add_left_le within)
    rw [wraps.baseWithin_succ]
    exact ih (Nat.le_of_succ_le_succ within) bare

theorem EndsAt.behind (ends : outline.EndsAt outer count last) (wraps : outline.Wraps outer inner) :
    ∃ fewer, count = fewer + 1 ∧ outline.EndsAt inner fewer last := by
  obtain ⟨chain, bare⟩ := ends
  cases chain with
  | nil => exact absurd wraps (bare inner)
  | link first behind =>
    cases first.unique wraps
    exact ⟨_, rfl, behind, bare⟩

theorem EndsAt.baseWithin_pointee (ends : outline.EndsAt type count last) (within : count ≤ bound) :
    outline.baseWithin bound (outline.pointee type) = last := by
  rw [pointee]
  split
  · next inner shape =>
    obtain ⟨fewer, rfl, behind⟩ := ends.behind (.pointer shape)
    exact behind.baseWithin_eq (Nat.le_of_succ_le within)
  · exact ends.baseWithin_eq within

theorem ofRecord_of_bare (bare : ∀ inner, ¬ outline.Wraps type inner) :
    TypeCategory.OfRecord (outline.shape? type) (.ofShape? (outline.shape? type)) := by
  cases shape : outline.shape? type with
  | none => exact .unrecorded
  | some found =>
    cases found with
    | image => exact .image
    | sampler => exact .sampler
    | accelerationStructure => exact .accelerationStructure
    | struct members => exact .struct members
    | pointer inner => exact absurd (.pointer shape) (bare inner)
    | array inner => exact absurd (.array shape) (bare inner)

theorem Wraps.ofShape?_eq (wraps : outline.Wraps outer inner) :
    TypeCategory.ofShape? (outline.shape? outer) = .other := by
  rcases wraps with shape | shape <;> rw [shape] <;> rfl

/-- A longer chain is left where the bound is reached, at a pointer or an array. -/
theorem Chain.base_at_bound (chain : outline.Chain (maxTypeDepth + 1) type last) :
    outline.Chain maxTypeDepth type (outline.base type) ∧ outline.category type = .other := by
  obtain ⟨middle, first, second⟩ := chain.split
  have reached : outline.base type = middle := first.baseWithin_eq
  cases second with
  | link wraps _ =>
    rw [category, reached]
    exact ⟨first, wraps.ofShape?_eq⟩

theorem IsCyclic.exists_chain (cyclic : outline.IsCyclic type) (bound : Nat) :
    ∃ last, outline.Chain bound type last := by
  obtain ⟨front, round, again, start, circle⟩ := cyclic
  have rounds (times : Nat) : outline.Chain (times * (round + 1)) again again := by
    induction times with
    | zero => rw [Nat.zero_mul]; exact .nil again
    | succ times ih => rw [Nat.succ_mul]; exact ih.append circle
  have long : bound ≤ front + bound * (round + 1) :=
    (Nat.le_mul_of_pos_right bound round.succ_pos).trans (Nat.le_add_left _ _)
  exact (start.append (rounds bound)).exists_shorter long

theorem exists_chain_of_endless (endless : ¬ ∃ count last, outline.EndsAt type count last)
    (count : Nat) : ∃ last, outline.Chain count type last := by
  induction count with
  | zero => exact ⟨type, .nil type⟩
  | succ count ih =>
    obtain ⟨last, chain⟩ := ih
    refine Classical.byContradiction fun stuck => endless ⟨count, last, chain, ?_⟩
    intro inner wraps
    exact stuck ⟨inner, chain.append (.link wraps (.nil inner))⟩

/-- As there are only so many ids, a chain that never ends comes back to one of them. -/
theorem ends_or_isCyclic (outline : Outline) (type : UInt32) :
    (∃ count last, outline.EndsAt type count last) ∨ outline.IsCyclic type := by
  refine Classical.or_iff_not_imp_left.mpr fun endless => ?_
  choose behind chain using exists_chain_of_endless endless
  -- There are more lengths than ids, so that two chains from the type have the same end, and the
  -- longer one comes back to it.
  obtain ⟨one, two, apart, same⟩ := Finite.exists_ne_map_eq_of_infinite behind
  wlog less : one < two generalizing one two
  · exact this two one apart.symm same.symm (Nat.lt_of_le_of_ne (Nat.le_of_not_lt less) apart.symm)
  obtain ⟨round, rfl⟩ := Nat.exists_eq_add_of_lt less
  have whole : outline.Chain (one + (round + 1)) type (behind (one + round + 1)) := chain _
  obtain ⟨middle, first, second⟩ := whole.split
  cases first.unique (chain one)
  rw [← same] at second
  exact ⟨one, round, _, first, second⟩

end Chains

instance decidableChain (outline : Outline) :
    (count : Nat) → (type last : UInt32) → Decidable (outline.Chain count type last)
  | 0, type, last => decidable_of_iff (type = last) chain_zero_iff.symm
  | count + 1, type, last =>
    let _ (inner : UInt32) : Decidable (outline.Chain count inner last) :=
      decidableChain outline count inner last
    decidable_of_iff (∃ inner, outline.target? type = some inner ∧ outline.Chain count inner last)
      chain_succ_iff.symm

/-- A type is stripped down to the end of its chain where that has up to 32 links, also when it has
been stripped before or when a pointer has been taken off it, and its category is that of the end.
Of a longer chain, or one that comes back, the type behind 32 links is taken, and no category is
found. Each chain is of one of these kinds. -/
theorem base_strips (outline : Outline) (type : UInt32) :
    (∀ count last, count ≤ 32 → outline.EndsAt type count last →
      outline.base type = last ∧ outline.base (outline.base type) = last ∧
        outline.base (outline.pointee type) = last ∧
          TypeCategory.OfRecord (outline.shape? last) (outline.category type)) ∧
    ((∃ count last, 32 < count ∧ outline.EndsAt type count last) ∨ outline.IsCyclic type →
      outline.Chain 32 type (outline.base type) ∧ outline.category type = .other) ∧
    ((∃ count last, outline.EndsAt type count last) ∨ outline.IsCyclic type) := by
  refine ⟨?_, ?_, outline.ends_or_isCyclic type⟩
  · intro count last within ends
    have stripped : outline.base type = last := ends.baseWithin_eq within
    have again : outline.base last = last := baseWithin_of_bare ends.bare _
    refine ⟨stripped, ?_, ends.baseWithin_pointee within, ?_⟩
    · rw [stripped, again]
    · rw [category, stripped]
      exact ofRecord_of_bare ends.bare
  · intro beyond
    have goesOn : ∃ last, outline.Chain (maxTypeDepth + 1) type last := by
      rcases beyond with ⟨count, last, longer, ends⟩ | cyclic
      · exact ends.chain.exists_shorter longer
      · exact cyclic.exists_chain _
    obtain ⟨last, chain⟩ := goesOn
    exact chain.base_at_bound

/-- Thirty-three pointers and arrays by turns in front of a struct, two pointers to each other, and
an array of a type that is not declared. -/
def longChains : List Declaration :=
  ((List.range 33).map fun count =>
    if count % 2 = 0 then .runtimeArray (.ofNat (count + 1)) (.ofNat (count + 2))
    else .pointer (.ofNat (count + 1)) 9 (.ofNat (count + 2))) ++
  [.struct 34 [40], .pointer 50 9 51, .pointer 51 9 50, .runtimeArray 60 61]

def longOutline : Outline := ⟨longChains.map Declaration.record⟩

theorem base_strips_longChains :
    scan (Declaration.moduleWords 0x10000 0 70 0 longChains) = .ok longOutline ∧
      (longOutline.base 2 = 34 ∧ longOutline.base (longOutline.base 2) = 34 ∧
        longOutline.base (longOutline.pointee 2) = 34 ∧
          TypeCategory.OfRecord (some (.struct [40])) (longOutline.category 2)) ∧
      (longOutline.Chain 32 1 (longOutline.base 1) ∧ longOutline.category 1 = .other) ∧
      (longOutline.Chain 32 50 (longOutline.base 50) ∧ longOutline.category 50 = .other) ∧
      (longOutline.base 60 = 61 ∧ TypeCategory.OfRecord none (longOutline.category 60)) := by
  have scanned : scan (Declaration.moduleWords 0x10000 0 70 0 longChains) = .ok longOutline :=
    Declaration.scan_moduleWords 0x10000 0 70 0 (by decide +kernel) (by decide +kernel)
  have struct : ∀ inner, ¬ longOutline.Wraps 34 inner := bare_iff.mpr rfl
  have undeclared : ∀ inner, ¬ longOutline.Wraps 61 inner := bare_iff.mpr rfl
  have reached : longOutline.EndsAt 2 32 34 := ⟨by decide +kernel, struct⟩
  have longer : longOutline.EndsAt 1 33 34 := ⟨by decide +kernel, struct⟩
  have circle : longOutline.IsCyclic 50 := ⟨0, 1, 50, by decide +kernel, by decide +kernel⟩
  have dangling : longOutline.EndsAt 60 1 61 := ⟨by decide +kernel, undeclared⟩
  obtain ⟨base, again, pointee, category⟩ :=
    (base_strips longOutline 2).1 32 34 (Nat.le_refl 32) reached
  obtain ⟨ending, -, -, missing⟩ := (base_strips longOutline 60).1 1 61 (by decide) dangling
  exact ⟨scanned, ⟨base, again, pointee, category⟩,
    (base_strips longOutline 1).2.1 (.inl ⟨33, 34, by decide, longer⟩),
    (base_strips longOutline 50).2.1 (.inr circle), ending, missing⟩

end Outline

end ShaderInterface.Spirv
