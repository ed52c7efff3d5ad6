import Mathlib.Data.List.Basic
import Mathlib.Data.Nat.Bitwise
import ShaderInterface.Stage

/-! The word that a set of stages is kept as. Each stage has a bit of its own, and a set that is
made of a list of stages has no other bits. So it is told by its members, and neither their order
nor their repetition is left in it. -/
namespace ShaderInterface

namespace Stage

/-- The place of the bit that stands for a stage. -/
def place (stage : Stage) : Nat := all.idxOf stage

theorem mem_all (stage : Stage) : stage ∈ all := by
  cases stage <;> decide

theorem place_inj {one other : Stage} : one.place = other.place ↔ one = other :=
  List.idxOf_inj (mem_all one)

end Stage

namespace StageSet

open Stage (place_inj)

def hasBit (set : StageSet) (place : Nat) : Bool := set.bits.toNat.testBit place

theorem eq_of_hasBit {one other : StageSet}
    (same : ∀ place, one.hasBit place = other.hasBit place) : one = other := by
  obtain ⟨ones⟩ := one
  obtain ⟨others⟩ := other
  have words : ones = others := UInt32.toNat_inj.mp (Nat.eq_of_testBit_eq same)
  rw [words]

theorem hasBit_empty (place : Nat) : empty.hasBit place = false :=
  Nat.zero_testBit place

theorem hasBit_union (one other : StageSet) (place : Nat) :
    (one ∪ other).hasBit place = (one.hasBit place || other.hasBit place) := by
  show (one.bits ||| other.bits).toNat.testBit place = _
  rw [UInt32.toNat_or, Nat.testBit_or]
  rfl

theorem toNat_bits_single (stage : Stage) : (single stage).bits.toNat = 2 ^ stage.place := by
  cases stage <;> rfl

theorem hasBit_single (stage : Stage) (place : Nat) :
    (single stage).hasBit place = decide (stage.place = place) := by
  rw [hasBit, toNat_bits_single, Nat.testBit_two_pow]

theorem contains_eq_hasBit (set : StageSet) (stage : Stage) :
    set.contains stage = set.hasBit stage.place := by
  have word : (set.bits &&& (single stage).bits).toNat =
      (set.hasBit stage.place).toNat * 2 ^ stage.place := by
    rw [UInt32.toNat_and, toNat_bits_single, Nat.and_two_pow]
    rfl
  rw [contains, Bool.eq_iff_iff, bne_iff_ne, ne_eq, ← UInt32.toNat_inj, word]
  cases set.hasBit stage.place with
  | false => simp
  | true => simp [Nat.pow_eq_zero]

/-- What the fold adds to the bits it starts from. -/
theorem hasBit_foldl (start : StageSet) (stages : List Stage) (place : Nat) :
    (stages.foldl (fun set stage => set ∪ single stage) start).hasBit place =
      (start.hasBit place || stages.any (·.place = place)) := by
  induction stages generalizing start with
  | nil => simp
  | cons stage stages ih =>
    rw [List.foldl_cons, ih, hasBit_union, hasBit_single, List.any_cons, Bool.or_assoc]

theorem hasBit_ofList (stages : List Stage) (place : Nat) :
    (ofList stages).hasBit place = stages.any (·.place = place) := by
  rw [ofList, hasBit_foldl, hasBit_empty, Bool.false_or]

theorem contains_ofList (stages : List Stage) (stage : Stage) :
    (ofList stages).contains stage = true ↔ stage ∈ stages := by
  simp [contains_eq_hasBit, hasBit_ofList, place_inj]

theorem ofList_append (front back : List Stage) :
    ofList (front ++ back) = ofList front ∪ ofList back := by
  refine eq_of_hasBit fun place => ?_
  rw [hasBit_union, hasBit_ofList, hasBit_ofList, hasBit_ofList, List.any_append]

theorem ofList_eq_iff (one other : List Stage) :
    ofList one = ofList other ↔ ∀ stage, stage ∈ one ↔ stage ∈ other := by
  constructor
  · intro same stage
    rw [← contains_ofList, ← contains_ofList, same]
  · intro members
    refine eq_of_hasBit fun place => ?_
    rw [hasBit_ofList, hasBit_ofList, Bool.eq_iff_iff, List.any_eq_true, List.any_eq_true]
    simp only [members]

def graphicsStages : List Stage :=
  [.vertex, .tessellationControl, .tessellationEvaluation, .geometry, .fragment]

theorem ofList_graphicsStages : ofList graphicsStages = graphics := by
  decide

theorem mem_graphicsStages_iff (stage : Stage) :
    stage ∈ graphicsStages ↔ stage ≠ .compute ∧ stage ≠ .rayTracing := by
  cases stage <;> decide

/-- The word of a list of stages is the set of its members: it holds a stage if the list does, the
lists behind one another make the union, lists make one word if they have the same members, and the
word of the graphics pipeline if these are all stages but those of computing and ray tracing. -/
theorem ofList_members (one other : List Stage) :
    (∀ stage, (ofList one).contains stage = true ↔ stage ∈ one) ∧
      ofList (one ++ other) = ofList one ∪ ofList other ∧
      (ofList one = ofList other ↔ ∀ stage, stage ∈ one ↔ stage ∈ other) ∧
      (ofList one = graphics ↔ ∀ stage, stage ∈ one ↔ stage ≠ .compute ∧ stage ≠ .rayTracing) := by
  refine ⟨contains_ofList one, ofList_append one other, ofList_eq_iff one other, ?_⟩
  rw [← ofList_graphicsStages, ofList_eq_iff]
  simp only [mem_graphicsStages_iff]

end StageSet

end ShaderInterface
