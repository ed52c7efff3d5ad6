import ShaderInterface.Sorting
import Mathlib.Data.List.Basic

/-! Sorting by a rank loses nothing, and puts the elements of each rank next to each other in the
order in which they stood. So a sorted list is known rank by rank. -/
namespace ShaderInterface.Sorting

variable {α : Type} {rank : α → Nat}

private theorem insertByRank_perm (rank : α → Nat) (a : α) (list : List α) :
    (insertByRank rank a list).Perm (a :: list) := by
  induction list with
  | nil => exact .refl _
  | cons b rest ih =>
    rw [insertByRank]
    split
    · exact .refl _
    · exact (ih.cons b).trans (.swap a b rest)

theorem sortByRank_perm (rank : α → Nat) (list : List α) :
    (sortByRank rank list).Perm list := by
  induction list with
  | nil => exact .refl _
  | cons a rest ih => exact (insertByRank_perm rank a _).trans (ih.cons a)

/-- An element goes behind all that rank below it and in front of the first that does not. -/
private theorem insertByRank_append {a : α} {low high : List α} (below : ∀ b ∈ low, rank b < rank a)
    (above : ∀ b ∈ high, rank a ≤ rank b) :
    insertByRank rank a (low ++ high) = low ++ a :: high := by
  induction low with
  | nil =>
    cases high with
    | nil => rfl
    | cons b rest => exact if_pos (above b List.mem_cons_self)
  | cons b rest ih =>
    have first : ¬rank a ≤ rank b := Nat.not_le.mpr (below b List.mem_cons_self)
    rw [List.cons_append, insertByRank, if_neg first,
      ih fun c mem => below c (List.mem_cons_of_mem b mem), List.cons_append]

private def byRank (rank : α → Nat) (ranks : List Nat) (list : List α) : List α :=
  ranks.flatMap fun k => list.filter (rank · == k)

private theorem exists_of_mem_byRank {ranks : List Nat} {list : List α} {b : α}
    (mem : b ∈ byRank rank ranks list) : rank b ∈ ranks := by
  obtain ⟨k, known, here⟩ := List.mem_flatMap.mp mem
  rw [← beq_iff_eq.mp (List.mem_filter.mp here).2] at known
  exact known

private theorem byRank_cons_of_notMem {ranks : List Nat} {a : α} (other : rank a ∉ ranks)
    (list : List α) : byRank rank ranks (a :: list) = byRank rank ranks list := by
  refine List.flatMap_congr fun k known => List.filter_cons_of_neg ?_
  rw [beq_iff_eq]
  exact fun same => other (same ▸ known)

private theorem exists_range_eq_append_cons {n bound : Nat} (inside : n < bound) :
    ∃ above, List.range bound = List.range n ++ n :: above ∧ ∀ k ∈ above, n < k := by
  obtain ⟨more, rfl⟩ : ∃ more, bound = n + (more + 1) := ⟨bound - n - 1, by omega⟩
  refine ⟨(List.range more).map (n + 1 + ·), ?_, ?_⟩
  · rw [List.range_add, List.range_succ_eq_map]
    simp [Function.comp_def, Nat.add_comm, Nat.add_left_comm]
  · intro k known
    obtain ⟨i, _, rfl⟩ := List.mem_map.mp known
    omega

/-- The sorted list, rank after rank. -/
theorem sortByRank_eq_flatMap {bound : Nat} {list : List α} (bounded : ∀ a ∈ list, rank a < bound) :
    sortByRank rank list =
      (List.range bound).flatMap fun k => list.filter (rank · == k) := by
  show sortByRank rank list = byRank rank (List.range bound) list
  induction list with
  | nil => simp [byRank, sortByRank]
  | cons a rest ih =>
    have sorted := ih fun b mem => bounded b (List.mem_cons_of_mem a mem)
    -- The ranks fall into those below that of `a`, its own, and those above it.
    obtain ⟨above, parts, larger⟩ := exists_range_eq_append_cons (bounded a List.mem_cons_self)
    have unlike : rank a ∉ above := fun mem => Nat.lt_irrefl _ (larger _ mem)
    have split (elements : List α) : byRank rank (List.range bound) elements =
        byRank rank (List.range (rank a)) elements ++
          (elements.filter (rank · == rank a) ++ byRank rank above elements) := by
      rw [byRank, parts, List.flatMap_append, List.flatMap_cons]
      rfl
    calc sortByRank rank (a :: rest)
        = insertByRank rank a (byRank rank (List.range bound) rest) := by rw [← sorted]; rfl
      _ = byRank rank (List.range (rank a)) rest ++
            a :: (rest.filter (rank · == rank a) ++ byRank rank above rest) := by
          rw [split]
          apply insertByRank_append
          · exact fun b mem => List.mem_range.mp (exists_of_mem_byRank mem)
          · intro b mem
            rcases List.mem_append.mp mem with same | later
            · exact Nat.le_of_eq (beq_iff_eq.mp (List.mem_filter.mp same).2).symm
            · exact Nat.le_of_lt (larger _ (exists_of_mem_byRank later))
      _ = byRank rank (List.range bound) (a :: rest) := by
          rw [split, byRank_cons_of_notMem (by simp), byRank_cons_of_notMem unlike,
            List.filter_cons_of_pos (by simp)]
          rfl

end ShaderInterface.Sorting
