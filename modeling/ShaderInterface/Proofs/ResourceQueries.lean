import ShaderInterface.Proofs.RecordSelection
import Mathlib.Data.List.Nodup

/-! What the queries of a reflection answer, in terms of the declarations: a resource found by name,
and the members of a resource at a position. Moving bindable resources together keeps their order
and merges no two of them, so that no member changes hands. -/
namespace ShaderInterface

namespace Declared

/-- The bindable resources, each with the position at which it is declared. -/
def Listing.boundSites (listing : Listing) : List (Resource × Nat) :=
  listing.resources.zipIdx.filter (·.1.isBindable)

private theorem map_fst_sites (resources : List Resource) (start : Nat) :
    ((resources.zipIdx start).filter (·.1.isBindable)).map Prod.fst =
      resources.filter (·.isBindable) := by
  have filtered := List.filter_map (f := Prod.fst) (p := Resource.isBindable)
    (l := resources.zipIdx start)
  rw [List.zipIdx_map_fst] at filtered
  exact filtered.symm

theorem Listing.boundSites_map_fst (listing : Listing) :
    listing.boundSites.map Prod.fst = listing.bindables :=
  map_fst_sites listing.resources 0

theorem Listing.boundSites_nodup (listing : Listing) : listing.boundSites.Nodup := by
  have positions : (listing.resources.zipIdx.map Prod.snd).Nodup := by
    rw [List.zipIdx_map_snd]
    exact List.nodup_range'
  exact (List.Nodup.of_map _ positions).sublist List.filter_sublist

theorem Listing.boundSites_getElem?_countP {listing : Listing} {before after : List Resource}
    {resource : Resource} (declared : listing.resources = before ++ resource :: after)
    (bindable : resource.isBindable) :
    listing.boundSites[before.countP (·.isBindable)]? = some (resource, before.length) := by
  have places : (before.zipIdx.filter (·.1.isBindable)).length =
      before.countP (·.isBindable) := by
    rw [← List.length_map Prod.fst, map_fst_sites, List.countP_eq_length_filter]
  rw [boundSites, declared, List.zipIdx_append, List.filter_append, List.zipIdx_cons,
    Nat.zero_add, List.filter_cons, if_pos bindable, ← places,
    List.getElem?_append_right (Nat.le_refl _), Nat.sub_self]
  rfl

/-- A resource stands at place `k` among the bindable ones exactly when `k` of them are declared
before it. -/
theorem Listing.boundSites_getElem? (listing : Listing) (k position : Nat) (resource : Resource) :
    listing.boundSites[k]? = some (resource, position) ↔
      listing.resources[position]? = some resource ∧ resource.isBindable ∧
        bindablesBefore listing.resources position = k := by
  have placed (declared : listing.resources[position]? = some resource)
      (bindable : resource.isBindable) :
      listing.boundSites[bindablesBefore listing.resources position]? =
        some (resource, position) := by
    obtain ⟨inside, found⟩ := List.getElem?_eq_some_iff.mp declared
    have split : listing.resources = listing.resources.take position ++
        resource :: listing.resources.drop (position + 1) := by
      rw [← found, List.getElem_cons_drop, List.take_append_drop]
    have site := Listing.boundSites_getElem?_countP split bindable
    rw [List.length_take, Nat.min_eq_left (Nat.le_of_lt inside)] at site
    exact site
  constructor
  · intro site
    obtain ⟨known, bindable⟩ := List.mem_filter.mp (List.mem_of_getElem? site)
    have declared := List.mk_mem_zipIdx_iff_getElem?.mp known
    refine ⟨declared, bindable, ?_⟩
    have own := placed declared bindable
    exact (List.getElem?_inj (List.getElem?_eq_some_iff.mp own).1 listing.boundSites_nodup).mp
      (own.trans site.symm)
  · rintro ⟨declared, bindable, rfl⟩
    exact placed declared bindable

theorem Listing.bindablesBefore_lt {listing : Listing} {position : Nat} {resource : Resource}
    (declared : listing.resources[position]? = some resource) (bindable : resource.isBindable) :
    bindablesBefore listing.resources position < listing.bindables.length := by
  have site := (listing.boundSites_getElem? _ position resource).mpr ⟨declared, bindable, rfl⟩
  rw [← listing.boundSites_map_fst, List.length_map]
  exact (List.getElem?_eq_some_iff.mp site).1

def Listing.membersAt (listing : Listing) (k : Nat) : List Member :=
  listing.members.filter fun member =>
    member.used && listing.boundSites[k]?.any (·.2 == member.parent)

/-- Members keep their block: the parent's new place is `k` exactly for the members of the resource
that moved there. -/
theorem Listing.membersAt_eq (listing : Listing) (k : Nat) :
    listing.membersAt k =
      listing.blockMembers.filter fun member =>
        bindablesBefore listing.resources member.parent == k := by
  rw [membersAt, blockMembers, List.filter_filter]
  refine List.filter_congr fun member _ => ?_
  rw [Member.isOfBlock, Bool.eq_iff_iff]
  simp only [Bool.and_eq_true, beq_iff_eq, Option.any_eq_true]
  constructor
  · rintro ⟨used, ⟨resource, position⟩, site, rfl⟩
    obtain ⟨declared, bindable, count⟩ := (listing.boundSites_getElem? _ _ _).mp site
    exact ⟨count, used, resource, declared, bindable⟩
  · rintro ⟨count, used, resource, declared, bindable⟩
    exact ⟨used, (resource, member.parent),
      (listing.boundSites_getElem? _ _ _).mpr ⟨declared, bindable, count⟩, rfl⟩

end Declared

private theorem range_flatMap_filter_perm {α : Type} (value : α → Nat) (list : List α) (n : Nat) :
    ((List.range n).flatMap fun k => list.filter (value · == k)).Perm
      (list.filter (value · < n)) := by
  induction n with
  | zero => simp
  | succ n ih =>
    have below : list.filter (fun a => decide (value a < n) && decide (value a < n + 1)) =
        list.filter (value · < n) :=
      List.filter_congr fun a _ => by rw [← Bool.decide_and]; exact decide_eq_decide.mpr (by omega)
    have last : list.filter (fun a => !decide (value a < n) && decide (value a < n + 1)) =
        list.filter (value · == n) :=
      List.filter_congr fun a _ => by rw [Bool.eq_iff_iff]; simp; omega
    have split := List.filter_append_perm (value · < n) (list.filter (value · < n + 1))
    rw [List.filter_filter, List.filter_filter, below, last] at split
    rw [List.range_succ, List.flatMap_append, List.flatMap_singleton]
    exact (ih.append_right _).trans split

namespace Reflection

variable {reflection : Reflection} {stage : Stage} {listing : Declared.Listing}

/-- The queries of a reflection answer for a listing. A name finds the first bindable resource that
has it, at its place among these. The members at a place are those declared for the resource that
moved there, and together these lists are all members. -/
structure AnswersFor (reflection : Reflection) (stage : Stage) (listing : Declared.Listing) :
    Prop where
  absent : ∀ name, reflection.findResource? name = none ↔
    ∀ resource ∈ listing.resources, resource.isBindable → resource.name ≠ name
  first : ∀ before resource after, listing.resources = before ++ resource :: after →
    resource.isBindable →
    (∀ earlier ∈ before, earlier.isBindable → earlier.name ≠ resource.name) →
    ∃ bound,
      reflection.findResource? resource.name = some (bound, before.countP (·.isBindable)) ∧
      reflection.resources[before.countP (·.isBindable)]? = some bound ∧
      reflection.DescribesResource stage resource bound
  sites : List.Forall₂ (fun site bound => reflection.DescribesResource stage site.1 bound)
    listing.boundSites reflection.resources
  members : ∀ k, List.Forall₂ (reflection.DescribesMember listing.resources)
    (listing.membersAt k) (reflection.membersOf k)
  beyond : ∀ k, reflection.resources.length ≤ k → reflection.membersOf k = []
  parts : ((List.range reflection.resources.length).flatMap reflection.membersOf).Perm
    reflection.members

namespace Represents

theorem map_name_resources (h : reflection.Represents stage listing) :
    reflection.resources.map (fun bound => reflection.name bound.name) =
      listing.bindables.map (·.name) := by
  rw [← List.forall₂_eq_eq_eq, List.forall₂_map_left_iff, List.forall₂_map_right_iff]
  exact (h.resources.imp fun _ _ described => described.name).flip

theorem findResource?_eq_none_iff (h : reflection.Represents stage listing) (name : String) :
    reflection.findResource? name = none ↔
      ∀ resource ∈ listing.resources, resource.isBindable → resource.name ≠ name := by
  have names := h.map_name_resources
  rw [findResource?, List.find?_eq_none]
  constructor
  · intro absent resource declared bindable same
    have kept : resource.name ∈ listing.bindables.map (·.name) :=
      List.mem_map_of_mem (List.mem_filter.mpr ⟨declared, bindable⟩)
    rw [← names] at kept
    obtain ⟨bound, found, own⟩ := List.mem_map.mp kept
    obtain ⟨i, site⟩ := List.getElem?_of_mem found
    exact absent (bound, i) (List.mk_mem_zipIdx_iff_getElem?.mpr site)
      (beq_iff_eq.mpr (own.trans same))
  · rintro absent ⟨bound, i⟩ site same
    have found : reflection.name bound.name ∈ listing.bindables.map (·.name) :=
      names ▸ List.mem_map_of_mem (List.fst_mem_of_mem_zipIdx site)
    obtain ⟨resource, kept, own⟩ := List.mem_map.mp found
    obtain ⟨declared, bindable⟩ := List.mem_filter.mp kept
    exact absent resource declared bindable (own.trans (beq_iff_eq.mp same))

theorem findResource?_eq_first (h : reflection.Represents stage listing)
    {before after : List Declared.Resource} {resource : Declared.Resource}
    (declared : listing.resources = before ++ resource :: after) (bindable : resource.isBindable)
    (first : ∀ earlier ∈ before, earlier.isBindable → earlier.name ≠ resource.name) :
    ∃ bound,
      reflection.findResource? resource.name = some (bound, before.countP (·.isBindable)) ∧
      reflection.resources[before.countP (·.isBindable)]? = some bound ∧
      reflection.DescribesResource stage resource bound := by
  have described := h.resources
  have split : listing.bindables =
      before.filter (·.isBindable) ++ resource :: after.filter (·.isBindable) := by
    rw [Declared.Listing.bindables, declared, List.filter_append,
      List.filter_cons_of_pos bindable]
  have others : ∀ earlier ∈ before.filter (·.isBindable), earlier.name ≠ resource.name :=
    fun earlier kept => first earlier (List.mem_of_mem_filter kept) (List.of_mem_filter kept)
  rw [List.countP_eq_length_filter]
  rw [split] at described
  generalize before.filter (·.isBindable) = front at *
  generalize after.filter (·.isBindable) = back at *
  have hk : front.length < (front ++ resource :: back).length := by simp
  have hr : front.length < reflection.resources.length := described.length_eq ▸ hk
  have own : reflection.DescribesResource stage resource reflection.resources[front.length] := by
    simpa using described.get hk hr
  refine ⟨_, ?_, List.getElem?_eq_getElem hr, own⟩
  rw [findResource?, List.find?_eq_some_iff_getElem]
  refine ⟨beq_iff_eq.mpr own.name, front.length, by simpa using hr, by simp, ?_⟩
  -- Every place before this one holds a resource declared before, under another name.
  intro j hj
  have hf : j < (front ++ resource :: back).length := Nat.lt_trans hj hk
  have earlier := (described.get hf (Nat.lt_trans hj hr)).name
  rw [List.get_eq_getElem, List.get_eq_getElem, List.getElem_append_left hj] at earlier
  have other := others _ (List.getElem_mem hj)
  rw [← earlier] at other
  simpa using other

theorem forall₂_membersOf (h : reflection.Represents stage listing) (k : Nat) :
    List.Forall₂ (reflection.DescribesMember listing.resources) (listing.membersAt k)
      (reflection.membersOf k) := by
  rw [listing.membersAt_eq, membersOf]
  refine List.rel_filter ?_ h.members
  intro member kept described
  dsimp only
  rw [described.parent]

theorem parent_lt (h : reflection.Represents stage listing) {kept : BlockVariable}
    (found : kept ∈ reflection.members) : kept.parent < reflection.resources.length := by
  obtain ⟨i, hi, rfl⟩ := List.getElem_of_mem found
  have hb : i < listing.blockMembers.length := h.members.length_eq ▸ hi
  have moved := (h.members.get hb hi).parent
  rw [List.get_eq_getElem, List.get_eq_getElem] at moved
  have block := List.of_mem_filter (List.getElem_mem hb)
  rw [Declared.Member.isOfBlock, Bool.and_eq_true, Option.any_eq_true] at block
  obtain ⟨_, resource, declared, bindable⟩ := block
  rw [moved, ← h.resources.length_eq]
  exact Declared.Listing.bindablesBefore_lt declared bindable

theorem membersOf_beyond (h : reflection.Represents stage listing) {k : Nat}
    (beyond : reflection.resources.length ≤ k) : reflection.membersOf k = [] := by
  refine List.filter_eq_nil_iff.mpr fun kept found same => ?_
  have below := h.parent_lt found
  rw [beq_iff_eq.mp same] at below
  exact absurd below (Nat.not_lt.mpr beyond)

theorem membersOf_perm (h : reflection.Represents stage listing) :
    ((List.range reflection.resources.length).flatMap reflection.membersOf).Perm
      reflection.members := by
  have parts := range_flatMap_filter_perm (·.parent) reflection.members
    reflection.resources.length
  have all : reflection.members.filter (·.parent < reflection.resources.length) =
      reflection.members :=
    List.filter_eq_self.mpr fun _ found => decide_eq_true (h.parent_lt found)
  rw [all] at parts
  exact parts

theorem answersFor (h : reflection.Represents stage listing) :
    reflection.AnswersFor stage listing where
  absent := h.findResource?_eq_none_iff
  first _ _ _ declared bindable first := h.findResource?_eq_first declared bindable first
  sites := by
    have resources := h.resources
    rw [← listing.boundSites_map_fst, List.forall₂_map_left_iff] at resources
    exact resources
  members := h.forall₂_membersOf
  beyond _ := h.membersOf_beyond
  parts := h.membersOf_perm

end Represents

end Reflection

namespace Compaction

/-- The queries of a reflection answer for the listing that it was compacted from, through the
moved positions and the name pool. -/
theorem compact_queries {stage : Stage} {reader : Reader} {reflection : Reflection}
    (done : (compact stage reader).outcome = .ok reflection) :
    ∃ listing, reader.listing = .ok listing ∧ reflection.AnswersFor stage listing := by
  obtain ⟨listing, listed, fits, workgroupSize, controlPoints, _, _, rfl⟩ :=
    compact_eq_ok_iff.mp done
  exact ⟨listing, listed, (assemble_represents workgroupSize controlPoints fits).answersFor⟩

theorem compact_queries_sample :
    (compact .vertex sampleReader).outcome = .ok sampleReflection ∧
      sampleReflection.AnswersFor .vertex sampleListing := by
  obtain ⟨listing, listed, answers⟩ := compact_queries compact_sample
  cases listed
  exact ⟨compact_sample, answers⟩

end Compaction

end ShaderInterface
