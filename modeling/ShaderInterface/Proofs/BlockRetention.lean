import ShaderInterface.Proofs.IdCoherence
import ShaderInterface.Proofs.ResourceQueries
import Mathlib.Algebra.Ring.Nat

/-! Blocks keep all their members. A reading lists members under blocks only and marks them used
with their block, so that compaction, which drops members one by one, drops them with their block or
not at all. What is kept of the members does not depend on the stage. -/
namespace ShaderInterface

namespace Declared

/-- Every member stands under a block and is used if its block is. -/
def Listing.FollowBlocks (listing : Listing) : Prop :=
  ∀ member ∈ listing.members, ∃ resource, listing.resources[member.parent]? = some resource ∧
    resource.kind.isBlock = true ∧ member.used = resource.used

variable {listing : Listing} {resource : Resource} {position : Nat}

theorem Resource.isBindable_of_isBlock (block : resource.kind.isBlock = true) :
    resource.isBindable = resource.used := by
  have noInput : resource.kind ≠ .stageInput := by
    intro same
    rw [same] at block
    cases block
  have noOutput : resource.kind ≠ .stageOutput := by
    intro same
    rw [same] at block
    cases block
  rw [isBindable, bne_iff_ne.mpr noInput, bne_iff_ne.mpr noOutput, Bool.and_true, Bool.and_true]

theorem Resource.used_of_isBindable (bindable : resource.isBindable = true) :
    resource.used = true := by
  rw [isBindable, Bool.and_eq_true, Bool.and_eq_true] at bindable
  exact bindable.1.1

/-- Only blocks take one of the descriptors of blocks. -/
theorem Resource.isBlock_iff_descriptor : resource.kind.isBlock = true ↔
    resource.kind.descriptor ∈ [.uniformBuffer, .rwBuffer, .rootConstant] := by
  cases resource.kind <;> decide

theorem Listing.FollowBlocks.used_of_bindable (h : listing.FollowBlocks)
    (here : listing.resources[position]? = some resource) (bindable : resource.isBindable = true)
    {member : Member} (mem : member ∈ listing.members) (under : member.parent = position) :
    member.used = true := by
  obtain ⟨parent, own, _, used⟩ := h member mem
  rw [under, here] at own
  rw [used, ← Option.some.inj own, Resource.used_of_isBindable bindable]

theorem Listing.FollowBlocks.membersAt_eq (h : listing.FollowBlocks)
    (here : listing.resources[position]? = some resource) (bindable : resource.isBindable = true) :
    listing.membersAt (bindablesBefore listing.resources position) =
      listing.members.filter (·.parent == position) := by
  have site := (listing.boundSites_getElem? _ position resource).mpr ⟨here, bindable, rfl⟩
  rw [Listing.membersAt, site]
  refine List.filter_congr fun member mem => ?_
  rw [Option.any_some, Bool.beq_comm]
  by_cases under : member.parent = position
  · rw [h.used_of_bindable here bindable mem under, Bool.true_and]
  · rw [beq_eq_false_iff_ne.mpr under, Bool.and_false]

theorem Listing.FollowBlocks.filter_eq_nil (h : listing.FollowBlocks)
    (here : listing.resources[position]? = some resource) (other : resource.kind.isBlock = false) :
    listing.members.filter (·.parent == position) = [] := by
  rw [List.filter_eq_nil_iff]
  intro member mem under
  obtain ⟨parent, own, block, _⟩ := h member mem
  rw [beq_iff_eq.mp under, here] at own
  rw [Option.some.inj own, block] at other
  cases other

/-- The members that are kept are those that stand under a bindable resource. -/
theorem Listing.FollowBlocks.blockMembers_eq (h : listing.FollowBlocks) :
    listing.blockMembers =
      listing.members.filter fun member =>
        listing.resources[member.parent]?.any (·.isBindable) := by
  refine List.filter_congr fun member mem => ?_
  rw [Member.isOfBlock]
  obtain ⟨parent, own, block, used⟩ := h member mem
  rw [own, Option.any_some, Resource.isBindable_of_isBlock block, used, Bool.and_self]

end Declared

namespace Reflection

variable {reflection : Reflection} {stage : Stage} {listing : Declared.Listing}

def memberData (reflection : Reflection) (kept : BlockVariable) : String × UInt32 × UInt32 :=
  (reflection.name kept.name, kept.offset, kept.size)

/-- The blocks of a listing are kept whole or not at all. A bound resource has all the members that
stand under its declaration, in order, and no member of a dropped resource is kept. -/
structure KeepsBlocks (reflection : Reflection) (stage : Stage) (listing : Declared.Listing) :
    Prop where
  whole : ∀ (position : Nat) (resource : Declared.Resource),
    listing.resources[position]? = some resource → resource.isBindable = true →
      ∃ bound,
        reflection.resources[Declared.bindablesBefore listing.resources position]? = some bound ∧
        reflection.DescribesResource stage resource bound ∧
        (reflection.membersOf (Declared.bindablesBefore listing.resources position)).map
            reflection.memberData =
          (listing.members.filter (·.parent == position)).map fun m => (m.name, m.offset, m.size)
  declared : ∀ (k : Nat) (bound : BoundResource), reflection.resources[k]? = some bound →
    ∃ position resource, listing.resources[position]? = some resource ∧
      resource.isBindable = true ∧ Declared.bindablesBefore listing.resources position = k
  blocks : ∀ (k : Nat) (bound : BoundResource), reflection.resources[k]? = some bound →
    bound.descriptor ∉ [DescriptorType.uniformBuffer, .rwBuffer, .rootConstant] →
      reflection.membersOf k = []
  members : reflection.members.map reflection.memberData =
    (listing.members.filter fun member =>
      listing.resources[member.parent]?.any (·.isBindable)).map fun m => (m.name, m.offset, m.size)
  count : reflection.members.length =
    ((listing.resources.zipIdx.filter fun site => site.1.used && site.1.kind.isBlock).map
      fun site => (listing.members.filter (·.parent == site.2)).length).sum

private theorem map_memberData {members : List Declared.Member} {kept : List BlockVariable}
    {resources : List Declared.Resource}
    (described : List.Forall₂ (reflection.DescribesMember resources) members kept) :
    kept.map reflection.memberData = members.map fun m => (m.name, m.offset, m.size) := by
  rw [← List.forall₂_eq_eq_eq, List.forall₂_map_left_iff, List.forall₂_map_right_iff]
  refine (described.imp fun _ _ same => ?_).flip
  exact Prod.ext same.name (Prod.ext same.offset same.size)

private theorem sum_map_filter_congr {α : Type} {value : α → Nat} {select other : α → Bool}
    {list : List α} (apart : ∀ a ∈ list, select a ≠ other a → value a = 0) :
    ((list.filter select).map value).sum = ((list.filter other).map value).sum := by
  induction list with
  | nil => rfl
  | cons a rest ih =>
    have tail := ih fun b mem => apart b (List.mem_cons_of_mem a mem)
    have head := apart a List.mem_cons_self
    rw [List.filter_cons, List.filter_cons]
    cases first : select a <;> cases second : other a <;> simp_all

namespace Represents

section Sites

variable (h : reflection.Represents stage listing) {k position : Nat}
  {resource : Declared.Resource} {bound : BoundResource}
include h

private theorem exists_bound (site : listing.boundSites[k]? = some (resource, position)) :
    ∃ bound, reflection.resources[k]? = some bound ∧
      reflection.DescribesResource stage resource bound := by
  obtain ⟨inside, own⟩ := List.getElem?_eq_some_iff.mp site
  have found := h.answersFor.sites.length_eq ▸ inside
  have described := h.answersFor.sites.get inside found
  rw [List.get_eq_getElem, own] at described
  exact ⟨_, List.getElem?_eq_getElem found, described⟩

private theorem exists_site (found : reflection.resources[k]? = some bound) :
    ∃ position resource, listing.boundSites[k]? = some (resource, position) ∧
      reflection.DescribesResource stage resource bound := by
  obtain ⟨inside, rfl⟩ := List.getElem?_eq_some_iff.mp found
  have site := h.answersFor.sites.length_eq ▸ inside
  exact ⟨_, _, List.getElem?_eq_getElem site, h.answersFor.sites.get site inside⟩

end Sites

variable (h : reflection.Represents stage listing) (follow : listing.FollowBlocks)
include h follow

private theorem length_membersOf {k position : Nat} {resource : Declared.Resource}
    (site : listing.boundSites[k]? = some (resource, position)) :
    (reflection.membersOf k).length = (listing.members.filter (·.parent == position)).length := by
  obtain ⟨here, bindable, rfl⟩ := (listing.boundSites_getElem? k position resource).mp site
  rw [← follow.membersAt_eq here bindable]
  exact (h.forall₂_membersOf _).length_eq.symm

private theorem length_members_eq_sum : reflection.members.length =
    (listing.boundSites.map fun site =>
      (listing.members.filter (·.parent == site.2)).length).sum := by
  have places : listing.boundSites.length = reflection.resources.length :=
    h.answersFor.sites.length_eq
  rw [← h.membersOf_perm.length_eq, List.length_flatMap]
  congr 1
  refine List.ext_getElem (by simp [places]) fun k inside _ => ?_
  rw [List.length_map, List.length_range, ← places] at inside
  rw [List.getElem_map, List.getElem_range, List.getElem_map]
  exact h.length_membersOf follow (List.getElem?_eq_getElem inside)

theorem keepsBlocks : reflection.KeepsBlocks stage listing where
  whole position resource here bindable := by
    have site := (listing.boundSites_getElem? _ position resource).mpr ⟨here, bindable, rfl⟩
    obtain ⟨bound, found, described⟩ := h.exists_bound site
    refine ⟨bound, found, described, ?_⟩
    rw [← follow.membersAt_eq here bindable]
    exact map_memberData (h.forall₂_membersOf _)
  declared k bound found := by
    obtain ⟨position, resource, site, _⟩ := h.exists_site found
    exact ⟨position, resource, (listing.boundSites_getElem? k position resource).mp site⟩
  blocks k bound found other := by
    obtain ⟨position, resource, site, described⟩ := h.exists_site found
    rw [described.descriptor_eq, ← Declared.Resource.isBlock_iff_descriptor,
      Bool.not_eq_true] at other
    have here := ((listing.boundSites_getElem? k position resource).mp site).1
    have length := h.length_membersOf follow site
    rw [follow.filter_eq_nil here other] at length
    exact List.length_eq_zero_iff.mp length
  members := by
    rw [← follow.blockMembers_eq]
    exact map_memberData h.members
  count := by
    rw [h.length_members_eq_sum follow, Declared.Listing.boundSites]
    -- Blocks are bindable if they are used, and nothing else has members.
    refine sum_map_filter_congr ?_
    rintro ⟨resource, position⟩ site differ
    have here := List.mk_mem_zipIdx_iff_getElem?.mp site
    cases block : resource.kind.isBlock with
    | true =>
      rw [Declared.Resource.isBindable_of_isBlock block, block, Bool.and_true] at differ
      exact absurd rfl differ
    | false => rw [follow.filter_eq_nil here block, List.length_nil]

end Represents

end Reflection

namespace Spirv

def Reading.listing (reading : Reading) : Declared.Listing :=
  ⟨reading.entryPoint, reading.resources, reading.members⟩

theorem followBlocks_of_read {resolver : Resolver} {config : Config} {words : List UInt32}
    {reading : Reading} (h : (readWith resolver config words).outcome = .ok reading) :
    reading.listing.FollowBlocks := by
  obtain ⟨outline, declared, entry, _, _, _, read⟩ := readWith_eq_ok_iff.mp h
  cases read
  intro member mem
  obtain ⟨resource, here, block, _, used⟩ :=
    (Listing.list_wellListed outline declared (usedKeys entry) entry.declared).parents member mem
  exact ⟨resource, here, block, used⟩

/-- The blocks of a reading survive its compaction whole, at every stage. -/
theorem read_keepsBlocks {resolver : Resolver} {config : Config} {words : List UInt32}
    {reading : Reading} {stage : Stage} {reflection : Reflection}
    (read : (readWith resolver config words).outcome = .ok reading)
    (done : (Compaction.compact stage reading.toReader).outcome = .ok reflection) :
    reflection.KeepsBlocks stage reading.listing := by
  obtain ⟨listing, listed, fits, workgroupSize, controlPoints, _, _, rfl⟩ :=
    Compaction.compact_eq_ok_iff.mp done
  cases listed
  exact (Compaction.assemble_represents workgroupSize controlPoints fits).keepsBlocks
    (followBlocks_of_read read)

def materialReflection : Reflection :=
  Compaction.assemble .fragment (Packing.layout .fragment materialReading.listing) .zero 0

theorem read_keepsBlocks_material :
    (readWith resolveModule .standard material).outcome = .ok materialReading ∧
      (Compaction.compact .fragment materialReading.toReader).outcome = .ok materialReflection ∧
      materialReflection.resources.map (·.descriptor) = [.uniformBuffer, .rootConstant] ∧
      (materialReflection.membersOf 0).map materialReflection.memberData =
        [("tint", 0, 16), ("gain", 16, 4)] ∧
      materialReflection.members.length = 3 := by
  have done : (Compaction.compact .fragment materialReading.toReader).outcome =
      .ok materialReflection :=
    Compaction.compact_eq_ok_iff.mpr
      ⟨materialReading.listing, rfl, by decide, .zero, 0, rfl, rfl, rfl⟩
  have keeps := read_keepsBlocks readWith_material done
  obtain ⟨_, _, _, members⟩ := keeps.whole 3 materialBlock rfl rfl
  exact ⟨readWith_material, done, rfl, members, keeps.count⟩

end Spirv

end ShaderInterface
