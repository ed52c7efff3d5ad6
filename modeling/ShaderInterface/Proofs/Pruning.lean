import ShaderInterface.Proofs.FailureOrder

/-! Listings without what a stage drops. Whatever a stage does not keep may be deleted, the parents
of the members that stay renumbered and every id exchanged: the reflection is the same, and so is
the log except for the messages about what was dropped. -/
namespace ShaderInterface

private theorem take_filter_countP {α : Type} (p : α → Bool) (list : List α) (n : Nat) :
    (list.filter p).take ((list.take n).countP p) = (list.take n).filter p := by
  have split : list.filter p = (list.take n).filter p ++ (list.drop n).filter p := by
    rw [← List.filter_append, List.take_append_drop]
  rw [split, List.countP_eq_length_filter, List.take_left]

private theorem getElem?_filter_countP {α : Type} {p : α → Bool} {list : List α} {i : Nat} {a : α}
    (here : list[i]? = some a) (kept : p a) :
    (list.filter p)[(list.take i).countP p]? = some a := by
  obtain ⟨inside, rfl⟩ := List.getElem?_eq_some_iff.mp here
  have split : list.filter p =
      (list.take i).filter p ++ list[i] :: (list.drop (i + 1)).filter p := by
    rw [← List.filter_cons_of_pos kept, ← List.filter_append, List.getElem_cons_drop,
      List.take_append_drop]
  rw [split, List.countP_eq_length_filter, List.getElem?_append_right (Nat.le_refl _),
    Nat.sub_self]
  rfl

namespace Declared

def Resource.withoutIds (resource : Resource) : Resource := { resource with ids := ⟨0, 0, 0⟩ }

def Member.withoutIds (member : Member) : Member :=
  { member with typeId := 0, parentIds := ⟨0, 0, 0⟩ }

def keptBefore (stage : Stage) (resources : List Resource) (position : Nat) : Nat :=
  (resources.take position).countP (·.isKept stage)

/-- The member under the position to which its parent moves when only the resources that a stage
keeps are left. -/
def Member.moved (stage : Stage) (resources : List Resource) (member : Member) : Member :=
  { member with parent := keptBefore stage resources member.parent }

namespace Listing

def withoutIds (listing : Listing) : Listing :=
  { listing with
    resources := listing.resources.map (·.withoutIds)
    members := listing.members.map (·.withoutIds) }

/-- The listing without the resources that a stage drops, and without the members that are unused,
have no parent in the list, or have one that is dropped or a stage input. The parents of the others
are looked for at their new positions. -/
def prune (stage : Stage) (listing : Listing) : Listing :=
  { listing with
    resources := listing.resources.filter fun resource => resource.dropReason? stage = none
    members := (listing.members.filter fun member =>
      member.used ∧ ∃ parent, listing.resources[member.parent]? = some parent ∧
        parent.dropReason? stage = none ∧ parent.kind ≠ .stageInput).map
      (·.moved stage listing.resources) }

end Listing

section withoutIds

variable (resources : List Resource)

theorem bindablesBefore_withoutIds (position : Nat) :
    bindablesBefore (resources.map (·.withoutIds)) position =
      bindablesBefore resources position := by
  rw [bindablesBefore, ← List.map_take, List.countP_map]
  rfl

theorem Member.isOfBlock_withoutIds (member : Member) :
    member.withoutIds.isOfBlock (resources.map (·.withoutIds)) = member.isOfBlock resources := by
  rw [isOfBlock, isOfBlock, List.getElem?_map, Option.any_map]
  rfl

variable (listing : Listing)

theorem Listing.attributes_withoutIds (stage : Stage) :
    listing.withoutIds.attributes stage = (listing.attributes stage).map (·.withoutIds) := by
  rw [attributes, attributes, withoutIds, List.filter_map]
  split
  · rfl
  · rfl

theorem Listing.bindables_withoutIds :
    listing.withoutIds.bindables = listing.bindables.map (·.withoutIds) :=
  List.filter_map

theorem Listing.blockMembers_withoutIds :
    listing.withoutIds.blockMembers = listing.blockMembers.map (·.withoutIds) := by
  rw [blockMembers, withoutIds, List.filter_map, blockMembers]
  congr 1
  exact List.filter_congr fun member _ => Member.isOfBlock_withoutIds listing.resources member

end withoutIds

section prune

variable {stage : Stage}

theorem Resource.isKept_eq (resource : Resource) :
    resource.isKept stage =
      (resource.isBindable || (decide (stage = .vertex) && resource.isAttribute)) := by
  obtain ⟨name, ids, kind, dimension, access, format, set, binding, size, used⟩ := resource
  cases kind <;> cases used <;> cases stage <;> rfl

theorem Resource.isBindable_and_isKept (resource : Resource) :
    (resource.isBindable && resource.isKept stage) = resource.isBindable := by
  rw [isKept_eq]
  cases resource.isBindable <;> rfl

theorem bindablesBefore_filter_isKept (resources : List Resource) (position : Nat) :
    bindablesBefore (resources.filter (·.isKept stage)) (keptBefore stage resources position) =
      bindablesBefore resources position := by
  rw [bindablesBefore, keptBefore, take_filter_countP, List.countP_filter]
  simp only [Resource.isBindable_and_isKept]
  rfl

variable (stage) (listing : Listing)

theorem Listing.prune_resources :
    (listing.prune stage).resources = listing.resources.filter (·.isKept stage) := by
  refine List.filter_congr fun resource _ => ?_
  rw [Resource.isKept, Bool.eq_iff_iff, decide_eq_true_iff, Option.isNone_iff_eq_none]

theorem Listing.prune_members :
    (listing.prune stage).members =
      listing.blockMembers.map (·.moved stage listing.resources) := by
  refine congrArg _ (List.filter_congr fun member _ => ?_)
  rw [← Member.isKept_eq_isOfBlock stage, Member.isKept, Bool.eq_iff_iff]
  cases listing.resources[member.parent]? with
  | none => simp
  | some parent => simp [Resource.isBound, Resource.isKept, Resource.isStageInput, and_comm]

theorem Listing.attributes_prune :
    (listing.prune stage).attributes stage = listing.attributes stage := by
  rw [attributes, attributes, prune_resources, List.filter_filter]
  split
  · refine List.filter_congr fun resource _ => ?_
    rw [Resource.isKept_eq]
    simp_all
  · rfl

theorem Listing.bindables_prune : (listing.prune stage).bindables = listing.bindables := by
  rw [bindables, prune_resources, List.filter_filter]
  simp only [Resource.isBindable_and_isKept]
  rfl

theorem Listing.blockMembers_prune :
    (listing.prune stage).blockMembers =
      listing.blockMembers.map (·.moved stage listing.resources) := by
  rw [blockMembers, prune_members, List.filter_eq_self]
  intro moved found
  obtain ⟨member, kept, rfl⟩ := List.mem_map.mp found
  have block := List.of_mem_filter kept
  rw [Member.isOfBlock, Bool.and_eq_true, Option.any_eq_true] at block
  obtain ⟨used, parent, here, bindable⟩ := block
  have stays : parent.isKept stage := by
    rw [Resource.isKept_eq, bindable, Bool.true_or]
  -- At its new position the member finds the parent that it had.
  rw [Member.isOfBlock, prune_resources]
  simp only [Member.moved, keptBefore]
  rw [getElem?_filter_countP here stays, used, Option.any_some, bindable]
  rfl

end prune

end Declared

namespace Packing

theorem layout_withoutIds (stage : Stage) (listing : Declared.Listing) :
    layout stage listing.withoutIds = layout stage listing := by
  have attributes := listing.attributes_withoutIds stage
  have bindables := listing.bindables_withoutIds
  have members := listing.blockMembers_withoutIds
  simp only [layout, Declared.Listing.keptNames, inputRecords, resourceRecords, memberRecords,
    inputStart, resourceStart, memberStart, attributes, bindables, members, List.map_map,
    List.zipWith_map_left]
  simp only [Declared.Listing.withoutIds, Declared.Member.withoutIds,
    Declared.bindablesBefore_withoutIds]
  rfl

theorem layout_prune (stage : Stage) (listing : Declared.Listing) :
    layout stage (listing.prune stage) = layout stage listing := by
  have attributes := listing.attributes_prune stage
  have bindables := listing.bindables_prune stage
  have members := listing.blockMembers_prune stage
  simp only [layout, Declared.Listing.keptNames, memberRecords,
    inputStart, resourceStart, memberStart, attributes, bindables, members, List.map_map,
    List.zipWith_map_left]
  simp only [Declared.Listing.prune_resources, Declared.Member.moved,
    Declared.bindablesBefore_filter_isKept]
  rfl

/-- Listings that differ in their ids, after one has been pruned, are packed alike. -/
theorem layout_of_pruned {stage : Stage} {listing pruned : Declared.Listing}
    (alike : pruned.withoutIds = (listing.prune stage).withoutIds) :
    layout stage pruned = layout stage listing := by
  rw [← layout_withoutIds stage pruned, alike, layout_withoutIds, layout_prune]

end Packing

namespace Compaction

variable {stage : Stage}

theorem dropMessages_withoutIds (listing : Declared.Listing) :
    dropMessages stage listing.withoutIds = dropMessages stage listing :=
  List.filterMap_map

theorem dropMessages_prune (listing : Declared.Listing) :
    dropMessages stage (listing.prune stage) = [] := by
  rw [dropMessages, List.filterMap_eq_nil_iff]
  intro resource kept
  rw [Declared.Listing.prune, List.mem_filter, decide_eq_true_iff] at kept
  rw [dropMessage?, kept.2]
  rfl

theorem dropMessages_of_pruned {listing pruned : Declared.Listing}
    (alike : pruned.withoutIds = (listing.prune stage).withoutIds) :
    dropMessages stage pruned = [] := by
  rw [← dropMessages_withoutIds, alike, dropMessages_withoutIds, dropMessages_prune]

theorem atLeast_debug_dropMessages (listing : Declared.Listing) :
    Message.atLeast .debug (dropMessages stage listing) = [] := by
  refine List.filter_eq_nil_iff.mpr fun message dropped => ?_
  rw [dropMessages_severity dropped]
  decide

/-- What a stage drops leaves no trace in its reflection: without it, under new positions and under
any ids, the rest is compacted to the same outcome. Only the log tells of what was dropped. -/
theorem compact_prune (stage : Stage) {reader other : Reader} {listing pruned : Declared.Listing}
    (listed : reader.listing = .ok listing) (relisted : other.listing = .ok pruned)
    (alike : pruned.withoutIds = (listing.prune stage).withoutIds)
    (workgroup : other.workgroupSizeAt stage = reader.workgroupSizeAt stage)
    (points : other.controlPointsAt stage = reader.controlPointsAt stage) :
    (compact stage other).outcome = (compact stage reader).outcome ∧
      (compact stage other).messages =
        Message.atLeast .debug (compact stage reader).messages := by
  have layouts := Packing.layout_of_pruned alike
  have sizes : (Sizes.measure stage pruned).poolSize = (Sizes.measure stage listing).poolSize := by
    rw [← layout_pool_size_eq_measure, layouts, layout_pool_size_eq_measure]
  have entryPoint : pruned.entryPoint = listing.entryPoint := congrArg (·.entryPoint) alike
  rw [compact_of_listing stage listed, compact_of_listing stage relisted]
  by_cases fits : (Sizes.measure stage listing).poolSize < UInt32.size
  · rw [compactListing_of_fits reader fits, compactListing_of_fits other (sizes ▸ fits),
      dropMessages_of_pruned alike, layouts, entryPoint, finish_congr workgroup points]
    cases finish stage reader (Packing.layout stage listing) with
    | error fault => exact ⟨rfl, (atLeast_debug_dropMessages listing).symm⟩
    | ok reflection =>
      refine ⟨rfl, ?_⟩
      rw [Message.atLeast_append, atLeast_debug_dropMessages]
      rfl
  · rw [compactListing_of_too_large reader fits,
      compactListing_of_too_large other (sizes ▸ fits), sizes]
    exact ⟨rfl, rfl⟩

def prunedSample : Declared.Listing :=
  let resource (name : String) (kind : Declared.Kind) : Declared.Resource :=
    { sampleResource name kind true with ids := ⟨7, 8, 9⟩ }
  let member (name : String) (parent : Nat) : Declared.Member :=
    { sampleMember name parent true with typeId := 4, parentIds := ⟨7, 8, 9⟩ }
  { entryPoint := "main"
    resources :=
      [resource "position" .stageInput, resource "camera" .uniformBuffer,
       resource "émail" .texture]
    members := [member "view" 1, member "" 2, member "a\x00b" 1] }

theorem compact_prune_sample :
    prunedSample.withoutIds = (sampleListing.prune .vertex).withoutIds ∧
      (compact .vertex sampleReader).messages.length = 4 ∧
      (compact .vertex { sampleReader with
        resources := .ok prunedSample.resources
        members := .ok prunedSample.members }).outcome = .ok sampleReflection ∧
      (compact .vertex { sampleReader with
        resources := .ok prunedSample.resources
        members := .ok prunedSample.members }).messages.length = 1 := by
  have alike : prunedSample.withoutIds = (sampleListing.prune .vertex).withoutIds := by decide
  obtain ⟨outcome, messages⟩ := compact_prune .vertex
    (show sampleReader.listing = .ok sampleListing from rfl)
    (show Reader.listing { sampleReader with
      resources := .ok prunedSample.resources
      members := .ok prunedSample.members } = .ok prunedSample from rfl) alike rfl rfl
  exact ⟨alike, by decide, outcome.trans compact_sample, by rw [messages]; decide⟩

end Compaction

end ShaderInterface
