import ShaderInterface.Proofs.NameRun
import ShaderInterface.Proofs.Selection
import ShaderInterface.Reflection.Packing

/-! Packing in closed form: the pool spells the kept names in order, and every record points at its
own name. The three loops share one pool; each is a run of names behind those of the loop before. -/
namespace ShaderInterface.Packing
open NamePool (refsFrom totalCost cost)

def inputRecords (attributes : List Declared.Resource) (refs : List NameRef) : List VertexInput :=
  attributes.zipWith (fun resource name => ⟨name, resource.size⟩) refs

def resourceRecords (stage : Stage) (bindables : List Declared.Resource) (refs : List NameRef) :
    List BoundResource :=
  bindables.zipWith (bind stage) refs

/-- The records of block members, with the references to their names. Each parent moves to its
position among the bindable resources. -/
def memberRecords (resources : List Declared.Resource) (members : List Declared.Member)
    (refs : List NameRef) : List BlockVariable :=
  members.zipWith
    (fun member name =>
      ⟨member.offset, member.size, Declared.bindablesBefore resources member.parent, name⟩)
    refs

/-- The slots of declared resources, the first bindable one in slot `next`. -/
def slotsFrom (next : Nat) : List Declared.Resource → List (Option Nat)
  | [] => []
  | resource :: rest =>
    if resource.isBindable then some next :: slotsFrom (next + 1) rest
    else none :: slotsFrom next rest

def inputStart (listing : Declared.Listing) : Nat := cost listing.entryPoint

def resourceStart (stage : Stage) (listing : Declared.Listing) : Nat :=
  inputStart listing + totalCost ((listing.attributes stage).map (·.name))

def memberStart (stage : Stage) (listing : Declared.Listing) : Nat :=
  resourceStart stage listing + totalCost (listing.bindables.map (·.name))

/-- The packing of a listing, with every reference worked out ahead of the writing. -/
def layout (stage : Stage) (listing : Declared.Listing) : Packing :=
  { pool := NamePool.empty.extend (listing.keptNames stage)
    entryPoint := NamePool.refAt 0 listing.entryPoint
    vertexInputs := inputRecords (listing.attributes stage)
      (refsFrom (inputStart listing) ((listing.attributes stage).map (·.name)))
    resources := resourceRecords stage listing.bindables
      (refsFrom (resourceStart stage listing) (listing.bindables.map (·.name)))
    members := memberRecords listing.resources listing.blockMembers
      (refsFrom (memberStart stage listing) (listing.blockMembers.map (·.name))) }

theorem packInputs_eq (stage : Stage) (pool : NamePool) (resources : List Declared.Resource) :
    packInputs stage pool resources =
      (pool.extend ((resources.filter (·.isVertexInput stage)).map (·.name)),
       inputRecords (resources.filter (·.isVertexInput stage))
        (refsFrom pool.size ((resources.filter (·.isVertexInput stage)).map (·.name)))) := by
  induction resources generalizing pool with
  | nil =>
    rw [packInputs, List.filter_nil, List.map_nil, NamePool.extend_nil]
    rfl
  | cons resource resources ih =>
    rw [packInputs, List.filter_cons]
    split
    · rw [NamePool.push_eq]
      dsimp only
      rw [ih, NamePool.extend_extend, NamePool.size_extend]
      rfl
    · exact ih pool

theorem packResources_eq (stage : Stage) (pool : NamePool) (next : Nat)
    (resources : List Declared.Resource) :
    packResources stage pool next resources =
      (pool.extend ((resources.filter (·.isBindable)).map (·.name)),
       slotsFrom next resources,
       resourceRecords stage (resources.filter (·.isBindable))
        (refsFrom pool.size ((resources.filter (·.isBindable)).map (·.name)))) := by
  induction resources generalizing pool next with
  | nil =>
    rw [packResources, List.filter_nil, List.map_nil, NamePool.extend_nil]
    rfl
  | cons resource resources ih =>
    rw [packResources, slotsFrom, List.filter_cons, Declared.Resource.isBound_eq_isBindable]
    split
    · rw [NamePool.push_eq]
      dsimp only
      rw [ih, NamePool.extend_extend, NamePool.size_extend]
      rfl
    · rw [ih]

/-- The slots lead from the position of a bindable resource to its place among those, and from any
other position nowhere. -/
theorem slotsFrom_join (next : Nat) (resources : List Declared.Resource) (position : Nat) :
    (slotsFrom next resources)[position]?.join =
      if resources[position]?.any (·.isBindable) then
        some (next + Declared.bindablesBefore resources position) else none := by
  induction resources generalizing next position with
  | nil => rfl
  | cons resource resources ih =>
    rw [slotsFrom]
    cases position with
    | zero =>
      rw [List.getElem?_cons_zero, Option.any_some]
      split <;> rfl
    | succ position =>
      rw [List.getElem?_cons_succ, Declared.bindablesBefore_succ]
      split
      · rw [List.getElem?_cons_succ, ih, Nat.add_assoc]
      · rw [List.getElem?_cons_succ, ih, Nat.zero_add]

theorem packMembers_eq (resources : List Declared.Resource) (pool : NamePool)
    (members : List Declared.Member) :
    packMembers (slotsFrom 0 resources) pool members =
      (pool.extend ((members.filter (·.isOfBlock resources)).map (·.name)),
       memberRecords resources (members.filter (·.isOfBlock resources))
        (refsFrom pool.size ((members.filter (·.isOfBlock resources)).map (·.name)))) := by
  induction members generalizing pool with
  | nil =>
    rw [packMembers, List.filter_nil, List.map_nil, NamePool.extend_nil]
    rfl
  | cons member members ih =>
    rw [packMembers, slotsFrom_join, Nat.zero_add, ← ite_and, List.filter_cons]
    by_cases kept : member.isOfBlock resources
    · have both := kept
      rw [Declared.Member.isOfBlock, Bool.and_eq_true] at both
      rw [if_pos both, if_pos kept, NamePool.push_eq]
      dsimp only
      rw [ih, NamePool.extend_extend, NamePool.size_extend]
      rfl
    · have both := kept
      rw [Declared.Member.isOfBlock, Bool.and_eq_true] at both
      rw [if_neg both, if_neg kept]
      exact ih pool

/-- What packing writes is what the layout foretells. -/
theorem pack_eq_layout (stage : Stage) (listing : Declared.Listing) :
    pack stage listing = layout stage listing := by
  have inputs : NamePool.empty.size + totalCost [listing.entryPoint] = inputStart listing :=
    Nat.zero_add _
  rw [pack, NamePool.push_eq]
  dsimp only
  rw [packInputs_eq, Declared.Listing.filter_isVertexInput]
  dsimp only
  rw [packResources_eq]
  dsimp only
  rw [packMembers_eq]
  simp only [NamePool.extend_extend, NamePool.size_extend, NamePool.totalCost_append,
    ← Nat.add_assoc, inputs]
  rfl

theorem layout_holds (stage : Stage) (listing : Declared.Listing) :
    (layout stage listing).pool.Holds 0 (listing.keptNames stage) :=
  NamePool.Holds.of_extend NamePool.empty _

theorem layout_holds_inputs (stage : Stage) (listing : Declared.Listing) :
    (layout stage listing).pool.Holds (inputStart listing)
      ((listing.attributes stage).map (·.name)) := by
  have tail := (layout_holds stage listing).tail
  rw [Nat.zero_add] at tail
  exact tail.append_left.append_left

theorem layout_holds_resources (stage : Stage) (listing : Declared.Listing) :
    (layout stage listing).pool.Holds (resourceStart stage listing)
      (listing.bindables.map (·.name)) := by
  have tail := (layout_holds stage listing).tail
  rw [Nat.zero_add] at tail
  exact tail.append_left.append_right

theorem layout_holds_members (stage : Stage) (listing : Declared.Listing) :
    (layout stage listing).pool.Holds (memberStart stage listing)
      (listing.blockMembers.map (·.name)) := by
  have behind := (layout_holds stage listing).tail.append_right
  rw [Nat.zero_add, NamePool.totalCost_append, ← Nat.add_assoc] at behind
  exact behind

theorem layout_pool_size (stage : Stage) (listing : Declared.Listing) :
    (layout stage listing).pool.size = totalCost (listing.keptNames stage) := by
  rw [layout, NamePool.size_extend]
  exact Nat.zero_add _

private theorem length_zipWith_refsFrom {α β : Type} (nameOf : α → String)
    (record : α → NameRef → β) (start : Nat) (items : List α) :
    (items.zipWith record (refsFrom start (items.map nameOf))).length = items.length := by
  rw [List.length_zipWith, NamePool.length_refsFrom, List.length_map, Nat.min_self]

theorem layout_vertexInputs_length (stage : Stage) (listing : Declared.Listing) :
    (layout stage listing).vertexInputs.length = (listing.attributes stage).length :=
  length_zipWith_refsFrom _ _ _ _

theorem layout_resources_length (stage : Stage) (listing : Declared.Listing) :
    (layout stage listing).resources.length = listing.bindables.length :=
  length_zipWith_refsFrom _ _ _ _

theorem layout_members_length (stage : Stage) (listing : Declared.Listing) :
    (layout stage listing).members.length = listing.blockMembers.length :=
  length_zipWith_refsFrom _ _ _ _

end ShaderInterface.Packing
