import ShaderInterface.Proofs.SizeAgreement

/-! One listing at different stages. Away from the vertex stage a reflection differs only in what
names its stage; the vertex stage adds the used stage inputs, and every reference behind them moves
by the bytes of their names. -/
namespace ShaderInterface
open NamePool (refsFrom totalCost spelling)

/-- A reference to a name of the same length, a number of bytes further on. The distance is one of
natural numbers: the stored offset does not wrap around. -/
def NameRef.MovedBy (distance : Nat) (before after : NameRef) : Prop :=
  after.offset.toNat = before.offset.toNat + distance ∧ after.len = before.len

def BoundResource.MovedBy (distance : Nat) (stage : Stage) (before after : BoundResource) : Prop :=
  before.name.MovedBy distance after.name ∧
    after = { before with usedStages := .single stage, name := after.name }

def BlockVariable.MovedBy (distance : Nat) (before after : BlockVariable) : Prop :=
  before.name.MovedBy distance after.name ∧ after = { before with name := after.name }

namespace Reflection

/-- The reflection at another stage, with the answers that belong to that stage. -/
def atStage (reflection : Reflection) (stage : Stage) (workgroupSize : WorkgroupSize)
    (controlPoints : UInt32) : Reflection :=
  { reflection with
    stage, workgroupSize, controlPoints
    resources := reflection.resources.map ({ · with usedStages := .single stage }) }

/-- A vertex shader's reflection against that of the same listing at another stage: names are put in
behind the entry point's, and all that refers to what stands behind them moves by their bytes. -/
structure InsertsNames (vertex other : Reflection) (front : String) (names : List String) :
    Prop where
  entryPoint : vertex.entryPoint = other.entryPoint
  resources : List.Forall₂ (BoundResource.MovedBy (totalCost names) .vertex) other.resources
    vertex.resources
  members : List.Forall₂ (BlockVariable.MovedBy (totalCost names)) other.members vertex.members
  pool : ∃ rest, other.pool.bytes = spelling [front] ++ rest ∧
    vertex.pool.bytes = spelling [front] ++ spelling names ++ rest

end Reflection

theorem NamePool.Holds.forall₂_movedBy {pool other : NamePool} {start distance : Nat}
    {names : List String} (here : pool.Holds start names) (fits : pool.size < UInt32.size)
    (there : other.Holds (start + distance) names) (room : other.size < UInt32.size) :
    List.Forall₂ (NameRef.MovedBy distance) (refsFrom start names)
      (refsFrom (start + distance) names) := by
  induction names generalizing start with
  | nil => exact .nil
  | cons name names ih =>
    obtain ⟨offset, _⟩ := here.head.refAt_bounds fits
    obtain ⟨moved, _⟩ := there.head.refAt_bounds room
    -- Both runs go on behind the same number of bytes, which keeps them at their distance.
    have behind := there.tail
    rw [Nat.add_right_comm] at behind
    rw [refsFrom, refsFrom, Nat.add_right_comm]
    exact .cons ⟨by rw [moved, offset], rfl⟩ (ih here.tail behind)

private theorem forall₂_zipWith_of_refs {α β : Type} {R : NameRef → NameRef → Prop}
    {S : β → β → Prop} {record record' : α → NameRef → β}
    (keeps : ∀ item ref ref', R ref ref' → S (record item ref) (record' item ref'))
    {refs refs' : List NameRef} (related : List.Forall₂ R refs refs') (items : List α) :
    List.Forall₂ S (items.zipWith record refs) (items.zipWith record' refs') := by
  induction related generalizing items with
  | nil =>
    rw [List.zipWith_nil_right, List.zipWith_nil_right]
    exact .nil
  | cons head _ ih =>
    cases items with
    | nil => exact .nil
    | cons item items => exact .cons (keeps item _ _ head) (ih items)

namespace Packing

variable {stage other : Stage} (listing : Declared.Listing)

theorem attributes_of_ne_vertex (elsewhere : stage ≠ .vertex) : listing.attributes stage = [] :=
  if_neg elsewhere

theorem resourceStart_of_ne_vertex (elsewhere : stage ≠ .vertex) :
    resourceStart stage listing = inputStart listing := by
  rw [resourceStart, attributes_of_ne_vertex listing elsewhere]
  rfl

theorem resourceStart_vertex (elsewhere : stage ≠ .vertex) :
    resourceStart .vertex listing =
      resourceStart stage listing + totalCost ((listing.attributes .vertex).map (·.name)) := by
  rw [resourceStart_of_ne_vertex listing elsewhere]
  rfl

theorem memberStart_vertex (elsewhere : stage ≠ .vertex) :
    memberStart .vertex listing =
      memberStart stage listing + totalCost ((listing.attributes .vertex).map (·.name)) := by
  rw [memberStart, memberStart, resourceStart_vertex listing elsewhere, Nat.add_right_comm]

theorem layout_of_ne_vertex (here : stage ≠ .vertex) (there : other ≠ .vertex) :
    layout other listing =
      { layout stage listing with
        resources :=
          (layout stage listing).resources.map ({ · with usedStages := .single other }) } := by
  have attributes := attributes_of_ne_vertex listing here
  have others := attributes_of_ne_vertex listing there
  simp only [layout, Declared.Listing.keptNames, attributes, others, memberStart,
    resourceStart_of_ne_vertex listing here, resourceStart_of_ne_vertex listing there,
    resourceRecords, List.map_zipWith]
  rfl

theorem layout_pool_size_le (elsewhere : other ≠ .vertex) :
    (layout other listing).pool.size ≤ (layout stage listing).pool.size := by
  rw [layout_pool_size, layout_pool_size, Declared.Listing.keptNames, Declared.Listing.keptNames,
    attributes_of_ne_vertex listing elsewhere]
  simp only [totalCost, NamePool.totalCost_append, List.map_nil, List.nil_append]
  omega

theorem layout_pool_vertex (elsewhere : stage ≠ .vertex) :
    ∃ rest, (layout stage listing).pool.bytes = spelling [listing.entryPoint] ++ rest ∧
      (layout .vertex listing).pool.bytes = spelling [listing.entryPoint] ++
        spelling ((listing.attributes .vertex).map (·.name)) ++ rest := by
  refine ⟨spelling (listing.bindables.map (·.name) ++ listing.blockMembers.map (·.name)), ?_, ?_⟩
  · simp only [layout, Declared.Listing.keptNames, attributes_of_ne_vertex listing elsewhere]
    rw [← NamePool.spelling_append]
    rfl
  · rw [← NamePool.spelling_append, ← NamePool.spelling_append, List.append_assoc,
      ← List.append_assoc (List.map _ _)]
    rfl

variable (room : (layout stage listing).pool.size < UInt32.size)
  (fits : (layout .vertex listing).pool.size < UInt32.size)

include room fits

theorem layout_resources_movedBy (elsewhere : stage ≠ .vertex) :
    List.Forall₂
      (BoundResource.MovedBy (totalCost ((listing.attributes .vertex).map (·.name))) .vertex)
      (layout stage listing).resources (layout .vertex listing).resources := by
  have here := layout_holds_resources stage listing
  have there := layout_holds_resources .vertex listing
  rw [resourceStart_vertex listing elsewhere] at there
  have moved := here.forall₂_movedBy room there fits
  rw [← resourceStart_vertex listing elsewhere] at moved
  exact forall₂_zipWith_of_refs (fun _ _ _ name => ⟨name, rfl⟩) moved _

theorem layout_members_movedBy (elsewhere : stage ≠ .vertex) :
    List.Forall₂ (BlockVariable.MovedBy (totalCost ((listing.attributes .vertex).map (·.name))))
      (layout stage listing).members (layout .vertex listing).members := by
  have here := layout_holds_members stage listing
  have there := layout_holds_members .vertex listing
  rw [memberStart_vertex listing elsewhere] at there
  have moved := here.forall₂_movedBy room there fits
  rw [← memberStart_vertex listing elsewhere] at moved
  exact forall₂_zipWith_of_refs (fun _ _ _ name => ⟨name, rfl⟩) moved _

end Packing

namespace Compaction

/-- The stage changes what it should. A listing compacted at one stage is compacted at any stage but
the vertex one whose answers do not fail. Away from the vertex stage reflections differ in the
stage, in the sets of stages that use their resources, and in the answers that belong to one stage.
At the vertex stage the names of used stage inputs come in behind the entry point's, and the records
that other stages have too are as they are there, but for the distance that their names have
moved. -/
theorem compact_stage {stage other : Stage} {reader : Reader} {listing : Declared.Listing}
    {reflection : Reflection} {workgroupSize : WorkgroupSize} {controlPoints : UInt32}
    (listed : reader.listing = .ok listing)
    (done : (compact stage reader).outcome = .ok reflection) (elsewhere : other ≠ .vertex)
    (workgroup : reader.workgroupSizeAt other = .ok workgroupSize)
    (points : reader.controlPointsAt other = .ok controlPoints) :
    ∃ second, (compact other reader).outcome = .ok second ∧
      (stage ≠ .vertex → second = reflection.atStage other workgroupSize controlPoints) ∧
      (stage = .vertex →
        reflection.InsertsNames second listing.entryPoint
          ((listing.resources.filter (·.isAttribute)).map (·.name))) := by
  obtain ⟨_, same, fits, _, _, _, _, rfl⟩ := compact_eq_ok_iff.mp done
  cases listed.symm.trans same
  have room : (Packing.layout other listing).pool.size < UInt32.size :=
    Nat.lt_of_le_of_lt (Packing.layout_pool_size_le listing elsewhere) fits
  refine ⟨_, compact_eq_ok_iff.mpr ⟨listing, listed, room, _, _, workgroup, points, rfl⟩, ?_, ?_⟩
  · intro here
    rw [Packing.layout_of_ne_vertex listing here elsewhere]
    rfl
  · rintro rfl
    exact ⟨rfl, Packing.layout_resources_movedBy listing room fits elsewhere,
      Packing.layout_members_movedBy listing room fits elsewhere,
      Packing.layout_pool_vertex listing elsewhere⟩

def sampleAt (stage : Stage) : Reflection :=
  assemble stage (Packing.layout stage sampleListing) .zero 0

theorem compact_sampleAt (stage : Stage) (noWorkgroup : stage ≠ .compute)
    (noPatch : stage ≠ .tessellationControl) :
    (compact stage sampleReader).outcome = .ok (sampleAt stage) :=
  compact_eq_ok_iff.mpr ⟨sampleListing, rfl, by cases stage <;> decide, .zero, 0,
    if_neg noWorkgroup, if_neg noPatch, rfl⟩

theorem compact_stage_sample :
    (compact .vertex sampleReader).outcome = .ok (sampleAt .vertex) ∧
      (compact .fragment sampleReader).outcome = .ok (sampleAt .fragment) ∧
      (sampleAt .vertex).InsertsNames (sampleAt .fragment) "main" ["position"] ∧
      sampleAt .fragment = (sampleAt .geometry).atStage .fragment .zero 0 := by
  have listed : sampleReader.listing = .ok sampleListing := rfl
  have vertex := compact_sampleAt .vertex (by decide) (by decide)
  have geometry := compact_sampleAt .geometry (by decide) (by decide)
  have fragment := compact_sampleAt .fragment (by decide) (by decide)
  obtain ⟨_, done, -, inserts⟩ :=
    compact_stage listed vertex (show Stage.fragment ≠ .vertex by decide) rfl rfl
  cases done.symm.trans fragment
  obtain ⟨_, redone, differs, -⟩ :=
    compact_stage listed geometry (show Stage.fragment ≠ .vertex by decide) rfl rfl
  cases redone.symm.trans fragment
  exact ⟨vertex, fragment, inserts rfl, differs (by decide)⟩

end Compaction

end ShaderInterface
