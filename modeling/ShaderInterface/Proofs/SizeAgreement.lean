import ShaderInterface.Proofs.PackingLayout
import ShaderInterface.Reflection.Compaction

/-! Measuring foretells packing: the sizes found without building a reflection are those of the
packing, so that a compaction fails only where its listing is too large or its reader fails. -/
namespace ShaderInterface

namespace Sizes

private theorem not_isStageInput_and_isKept (stage : Stage) (resource : Declared.Resource) :
    (!resource.isStageInput && resource.isKept stage) = resource.isBindable :=
  resource.isBound_eq_isBindable stage

private theorem countP_isStageInput (stage : Stage) (listing : Declared.Listing) :
    (listing.resources.filter (·.isKept stage)).countP (·.isStageInput) =
      (listing.attributes stage).length := by
  rw [List.countP_filter, ← Declared.Listing.filter_isVertexInput, ← List.countP_eq_length_filter]
  rfl

private theorem countP_not_isStageInput (stage : Stage) (listing : Declared.Listing) :
    (listing.resources.filter (·.isKept stage)).countP (!·.isStageInput) =
      listing.bindables.length := by
  rw [List.countP_filter, Declared.Listing.bindables, ← List.countP_eq_length_filter]
  simp only [not_isStageInput_and_isKept]

private theorem kept_perm (stage : Stage) (listing : Declared.Listing) :
    (listing.resources.filter (·.isKept stage)).Perm
      (listing.attributes stage ++ listing.bindables) := by
  have split := List.filter_append_perm (·.isStageInput)
    (listing.resources.filter (·.isKept stage))
  rw [List.filter_filter, List.filter_filter] at split
  simp only [not_isStageInput_and_isKept] at split
  rw [← Declared.Listing.filter_isVertexInput]
  exact split.symm

private theorem filter_isKept (stage : Stage) (listing : Declared.Listing) :
    listing.members.filter (·.isKept stage listing.resources) = listing.blockMembers := by
  simp only [Declared.Member.isKept_eq_isOfBlock]
  rfl

/-- The measured sizes are counts of what the stage keeps and the bytes of its names. -/
theorem measure_eq (stage : Stage) (listing : Declared.Listing) :
    measure stage listing =
      { poolSize := NamePool.totalCost (listing.keptNames stage)
        vertexInputs := (listing.attributes stage).length
        resources := listing.bindables.length
        members := listing.blockMembers.length } := by
  have names := NamePool.totalCost_perm ((kept_perm stage listing).map (·.name))
  rw [List.map_append] at names
  rw [measure, countP_isStageInput, countP_not_isStageInput, filter_isKept, names,
    Declared.Listing.keptNames, NamePool.totalCost,
    NamePool.totalCost_append _ (listing.blockMembers.map (·.name)), Nat.add_assoc]

theorem not_maxPoolSize_lt_iff {poolSize : Nat} :
    ¬ maxPoolSize < poolSize ↔ poolSize < UInt32.size := by
  rw [maxPoolSize, UInt32.size]
  omega

end Sizes

def Packing.sizes (packing : Packing) : Sizes :=
  { poolSize := packing.pool.size
    vertexInputs := packing.vertexInputs.length
    resources := packing.resources.length
    members := packing.members.length }

/-- Packing writes exactly what was measured, on every listing and at every stage. -/
theorem Packing.sizes_pack (stage : Stage) (listing : Declared.Listing) :
    (pack stage listing).sizes = Sizes.measure stage listing := by
  rw [pack_eq_layout, Sizes.measure_eq, sizes, layout_pool_size, layout_vertexInputs_length,
    layout_resources_length, layout_members_length]

namespace Compaction

theorem mismatch?_sizes (packing : Packing) : mismatch? packing.sizes packing = none := by
  simp [mismatch?, Packing.sizes]

/-- The self-check between measuring and packing never fails. -/
theorem mismatch?_pack (stage : Stage) (listing : Declared.Listing) :
    mismatch? (Sizes.measure stage listing) (Packing.pack stage listing) = none := by
  rw [← Packing.sizes_pack]
  exact mismatch?_sizes _

theorem compactListing_of_fits {stage : Stage} {listing : Declared.Listing} (reader : Reader)
    (fits : (Sizes.measure stage listing).poolSize < UInt32.size) :
    compactListing stage reader listing =
      match finish stage reader (Packing.layout stage listing) with
      | .ok reflection =>
        ⟨dropMessages stage listing ++
          [summary stage listing.entryPoint (Packing.layout stage listing)], .ok reflection⟩
      | .error fault => ⟨dropMessages stage listing, .error fault⟩ := by
  rw [compactListing]
  dsimp only
  rw [if_neg (Sizes.not_maxPoolSize_lt_iff.mpr fits), mismatch?_pack]
  exact Packing.pack_eq_layout stage listing ▸ rfl

theorem compactListing_of_too_large {stage : Stage} {listing : Declared.Listing} (reader : Reader)
    (large : ¬ (Sizes.measure stage listing).poolSize < UInt32.size) :
    compactListing stage reader listing =
      .fail (Rejection.poolTooLarge (Sizes.measure stage listing).poolSize).fault := by
  rw [compactListing]
  dsimp only
  rw [if_pos (Decidable.of_not_not fun small => large (Sizes.not_maxPoolSize_lt_iff.mp small))]

theorem compact_of_listing {reader : Reader} {listing : Declared.Listing} (stage : Stage)
    (listed : reader.listing = .ok listing) :
    compact stage reader = compactListing stage reader listing := by
  rw [compact, listed]

theorem finish_eq_ok_iff {stage : Stage} {reader : Reader} {packing : Packing}
    {reflection : Reflection} :
    finish stage reader packing = .ok reflection ↔
      ∃ workgroupSize controlPoints, reader.workgroupSizeAt stage = .ok workgroupSize ∧
        reader.controlPointsAt stage = .ok controlPoints ∧
        reflection = assemble stage packing workgroupSize controlPoints := by
  rw [finish]
  constructor
  · intro done
    cases workgroup : reader.workgroupSizeAt stage with
    | error fault => rw [workgroup] at done; cases done
    | ok workgroupSize =>
      cases points : reader.controlPointsAt stage with
      | error fault => rw [workgroup, points] at done; cases done
      | ok controlPoints =>
        rw [workgroup, points] at done
        exact ⟨workgroupSize, controlPoints, rfl, rfl, (Except.ok.inj done).symm⟩
  · rintro ⟨workgroupSize, controlPoints, workgroup, points, rfl⟩
    rw [workgroup, points]
    rfl

theorem finish_error {stage : Stage} {reader : Reader} {packing : Packing} {fault : Fault}
    (failed : finish stage reader packing = .error fault) :
    (stage = .compute ∧ reader.workgroupSize = .error fault) ∨
      (stage = .tessellationControl ∧ reader.controlPoints = .error fault) := by
  rw [finish] at failed
  cases workgroup : reader.workgroupSizeAt stage with
  | error raised =>
    rw [workgroup] at failed
    cases failed
    rw [Reader.workgroupSizeAt] at workgroup
    split at workgroup
    · rename_i compute
      exact .inl ⟨compute, workgroup⟩
    · cases workgroup
  | ok workgroupSize =>
    cases points : reader.controlPointsAt stage with
    | error raised =>
      rw [workgroup, points] at failed
      cases failed
      rw [Reader.controlPointsAt] at points
      split at points
      · rename_i control
        exact .inr ⟨control, points⟩
      · cases points
    | ok controlPoints =>
      rw [workgroup, points] at failed
      cases failed

theorem layout_pool_size_eq_measure (stage : Stage) (listing : Declared.Listing) :
    (Packing.layout stage listing).pool.size = (Sizes.measure stage listing).poolSize := by
  rw [← Packing.sizes_pack, Packing.pack_eq_layout]
  rfl

/-- A compaction succeeds when its reader hands out a listing whose names fit and answers what the
stage asks for; the result is assembled from the foretold layout. -/
theorem compact_eq_ok_iff {stage : Stage} {reader : Reader} {reflection : Reflection} :
    (compact stage reader).outcome = .ok reflection ↔
      ∃ listing, reader.listing = .ok listing ∧
        (Packing.layout stage listing).pool.size < UInt32.size ∧
        ∃ workgroupSize controlPoints, reader.workgroupSizeAt stage = .ok workgroupSize ∧
          reader.controlPointsAt stage = .ok controlPoints ∧
          reflection =
            assemble stage (Packing.layout stage listing) workgroupSize controlPoints := by
  constructor
  · intro done
    cases listed : reader.listing with
    | error fault =>
      rw [compact, listed] at done
      cases done
    | ok listing =>
      rw [compact_of_listing stage listed] at done
      refine ⟨listing, rfl, ?_⟩
      rw [layout_pool_size_eq_measure]
      by_cases fits : (Sizes.measure stage listing).poolSize < UInt32.size
      · refine ⟨fits, finish_eq_ok_iff.mp ?_⟩
        rw [compactListing_of_fits reader fits] at done
        cases finished : finish stage reader (Packing.layout stage listing) with
        | error fault =>
          rw [finished] at done
          cases done
        | ok assembled =>
          rw [finished] at done
          exact done
      · rw [compactListing_of_too_large reader fits] at done
        cases done
  · rintro ⟨listing, listed, fits, answers⟩
    rw [layout_pool_size_eq_measure] at fits
    rw [compact_of_listing stage listed, compactListing_of_fits reader fits,
      finish_eq_ok_iff.mpr answers]

theorem dropMessages_severity {stage : Stage} {listing : Declared.Listing} {message : Message}
    (h : message ∈ dropMessages stage listing) : message.severity = .trace := by
  obtain ⟨resource, _, dropped⟩ := List.mem_filterMap.mp h
  obtain ⟨reason, _, rfl⟩ := Option.map_eq_some_iff.mp dropped
  rfl

/-- Measuring and packing agree. When the measured names fit in 32 bits, every failure is one of
the reader's own answers and no error is logged, so the self-check never fires; and a reflection
has exactly the measured sizes. -/
theorem compact_agrees_with_measure (stage : Stage) {reader : Reader}
    {listing : Declared.Listing} (listed : reader.listing = .ok listing) :
    ((Sizes.measure stage listing).poolSize < UInt32.size →
      (∀ fault, (compact stage reader).outcome = .error fault →
        (stage = .compute ∧ reader.workgroupSize = .error fault) ∨
          (stage = .tessellationControl ∧ reader.controlPoints = .error fault)) ∧
      ∀ message ∈ (compact stage reader).messages, message.severity ≠ .error) ∧
    ∀ reflection, (compact stage reader).outcome = .ok reflection →
      Sizes.measure stage listing =
        { poolSize := reflection.pool.size
          vertexInputs := reflection.vertexInputs.length
          resources := reflection.resources.length
          members := reflection.members.length } := by
  refine ⟨fun fits => ?_, fun reflection done => ?_⟩
  · rw [compact_of_listing stage listed, compactListing_of_fits reader fits]
    cases finished : finish stage reader (Packing.layout stage listing) with
    | error fault =>
      refine ⟨fun raised same => ?_, fun message logged => ?_⟩
      · cases same
        exact finish_error finished
      · rw [dropMessages_severity logged]
        decide
    | ok reflection =>
      refine ⟨fun raised same => ?_, fun message logged => ?_⟩
      · cases same
      · rcases List.mem_append.mp logged with dropped | last
        · rw [dropMessages_severity dropped]
          decide
        · rw [List.mem_singleton.mp last]
          exact fun same => Severity.noConfusion same
  · obtain ⟨other, same, _, workgroupSize, controlPoints, _, _, rfl⟩ :=
      compact_eq_ok_iff.mp done
    cases listed.symm.trans same
    -- The reflection is assembled from the layout, which is what packing writes.
    rw [← Packing.sizes_pack, Packing.pack_eq_layout]
    rfl

def sampleResource (name : String) (kind : Declared.Kind) (used : Bool) : Declared.Resource :=
  { name, ids := ⟨0, 0, 0⟩, kind, dimension := .undefined, access := .readOnly
    format := .unknown, set := 1, binding := 2, size := 3, used }

def sampleMember (name : String) (parent : Nat) (used : Bool) : Declared.Member :=
  { name, typeId := 0, parentIds := ⟨0, 0, 0⟩, parent, used, offset := 16, size := 4 }

/-- A listing with resources that are kept and dropped for every reason, members that point at each
of them and past the end, and names that are empty, not ASCII or hold a zero byte. -/
def sampleListing : Declared.Listing :=
  { entryPoint := "main"
    resources :=
      [sampleResource "position" .stageInput true, sampleResource "linear" .sampler false,
       sampleResource "color" .stageOutput true, sampleResource "camera" .uniformBuffer true,
       sampleResource "normal" .stageInput false, sampleResource "émail" .texture true]
    members :=
      [sampleMember "view" 3 true, sampleMember "lost" 9 true, sampleMember "" 5 true,
       sampleMember "a\x00b" 3 true, sampleMember "eye" 3 false, sampleMember "x" 0 true] }

/-- A reader of the sample that fails whatever a vertex shader does not ask for. -/
def sampleReader : Reader :=
  { entryPoint := .ok sampleListing.entryPoint
    resources := .ok sampleListing.resources
    members := .ok sampleListing.members
    workgroupSize := .error ⟨.reflectorError, "no workgroup"⟩
    controlPoints := .error ⟨.reflectorError, "no patch"⟩ }

def sampleReflection : Reflection :=
  assemble .vertex (Packing.layout .vertex sampleListing) .zero 0

theorem compact_sample : (compact .vertex sampleReader).outcome = .ok sampleReflection :=
  compact_eq_ok_iff.mpr ⟨sampleListing, rfl, by decide, .zero, 0, rfl, rfl, rfl⟩

theorem compact_agrees_with_measure_sample :
    sampleReader.listing = .ok sampleListing ∧
      Sizes.measure .vertex sampleListing = ⟨38, 1, 2, 3⟩ ∧
      (∀ message ∈ (compact .vertex sampleReader).messages, message.severity ≠ .error) ∧
      sampleReflection.pool.size = 38 ∧ sampleReflection.members.length = 3 := by
  have measured : Sizes.measure .vertex sampleListing = ⟨38, 1, 2, 3⟩ := by decide
  have fits : (Sizes.measure .vertex sampleListing).poolSize < UInt32.size := by
    rw [measured]
    decide
  obtain ⟨unfailing, agrees⟩ := compact_agrees_with_measure .vertex
    (show sampleReader.listing = .ok sampleListing from rfl)
  have sizes := measured.symm.trans (agrees _ compact_sample)
  exact ⟨rfl, measured, (unfailing fits).2, (congrArg Sizes.poolSize sizes).symm,
    (congrArg Sizes.members sizes).symm⟩

end Compaction

end ShaderInterface
