import ShaderInterface.Proofs.LoggedRuns
import ShaderInterface.Proofs.RecordSelection

/-! What a compaction logs. Each declared resource has a record in the reflection or a message of
its own that says why it has none; a summary closes the log of a success and of nothing else. -/
namespace ShaderInterface

namespace Declared

/-- Whether a stage makes no record of the resource: neither a vertex input nor a bound resource. -/
def Resource.isOmitted (stage : Stage) (resource : Resource) : Bool :=
  !(stage = .vertex && resource.isAttribute) && !resource.isBindable

def Listing.omitted (stage : Stage) (listing : Listing) : List Resource :=
  listing.resources.filter (·.isOmitted stage)

def Resource.omissionReason (resource : Resource) : String :=
  if !resource.used then "Unused"
  else if resource.kind = .stageOutput then "StageOutput"
  else "NonVertexStageInput"

/-- The message about a resource without a record. -/
def Resource.omission (resource : Resource) : Message :=
  let noun := if resource.kind = .stageInput then "stage input" else "resource"
  { severity := .trace
    source := "galaxy3d::reflection"
    text := "Dropped " ++ noun ++ " '" ++ resource.name ++ "': " ++ resource.omissionReason
    file := none
    line := none }

private theorem Resource.records_add_omitted (stage : Stage) (resource : Resource) :
    (if resource.isOmitted stage then 1 else 0) + (if resource.isVertexInput stage then 1 else 0) +
      (if resource.isBindable then 1 else 0) = 1 := by
  rw [isOmitted, isVertexInput_eq]
  cases input : resource.isAttribute
  · cases resource.isBindable <;> simp
  · have unbound : resource.isBindable = false := by
      rw [isAttribute, Bool.and_eq_true, beq_iff_eq] at input
      simp [isBindable, input.2]
    rw [unbound]
    cases stage <;> rfl

theorem Listing.length_omitted_add (stage : Stage) (listing : Listing) :
    (listing.omitted stage).length + (listing.attributes stage).length + listing.bindables.length =
      listing.resources.length := by
  rw [omitted, bindables, ← filter_isVertexInput]
  simp only [← List.countP_eq_length_filter]
  -- Each resource adds one to exactly one of the three counts.
  induction listing.resources with
  | nil => rfl
  | cons resource resources ih =>
    have one := resource.records_add_omitted stage
    simp only [List.countP_cons, List.length_cons]
    omega

end Declared

namespace Compaction

def stageWord : Stage → String
  | .vertex => "Vertex"
  | .tessellationControl => "TessellationControl"
  | .tessellationEvaluation => "TessellationEvaluation"
  | .geometry => "Geometry"
  | .fragment => "Fragment"
  | .compute => "Compute"
  | .rayTracing => "RayTracing"

/-- The message that closes the log of a success: the stage, the entry point and what has been
recorded. -/
def closing (stage : Stage) (entryPoint : String) (reflection : Reflection) : Message :=
  { severity := .debug
    source := "galaxy3d::reflection"
    text := "Reflected " ++ stageWord stage ++ " entry point '" ++ entryPoint ++ "': " ++
      toString reflection.vertexInputs.length ++ " vertex inputs, " ++
      toString reflection.resources.length ++ " resources, " ++
      toString reflection.members.length ++ " variables, " ++
      toString reflection.pool.bytes.length ++ " name bytes"
    file := none
    line := none }

def closings (stage : Stage) (entryPoint : String) : Except Fault Reflection → List Message
  | .ok reflection => [closing stage entryPoint reflection]
  | .error _ => []

theorem dropMessage?_eq (stage : Stage) (resource : Declared.Resource) :
    dropMessage? stage resource =
      if resource.isOmitted stage then some resource.omission else none := by
  obtain ⟨name, ids, kind, dimension, access, format, set, binding, size, used⟩ := resource
  cases kind <;> cases used <;> cases stage <;> rfl

theorem dropMessages_eq (stage : Stage) (listing : Declared.Listing) :
    dropMessages stage listing = (listing.omitted stage).map (·.omission) := by
  rw [dropMessages, Declared.Listing.omitted]
  induction listing.resources with
  | nil => rfl
  | cons resource resources ih =>
    rw [List.filterMap_cons, List.filter_cons, dropMessage?_eq]
    by_cases omitted : resource.isOmitted stage
    · rw [if_pos omitted, if_pos omitted, ih]
      rfl
    · rw [if_neg omitted, if_neg omitted]
      exact ih

theorem name_eq_stageWord (stage : Stage) : stage.name = stageWord stage := by
  cases stage <;> rfl

theorem summary_eq_closing (stage : Stage) (entryPoint : String) (packing : Packing)
    (workgroupSize : WorkgroupSize) (controlPoints : UInt32) :
    summary stage entryPoint packing =
      closing stage entryPoint (assemble stage packing workgroupSize controlPoints) := by
  rw [summary, name_eq_stageWord]
  rfl

theorem messages_of_listed {stage : Stage} {reader : Reader} {listing : Declared.Listing}
    (listed : reader.listing = .ok listing)
    (fits : (Sizes.measure stage listing).poolSize < UInt32.size) :
    (compact stage reader).messages = (listing.omitted stage).map (·.omission) ++
      closings stage listing.entryPoint (compact stage reader).outcome := by
  rw [compact_of_listing stage listed, compactListing_of_fits reader fits, ← dropMessages_eq]
  cases finished : finish stage reader (Packing.layout stage listing) with
  | error fault => exact (List.append_nil _).symm
  | ok reflection =>
    obtain ⟨_, _, _, _, rfl⟩ := finish_eq_ok_iff.mp finished
    dsimp only [closings]
    rw [summary_eq_closing]

theorem unplaced_of_mem {stage : Stage} {reader : Reader} {message : Message}
    (logged : message ∈ (compact stage reader).messages) :
    message.file = none ∧ message.line = none := by
  cases listed : reader.listing with
  | error fault =>
    rw [compact, listed] at logged
    cases logged
  | ok listing =>
    by_cases fits : (Sizes.measure stage listing).poolSize < UInt32.size
    · rw [messages_of_listed listed fits] at logged
      rcases List.mem_append.mp logged with omitted | last
      · obtain ⟨resource, _, rfl⟩ := List.mem_map.mp omitted
        exact ⟨rfl, rfl⟩
      · cases outcome : (compact stage reader).outcome with
        | error fault =>
          rw [outcome] at last
          cases last
        | ok reflection =>
          rw [outcome] at last
          rw [List.mem_singleton.mp last]
          exact ⟨rfl, rfl⟩
    · rw [compact_of_listing stage listed, compactListing_of_too_large reader fits] at logged
      cases logged

/-- The log of a compaction accounts for every declared resource. Without a listing, or with names
that do not fit, nothing is logged. Otherwise each resource without a record is reported, in order
and with its reason, and a summary of what has been recorded follows exactly if there is a
reflection. No message names a place in a program. -/
theorem compact_log (stage : Stage) (reader : Reader) :
    (∀ fault, reader.listing = .error fault → (compact stage reader).messages = []) ∧
    (∀ listing, reader.listing = .ok listing →
      (UInt32.size ≤ (Sizes.measure stage listing).poolSize →
        (compact stage reader).messages = []) ∧
      ((Sizes.measure stage listing).poolSize < UInt32.size →
        (compact stage reader).delivered .trace = (listing.omitted stage).map (·.omission) ++
          closings stage listing.entryPoint (compact stage reader).outcome ∧
        (listing.omitted stage).length + (listing.attributes stage).length +
          listing.bindables.length = listing.resources.length) ∧
      ∀ reflection, (compact stage reader).outcome = .ok reflection →
        reflection.Represents stage listing ∧
        (listing.omitted stage).length + reflection.vertexInputs.length +
          reflection.resources.length = listing.resources.length) ∧
    ∀ message ∈ (compact stage reader).messages, message.file = none ∧ message.line = none := by
  refine ⟨fun fault failed => ?_, fun listing listed => ⟨fun large => ?_, fun fits => ?_, ?_⟩,
    fun _ => unplaced_of_mem⟩
  · rw [compact, failed]
    rfl
  · rw [compact_of_listing stage listed,
      compactListing_of_too_large reader (Nat.not_lt.mpr large)]
    rfl
  · rw [Logged.delivered, Message.atLeast_trace]
    exact ⟨messages_of_listed listed fits, listing.length_omitted_add stage⟩
  · intro reflection done
    obtain ⟨_, same, fits, workgroupSize, controlPoints, _, _, rfl⟩ := compact_eq_ok_iff.mp done
    cases listed.symm.trans same
    have represents := assemble_represents workgroupSize controlPoints fits
    refine ⟨represents, ?_⟩
    rw [← represents.inputs.length_eq, ← represents.resources.length_eq]
    exact listing.length_omitted_add stage

/-- Reports of the sample's four drops at the compute stage, which fails for want of a workgroup,
and at the fragment stage, where a summary follows, and of three at the vertex stage. -/
theorem compact_log_sample :
    (compact .compute sampleReader).delivered .trace =
      ["Dropped stage input 'position': NonVertexStageInput", "Dropped resource 'linear': Unused",
       "Dropped resource 'color': StageOutput", "Dropped stage input 'normal': Unused"].map
        (⟨.trace, "galaxy3d::reflection", ·, none, none⟩) ∧
    (compact .vertex sampleReader).delivered .trace =
      ["Dropped resource 'linear': Unused", "Dropped resource 'color': StageOutput",
       "Dropped stage input 'normal': Unused"].map (⟨.trace, "galaxy3d::reflection", ·, none, none⟩) ++
        [⟨.debug, "galaxy3d::reflection",
          "Reflected Vertex entry point 'main': 1 vertex inputs, 2 resources, 3 variables, " ++
            "38 name bytes", none, none⟩] ∧
    (compact .fragment sampleReader).delivered .trace =
      ["Dropped stage input 'position': NonVertexStageInput", "Dropped resource 'linear': Unused",
       "Dropped resource 'color': StageOutput", "Dropped stage input 'normal': Unused"].map
        (⟨.trace, "galaxy3d::reflection", ·, none, none⟩) ++
        [⟨.debug, "galaxy3d::reflection",
          "Reflected Fragment entry point 'main': 0 vertex inputs, 2 resources, 3 variables, " ++
            "29 name bytes", none, none⟩] ∧
    3 + sampleReflection.vertexInputs.length + sampleReflection.resources.length =
      sampleListing.resources.length ∧
    (compact .vertex
      { sampleReader with members := .error ⟨.reflectorError, "no list"⟩ }).messages = [] := by
  have fits (stage : Stage) : (Sizes.measure stage sampleListing).poolSize < UInt32.size := by
    cases stage <;> decide
  obtain ⟨-, compute, -⟩ := compact_log .compute sampleReader
  obtain ⟨-, vertex, -⟩ := compact_log .vertex sampleReader
  obtain ⟨-, fragment, -⟩ := compact_log .fragment sampleReader
  obtain ⟨unlisted, -⟩ := compact_log .vertex
    { sampleReader with members := .error ⟨.reflectorError, "no list"⟩ }
  obtain ⟨-, reported, done⟩ := vertex sampleListing rfl
  have failed : (compact .compute sampleReader).outcome =
      .error ⟨.reflectorError, "no workgroup"⟩ := rfl
  have made : (compact .fragment sampleReader).outcome =
      .ok (assemble .fragment (Packing.layout .fragment sampleListing) .zero 0) :=
    compact_eq_ok_iff.mpr ⟨sampleListing, rfl, by decide, .zero, 0, rfl, rfl, rfl⟩
  refine ⟨?_, ?_, ?_, (done _ compact_sample).2, unlisted _ rfl⟩
  · rw [((compute sampleListing rfl).2.1 (fits .compute)).1, failed]
    decide
  · rw [(reported (fits .vertex)).1, compact_sample]
    decide +kernel
  · rw [((fragment sampleListing rfl).2.1 (fits .fragment)).1, made]
    decide +kernel

end Compaction

end ShaderInterface
