import ShaderInterface.Proofs.LoggedRuns
import ShaderInterface.Proofs.SizeAgreement
import ShaderInterface.Reflection.Bytecode

/-! Which failure a reflection answers with. What can fail is listed in the order in which it is
asked for, each with the fault it would raise; the first fault of that list is the answer,
unchanged, and without one there is a reflection. -/
namespace ShaderInterface

namespace Reader

variable {reader : Reader} {stage : Stage}

def poolFault? (stage : Stage) (listing : Declared.Listing) : Option Fault :=
  let bytes := (Sizes.measure stage listing).poolSize
  if 0xffffffff < bytes then
    some ⟨.invalidInput,
      "Name pool of " ++ toString bytes ++ " bytes exceeds the 32-bit addressable range"⟩
  else none

/-- What can fail in a compaction, first to last. -/
def faults (stage : Stage) (reader : Reader) : List (Option Fault) :=
  [Fault.of? reader.entryPoint, Fault.of? reader.resources, Fault.of? reader.members,
   match reader.entryPoint, reader.resources, reader.members with
   | .ok entryPoint, .ok resources, .ok members => poolFault? stage ⟨entryPoint, resources, members⟩
   | _, _, _ => none,
   if stage = .compute then Fault.of? reader.workgroupSize else none,
   if stage = .tessellationControl then Fault.of? reader.controlPoints else none]

/-- A compaction completes with the answers that belong to its stage. -/
structure Completes (reader : Reader) (stage : Stage) (reflection : Reflection) : Prop where
  atCompute : stage = .compute → reader.workgroupSize = .ok reflection.workgroupSize
  elsewhere : stage ≠ .compute → reflection.workgroupSize = ⟨0, 0, 0⟩
  atControl : stage = .tessellationControl → reader.controlPoints = .ok reflection.controlPoints
  otherwise : stage ≠ .tessellationControl → reflection.controlPoints = 0

end Reader

namespace Compaction

variable {stage : Stage} {reader : Reader}

theorem of?_finish (packing : Packing) : Fault.of? (finish stage reader packing) =
    Fault.first? [if stage = .compute then Fault.of? reader.workgroupSize else none,
      if stage = .tessellationControl then Fault.of? reader.controlPoints else none] := by
  rw [finish, Reader.workgroupSizeAt, Reader.controlPointsAt]
  -- No stage asks for both answers, so that their order cannot be told.
  by_cases compute : stage = .compute
  · subst compute
    cases reader.workgroupSize <;> rfl
  · by_cases control : stage = .tessellationControl
    · subst control
      cases reader.controlPoints <;> rfl
    · simp only [if_neg compute, if_neg control]
      rfl

theorem of?_compactListing (listing : Declared.Listing) :
    Fault.of? (compactListing stage reader listing).outcome =
      Fault.first? [Reader.poolFault? stage listing,
        if stage = .compute then Fault.of? reader.workgroupSize else none,
        if stage = .tessellationControl then Fault.of? reader.controlPoints else none] := by
  rw [Reader.poolFault?]
  by_cases fits : (Sizes.measure stage listing).poolSize < UInt32.size
  · have small : ¬ 0xffffffff < (Sizes.measure stage listing).poolSize :=
      Sizes.not_maxPoolSize_lt_iff.mpr fits
    rw [compactListing_of_fits reader fits, if_neg small, Fault.first?_none,
      ← of?_finish (Packing.layout stage listing)]
    cases finish stage reader (Packing.layout stage listing) <;> rfl
  · have large : 0xffffffff < (Sizes.measure stage listing).poolSize :=
      Decidable.of_not_not fun small => fits (Sizes.not_maxPoolSize_lt_iff.mp small)
    rw [compactListing_of_too_large reader fits, if_pos large, Fault.first?_some]
    rfl

/-- A compaction answers with the first of its faults. -/
theorem of?_compact (stage : Stage) (reader : Reader) :
    Fault.of? (compact stage reader).outcome = Fault.first? (reader.faults stage) := by
  obtain ⟨entryPoint, resources, members, workgroupSize, controlPoints⟩ := reader
  cases entryPoint with
  | error fault => rfl
  | ok entryPoint =>
    cases resources with
    | error fault => rfl
    | ok resources =>
      cases members with
      | error fault => rfl
      | ok members => exact of?_compactListing ⟨entryPoint, resources, members⟩

theorem completes_of_compact {reflection : Reflection}
    (done : (compact stage reader).outcome = .ok reflection) :
    reader.Completes stage reflection := by
  obtain ⟨_, _, _, workgroupSize, controlPoints, workgroup, points, rfl⟩ :=
    compact_eq_ok_iff.mp done
  rw [Reader.workgroupSizeAt] at workgroup
  rw [Reader.controlPointsAt] at points
  refine ⟨fun compute => ?_, fun other => ?_, fun control => ?_, fun other => ?_⟩
  · rw [if_pos compute] at workgroup
    exact workgroup
  · rw [if_neg other] at workgroup
    exact (Except.ok.inj workgroup).symm
  · rw [if_pos control] at points
    exact points
  · rw [if_neg other] at points
    exact (Except.ok.inj points).symm

theorem finish_congr {other : Reader} {packing : Packing}
    (workgroup : other.workgroupSizeAt stage = reader.workgroupSizeAt stage)
    (points : other.controlPointsAt stage = reader.controlPointsAt stage) :
    finish stage other packing = finish stage reader packing := by
  rw [finish, finish, workgroup, points]

theorem compact_congr {other : Reader} (listing : other.listing = reader.listing)
    (workgroup : other.workgroupSizeAt stage = reader.workgroupSizeAt stage)
    (points : other.controlPointsAt stage = reader.controlPointsAt stage) :
    compact stage other = compact stage reader := by
  simp only [compact, compactListing, listing, finish_congr workgroup points]

theorem compact_workgroupSize (answer : Except Fault WorkgroupSize) (elsewhere : stage ≠ .compute) :
    compact stage { reader with workgroupSize := answer } = compact stage reader := by
  apply compact_congr
  · rfl
  · rw [Reader.workgroupSizeAt, Reader.workgroupSizeAt, if_neg elsewhere, if_neg elsewhere]
  · rfl

theorem compact_controlPoints (answer : Except Fault UInt32)
    (elsewhere : stage ≠ .tessellationControl) :
    compact stage { reader with controlPoints := answer } = compact stage reader := by
  apply compact_congr
  · rfl
  · rfl
  · rw [Reader.controlPointsAt, Reader.controlPointsAt, if_neg elsewhere, if_neg elsewhere]

end Compaction

namespace Backend

def mapReader (change : Reader → Reader) (backend : Backend) : Backend := fun words =>
  (backend words).andThen fun reader => .pure (change reader)

/-- What can fail in a reflection, first to last: the words, their parsing, the compaction of what
they were parsed to. -/
def faults (backend : Backend) (words : List UInt32) (stage : Stage) : List (Option Fault) :=
  (if words = [] then some ⟨.invalidInput, "Shader bytecode is empty"⟩ else none) ::
    match (backend words).outcome with
    | .error fault => [some fault]
    | .ok reader => reader.faults stage

end Backend

section reflectShader

variable (backend : Backend) {words : List UInt32} {stage : Stage}

theorem reflectShader_nil : reflectShader backend [] stage = .fail BytecodeFlaw.empty.fault := rfl

theorem reflectShader_of_ne_nil (given : words ≠ []) :
    reflectShader backend words stage = (backend words).andThen (Compaction.compact stage) := by
  rw [reflectShader, if_neg (mt List.isEmpty_iff.mp given)]

theorem of?_reflectShader (words : List UInt32) (stage : Stage) :
    Fault.of? (reflectShader backend words stage).outcome =
      Fault.first? (backend.faults words stage) := by
  rw [Backend.faults]
  by_cases given : words = []
  · subst given
    rw [reflectShader_nil, if_pos rfl, Fault.first?_some]
    rfl
  · rw [reflectShader_of_ne_nil backend given, if_neg given, Fault.first?_none]
    cases parsed : (backend words).outcome with
    | error fault =>
      rw [Logged.andThen_outcome_error parsed]
      rfl
    | ok reader =>
      rw [Logged.andThen_outcome_ok parsed]
      exact Compaction.of?_compact stage reader

theorem reflectShader_mapReader {change : Reader → Reader} (words : List UInt32)
    (unseen : ∀ reader,
      Compaction.compact stage (change reader) = Compaction.compact stage reader) :
    reflectShader (backend.mapReader change) words stage = reflectShader backend words stage := by
  by_cases given : words = []
  · subst given
    rfl
  · rw [reflectShader_of_ne_nil _ given, reflectShader_of_ne_nil _ given, Backend.mapReader,
      Logged.andThen_pure_andThen]
    simp only [unseen]

theorem exists_completes_of_reflectShader {reflection : Reflection}
    (done : (reflectShader backend words stage).outcome = .ok reflection) :
    ∃ reader, (backend words).outcome = .ok reader ∧ reader.Completes stage reflection := by
  have given : words ≠ [] := by
    rintro rfl
    cases done
  rw [reflectShader_of_ne_nil backend given, Logged.andThen_eq_ok_iff] at done
  obtain ⟨reader, parsed, compacted⟩ := done
  exact ⟨reader, parsed, Compaction.completes_of_compact compacted⟩

/-- A reflection fails exactly with the first of its faults, as that was raised. Without words no
backend is asked. What a reader answers about workgroups and patches is seen at the stages they
belong to, and nowhere else. -/
theorem reflectShader_fails_in_order (words : List UInt32) (stage : Stage) :
    (∀ fault, (reflectShader backend words stage).outcome = .error fault ↔
      Fault.first? (backend.faults words stage) = some fault) ∧
    reflectShader backend [] stage = .fail ⟨.invalidInput, "Shader bytecode is empty"⟩ ∧
    (stage ≠ .compute → ∀ answer,
      reflectShader (backend.mapReader ({ · with workgroupSize := answer })) words stage =
        reflectShader backend words stage) ∧
    (stage ≠ .tessellationControl → ∀ answer,
      reflectShader (backend.mapReader ({ · with controlPoints := answer })) words stage =
        reflectShader backend words stage) ∧
    ∀ reflection, (reflectShader backend words stage).outcome = .ok reflection →
      ∃ reader, (backend words).outcome = .ok reader ∧ reader.Completes stage reflection := by
  refine ⟨fun fault => ?_, reflectShader_nil backend, fun elsewhere answer => ?_,
    fun elsewhere answer => ?_, fun reflection => exists_completes_of_reflectShader backend⟩
  · rw [← of?_reflectShader, Fault.of?_eq_some_iff]
  · exact reflectShader_mapReader backend words fun _ =>
      Compaction.compact_workgroupSize answer elsewhere
  · exact reflectShader_mapReader backend words fun _ =>
      Compaction.compact_controlPoints answer elsewhere

end reflectShader

def sampleBackend : Backend := fun _ => .pure Compaction.sampleReader

/-- The sample refuses each stage that asks for what it lacks, with the words of the answer that
failed, unless an earlier answer fails too. -/
theorem reflectShader_fails_in_order_sample :
    (reflectShader sampleBackend [1] .compute).outcome =
      .error ⟨.reflectorError, "no workgroup"⟩ ∧
    (reflectShader sampleBackend [1] .tessellationControl).outcome =
      .error ⟨.reflectorError, "no patch"⟩ ∧
    (reflectShader
      (sampleBackend.mapReader ({ · with resources := .error ⟨.invalidInput, "no list"⟩ }))
      [1] .compute).outcome = .error ⟨.invalidInput, "no list"⟩ ∧
    Compaction.sampleReflection.workgroupSize = ⟨0, 0, 0⟩ ∧
    reflectShader (sampleBackend.mapReader ({ · with controlPoints := .ok 3 })) [1] .vertex =
      reflectShader sampleBackend [1] .vertex := by
  have vertex : (reflectShader sampleBackend [1] .vertex).outcome =
      .ok Compaction.sampleReflection := by
    rw [reflectShader_of_ne_nil _ (by decide), sampleBackend, Logged.andThen_outcome_ok rfl]
    exact Compaction.compact_sample
  obtain ⟨compute, -⟩ := reflectShader_fails_in_order sampleBackend [1] .compute
  obtain ⟨control, -⟩ := reflectShader_fails_in_order sampleBackend [1] .tessellationControl
  obtain ⟨refused, -⟩ := reflectShader_fails_in_order
    (sampleBackend.mapReader ({ · with resources := .error ⟨.invalidInput, "no list"⟩ }))
    [1] .compute
  obtain ⟨-, -, -, unasked, completed⟩ := reflectShader_fails_in_order sampleBackend [1] .vertex
  obtain ⟨reader, _, completes⟩ := completed _ vertex
  exact ⟨(compute _).mpr (by decide), (control _).mpr (by decide),
    (refused _).mpr (by decide), completes.elsewhere (by decide),
    unasked (by decide) (.ok 3)⟩

end ShaderInterface
