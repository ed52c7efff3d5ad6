import ShaderInterface.Reflection.Packing
import ShaderInterface.Reflection.Reader

/-! Compaction: from a parsed module to its reflection. The listing is measured first and packed
after; both have to agree on every size. A trace message accounts for each resource left out, and a
summary ends a successful run. -/
namespace ShaderInterface.Compaction

def source : String := "galaxy3d::reflection"

def site : Site := ⟨"ShaderInterface/Reflection/Compaction.lean", 1⟩

/-- Why a listing cannot be compacted: its names need more bytes than offsets can address, or
packing disagrees with the sizes measured before. -/
inductive Rejection
  | poolTooLarge (bytes : Nat)
  | recordCounts (packed measured : Nat × Nat × Nat)
  | poolSize (packed measured : Nat)
  deriving DecidableEq

namespace Rejection

def countsText (counts : Nat × Nat × Nat) : String :=
  "(" ++ toString counts.1 ++ ", " ++ toString counts.2.1 ++ ", " ++ toString counts.2.2 ++ ")"

def fault : Rejection → Fault
  | poolTooLarge bytes =>
    ⟨.invalidInput,
     "Name pool of " ++ toString bytes ++ " bytes exceeds the 32-bit addressable range"⟩
  | recordCounts packed measured =>
    ⟨.invariantViolation,
     "Record counts " ++ countsText packed ++ " differ from the size pass " ++
       countsText measured⟩
  | poolSize packed measured =>
    ⟨.invariantViolation,
     "Name pool holds " ++ toString packed ++ " bytes, size pass reserved " ++
       toString measured⟩

end Rejection

/-- The message about a resource that the stage drops. -/
def dropMessage? (stage : Stage) (resource : Declared.Resource) : Option Message :=
  (resource.dropReason? stage).map fun reason =>
    let noun := if resource.isStageInput then "stage input" else "resource"
    .plain .trace source
      ("Dropped " ++ noun ++ " '" ++ resource.name ++ "': " ++ reason.name)

def dropMessages (stage : Stage) (listing : Declared.Listing) : List Message :=
  listing.resources.filterMap (dropMessage? stage)

/-- The message that ends a successful run. -/
def summary (stage : Stage) (entryPoint : String) (packing : Packing) : Message :=
  .plain .debug source
    ("Reflected " ++ stage.name ++ " entry point '" ++ entryPoint ++ "': " ++
      toString packing.vertexInputs.length ++ " vertex inputs, " ++
      toString packing.resources.length ++ " resources, " ++
      toString packing.members.length ++ " variables, " ++
      toString packing.pool.size ++ " name bytes")

/-- What is wrong with a packing, by the sizes measured before it. -/
def mismatch? (sizes : Sizes) (packing : Packing) : Option Rejection :=
  let packed :=
    (packing.vertexInputs.length, packing.resources.length, packing.members.length)
  let measured := (sizes.vertexInputs, sizes.resources, sizes.members)
  if packed != measured then some (.recordCounts packed measured)
  else if packing.pool.size != sizes.poolSize then
    some (.poolSize packing.pool.size sizes.poolSize)
  else none

def assemble (stage : Stage) (packing : Packing) (workgroupSize : WorkgroupSize)
    (controlPoints : UInt32) : Reflection :=
  { stage, pool := packing.pool, entryPoint := packing.entryPoint
    vertexInputs := packing.vertexInputs, resources := packing.resources
    members := packing.members, workgroupSize, controlPoints }

/-- Completes a packing with the answers that the stage asks its reader for. -/
def finish (stage : Stage) (reader : Reader) (packing : Packing) : Except Fault Reflection := do
  let workgroupSize ← reader.workgroupSizeAt stage
  let controlPoints ← reader.controlPointsAt stage
  return assemble stage packing workgroupSize controlPoints

def compactListing (stage : Stage) (reader : Reader) (listing : Declared.Listing) :
    Logged Reflection :=
  let sizes := Sizes.measure stage listing
  if Sizes.maxPoolSize < sizes.poolSize then
    .fail (Rejection.poolTooLarge sizes.poolSize).fault
  else
    let packing := Packing.pack stage listing
    let drops := dropMessages stage listing
    match mismatch? sizes packing with
    | some rejection =>
      let fault := rejection.fault
      ⟨drops ++ [.failure source fault.text site], .error fault⟩
    | none =>
      match finish stage reader packing with
      | .ok reflection => ⟨drops ++ [summary stage listing.entryPoint packing], .ok reflection⟩
      | .error fault => ⟨drops, .error fault⟩

/-- Compacts what a reader lists. Its failures are passed on unchanged. -/
def compact (stage : Stage) (reader : Reader) : Logged Reflection :=
  match reader.listing with
  | .ok listing => compactListing stage reader listing
  | .error fault => .fail fault

end ShaderInterface.Compaction
