import ShaderInterface.Reflection.Basic
import ShaderInterface.Reflection.Size

/-! Packing a listing: the kept declarations, with their names in one pool. Each function writes its
names behind those already in the pool; the resources also leave, for every declared position, the
slot that a member's parent has moved to. -/
namespace ShaderInterface

structure Packing where
  pool : NamePool
  entryPoint : NameRef
  vertexInputs : List VertexInput
  resources : List BoundResource
  members : List BlockVariable
  deriving DecidableEq

namespace Packing

def packInputs (stage : Stage) (pool : NamePool) :
    List Declared.Resource → NamePool × List VertexInput
  | [] => (pool, [])
  | resource :: rest =>
    if resource.isVertexInput stage then
      let (pool, name) := pool.push resource.name
      let (pool, inputs) := packInputs stage pool rest
      (pool, ⟨name, resource.size⟩ :: inputs)
    else packInputs stage pool rest

/-- The record of a resource whose name has been written. -/
def bind (stage : Stage) (resource : Declared.Resource) (name : NameRef) : BoundResource :=
  { descriptor := resource.kind.descriptor
    set := resource.set
    register := resource.binding
    size := resource.size
    usedStages := .single stage
    dimension := resource.dimension.texture
    access := resource.access.directions
    format := resource.format.pixel
    name := name }

/-- Packs the resources to bind of a list; the first goes to slot `next`. The slots run parallel to
the list, with none for a resource that is not bound. -/
def packResources (stage : Stage) (pool : NamePool) (next : Nat) :
    List Declared.Resource → NamePool × List (Option Nat) × List BoundResource
  | [] => (pool, [], [])
  | resource :: rest =>
    if resource.isBound stage then
      let (pool, name) := pool.push resource.name
      let (pool, slots, bound) := packResources stage pool (next + 1) rest
      (pool, some next :: slots, bind stage resource name :: bound)
    else
      let (pool, slots, bound) := packResources stage pool next rest
      (pool, none :: slots, bound)

def packMembers (slots : List (Option Nat)) (pool : NamePool) :
    List Declared.Member → NamePool × List BlockVariable
  | [] => (pool, [])
  | member :: rest =>
    match if member.used then slots[member.parent]?.join else none with
    | some parent =>
      let (pool, name) := pool.push member.name
      let (pool, members) := packMembers slots pool rest
      (pool, ⟨member.offset, member.size, parent, name⟩ :: members)
    | none => packMembers slots pool rest

/-- Packs what a stage keeps of a listing: the entry point's name, then vertex inputs, resources and
members. -/
def pack (stage : Stage) (listing : Declared.Listing) : Packing :=
  let (pool, entryPoint) := NamePool.empty.push listing.entryPoint
  let (pool, inputs) := packInputs stage pool listing.resources
  let (pool, slots, resources) := packResources stage pool 0 listing.resources
  let (pool, members) := packMembers slots pool listing.members
  ⟨pool, entryPoint, inputs, resources, members⟩

end Packing

end ShaderInterface
