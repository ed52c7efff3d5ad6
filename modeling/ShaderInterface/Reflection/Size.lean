import ShaderInterface.Reflection.NamePool
import ShaderInterface.Reflection.Retention

/-! The sizes of a reflection, found without building it. -/
namespace ShaderInterface

/-- The exact sizes that packing a listing needs. -/
structure Sizes where
  poolSize : Nat
  vertexInputs : Nat
  resources : Nat
  members : Nat
  deriving DecidableEq

namespace Sizes

/-- The largest pool that 32-bit offsets can address. -/
def maxPoolSize : Nat := 0xffffffff

def measure (stage : Stage) (listing : Declared.Listing) : Sizes :=
  let resources := listing.resources.filter (·.isKept stage)
  let members := listing.members.filter (·.isKept stage listing.resources)
  { poolSize := NamePool.cost listing.entryPoint +
      NamePool.totalCost (resources.map (·.name)) + NamePool.totalCost (members.map (·.name))
    vertexInputs := resources.countP (·.isStageInput)
    resources := resources.countP (!·.isStageInput)
    members := members.length }

end Sizes

end ShaderInterface
