/-! Pipeline stages and sets of them. A set is a word with one bit per stage. -/
namespace ShaderInterface

/-- A programmable pipeline stage; every ray tracing stage counts as one. -/
inductive Stage
  | vertex
  | tessellationControl
  | tessellationEvaluation
  | geometry
  | fragment
  | compute
  | rayTracing
  deriving DecidableEq

namespace Stage

def all : List Stage :=
  [vertex, tessellationControl, tessellationEvaluation, geometry, fragment, compute, rayTracing]

def name : Stage → String
  | vertex => "Vertex"
  | tessellationControl => "TessellationControl"
  | tessellationEvaluation => "TessellationEvaluation"
  | geometry => "Geometry"
  | fragment => "Fragment"
  | compute => "Compute"
  | rayTracing => "RayTracing"

end Stage

structure StageSet where
  bits : UInt32
  deriving DecidableEq

namespace StageSet

def empty : StageSet := ⟨0⟩

/-- The set of one stage. -/
def single : Stage → StageSet
  | .vertex => ⟨0x01⟩
  | .tessellationControl => ⟨0x02⟩
  | .tessellationEvaluation => ⟨0x04⟩
  | .geometry => ⟨0x08⟩
  | .fragment => ⟨0x10⟩
  | .compute => ⟨0x20⟩
  | .rayTracing => ⟨0x40⟩

/-- The five stages of the graphics pipeline. -/
def graphics : StageSet := ⟨0x1f⟩

def union (a b : StageSet) : StageSet := ⟨a.bits ||| b.bits⟩

instance : Union StageSet := ⟨union⟩

def ofList (stages : List Stage) : StageSet :=
  stages.foldl (fun set stage => set ∪ single stage) empty

def contains (set : StageSet) (stage : Stage) : Bool :=
  set.bits &&& (single stage).bits != 0

def isEmpty (set : StageSet) : Bool := set.bits == 0

def toList (set : StageSet) : List Stage :=
  Stage.all.filter set.contains

end StageSet

end ShaderInterface
