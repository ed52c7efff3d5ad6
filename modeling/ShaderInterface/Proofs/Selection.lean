import ShaderInterface.Reflection.Retention
import Mathlib.Data.List.Basic

/-! What a reflection keeps, said of the declarations alone: the vertex attributes, the bindable
resources and the members of their blocks. The retention tests agree with it at every stage. -/
namespace ShaderInterface.Declared

def Resource.isAttribute (resource : Resource) : Bool :=
  resource.used && resource.kind == .stageInput

def Resource.isBindable (resource : Resource) : Bool :=
  resource.used && resource.kind != .stageInput && resource.kind != .stageOutput

/-- A used member whose parent is one of the bindable resources of a list. -/
def Member.isOfBlock (resources : List Resource) (member : Member) : Bool :=
  member.used && resources[member.parent]?.any (·.isBindable)

/-- The number of bindable resources that stand before a position. -/
def bindablesBefore (resources : List Resource) (position : Nat) : Nat :=
  (resources.take position).countP (·.isBindable)

namespace Listing

def attributes (stage : Stage) (listing : Listing) : List Resource :=
  if stage = .vertex then listing.resources.filter (·.isAttribute) else []

def bindables (listing : Listing) : List Resource := listing.resources.filter (·.isBindable)

def blockMembers (listing : Listing) : List Member :=
  listing.members.filter (·.isOfBlock listing.resources)

/-- Every name that a stage keeps: the entry point's, then those of attributes, bindable resources
and their members. -/
def keptNames (stage : Stage) (listing : Listing) : List String :=
  listing.entryPoint :: ((listing.attributes stage).map (·.name) ++
    listing.bindables.map (·.name) ++ listing.blockMembers.map (·.name))

end Listing

theorem bindablesBefore_succ (resource : Resource) (resources : List Resource) (position : Nat) :
    bindablesBefore (resource :: resources) (position + 1) =
      (if resource.isBindable then 1 else 0) + bindablesBefore resources position := by
  rw [bindablesBefore, List.take_succ_cons, List.countP_cons, Nat.add_comm]
  rfl

namespace Resource

theorem isVertexInput_eq (stage : Stage) (resource : Resource) :
    resource.isVertexInput stage = (decide (stage = .vertex) && resource.isAttribute) := by
  obtain ⟨name, ids, kind, dimension, access, format, set, binding, size, used⟩ := resource
  cases kind <;> cases used <;> cases stage <;> rfl

/-- Which resources are bound does not depend on the stage. -/
theorem isBound_eq_isBindable (stage : Stage) (resource : Resource) :
    resource.isBound stage = resource.isBindable := by
  obtain ⟨name, ids, kind, dimension, access, format, set, binding, size, used⟩ := resource
  cases kind <;> cases used <;> cases stage <;> rfl

end Resource

theorem Member.isKept_eq_isOfBlock (stage : Stage) (resources : List Resource) (member : Member) :
    member.isKept stage resources = member.isOfBlock resources := by
  rw [isKept, isOfBlock]
  cases resources[member.parent]? with
  | none => rfl
  | some parent => rw [Option.any_some, ← Resource.isBound_eq_isBindable stage parent]

theorem Listing.filter_isVertexInput (stage : Stage) (listing : Listing) :
    listing.resources.filter (·.isVertexInput stage) = listing.attributes stage := by
  simp only [Resource.isVertexInput_eq, Listing.attributes]
  split
  · rename_i vertex
    simp only [vertex, decide_true, Bool.true_and]
  · rename_i not_vertex
    simp only [not_vertex, decide_false, Bool.false_and, List.filter_false]

end ShaderInterface.Declared
