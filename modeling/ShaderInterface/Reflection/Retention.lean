import ShaderInterface.Declared.Resource
import ShaderInterface.Stage

/-! Which declarations a reflection keeps. A resource has to be used and bindable; stage inputs are
kept at the vertex stage alone, and a member is kept with the bound block it belongs to. -/
namespace ShaderInterface

/-- Why a reflection does without a declared resource: the entry point never refers to it, or it is
an interface that no binding reaches. -/
inductive DropReason
  | unused
  | stageOutput
  | nonVertexStageInput
  deriving DecidableEq

def DropReason.name : DropReason → String
  | .unused => "Unused"
  | .stageOutput => "StageOutput"
  | .nonVertexStageInput => "NonVertexStageInput"

namespace Declared.Resource

def isStageInput (resource : Resource) : Bool := resource.kind == .stageInput

/-- Why the stage drops the resource, if it does. -/
def dropReason? (stage : Stage) (resource : Resource) : Option DropReason :=
  if !resource.used then some .unused
  else match resource.kind with
    | .stageOutput => some .stageOutput
    | .stageInput => if stage = .vertex then none else some .nonVertexStageInput
    | _ => none

def isKept (stage : Stage) (resource : Resource) : Bool := (resource.dropReason? stage).isNone

def isVertexInput (stage : Stage) (resource : Resource) : Bool :=
  resource.isStageInput && resource.isKept stage

def isBound (stage : Stage) (resource : Resource) : Bool :=
  !resource.isStageInput && resource.isKept stage

end Declared.Resource

/-- Whether the stage keeps a member of one of the resources. -/
def Declared.Member.isKept (stage : Stage) (resources : List Declared.Resource)
    (member : Declared.Member) : Bool :=
  member.used && match resources[member.parent]? with
    | some parent => parent.isBound stage
    | none => false

end ShaderInterface
