import ShaderInterface.Declared.Resource
import ShaderInterface.Sorting
import ShaderInterface.Spirv.Report
import ShaderInterface.Spirv.Resolved
import ShaderInterface.Text.Structured

/-! Listing the interface of an entry point. Every resolved variable is traced back to a variable of
the module's outline, and the resources come in the order in which those are declared. The order of
the resolved variables matters only among those that are traced back to the same one or to none. -/
namespace ShaderInterface.Spirv

/-- What tells the resolved variables of two lists apart. Blocks of push constants of different
entry points differ by type. -/
inductive InterfaceKey
  | descriptor (set binding : UInt32)
  | input (location component : UInt32)
  | output (location component : UInt32)
  | pushConstant (type : Ty)
  deriving DecidableEq

/-- The key of a resolved variable; specialization constants have none. -/
def Resolved.key? : Resolved → Option InterfaceKey
  | descriptor _ set binding _ _ _ => some (.descriptor set binding)
  | input _ location component _ => some (.input location component)
  | output _ location component _ => some (.output location component)
  | pushConstant _ type => some (.pushConstant type)
  | specConstant .. => none

namespace Listing

def kindOf : DescriptorBinding → Declared.Kind
  | .uniformBuffer => .uniformBuffer
  | .storageBuffer _ => .storageBuffer
  | .sampledImage => .texture
  | .storageImage _ => .storageTexture
  | .sampler => .sampler
  | .combinedImageSampler => .combinedSampler
  | .inputAttachment => .subpassInput
  | .uniformTexelBuffer => .uniformTexelBuffer
  | .storageTexelBuffer _ => .storageTexelBuffer
  | .accelerationStructure => .accelerationStructure

/-- Storage descriptors carry their access; others have that of their type. -/
def accessOf (binding : DescriptorBinding) (type : Ty) : Declared.Access :=
  match binding with
  | .storageBuffer access => access
  | .storageImage access => access
  | .storageTexelBuffer access => access
  | _ => type.access?.getD .readWrite

def shapeOf (extent : Extent) : Declared.Dimension :=
  match extent.dim, extent.arrayed, extent.multisampled with
  | .dim1D, false, _ => .texture1D
  | .dim1D, true, _ => .texture1DArray
  | .dim2D, false, false => .texture2D
  | .dim2D, true, false => .texture2DArray
  | .dim2D, false, true => .texture2DMS
  | .dim2D, true, true => .texture2DMSArray
  | .rect, false, false => .texture2D
  | .rect, true, false => .texture2DArray
  | .rect, false, true => .texture2DMS
  | .rect, true, true => .texture2DMSArray
  | .dim3D, _, _ => .texture3D
  | .cube, false, _ => .textureCube
  | .cube, true, _ => .textureCubeArray
  | .buffer, _, _ => .buffer
  | _, _, _ => .undefined

def imageOf : Ty → Declared.Dimension × Declared.Format
  | .sampledImage image => (shapeOf image.extent, .unknown)
  | .combinedImageSampler image => (shapeOf image.extent, .unknown)
  | .storageImage extent format => (shapeOf extent, format)
  | _ => (.undefined, .unknown)

/-- A number of bytes cut to a word; an unknown one reads as zero. -/
def byteWord (bytes : Option Nat) : UInt32 := .ofNat (bytes.getD 0)

/-- The variable of the outline that a resolved variable stands for. -/
def findGlobal? (outline : Outline) (entry : EntryPoint) : Resolved → Option Global
  | .descriptor _ set binding _ type _ => outline.descriptor? set binding type.category
  | .input name location component _ =>
    outline.interface? entry .input location component name
  | .output name location component _ =>
    outline.interface? entry .output location component name
  | .pushConstant name type => outline.pushConstant? entry name type.structName?
  | .specConstant .. => none

def idsOf (outline : Outline) (found : Option Global) : Declared.Ids :=
  let (id, type) := match found with
    | some declared => (declared.id, outline.pointee declared.pointerType)
    | none => (0, 0)
  ⟨id, type, outline.base type⟩

/-- The resource that a resolved variable declares. The inputs and outputs of other entry points are
not traced back and declare nothing, nor do specialization constants. -/
def resource? (outline : Outline) (found : Option Global) (used : Bool) :
    Resolved → Option Declared.Resource
  | .descriptor name set slot binding type count =>
    let (dimension, format) := imageOf type
    some {
      name := (name.or type.structName?).getD "", ids := idsOf outline found
      kind := kindOf binding, dimension, access := accessOf binding type, format
      set, binding := slot, size := count, used }
  | .pushConstant name type =>
    some {
      name := (name.or type.structName?).getD "", ids := idsOf outline found
      kind := .pushConstant, dimension := .undefined
      access := type.access?.getD .readWrite, format := .unknown
      set := 0, binding := 0, size := byteWord type.byteSize?, used }
  | .input name location _ type => located .stageInput name location type
  | .output name location _ type => located .stageOutput name location type
  | .specConstant .. => none
where
  located (kind : Declared.Kind) (name : Option String) (location : UInt32) (type : Ty) :
      Option Declared.Resource :=
    found.map fun _ => {
      name := name.getD "", ids := idsOf outline found
      kind, dimension := .undefined, access := .readWrite, format := .unknown
      set := 0, binding := location, size := byteWord type.stripArrays.byteSize?, used }

/-- The members of a block that is the resource at a position. The ids of their types are those of
the struct that the outline knows; members past its end have none. -/
def membersOf (outline : Outline) (position : Nat) (resource : Declared.Resource) (type : Ty) :
    List Declared.Member :=
  let types := outline.members resource.ids.baseId
  type.members.zipIdx.map fun (member, index) =>
    { name := member.name.getD ""
      typeId := types[index]?.getD 0
      parentIds := resource.ids
      parent := position
      used := resource.used
      offset := byteWord member.offset
      size := byteWord member.type.byteSize? }

def blockType? : Resolved → Option Ty
  | .descriptor _ _ _ .uniformBuffer type _ => some type
  | .descriptor _ _ _ (.storageBuffer _) type _ => some type
  | .pushConstant _ type => some type
  | _ => none

/-- What has been listed so far, and the ids of the variables that a resource has been traced back
to. -/
structure State where
  claimed : List UInt32
  resources : List Declared.Resource
  members : List Declared.Member
  messages : List Message

def skipMessage (id : UInt32) (resolved : Resolved) : Message :=
  .plain .debug source
    ("Variable %" ++ toString id.toNat ++ " already reflected, skipping " ++
      Text.Structured.option (resolved.name?.map Text.Quoted.quote))

def append (outline : Outline) (state : State) (found : Option Global) (used : Bool)
    (resolved : Resolved) : State :=
  match resource? outline found used resolved with
  | none => state
  | some resource =>
    let members := match blockType? resolved with
      | some type => membersOf outline state.resources.length resource type
      | none => []
    { state with
      resources := state.resources ++ [resource], members := state.members ++ members }

/-- Lists a resolved variable, unless the variable it stands for has a resource already. -/
def add (outline : Outline) (used : Resolved → Bool) (state : State)
    (traced : Option Global × Resolved) : State :=
  let (found, resolved) := traced
  match found with
  | none => append outline state none (used resolved) resolved
  | some declared =>
    if state.claimed.contains declared.id then
      { state with messages := state.messages ++ [skipMessage declared.id resolved] }
    else
      append outline { state with claimed := declared.id :: state.claimed } (some declared)
        (used resolved) resolved

def rank (outline : Outline) (traced : Option Global × Resolved) : Nat :=
  match traced.1.bind fun declared => outline.position? declared.id with
  | some position => position
  | none => outline.globals.length

/-- Traces resolved variables back and sorts them by declaration; the order of those that come to
the same place stays. -/
def trace (outline : Outline) (entry : EntryPoint) (found : List Resolved) :
    List (Option Global × Resolved) :=
  Sorting.sortByRank (rank outline)
    (found.map fun resolved => (findGlobal? outline entry resolved, resolved))

/-- Lists resolved variables, of which those with a used key are used. -/
def list (outline : Outline) (entry : EntryPoint) (usedKeys : List InterfaceKey)
    (found : List Resolved) : State :=
  let used (resolved : Resolved) : Bool :=
    match resolved.key? with
    | some key => usedKeys.contains key
    | none => false
  (trace outline entry found).foldl (add outline used) ⟨[], [], [], []⟩

end Listing

end ShaderInterface.Spirv
