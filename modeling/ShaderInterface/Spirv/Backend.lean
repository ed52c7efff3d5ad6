import ShaderInterface.Reflection.Reader
import ShaderInterface.Spirv.Listing
import ShaderInterface.Spirv.Resolution.Entry
import ShaderInterface.Spirv.Resolution.Pairing

/-! Reading SPIR-V modules: scan the module, choose an entry point, resolve its interface and list
it. -/
namespace ShaderInterface.Spirv

/-- How a module is read: whether separate images and samplers that share a slot count as combined,
and which entry point to reflect, the first one if none is named. -/
structure Config where
  combineImageSamplers : Bool
  entryPoint : Option String
  deriving DecidableEq

def Config.standard : Config := ⟨false, none⟩

/-- Why no entry point can be reflected. -/
inductive EntryFault
  | noneDeclared
  | notFound (name : String)
  | resolution (text : String)
  | notResolved (name : String)
  deriving DecidableEq

def EntryFault.text : EntryFault → String
  | noneDeclared => "SPIR-V module declares no entry point"
  | notFound name => "Entry point '" ++ name ++ "' not found"
  | resolution text => "SPIR-V reflection failed: " ++ text
  | notResolved name => "Entry point '" ++ name ++ "' missing from spirq reflection"

def chooseEntry (config : Config) (outline : Outline) : Except EntryFault EntryPoint :=
  match config.entryPoint with
  | none =>
    match outline.entryPoints.head? with
    | some first => .ok first
    | none => .error .noneDeclared
  | some name =>
    match outline.entryPoint? name with
    | some entry => .ok entry
    | none => .error (.notFound name)

def choiceMessages (config : Config) (outline : Outline) (name : String) : List Message :=
  let count := outline.entryPoints.length
  if config.entryPoint.isNone && 1 < count then
    [.plain .warn source
      ("Module declares " ++ toString count ++ " entry points, reflecting '" ++ name ++ "'")]
  else []

/-- The resolved interfaces of every entry point of a module, or what is wrong with it, in words. -/
abbrev Resolver := Bool → List UInt32 → Except String (List Resolution.Entry)

def resolveModule : Resolver := fun combine words =>
  (Resolution.entries (if combine then Resolution.Pairing.pairAll else id)
    (Scan.instructions words).instructions).mapError Resolution.Fault.text

/-- The resolved interface of an entry point. -/
def resolveChosen (resolver : Resolver) (config : Config) (words : List UInt32) (name : String) :
    Except EntryFault Resolution.Entry :=
  match resolver config.combineImageSamplers words with
  | .error text => .error (.resolution text)
  | .ok entries =>
    match entries.find? (·.name == name) with
    | some entry => .ok entry
    | none => .error (.notResolved name)

def workgroupSize (entry : Resolution.Entry) : WorkgroupSize :=
  match (entry.modeOperands? .localSize).or (entry.modeOperands? .localSizeId) with
  | some (x :: y :: z :: _) => ⟨x, y, z⟩
  | _ => .zero

def controlPoints (entry : Resolution.Entry) : UInt32 :=
  ((entry.modeOperands? .outputVertices).bind List.head?).getD 0

/-- Everything read of an entry point. -/
structure Reading where
  entryPoint : String
  resources : List Declared.Resource
  members : List Declared.Member
  workgroupSize : WorkgroupSize
  controlPoints : UInt32
  deriving DecidableEq

namespace Reading

def summary (reading : Reading) : Message :=
  .plain .debug source
    ("Reflected entry point '" ++ reading.entryPoint ++ "': " ++
      toString reading.resources.length ++ " raw resources, " ++
      toString reading.members.length ++ " raw variables")

def toReader (reading : Reading) : Reader :=
  { entryPoint := .ok reading.entryPoint
    resources := .ok reading.resources
    members := .ok reading.members
    workgroupSize := .ok reading.workgroupSize
    controlPoints := .ok reading.controlPoints }

end Reading

/-- The keys of the variables that an entry point refers to. -/
def usedKeys (entry : Resolution.Entry) : List InterfaceKey :=
  entry.referenced.filterMap Resolved.key?

def readEntry (outline : Outline) (declared : EntryPoint) (entry : Resolution.Entry) :
    Logged Reading :=
  let listed := Listing.list outline declared (usedKeys entry) entry.declared
  let reading : Reading :=
    { entryPoint := declared.name
      resources := listed.resources
      members := listed.members
      workgroupSize := Spirv.workgroupSize entry
      controlPoints := Spirv.controlPoints entry }
  ⟨listed.messages ++ [reading.summary], .ok reading⟩

def readOutlined (resolver : Resolver) (config : Config) (words : List UInt32) (outline : Outline) :
    Logged Reading :=
  match chooseEntry config outline with
  | .error fault => refuse fault.text
  | .ok declared =>
    .after (choiceMessages config outline declared.name)
      (match resolveChosen resolver config words declared.name with
       | .error fault => refuse fault.text
       | .ok entry => readEntry outline declared entry)

/-- Reads an entry point of a module, resolving its interface with a given resolver. -/
def readWith (resolver : Resolver) (config : Config) (words : List UInt32) : Logged Reading :=
  (readOutline words).andThen (readOutlined resolver config words)

def read (config : Config) (words : List UInt32) : Logged Reading :=
  readWith resolveModule config words

/-- SPIR-V modules as a backend of reflection. -/
def backend : Backend := fun words =>
  (read .standard words).andThen fun reading => .pure reading.toReader

end ShaderInterface.Spirv
