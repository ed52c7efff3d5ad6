import ShaderInterface.Spirv.Instruction
import ShaderInterface.Spirv.Resolution.Fault
import ShaderInterface.Spirv.Vocabulary

/-! The registry of a module: everything declared so far, by id. Tables are lists of which the
newest entry stands first. -/
namespace ShaderInterface.Spirv.Resolution

/-- An operand of an execution mode; a `constant` is given by its id. -/
inductive ModeOperand
  | literal (word : UInt32)
  | constant (id : UInt32)
  deriving DecidableEq

structure Mode where
  mode : ExecutionMode
  operands : List ModeOperand
  deriving DecidableEq

structure EntryDeclaration where
  function : UInt32
  name : String
  modes : List Mode
  deriving DecidableEq

/-- A decoration of an id, or of a member of the struct of that id. -/
structure Decorated where
  target : UInt32
  member : Option UInt32
  decoration : Decoration
  operands : List UInt32
  deriving DecidableEq

/-- A constant that has a value, and the number by which it can be set from outside, if it can. -/
structure Constant where
  value : Value
  specId : Option UInt32
  deriving DecidableEq

/-- A variable, by the type it points to. -/
structure Variable where
  storage : StorageClass
  type : Ty
  deriving DecidableEq

structure FunctionUse where
  globals : List UInt32
  callees : List UInt32
  deriving DecidableEq

/-- Everything declared so far. A name belongs to an id, or to the member at a position of a struct.
Functions that have ended stand apart from the one that is open. -/
structure Registry where
  imports : List UInt32
  hasMemoryModel : Bool
  entries : List EntryDeclaration
  names : List ((UInt32 × Option UInt32) × String)
  decorations : List Decorated
  types : List (UInt32 × Ty)
  constants : List (UInt32 × Constant)
  globals : List (UInt32 × Variable)
  functions : List (UInt32 × FunctionUse)
  current : Option (UInt32 × FunctionUse)
  chains : List (UInt32 × UInt32)

namespace Registry

def empty : Registry :=
  { imports := [], hasMemoryModel := false, entries := [], names := [], decorations := []
    types := [], constants := [], globals := [], functions := [], current := none, chains := [] }

def name? (registry : Registry) (id : UInt32) (member : Option UInt32) : Option String :=
  registry.names.lookup (id, member)

/-- Names an id or a member; empty text names nothing, and the first name stays. -/
def setName (registry : Registry) (id : UInt32) (member : Option UInt32) (text : String) :
    Registry :=
  if text.isEmpty || (registry.name? id member).isSome then registry
  else { registry with names := ((id, member), text) :: registry.names }

def decoration? (registry : Registry) (id : UInt32) (member : Option UInt32)
    (decoration : Decoration) : Option (List UInt32) :=
  (registry.decorations.find? fun entry =>
    entry.target == id && entry.member == member && entry.decoration == decoration).map
      (·.operands)

def isDecorated (registry : Registry) (id : UInt32) (member : Option UInt32)
    (decoration : Decoration) : Bool :=
  (registry.decoration? id member decoration).isSome

def decorationValue? (registry : Registry) (id : UInt32) (member : Option UInt32)
    (decoration : Decoration) : Option UInt32 :=
  (registry.decoration? id member decoration).bind List.head?

def decorate (registry : Registry) (entry : Decorated) : Except Fault Registry :=
  if registry.isDecorated entry.target entry.member entry.decoration then
    .error (.decorationExists entry.target)
  else .ok { registry with decorations := entry :: registry.decorations }

/-- The access that the decorations of an id or a member leave, if there is one. -/
def access? (registry : Registry) (id : UInt32) (member : Option UInt32) :
    Option Declared.Access :=
  match registry.isDecorated id member .nonReadable,
    registry.isDecorated id member .nonWritable with
  | false, false => some .readWrite
  | true, false => some .writeOnly
  | false, true => some .readOnly
  | true, true => none

def type? (registry : Registry) (id : UInt32) : Option Ty := registry.types.lookup id

def type (registry : Registry) (id : UInt32) : Except Fault Ty :=
  match registry.type? id with
  | some type => .ok type
  | none => .error (.typeMissing id)

/-- Adds a type; a pointer may take the place of its forward declaration. -/
def setType (registry : Registry) (id : UInt32) (type : Ty) : Except Fault Registry :=
  let added : Registry := { registry with types := (id, type) :: registry.types }
  match registry.type? id, type with
  | none, _ => .ok added
  | some .deviceAddress, .pointer .. => .ok added
  | some old, new => .error (.typeExists id old new)

def constant (registry : Registry) (id : UInt32) : Except Fault Constant :=
  match registry.constants.lookup id with
  | some constant => .ok constant
  | none => .error (.constantMissing id)

def setConstant (registry : Registry) (id : UInt32) (constant : Constant) :
    Except Fault Registry :=
  if (registry.constants.lookup id).isSome then .error (.constantExists id)
  else .ok { registry with constants := (id, constant) :: registry.constants }

end Registry

namespace Operands

def word (operands : List UInt32) : Except Fault (UInt32 × List UInt32) :=
  (Operand.word operands).mapError .operand

def text (operands : List UInt32) : Except Fault (String × List UInt32) :=
  (Operand.text operands).mapError .operand

def bool (operands : List UInt32) : Except Fault (Bool × List UInt32) := do
  let (value, rest) ← word operands
  return (value != 0, rest)

def enumerant {α : Type} (ofNumber? : UInt32 → Option α) (operands : List UInt32) :
    Except Fault (α × List UInt32) := do
  let (number, rest) ← word operands
  match ofNumber? number with
  | some value => return (value, rest)
  | none => .error .enumerant

end Operands

/-- How a section of a module takes an instruction: with the registry behind it, or not at all when
the instruction belongs to a later section. -/
abbrev Step := Registry → Instruction → Except Fault (Option Registry)

end ShaderInterface.Spirv.Resolution
