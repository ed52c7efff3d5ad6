import ShaderInterface.Declared.Format
import ShaderInterface.Declared.Kind
import ShaderInterface.Spirv.Outline

/-! Types as a module's layout needs them: with their decorations taken in, and with the types they
are made of in place of ids. Two types are the same when they are built the same way from parts of
the same names. -/
namespace ShaderInterface.Spirv

inductive Scalar
  | void
  | boolean
  | integer (bits : UInt32) (signed : Bool)
  | float (bits : UInt32)
  deriving DecidableEq

inductive MatrixOrder
  | byRow
  | byColumn
  deriving DecidableEq

/-- What is known of how an image is used. -/
inductive Sampling
  | unknown
  | sampled
  | storage
  deriving DecidableEq

structure Extent where
  dim : Dim
  arrayed : Bool
  multisampled : Bool
  deriving DecidableEq

/-- The parts of an image that matter when it is sampled. -/
structure SampledImage where
  component : Scalar
  depth : Option Bool
  extent : Extent
  deriving DecidableEq

mutual

/-- A type. An array that is sized at run time has no length, an `image` is one of which it is not
yet said how it is bound, and a `deviceAddress` is a pointer of which only the storage class is
known. -/
inductive Ty
  | scalar (scalar : Scalar)
  | vector (component : Scalar) (count : UInt32)
  | matrix (component : Scalar) (rows columns : UInt32) (order : Option MatrixOrder)
      (stride : Option UInt32)
  | image (sampled : SampledImage) (sampling : Sampling) (format : Declared.Format)
  | sampledImage (image : SampledImage)
  | storageImage (extent : Extent) (format : Declared.Format)
  | combinedImageSampler (image : SampledImage)
  | sampler
  | subpassData (component : Scalar) (multisampled : Bool)
  | array (element : Ty) (length : Option UInt32) (stride : Option UInt32)
  | struct (name : Option String) (members : Members)
  | pointer (storage : StorageClass) (pointee : Ty)
  | deviceAddress
  | accelerationStructure
  | rayQuery
  deriving DecidableEq

inductive Members
  | nil
  | cons (name : Option String) (offset : Option Nat) (access : Declared.Access) (type : Ty)
      (rest : Members)
  deriving DecidableEq

end

structure Member where
  name : Option String
  offset : Option Nat
  access : Declared.Access
  type : Ty
  deriving DecidableEq

namespace Members

def toList : Members → List Member
  | nil => []
  | cons name offset access type rest => ⟨name, offset, access, type⟩ :: rest.toList

def ofList : List Member → Members
  | [] => nil
  | member :: rest => cons member.name member.offset member.access member.type (ofList rest)

theorem toList_ofList (members : List Member) : (ofList members).toList = members := by
  induction members with
  | nil => rfl
  | cons member rest ih => simp [ofList, toList, ih]

end Members

def Scalar.byteSize? : Scalar → Option Nat
  | .integer bits _ => some (bits.toNat / 8)
  | .float bits => some (bits.toNat / 8)
  | _ => none

mutual

/-- The byte size of a type, if it has one. A runtime array counts as empty. -/
def Ty.byteSize? : Ty → Option Nat
  | .scalar scalar => scalar.byteSize?
  | .vector component count => component.byteSize?.map (· * count.toNat)
  | .matrix _ _ columns _ stride => stride.map (·.toNat * columns.toNat)
  | .array _ length stride => stride.map (·.toNat * (length.getD 0).toNat)
  | .struct _ members => members.end?
  | .pointer .. => some 8
  | .deviceAddress => some 8
  | _ => none

def Members.end? : Members → Option Nat
  | .nil => none
  | .cons _ offset _ type .nil =>
    match offset, type.byteSize? with
    | some offset, some size => some (offset + size)
    | _, _ => none
  | .cons _ _ _ _ (.cons name offset access type rest) =>
    Members.end? (.cons name offset access type rest)

end

/-- The access that the members have in common, or every access if they differ. -/
def Members.access? : Members → Option Declared.Access
  | .nil => none
  | .cons _ _ access _ rest =>
    match rest.access? with
    | none => some access
    | some common => some (if access = common then access else .readWrite)

namespace Ty

/-- The access that a type declares for what it holds. -/
def access? : Ty → Option Declared.Access
  | struct _ members => members.access?
  | array element _ _ => element.access?
  | pointer _ pointee => pointee.access?
  | _ => none

def stripArrays : Ty → Ty
  | array element _ _ => element.stripArrays
  | other => other

def structName? (type : Ty) : Option String :=
  match type.stripArrays with
  | struct name _ => name
  | _ => none

def members (type : Ty) : List Member :=
  match type.stripArrays with
  | struct _ members => members.toList
  | _ => []

def category (type : Ty) : TypeCategory :=
  match type.stripArrays with
  | image .. => .image
  | sampledImage _ => .image
  | storageImage .. => .image
  | combinedImageSampler _ => .image
  | subpassData .. => .image
  | sampler => .sampler
  | accelerationStructure => .accelerationStructure
  | struct .. => .struct
  | _ => .other

end Ty

end ShaderInterface.Spirv
