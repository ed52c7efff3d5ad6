import ShaderInterface.Number.Binary32
import ShaderInterface.Number.ShortestDecimal
import ShaderInterface.Spirv.TyText

/-! Values of scalar constants. A value knows its own width and signedness; which type it was
declared with is not remembered. -/
namespace ShaderInterface.Spirv

inductive Width
  | w8
  | w16
  | w32
  | w64
  deriving DecidableEq

namespace Width

def bits : Width → Nat
  | w8 => 8
  | w16 => 16
  | w32 => 32
  | w64 => 64

def modulus : Width → Nat
  | w8 => 0x100
  | w16 => 0x10000
  | w32 => 0x100000000
  | w64 => 0x10000000000000000

def ofBits? (bits : UInt32) : Option Width :=
  [w8, w16, w32, w64].find? fun width => width.bits == bits.toNat

end Width

/-- The value of a scalar constant. Floating-point values are kept as their bits. -/
inductive Value
  | signed (width : Width) (value : Int)
  | unsigned (width : Width) (value : Nat)
  | half (bits : UInt16)
  | single (bits : UInt32)
  | double (bits : UInt64)
  | bool (value : Bool)
  deriving DecidableEq

namespace Value

/-- An integer of a width and signedness, the low bits of a number. -/
def ofInt (width : Width) (isSigned : Bool) (value : Int) : Value :=
  if isSigned then signed width (value.bmod width.modulus)
  else unsigned width (value.emod width.modulus).toNat

def int32? : Value → Option Int
  | signed .w32 value => some value
  | unsigned .w32 value => some value
  | _ => none

def pattern? : Value → Option UInt32
  | signed .w32 value => some (.ofNat (value.emod Width.w32.modulus).toNat)
  | unsigned .w32 value => some (.ofNat value)
  | single bits => some bits
  | _ => none

/-- The value as an unsigned word; what is negative or no 32-bit integer counts as zero. -/
def toWord : Value → UInt32
  | signed .w32 value => .ofNat value.toNat
  | unsigned .w32 value => .ofNat value
  | _ => 0

def length? (value : Value) : Option UInt32 :=
  match value.int32? with
  | some n => if 0 < n then some (.ofNat n.toNat) else none
  | none => none

def text : Value → String
  | signed width value =>
    Text.Structured.applied ("S" ++ toString width.bits) (toString value)
  | unsigned width value =>
    Text.Structured.applied ("U" ++ toString width.bits) (toString value)
  | half bits =>
    Text.Structured.applied "F16"
      (Number.ShortestDecimal.text .binary32 (Number.Binary32.ofHalf bits).toNat)
  | single bits =>
    Text.Structured.applied "F32" (Number.ShortestDecimal.text .binary32 bits.toNat)
  | double bits =>
    Text.Structured.applied "F64" (Number.ShortestDecimal.text .binary64 bits.toNat)
  | bool value => Text.Structured.applied "Bool" (Text.Structured.bool value)

end Value

namespace Scalar

/-- The integer of a width in the words of a constant: one word, or two for 64 bits. -/
def readInteger? (width : Width) (signed : Bool) (words : List UInt32) : Option Value :=
  match width, words with
  | .w64, [low, high] => some (.ofInt .w64 signed (low.toNat + high.toNat * Width.w32.modulus))
  | .w64, _ => none
  | _, [word] => some (.ofInt width signed word.toNat)
  | _, _ => none

def readFloat? (bits : UInt32) (words : List UInt32) : Option Value :=
  match bits.toNat, words with
  | 16, [word] => some (.half word.toUInt16)
  | 32, [word] => some (.single word)
  | 64, [low, high] => some (.double (low.toUInt64 ||| high.toUInt64 <<< 32))
  | _, _ => none

def read? (scalar : Scalar) (words : List UInt32) : Option Value :=
  match scalar with
  | void => none
  | boolean => some (.bool (words.any (· != 0)))
  | integer bits signed => (Width.ofBits? bits).bind fun width => readInteger? width signed words
  | float bits => readFloat? bits words

end Scalar

end ShaderInterface.Spirv
