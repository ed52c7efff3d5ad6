/-! Arithmetic on binary32 words, exact up to one rounding to the nearest value, ties to even. -/
namespace ShaderInterface.Number.Binary32

/-- What a word stands for; a finite one for the magnitude `mantissa * 2 ^ exponent` with a sign. -/
inductive Datum
  | nan
  | infinite (negative : Bool)
  | finite (negative : Bool) (mantissa : Nat) (exponent : Int)
  deriving DecidableEq

def isNegative (word : UInt32) : Bool := 0x80000000 ≤ word

def decode (word : UInt32) : Datum :=
  let negative := isNegative word
  let exponent := word.toNat / 0x800000 % 0x100
  let fraction := word.toNat % 0x800000
  if exponent = 0xff then
    if fraction = 0 then .infinite negative else .nan
  else if exponent = 0 then .finite negative fraction (-149)
  else .finite negative (0x800000 + fraction) (exponent - 150)

def withSign (negative : Bool) (magnitude : Nat) : UInt32 :=
  .ofNat (if negative then 0x80000000 + magnitude else magnitude)

def infinity : Nat := 0x7f800000

def invalid : UInt32 := 0xffc00000

/-- The result when an operand is no number: the first such operand, made quiet. -/
def quiet (a b : UInt32) : UInt32 :=
  (if decode a = .nan then a else b) ||| 0x00400000

/-- The word nearest to `mantissa * 2 ^ exponent`; `inexact` says that the magnitude is a little
larger than that, by less than one unit of the mantissa. -/
def round (negative : Bool) (mantissa : Nat) (exponent : Int) (inexact : Bool) : UInt32 :=
  if mantissa = 0 then withSign negative 0
  else
    let unit := max (exponent + Nat.log2 mantissa - 23) (-149)
    let magnitude :=
      if unit ≤ exponent then mantissa <<< (exponent - unit).toNat
      else
        let shift := (unit - exponent).toNat
        let kept := mantissa >>> shift
        let lost := mantissa % Nat.pow 2 shift
        let half := Nat.pow 2 (shift - 1)
        if half < lost ∨ lost = half ∧ (inexact ∨ kept % 2 = 1) then kept + 1 else kept
    withSign negative (min infinity ((unit + 149).toNat * 0x800000 + magnitude))

def ofInt (value : Int) : UInt32 := round (value < 0) value.natAbs 0 false

/-- The word of the same number as the 16 bits of a binary16 number; every such number has one. -/
def ofHalf (bits : UInt16) : UInt32 :=
  let negative := 0x8000 ≤ bits
  let exponent := bits.toNat / 0x400 % 0x20
  let fraction := bits.toNat % 0x400
  if exponent = 0x1f then withSign negative (infinity + fraction * 0x2000)
  else if exponent = 0 then round negative fraction (-24) false
  else round negative (0x400 + fraction) (exponent - 25) false

def scaled (negative : Bool) (mantissa : Nat) (exponent unit : Int) : Int :=
  let magnitude : Int := (mantissa <<< (exponent - unit).toNat : Nat)
  if negative then -magnitude else magnitude

def neg (a : UInt32) : UInt32 := a ^^^ 0x80000000

def add (a b : UInt32) : UInt32 :=
  match decode a, decode b with
  | .nan, _ => quiet a b
  | _, .nan => quiet a b
  | .infinite s, .infinite t => if s = t then a else invalid
  | .infinite _, .finite .. => a
  | .finite .., .infinite _ => b
  | .finite s m e, .finite t n f =>
    let unit := min e f
    let sum := scaled s m e unit + scaled t n f unit
    if sum = 0 then withSign (m = 0 ∧ n = 0 ∧ s ∧ t) 0
    else round (sum < 0) sum.natAbs unit false

def sub (a b : UInt32) : UInt32 :=
  if decode b = .nan then quiet a b else add a (neg b)

def mul (a b : UInt32) : UInt32 :=
  match decode a, decode b with
  | .nan, _ => quiet a b
  | _, .nan => quiet a b
  | .infinite s, .infinite t => withSign (s ^^ t) infinity
  | .infinite s, .finite t n _ => if n = 0 then invalid else withSign (s ^^ t) infinity
  | .finite s m _, .infinite t => if m = 0 then invalid else withSign (s ^^ t) infinity
  | .finite s m e, .finite t n f => round (s ^^ t) (m * n) (e + f) false

def div (a b : UInt32) : UInt32 :=
  match decode a, decode b with
  | .nan, _ => quiet a b
  | _, .nan => quiet a b
  | .infinite _, .infinite _ => invalid
  | .infinite s, .finite t .. => withSign (s ^^ t) infinity
  | .finite s .., .infinite t => withSign (s ^^ t) 0
  | .finite s m e, .finite t n f =>
    if n = 0 then if m = 0 then invalid else withSign (s ^^ t) infinity
    else
      let dividend := m <<< 60
      round (s ^^ t) (dividend / n) (e - f - 60) (dividend % n != 0)

/-- The remainder of the quotient cut to an integer; it has the sign of the dividend. -/
def rem (a b : UInt32) : UInt32 :=
  match decode a, decode b with
  | .nan, _ => quiet a b
  | _, .nan => quiet a b
  | .infinite _, _ => invalid
  | .finite .., .infinite _ => a
  | .finite s m e, .finite _ n f =>
    if n = 0 then invalid
    else
      let unit := min e f
      round s ((scaled false m e unit).natAbs % (scaled false n f unit).natAbs) unit false

def mod (a b : UInt32) : UInt32 :=
  let r := rem a b
  match decode r with
  | .finite true m _ => if m = 0 then r else add r (b &&& 0x7fffffff)
  | _ => r

/-- The integer that remains of a word when its fraction is cut off, moved to the nearer end of a
range that it leaves; zero for what is no number. -/
def toInt (word : UInt32) (least most : Int) : Int :=
  match decode word with
  | .nan => 0
  | .infinite negative => if negative then least else most
  | .finite negative mantissa exponent =>
    let magnitude : Int :=
      if 0 ≤ exponent then (mantissa <<< exponent.toNat : Nat)
      else (mantissa >>> (-exponent).toNat : Nat)
    max least (min most (if negative then -magnitude else magnitude))

end ShaderInterface.Number.Binary32
