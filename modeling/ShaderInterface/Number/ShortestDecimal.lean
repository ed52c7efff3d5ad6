/-! The shortest decimal text of a binary floating-point number: the fewest digits that read back as
the same number, and of those the nearest to it. -/
namespace ShaderInterface.Number.ShortestDecimal

/-- A binary interchange format. -/
structure Format where
  exponentBits : Nat
  fractionBits : Nat

namespace Format

def binary32 : Format := ⟨8, 23⟩

def binary64 : Format := ⟨11, 52⟩

end Format

structure Fraction where
  num : Nat
  den : Nat

namespace Fraction

def binary (m : Nat) (e : Int) : Fraction := ⟨m * Nat.pow 2 e.toNat, Nat.pow 2 (-e).toNat⟩

def decimal (m : Nat) (e : Int) : Fraction := ⟨m * Nat.pow 10 e.toNat, Nat.pow 10 (-e).toNat⟩

def lt (a b : Fraction) : Bool := a.num * b.den < b.num * a.den

def distance (a b : Fraction) : Fraction :=
  ⟨max (a.num * b.den) (b.num * a.den) - min (a.num * b.den) (b.num * a.den), a.den * b.den⟩

def quotient (a b : Fraction) : Nat := a.num * b.den / (a.den * b.num)

end Fraction

/-- A positive number with the bounds of what reads back as it; `closed` says that the bounds
themselves do. -/
structure Target where
  value : Fraction
  least : Fraction
  most : Fraction
  closed : Bool

/-- The target of the number `mantissa * 2 ^ exponent`; the gap below is half as wide when the
number is the first of its binade. -/
def Target.of (mantissa : Nat) (exponent : Int) (firstOfBinade : Bool) : Target :=
  { value := .binary (4 * mantissa) (exponent - 2)
    least := .binary (4 * mantissa - (if firstOfBinade then 1 else 2)) (exponent - 2)
    most := .binary (4 * mantissa + 2) (exponent - 2)
    closed := mantissa % 2 = 0 }

def Target.reads (target : Target) (decimal : Fraction) : Bool :=
  if target.closed then !decimal.lt target.least && !target.most.lt decimal
  else target.least.lt decimal && decimal.lt target.most

/-- The decimal of `digits * 10 ^ exponent` next to the target that reads back, if one does: below
it or above it, whichever is nearer. -/
def nearest? (target : Target) (exponent : Int) : Option Nat :=
  let below := target.value.quotient (.decimal 1 exponent)
  let lower := Fraction.decimal below exponent
  let upper := Fraction.decimal (below + 1) exponent
  let preferUpper := !(target.value.distance lower).lt (target.value.distance upper)
  match target.reads lower, target.reads upper with
  | true, true => some (if preferUpper then below + 1 else below)
  | true, false => some below
  | false, true => some (below + 1)
  | false, false => none

/-- The first of the grids `exponent`, `exponent - 1`, … on which a decimal reads back. -/
def search (target : Target) : (grids : Nat) → Int → Nat × Int
  | 0, exponent => (target.value.quotient (.decimal 1 exponent), exponent)
  | grids + 1, exponent =>
    match nearest? target exponent with
    | some digits => (digits, exponent)
    | none => search target grids (exponent - 1)

def highestDigit (value : Fraction) : (bound : Nat) → Int → Int
  | 0, position => position
  | bound + 1, position =>
    if value.lt (.decimal 1 position) then highestDigit value bound (position - 1) else position

/-- Digits and exponent of the shortest decimal; the digits end in no zero. -/
def shortest (target : Target) : List Char × Int :=
  let (digits, exponent) := search target 17 (highestDigit target.value 700 310)
  let text := Nat.toDigits 10 digits
  let kept := (text.reverse.dropWhile (· == '0')).reverse
  (kept, exponent + (text.length - kept.length : Nat))

def positional (digits : List Char) (exponent : Int) : List Char :=
  if 0 ≤ exponent then digits ++ List.replicate exponent.toNat '0' ++ ['.', '0']
  else
    let places := (-exponent).toNat
    let filled := List.replicate (places + 1 - digits.length) '0' ++ digits
    filled.take (filled.length - places) ++ ['.'] ++ filled.drop (filled.length - places)

def scientific (digits : List Char) (exponent : Int) : List Char :=
  let fraction := match digits.drop 1 with
    | [] => []
    | rest => '.' :: rest
  digits.take 1 ++ fraction ++ ['e'] ++ (toString (exponent + (digits.length - 1 : Nat))).toList

/-- The text of a positive decimal: positional from `10 ^ -4` up to, not including, `10 ^ 16`. -/
def positiveText (digits : List Char) (exponent : Int) : List Char :=
  let magnitude := exponent + digits.length
  if -4 < magnitude ∧ magnitude ≤ 16 then positional digits exponent
  else scientific digits exponent

def text (format : Format) (bits : Nat) : String :=
  let fraction := bits % Nat.pow 2 format.fractionBits
  let field := bits / Nat.pow 2 format.fractionBits % Nat.pow 2 format.exponentBits
  let negative := bits / Nat.pow 2 (format.fractionBits + format.exponentBits) % 2 = 1
  let bias : Int := (Nat.pow 2 (format.exponentBits - 1) - 1 : Nat) + format.fractionBits
  let sign := if negative then "-" else ""
  if field = Nat.pow 2 format.exponentBits - 1 then
    if fraction = 0 then sign ++ "inf" else "NaN"
  else if field = 0 ∧ fraction = 0 then sign ++ "0.0"
  else
    let target :=
      if field = 0 then Target.of fraction (1 - bias) false
      else Target.of (Nat.pow 2 format.fractionBits + fraction) (field - bias)
        (fraction = 0 ∧ 1 < field)
    let (digits, exponent) := shortest target
    sign ++ String.ofList (positiveText digits exponent)

end ShaderInterface.Number.ShortestDecimal
