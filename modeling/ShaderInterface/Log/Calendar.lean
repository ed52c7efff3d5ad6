/-! Points in time and their text in the proleptic Gregorian calendar, at an offset from universal
time. -/
namespace ShaderInterface.Calendar

/-- A point in time: seconds after the start of 1970 in universal time (before it, if negative), and
nanoseconds after that second. -/
structure Instant where
  seconds : Int
  nanos : Nat
  deriving DecidableEq

structure Date where
  year : Int
  month : Nat
  day : Nat
  deriving DecidableEq

/-- The day that stands so many days after the first of January 1970. Years are counted from
March, so that a leap day ends its year, in eras of 400 years or 146097 days. -/
def Date.ofEpochDay (epochDay : Int) : Date :=
  let shifted := epochDay + 719468
  let era := shifted.fdiv 146097
  let dayOfEra := (shifted.fmod 146097).toNat
  let yearOfEra := (dayOfEra - dayOfEra / 1460 + dayOfEra / 36524 - dayOfEra / 146096) / 365
  let dayOfYear := dayOfEra - (365 * yearOfEra + yearOfEra / 4 - yearOfEra / 100)
  let monthFromMarch := (5 * dayOfYear + 2) / 153
  let day := dayOfYear - (153 * monthFromMarch + 2) / 5 + 1
  let month := if monthFromMarch < 10 then monthFromMarch + 3 else monthFromMarch - 9
  let year := era * 400 + yearOfEra + (if month ≤ 2 then 1 else 0)
  ⟨year, month, day⟩

def padded (width value : Nat) : String :=
  let digits := Nat.toDigits 10 value
  String.ofList (List.replicate (width - digits.length) '0' ++ digits)

/-- Four digits at least; a sign before negative years and before those above 9999. -/
def yearText (year : Int) : String :=
  if year < 0 then "-" ++ padded 4 year.natAbs
  else if 9999 < year then "+" ++ padded 4 year.natAbs
  else padded 4 year.natAbs

namespace Instant

def toNanos (offset : Int) (instant : Instant) : Int :=
  (instant.seconds + offset) * 1000000000 + instant.nanos

/-- Date and time of day to the millisecond, cut and not rounded, where clocks are so many seconds
ahead of universal time. -/
def text (offset : Int) (instant : Instant) : String :=
  let millis := (instant.toNanos offset).fdiv 1000000
  let date := Date.ofEpochDay (millis.fdiv 86400000)
  let ofDay := (millis.fmod 86400000).toNat
  yearText date.year ++ "-" ++ padded 2 date.month ++ "-" ++ padded 2 date.day ++ " " ++
    padded 2 (ofDay / 3600000) ++ ":" ++ padded 2 (ofDay / 60000 % 60) ++ ":" ++
    padded 2 (ofDay / 1000 % 60) ++ "." ++ padded 3 (ofDay % 1000)

end Instant

end ShaderInterface.Calendar
