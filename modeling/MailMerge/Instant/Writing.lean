import MailMerge.Instant.Basic

/-!
# Writing an instant

An instant is written as calendar date and time of day in UTC, to the second. A
leap second is written as second 60.
-/

namespace MailMerge

/-- At least `width` decimal digits, zeros in front. -/
def paddedDigits (width n : Nat) : List Char :=
  let digits := Nat.toDigits 10 n
  List.replicate (width - digits.length) '0' ++ digits

namespace Instant

/-- Years of four digits stand alone; all others have a sign. -/
def yearText (year : Int) : List Char :=
  if 0 ≤ year ∧ year ≤ 9999 then paddedDigits 4 year.natAbs
  else (if year < 0 then '-' else '+') :: paddedDigits 4 year.natAbs

/-- Hour, minute and second of the day; a leap second counts as second 60. -/
def timeOfDay (t : Instant) : Nat × Nat × Nat :=
  let s := (t.seconds % secondsPerDay).toNat
  (s / 3600, s / 60 % 60, s % 60 + t.nanos / nanosPerSecond)

/-- The day an instant falls on. -/
def day (t : Instant) : Day := Day.ofDayNumber (t.seconds / secondsPerDay)

/-- Date, `T`, time of day and `Z`. -/
def write (t : Instant) : String :=
  let d := t.day
  let (h, m, s) := t.timeOfDay
  String.ofList (yearText d.year ++ '-' :: paddedDigits 2 d.month ++ '-' :: paddedDigits 2 d.day ++
    'T' :: paddedDigits 2 h ++ ':' :: paddedDigits 2 m ++ ':' :: paddedDigits 2 s ++ ['Z'])

end Instant

end MailMerge
