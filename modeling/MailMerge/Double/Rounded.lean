import MailMerge.Double.Reading
import MailMerge.Double.Writing

/-!
# A double to fifteen digits

Where a number stands in a column of texts it is written with at most fifteen
significant digits, the last one rounded half up, and always with a point.
-/

namespace MailMerge

namespace Double

/-- Zeros put behind a number before its digits are taken, enough for the least double. -/
def roundedScale : Nat := 400

/-- The first fifteen digits of a finite double other than zero, rounded half up. -/
def rounded (d : Double) : Decimal :=
  let digits := Nat.toDigits 10 (d.units * 10 ^ roundedScale / unitsPerOne)
  let places := digits.length - 15
  let n := digitsValue (digits.take 15)
  let up := digits[15]?.any fun c => 5 ≤ digitValue c
  Decimal.normalize 20 ⟨if up then n + 1 else n, (places : Int) - roundedScale⟩

/-- An exponent with its sign and at least two digits. -/
def signedExponent (e : Int) : List Char :=
  let digits := Nat.toDigits 10 e.natAbs
  (if e < 0 then '-' else '+') :: (if digits.length < 2 then '0' :: digits else digits)

/-- Fifteen digits of a finite double, positional from 0.0001 to below 1e15. -/
def writeRoundedFinite (d : Double) : List Char :=
  if d.isZero then ['0', '.', '0']
  else
    let x := d.rounded
    let digits := Nat.toDigits 10 x.digits
    let exponent := x.exponent + digits.length - 1
    let sign := if d.isNegative then ['-'] else []
    if exponent < -4 || 14 < exponent then
      sign ++ positional true digits (1 - digits.length) ++ 'e' :: signedExponent exponent
    else sign ++ positional true digits x.exponent

/-- The text of a number among texts. -/
def writeRounded (d : Double) : String :=
  if d.isNaN then ""
  else if d.isInfinite then (if d.isNegative then "-Inf" else "Inf")
  else String.ofList (writeRoundedFinite d)

end Double

end MailMerge
