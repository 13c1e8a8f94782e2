import MailMerge.Document.Basic
import MailMerge.Double.Arithmetic

/-!
# Numbers of a JSON text

A number without point and exponent is whole as long as it fits 64 bits. All others
are doubles, computed from the digits that fit 64 bits and one power of ten, so that a
long number may be a neighbour of the nearest double. Minus zero is a double.
-/

namespace MailMerge

namespace Json

/-- Appends decimal digits to a number of 64 bits. The first digit that does not fit
ends this; the second result counts the digits used, the third those left. -/
def appendDigits : Nat → List Char → Nat × Nat × Nat
  | n, [] => (n, 0, 0)
  | n, c :: cs =>
    let m := 10 * n + digitValue c
    if m < 2 ^ 64 then
      let (r, used, unused) := appendDigits m cs
      (r, used + 1, unused)
    else (n, 0, cs.length + 1)

/-- A number times a power of ten, each step rounded. Exponents below those of the
powers a double can hold are taken in steps of 308. -/
def scale? : Nat → Double → Int → Option Double
  | 0, _, _ => some Double.zero
  | fuel + 1, f, e =>
    if f.isZero then some f
    else if 308 < e then none
    else if 0 ≤ e then
      let r := f.mul (Double.ofDecimal false 1 e)
      if r.isInfinite then none else some r
    else if -308 ≤ e then some (f.div (Double.ofDecimal false 1 (-e)))
    else scale? fuel (f.div (Double.ofDecimal false 1 308)) (e + 308)

/-- The double `± n * 10 ^ e`, unless it is too large. -/
def double? (negative : Bool) (n : Nat) (e : Int) : Option Double :=
  (scale? 4 (Double.ofInt n) e).map fun d => if negative then d.neg else d

/-- An optional sign and at least one digit behind `e`. -/
def exponent? (cs : List Char) : Option (Int × List Char) :=
  let (negative, cs) := Double.splitSign cs
  let (digits, rest) := spanDigits cs
  if digits.isEmpty then none
  else
    let n : Int := digitsValue digits
    some (if negative then -n else n, rest)

/-- The exponent behind `e` or `E`, if there is one. -/
def optionalExponent? : List Char → Option (Option Int × List Char)
  | c :: cs =>
    if c == 'e' || c == 'E' then (exponent? cs).map fun r => (some r.1, r.2)
    else some (none, c :: cs)
  | [] => some (none, [])

/-- The digits before the point: a zero alone, or digits that start with none. -/
def wholeDigits? (cs : List Char) : Option (List Char × List Char) :=
  let (digits, rest) := spanDigits cs
  match digits with
  | [] => none
  | ['0'] => some (digits, rest)
  | '0' :: _ => none
  | _ => some (digits, rest)

/-- The digits behind a point, if there is one. -/
def fractionDigits? : List Char → Option (Option (List Char) × List Char)
  | '.' :: cs =>
    let (digits, rest) := spanDigits cs
    if digits.isEmpty then none else some (some digits, rest)
  | cs => some (none, cs)

/-- A whole number of at most 64 bits, with its sign. -/
def wholeScalar (negative : Bool) (n : Nat) : Scalar :=
  if !negative then .int n
  else if n == 0 then .double (Double.ofSign true 0)
  else if n ≤ 2 ^ 63 then .int (-(n : Int))
  else .double (Double.ofInt n).neg

/-- A number behind its sign. -/
def unsigned? (negative : Bool) (cs : List Char) : Option (Scalar × List Char) := do
  let (digits, cs) ← wholeDigits? cs
  let (n, _, dropped) := appendDigits 0 digits
  let (fraction, cs) ← fractionDigits? cs
  let (exponent, cs) ← optionalExponent? cs
  if dropped == 0 && fraction.isNone && exponent.isNone then
    some (wholeScalar negative n, cs)
  else
    let (n, used, _) := appendDigits n (fraction.getD [])
    let e : Int := dropped - used + exponent.getD 0
    (double? negative n e).map fun d => (.double d, cs)

/-- A number at the start of a text. -/
def number? : List Char → Option (Scalar × List Char)
  | '-' :: cs => unsigned? true cs
  | cs => unsigned? false cs

end Json

end MailMerge
