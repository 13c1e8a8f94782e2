import MailMerge.Double.Basic

/-!
# The shortest decimal digits of a double

Among the decimals that round to a double the one with the fewest digits is
written, and of two with equally few the nearer. Only one choice is left to the
caller: which of two equally near decimals wins.
-/

namespace MailMerge

namespace Double

/-- Which of two equally near decimals is written. -/
inductive Tie where
  | up
  | even
deriving DecidableEq, Repr

/-- A positive decimal `digits * 10 ^ exponent`. -/
structure Decimal where
  digits : Nat
  exponent : Int
deriving DecidableEq, Repr

/-- Lower and upper end of the decimals that round to a finite double, in quarters
of a unit. -/
def interval (d : Double) : Nat × Nat :=
  let m := d.significand
  let below := if d.magnitude % 2 ^ 52 = 0 ∧ 2 ^ 52 < d.magnitude then 1 else 2
  ((4 * m - below) * 2 ^ d.shift, (4 * m + 2) * 2 ^ d.shift)

/-- Whether `n / q` quarter units lie in the interval of a double; its ends belong to
it when the significand is even. -/
def inInterval (d : Double) (n q : Nat) : Bool :=
  let (lo, hi) := d.interval
  if d.significand % 2 == 0 then lo * q ≤ n && n ≤ hi * q else lo * q < n && n < hi * q

/-- The decimal on the grid `10 ^ exponent` nearest to the double among those that round
to it. -/
def onGrid? (tie : Tie) (d : Double) (exponent : Int) : Option Decimal :=
  -- One grid step is `step / q` quarter units.
  let (step, q) :=
    if 0 ≤ exponent then (4 * unitsPerOne * 10 ^ exponent.toNat, 1)
    else (4 * unitsPerOne, 10 ^ (-exponent).toNat)
  let value := 4 * d.units * q
  let low := value / step
  let rest := value % step
  let high := low + 1
  let takeHigh := step < 2 * rest ||
    (2 * rest == step && (match tie with | .up => true | .even => low % 2 == 1))
  match d.inInterval (low * step) q, d.inInterval (high * step) q with
  | false, false => none
  | true, false => some ⟨low, exponent⟩
  | false, true => some ⟨high, exponent⟩
  | true, true => some ⟨if takeHigh then high else low, exponent⟩

/-- Zeros between the point and the first digit of `n` units, a number below one. -/
def zerosAfterPoint : Nat → Nat → Nat
  | 0, _ => 0
  | fuel + 1, n => if unitsPerOne ≤ n * 10 then 0 else zerosAfterPoint fuel (n * 10) + 1

/-- The least `k` with the absolute value below `10 ^ k`. -/
def decimalOrder (d : Double) : Int :=
  if d.units < unitsPerOne then -(zerosAfterPoint 330 d.units : Int)
  else (Nat.toDigits 10 (d.units / unitsPerOne)).length

/-- The decimal without the zeros its digits end with. -/
def Decimal.normalize : Nat → Decimal → Decimal
  | 0, x => x
  | fuel + 1, x =>
    if x.digits % 10 == 0 && x.digits != 0 then normalize fuel ⟨x.digits / 10, x.exponent + 1⟩
    else x

/-- The shortest decimal of a finite double other than zero. Seventeen digits always
suffice. -/
def shortest (tie : Tie) (d : Double) : Decimal :=
  let order := d.decimalOrder
  let found := (List.range 17).findSome? fun (n : Nat) => onGrid? tie d (order - (n + 1))
  (found.getD ⟨0, 0⟩).normalize 20

end Double

end MailMerge
