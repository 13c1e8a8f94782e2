import MailMerge.Double.Shortest

/-!
# Written forms of a double

Every written form shows the shortest digits. The forms differ in where positional
notation ends, in how an exponent is written, in whether a whole number keeps its
`.0`, and in what stands for infinity and for no number; one record holds those
decisions.
-/

namespace MailMerge

namespace Double

/-- How a double is written. -/
structure Format where
  /-- Least decimal exponent written positionally; `none` when every one is. -/
  leastExponent : Option Int
  /-- Least decimal exponent above which positional notation ends. -/
  greatestExponent : Option Int
  /-- Whether a positive exponent has a sign. -/
  exponentPlus : Bool
  /-- Whether a whole number is written with `.0`. -/
  keepPoint : Bool
  tie : Tie
  infinityText : String
  nanText : String
deriving Repr

/-- How a cell is shown: always positional, a whole number without a point. -/
def Format.plain : Format := ⟨none, none, false, false, .up, "inf", "NaN"⟩

/-- How a key is compared with an exclusion: with a point, and positional between
0.0001 and 10000000000000000. -/
def Format.key : Format := ⟨some (-4), some 16, false, true, .up, "inf", "NaN"⟩

/-- How a document holds a number: with a point or a signed exponent. -/
def Format.document : Format := ⟨some (-5), some 16, true, true, .even, "inf", "NaN"⟩

/-- How rendered text shows a number: always positional, always with a point. -/
def Format.rendered : Format := ⟨none, none, false, true, .up, "inf", "NaN"⟩

/-- Digits with a point before the last `-exponent` of them, or zeros behind them. -/
def positional (keepPoint : Bool) (digits : List Char) (exponent : Int) : List Char :=
  if 0 ≤ exponent then
    digits ++ List.replicate exponent.toNat '0' ++ (if keepPoint then ['.', '0'] else [])
  else
    let places := (-exponent).toNat
    if places < digits.length then
      digits.take (digits.length - places) ++ '.' :: digits.drop (digits.length - places)
    else '0' :: '.' :: (List.replicate (places - digits.length) '0' ++ digits)

/-- One digit, the others behind a point, and the exponent. -/
def scientific (plus : Bool) (digits : List Char) (exponent : Int) : List Char :=
  let mantissa := match digits with
    | [] => []
    | [x] => [x]
    | x :: rest => x :: '.' :: rest
  let sign := if exponent < 0 then ['-'] else if plus then ['+'] else []
  mantissa ++ 'e' :: (sign ++ Nat.toDigits 10 exponent.natAbs)

/-- The digits of a finite double without its sign. -/
def writeFinite (format : Format) (d : Double) : List Char :=
  if d.isZero then positional format.keepPoint ['0'] 0
  else
    let x := d.shortest format.tie
    let digits := Nat.toDigits 10 x.digits
    let exponent := x.exponent + digits.length - 1
    let small := match format.leastExponent with | some e => exponent < e | none => false
    let large := match format.greatestExponent with | some e => e ≤ exponent | none => false
    if small || large then scientific format.exponentPlus digits exponent
    else positional format.keepPoint digits x.exponent

/-- The text of a double. -/
def write (format : Format) (d : Double) : String :=
  if d.isNaN then format.nanText
  else
    let sign := if d.isNegative then "-" else ""
    if d.isInfinite then sign ++ format.infinityText
    else sign ++ String.ofList (writeFinite format d)

end Double

end MailMerge
