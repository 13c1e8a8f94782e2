import MailMerge.Template.Filter.Text
import MailMerge.Double.Rounded

/-!
# Layouts

A layout is a text with places marked by a percent sign: each says which argument stands
there, how wide it is and how it is written. Arguments are taken in order, or by the name
the place gives in round brackets.
-/

namespace MailMerge

/-- One place of a layout. -/
structure LayoutPlace where
  name : Option String := none
  left : Bool := false
  plus : Bool := false
  blank : Bool := false
  zeros : Bool := false
  marked : Bool := false
  width : Nat := 0
  precision : Option Nat := none
  conversion : Char
deriving Repr, Inhabited

namespace LayoutPlace

-- ---------------------------------------------------------------------------
-- Numbers
-- ---------------------------------------------------------------------------

/-- Digits with leading zeros up to a length. -/
def padDigits (length : Nat) (digits : List Char) : List Char :=
  List.replicate (length - digits.length) '0' ++ digits

/-- A number of `10 ^ -places` with its point; without places there is a point only if
asked for. -/
def pointed (places : Nat) (keepPoint : Bool) (n : Nat) : List Char :=
  let digits := padDigits (places + 1) (Nat.toDigits 10 n)
  let whole := digits.take (digits.length - places)
  if places == 0 then whole ++ (if keepPoint then ['.'] else [])
  else whole ++ '.' :: digits.drop (digits.length - places)

/-- The absolute value of a finite double with so many places; ties go to the even
neighbour. -/
def fixed (places : Nat) (keepPoint : Bool) (d : Double) : List Char :=
  pointed places keepPoint (Double.roundQuotient (d.units * 10 ^ places) Double.unitsPerOne)

/-- The absolute value of a finite double as digits, one more than the places, and the
exponent of the first. -/
def significant (places : Nat) (d : Double) : Nat × Int :=
  if d.isZero then (0, 0)
  else
    let exponent := d.decimalOrder - 1
    let scale : Int := places - exponent
    let n :=
      if 0 ≤ scale then Double.roundQuotient (d.units * 10 ^ scale.toNat) Double.unitsPerOne
      else Double.roundQuotient d.units (Double.unitsPerOne * 10 ^ (-scale).toNat)
    if 10 ^ (places + 1) ≤ n then (n / 10, exponent + 1) else (n, exponent)

/-- The absolute value of a finite double with an exponent. -/
def exponential (places : Nat) (keepPoint : Bool) (mark : Char) (d : Double) : List Char :=
  let (n, exponent) := significant places d
  pointed places keepPoint n ++ mark :: Double.signedExponent exponent

/-- Digits behind a point without the zeros they end with, and without the point if none
are left. -/
def dropZeros (cs : List Char) : List Char :=
  if cs.contains '.' then
    let kept := (cs.reverse.dropWhile (· == '0'))
    (if kept.head? == some '.' then kept.tail else kept).reverse
  else cs

/-- The absolute value of a finite double with so many digits, with an exponent where it
is very large or very small. -/
def general (digits : Nat) (keepZeros : Bool) (mark : Char) (d : Double) : List Char :=
  let digits := max 1 digits
  let (_, exponent) := significant (digits - 1) d
  let tidy (cs : List Char) := if keepZeros then cs else dropZeros cs
  if exponent < -4 || (digits : Int) ≤ exponent then
    let (n, exponent) := significant (digits - 1) d
    tidy (pointed (digits - 1) keepZeros n) ++ mark :: Double.signedExponent exponent
  else tidy (fixed (digits - 1 - exponent).toNat keepZeros d)

/-- The sign that stands before a number. -/
def sign (p : LayoutPlace) (negative : Bool) : List Char :=
  if negative then ['-'] else if p.plus then ['+'] else if p.blank then [' '] else []

/-- A text brought to the width of its place. Zeros go between sign and digits. -/
def fit (p : LayoutPlace) (numeric : Bool) (sign cs : List Char) : List Char :=
  let missing := p.width - (sign.length + cs.length)
  if p.left then sign ++ cs ++ List.replicate missing ' '
  else if numeric && p.zeros then sign ++ List.replicate missing '0' ++ cs
  else List.replicate missing ' ' ++ sign ++ cs

/-- A whole number in a base. -/
def writeWhole (p : LayoutPlace) (base : Nat) (mark : List Char) (i : Int) : List Char :=
  let digits := padDigits (p.precision.getD 0) (Nat.toDigits base i.natAbs)
  p.fit true (p.sign (i < 0) ++ (if p.marked then mark else [])) digits

/-- A double, written by its absolute value. -/
def writeDouble (p : LayoutPlace) (write : Double → List Char) (d : Double) : List Char :=
  let sign := p.sign (d.isNegative && !d.isNaN)
  if d.isNaN then p.fit false sign "nan".toList
  else if d.isInfinite then p.fit false sign "inf".toList
  else p.fit true sign (write d)

-- ---------------------------------------------------------------------------
-- Conversions
-- ---------------------------------------------------------------------------

def upperCase (cs : List Char) : List Char := cs.map Char.toUpper

/-- A text, shortened to the precision. -/
def writeText (p : LayoutPlace) (cs : List Char) : List Char :=
  p.fit false [] (match p.precision with
    | some n => cs.take n
    | none => cs)

/-- The whole number that stands at a place for decimal digits: fractions are dropped. -/
def decimal? (d : Datum) : Option Int :=
  match d with
  | .double x => x.trunc.toInt?
  | .bool b => some (if b then 1 else 0)
  | .int i => some i
  | _ => none

/-- The whole number that stands at a place for digits in another base. -/
def based? (d : Datum) : Option Int :=
  match d with
  | .bool b => some (if b then 1 else 0)
  | .int i => some i
  | _ => none

/-- How an argument stands at a place. -/
def write (p : LayoutPlace) (shown : String) (d : Datum) : Except RenderError (List Char) := do
  let places := p.precision.getD 6
  let double : Except RenderError Double := (orFail d.number?).map Datum.Number.toDouble
  match p.conversion with
  | 's' => return p.writeText shown.toList
  | 'r' => return p.writeText d.inner.toList
  | 'a' => return p.writeText d.inner.toList
  | 'd' => return p.writeWhole 10 [] (← orFail (decimal? d))
  | 'i' => return p.writeWhole 10 [] (← orFail (decimal? d))
  | 'u' => return p.writeWhole 10 [] (← orFail (decimal? d))
  | 'x' => return p.writeWhole 16 ['0', 'x'] (← orFail (based? d))
  | 'X' => return upperCase (p.writeWhole 16 ['0', 'x'] (← orFail (based? d)))
  | 'o' => return p.writeWhole 8 ['0', 'o'] (← orFail (based? d))
  | 'f' => return p.writeDouble (fixed places p.marked) (← double)
  | 'F' => return upperCase (p.writeDouble (fixed places p.marked) (← double))
  | 'e' => return p.writeDouble (exponential places p.marked 'e') (← double)
  | 'E' => return upperCase (p.writeDouble (exponential places p.marked 'e') (← double))
  | 'g' => return p.writeDouble (general places p.marked 'e') (← double)
  | 'G' => return upperCase (p.writeDouble (general places p.marked 'e') (← double))
  | 'c' =>
    match d with
    | .text s _ => do
      require (s.length == 1)
      return p.writeText s.toList
    | d => do
      let n ← orFail (based? d)
      require (0 ≤ n && n.toNat.isValidChar)
      return p.writeText [Char.ofNat n.toNat]
  | _ => .error .failed

end LayoutPlace

namespace Layout

/-- What is left of the arguments. -/
structure Supply where
  places : List Datum
  names : ArgumentList.Keywords

/-- The next argument, taken off. -/
def Supply.next (s : Supply) : Except RenderError (Datum × Supply) :=
  match s.places with
  | d :: rest => .ok (d, { s with places := rest })
  | [] => .error .failed

/-- The flags before the width of a place. -/
def readFlags (p : LayoutPlace) : List Char → LayoutPlace × List Char
  | '-' :: cs => readFlags { p with left := true } cs
  | '+' :: cs => readFlags { p with plus := true } cs
  | ' ' :: cs => readFlags { p with blank := true } cs
  | '0' :: cs => readFlags { p with zeros := true } cs
  | '#' :: cs => readFlags { p with marked := true } cs
  | cs => (p, cs)

/-- A number in a place: its digits, or a star for the next argument. -/
def readNumber (s : Supply) : List Char → Except RenderError (Option Int × List Char × Supply)
  | '*' :: cs => do
    let (d, s) ← s.next
    return (some (← orFail (LayoutPlace.based? d)), cs, s)
  | cs =>
    let (digits, rest) := spanDigits cs
    let n : Option Int := if digits.isEmpty then none else some (digitsValue digits)
    .ok (n, rest, s)

/-- The name a place gives in brackets; inner brackets belong to it. -/
def readName : Nat → List Char → Option (List Char × List Char)
  | _, [] => none
  | 0, ')' :: cs => some ([], cs)
  | depth + 1, ')' :: cs => (readName depth cs).map fun r => (')' :: r.1, r.2)
  | depth, '(' :: cs => (readName (depth + 1) cs).map fun r => ('(' :: r.1, r.2)
  | depth, c :: cs => (readName depth cs).map fun r => (c :: r.1, r.2)

/-- The place behind a percent sign, and what follows it. -/
def readPlace (s : Supply) (cs : List Char) :
    Except RenderError (LayoutPlace × List Char × Supply) := do
  let (name, cs) ← match cs with
    | '(' :: cs => do
      let (name, cs) ← orFail (readName 0 cs)
      pure (some (String.ofList name), cs)
    | cs => pure (none, cs)
  let (p, cs) := readFlags { name, conversion := 's' } cs
  let (width, cs, s) ← readNumber s cs
  let p := match width with
    | some w => { p with width := w.natAbs, left := p.left || w < 0 }
    | none => p
  let (p, cs, s) ← match cs with
    | '.' :: cs => do
      let (precision, cs, s) ← readNumber s cs
      pure ({ p with precision := some (precision.getD 0).toNat }, cs, s)
    | cs => pure (p, cs, s)
  match cs.dropWhile fun c => c == 'h' || c == 'l' || c == 'L' with
  | c :: cs => return ({ p with conversion := c }, cs, s)
  | [] => .error .failed

/-- The text of a layout with its arguments in their places. -/
def fill (shown : Datum → String) : Nat → Supply → List Char → Except RenderError (List Char × Supply)
  | 0, s, _ => .ok ([], s)
  | _, s, [] => .ok ([], s)
  | fuel + 1, s, '%' :: cs => do
    let (p, cs, s) ← readPlace s cs
    if p.conversion == '%' then
      let (more, s) ← fill shown fuel s cs
      return ('%' :: more, s)
    else do
      let (d, s) ← match p.name with
        | some name => do
          let d ← orFail (Datum.lookup? (Datum.ofText name) s.names)
          pure (d, s)
        | none => s.next
      let written ← p.write (shown d) d
      let (more, s) ← fill shown fuel s cs
      return (written ++ more, s)
  | fuel + 1, s, c :: cs => do
    let (more, s) ← fill shown fuel s cs
    return (c :: more, s)

end Layout

namespace Filter

/-- Fills the places of a layout. Arguments come all by place or all by name, and those
by place must all be used. -/
def layout (mode : Mode) (args : ArgumentList) : Except RenderError Datum := do
  let host ← args.datum 0
  let cs := (← args.written mode 0).toList
  let (places, names) := ArgumentList.splitKeywords args.tail
  require (places.isEmpty || names.isEmpty)
  let shown (d : Datum) : String := if host.isSafe then safeText d else d.display
  let (filled, rest) ← Layout.fill shown (cs.length + 1) ⟨places, names⟩ cs
  require rest.places.isEmpty
  return likeSafe host filled

end Filter

end MailMerge
