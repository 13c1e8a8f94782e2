import MailMerge.Instant.Basic
import MailMerge.Text.Blank
import MailMerge.Double.Reading

/-!
# Reading an instant

A date is read in the strict internet form first, with an offset from UTC, and then
in a few looser layouts. A layout is a list of parts; its numbers may have blanks in
front and fewer digits than they could, and a text without an offset is in UTC.
-/

namespace MailMerge

namespace Instant

/-- What a text says about an instant; the offset is in seconds east of UTC. -/
structure Fields where
  year : Int := 0
  month : Nat := 1
  day : Nat := 1
  hour : Nat := 0
  minute : Nat := 0
  second : Nat := 0
  nanos : Nat := 0
  offset : Int := 0
deriving DecidableEq, Repr

/-- The instant, if date, time of day and offset are in range. Second 60 runs the
nanoseconds on. -/
def Fields.toInstant? (f : Fields) : Option Instant :=
  let d : Day := ⟨f.year, f.month, f.day⟩
  if d.isValid && f.hour ≤ 23 && f.minute ≤ 59 && f.second ≤ 60 && f.offset.natAbs < secondsPerDay
  then
    let leap : Nat := if f.second = 60 then 1 else 0
    let time : Nat := f.hour * 3600 + f.minute * 60 + f.second - leap
    let clock := d.toDayNumber * secondsPerDay + time
    let t : Instant := ⟨clock - f.offset, f.nanos + leap * nanosPerSecond⟩
    let year := (Day.ofDayNumber (t.seconds / secondsPerDay)).year
    if Day.yearRange.1 ≤ year ∧ year ≤ Day.yearRange.2 then some t else none
  else none

-- ---------------------------------------------------------------------------
-- Numbers, fractions and offsets
-- ---------------------------------------------------------------------------

/-- A number of at least `least` and at most `most` digits, and what follows. -/
def number? (least most : Nat) (cs : List Char) : Option (Nat × List Char) :=
  let digits := (cs.take most).takeWhile Char.isDigit
  if digits.length < least then none else some (digitsValue digits, cs.drop digits.length)

/-- One given character. -/
def char? (c : Char) : List Char → Option (List Char)
  | d :: cs => if d == c then some cs else none
  | [] => none

/-- Digits of a fraction of a second, as nanoseconds; digits beyond the ninth are
dropped. -/
def fraction? (cs : List Char) : Option (Nat × List Char) :=
  let (digits, rest) := spanDigits cs
  if digits.isEmpty then none
  else
    let kept := digits.take 9
    some (digitsValue kept * 10 ^ (9 - kept.length), rest)

/-- A fraction behind a point, or none. -/
def optionalFraction? : List Char → Option (Nat × List Char)
  | '.' :: cs => fraction? cs
  | cs => some (0, cs)

/-- A signed offset of hours and minutes, `divide` taking off what stands between. -/
def offset? (divide : List Char → Option (List Char)) : List Char → Option (Int × List Char)
  | [] => none
  | c :: cs => do
    let negative ←
      if c == '+' then some false else if c == '-' || c == '\u2212' then some true else none
    let (hours, cs) ← number? 2 2 cs
    let cs ← divide cs
    let (minutes, cs) ← number? 2 2 cs
    if 59 < minutes then none
    else
      let n : Int := hours * 3600 + minutes * 60
      some (if negative then -n else n, cs)

-- ---------------------------------------------------------------------------
-- The internet form
-- ---------------------------------------------------------------------------

/-- `Z` or an offset with a colon. -/
def zone? : List Char → Option (Int × List Char)
  | 'Z' :: cs => some (0, cs)
  | 'z' :: cs => some (0, cs)
  | cs => offset? (char? ':') cs

/-- Date and time with all digits and a zone, and nothing behind them. -/
def readInternet? (cs : List Char) : Option Instant := do
  let (year, cs) ← number? 4 4 cs
  let (month, cs) ← number? 2 2 (← char? '-' cs)
  let (day, cs) ← number? 2 2 (← char? '-' cs)
  let cs ← match cs with
    | c :: cs => if c == 'T' || c == 't' || c == ' ' then some cs else none
    | [] => none
  let (hour, cs) ← number? 2 2 cs
  let (minute, cs) ← number? 2 2 (← char? ':' cs)
  let (second, cs) ← number? 2 2 (← char? ':' cs)
  let (nanos, cs) ← optionalFraction? cs
  let (offset, cs) ← zone? cs
  if cs.isEmpty then
    Fields.toInstant? ⟨year, month, day, hour, minute, second, nanos, offset⟩
  else none

-- ---------------------------------------------------------------------------
-- Loose layouts
-- ---------------------------------------------------------------------------

/-- A part of a layout. -/
inductive Part where
  | year | month | day | hour | minute | second | fraction | offset
  /-- Any run of blanks, the empty one too. -/
  | blanks
  /-- One given character. -/
  | mark (c : Char)
deriving DecidableEq, Repr

/-- A year has up to four digits, or a sign and any number of them. -/
def year? (cs : List Char) : Option (Int × List Char) :=
  match Text.trimStart cs with
  | '-' :: cs => (number? 1 cs.length cs).map fun r => (-(r.1 : Int), r.2)
  | '+' :: cs => (number? 1 cs.length cs).map fun r => ((r.1 : Int), r.2)
  | cs => (number? 1 4 cs).map fun r => ((r.1 : Int), r.2)

/-- A number of one or two digits behind any blanks. -/
def short? (cs : List Char) : Option (Nat × List Char) := number? 1 2 (Text.trimStart cs)

/-- Takes off the colons and blanks that may divide hours and minutes of an offset. -/
def dropDividers (cs : List Char) : List Char := cs.dropWhile fun c => c == ':' || isBlank c

/-- Reads one part off the text. -/
def Part.read? (p : Part) (f : Fields) (cs : List Char) : Option (Fields × List Char) :=
  match p with
  | .year => (year? cs).map fun r => ({ f with year := r.1 }, r.2)
  | .month => (short? cs).map fun r => ({ f with month := r.1 }, r.2)
  | .day => (short? cs).map fun r => ({ f with day := r.1 }, r.2)
  | .hour => (short? cs).map fun r => ({ f with hour := r.1 }, r.2)
  | .minute => (short? cs).map fun r => ({ f with minute := r.1 }, r.2)
  | .second => (short? cs).map fun r => ({ f with second := r.1 }, r.2)
  | .fraction => (optionalFraction? cs).map fun r => ({ f with nanos := r.1 }, r.2)
  | .offset =>
    (offset? (some ∘ dropDividers) (Text.trimStart cs)).map fun r => ({ f with offset := r.1 }, r.2)
  | .blanks => some (f, Text.trimStart cs)
  | .mark c => (char? c cs).map fun cs => (f, cs)

/-- Reads all parts in turn; nothing may be left over. -/
def readParts? : List Part → Fields → List Char → Option Fields
  | [], f, cs => if cs.isEmpty then some f else none
  | p :: ps, f, cs => (p.read? f cs).bind fun r => readParts? ps r.1 r.2

def dateParts : List Part := [.year, .mark '-', .month, .mark '-', .day]

/-- The layouts in the order they are tried: date and time to the second with an
offset, the same without one, to the minute, and the date alone. -/
def layouts : List (List Part) :=
  let minutes := [Part.hour, .mark ':', .minute]
  let seconds := minutes ++ [.mark ':', .second, .fraction]
  [dateParts ++ .blanks :: seconds ++ [.offset],
   dateParts ++ .blanks :: seconds,
   dateParts ++ .mark 'T' :: seconds,
   dateParts ++ .blanks :: minutes,
   dateParts ++ .mark 'T' :: minutes,
   dateParts]

/-- The instant a text denotes, blanks at its ends aside. -/
def read? (s : String) : Option Instant :=
  let cs := Text.trim s.toList
  (readInternet? cs).orElse fun _ =>
    layouts.findSome? fun parts => (readParts? parts {} cs).bind Fields.toInstant?

end Instant

end MailMerge
