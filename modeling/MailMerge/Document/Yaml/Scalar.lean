import MailMerge.Document.Json.Reader
import MailMerge.Document.Yaml.Place

/-!
# Scalars of block notation

A scalar may run over several lines. In quoted and unquoted scalars a line end stands
for a space, and empty lines for line ends; a block of lines is kept as it is, or folded
in the same way. Separators of lines and paragraphs always stand for themselves.
-/

namespace MailMerge

namespace Yaml

-- ---------------------------------------------------------------------------
-- Folding lines
-- ---------------------------------------------------------------------------

/-- What a quoted scalar is made of. -/
inductive Piece where
  | char (c : Char)
  | blank (c : Char)
  | lineEnd (c : Char)
  /-- A line end that joins two lines without a space. -/
  | joint
deriving DecidableEq

/-- The piece a character is that has no other meaning. -/
def Piece.ofChar (c : Char) : Piece :=
  if isBreak c then .lineEnd c else if isBlank c then .blank c else .char c

/-- What stands between two characters: blanks and line ends, latest first. -/
structure Gap where
  blanks : List Char := []
  lineEnds : List Char := []
  joint : Bool := false

namespace Gap

def isEmpty (g : Gap) : Bool := g.blanks.isEmpty && g.lineEnds.isEmpty && !g.joint

/-- Whether a new line has begun. -/
def hasLineEnd (g : Gap) : Bool := g.joint || !g.lineEnds.isEmpty

/-- The gap with one more blank; on a new line it is dropped. -/
def addBlank (g : Gap) (c : Char) : Gap :=
  if g.hasLineEnd then g else { g with blanks := c :: g.blanks }

/-- The gap with one more line end. -/
def addLineEnd (g : Gap) (c : Char) : Gap := { g with lineEnds := c :: g.lineEnds }

/-- What a gap stands for. -/
def text (g : Gap) : List Char :=
  if g.joint then g.lineEnds.reverse
  else
    match g.lineEnds.reverse with
    | [] => g.blanks.reverse
    | ['\n'] => [' ']
    | '\n' :: more => more
    | kept => kept

end Gap

/-- The text of pieces that follow a gap. -/
def fold (g : Gap) : List Piece → List Char
  | [] => g.text
  | .char c :: ps => g.text ++ c :: fold {} ps
  | .blank c :: ps => fold (g.addBlank c) ps
  | .lineEnd c :: ps => fold (g.addLineEnd c) ps
  | .joint :: ps => g.text ++ fold { joint := true } ps

-- ---------------------------------------------------------------------------
-- Quoted scalars
-- ---------------------------------------------------------------------------

/-- What a backslash and one character stand for. -/
def escaped? (c : Char) : Option Char :=
  match c with
  | '0' => some '\x00'
  | 'a' => some '\x07'
  | 'b' => some '\x08'
  | 't' => some '\t'
  | '\t' => some '\t'
  | 'n' => some '\n'
  | 'v' => some '\x0b'
  | 'f' => some '\x0c'
  | 'r' => some '\r'
  | 'e' => some '\x1b'
  | ' ' => some ' '
  | '"' => some '"'
  | '/' => some '/'
  | '\\' => some '\\'
  | 'N' => some '\u0085'
  | '_' => some '\u00a0'
  | 'L' => some '\u2028'
  | 'P' => some '\u2029'
  | _ => none

/-- The character with a code point. -/
def charOf? (n : Nat) : Option Char := if n.isValidChar then some (Char.ofNat n) else none

/-- The rest of a scalar behind its opening double quote, up to the closing one. No line
of it may look like the begin or the end of a document. -/
def doubleQuoted? : List Char → Option (List Piece × List Char)
  | [] => none
  | '"' :: cs => some ([], cs)
  | '\\' :: 'x' :: a :: b :: cs => do
    let x ← charOf? (← Json.hex4? '0' '0' a b)
    let (ps, rest) ← doubleQuoted? cs
    return (.char x :: ps, rest)
  | '\\' :: 'u' :: a :: b :: c :: d :: cs => do
    let x ← charOf? (← Json.hex4? a b c d)
    let (ps, rest) ← doubleQuoted? cs
    return (.char x :: ps, rest)
  | '\\' :: 'U' :: a :: b :: c :: d :: e :: f :: g :: h :: cs => do
    let x ← charOf? ((← Json.hex4? a b c d) * 65536 + (← Json.hex4? e f g h))
    let (ps, rest) ← doubleQuoted? cs
    return (.char x :: ps, rest)
  | '\\' :: c :: cs => do
    let p ← if isBreak c then (if isMarker cs then none else some .joint)
      else (escaped? c).map .char
    let (ps, rest) ← doubleQuoted? cs
    return (p :: ps, rest)
  | c :: cs => do
    if c == '\\' || (isBreak c && isMarker cs) then none
    let (ps, rest) ← doubleQuoted? cs
    return (.ofChar c :: ps, rest)

/-- The rest of a scalar behind its opening single quote; two of them stand for one. -/
def singleQuoted? : List Char → Option (List Piece × List Char)
  | [] => none
  | '\'' :: '\'' :: cs => do
    let (ps, rest) ← singleQuoted? cs
    return (.char '\'' :: ps, rest)
  | '\'' :: cs => some ([], cs)
  | c :: cs => do
    if isBreak c && isMarker cs then none
    let (ps, rest) ← singleQuoted? cs
    return (.ofChar c :: ps, rest)

-- ---------------------------------------------------------------------------
-- Unquoted scalars
-- ---------------------------------------------------------------------------

/-- Characters that end an unquoted scalar inside brackets. -/
def isFlowMark (c : Char) : Bool := [',', '[', ']', '{', '}'].contains c

/-- Characters no unquoted scalar starts with. -/
def isMark (c : Char) : Bool :=
  isFlowMark c || ['#', '&', '*', '!', '|', '>', '\'', '"', '%', '@', '\x60'].contains c

/-- Whether an unquoted scalar starts here. -/
def startsPlain (flow : Bool) : List Char → Bool
  | [] => false
  | '-' :: cs => !cs.head?.any isBlank
  | c :: cs => if c == '?' || c == ':' then !flow && !isGap cs else !isMark c && !isGap (c :: cs)

/-- Whether an unquoted scalar ends before a character. -/
def endsPlain (flow : Bool) (c : Char) (cs : List Char) : Bool :=
  (c == ':' && isGap cs) || (flow && isFlowMark c)

/-- Whether a colon stands inside brackets where it neither ends a key nor belongs to a
scalar. -/
def isStrayColon (flow : Bool) (c : Char) (cs : List Char) : Bool :=
  flow && c == ':' && cs.head?.any fun x => x == '?' || isFlowMark x

/-- An unquoted scalar behind a gap in it. -/
structure PlainRest where
  text : List Char
  /-- Whether a new line began behind it. -/
  newLine : Bool
  /-- What follows it and the gap behind it. -/
  rest : List Char

/-- What an unquoted scalar goes on with. Outside brackets the lines it goes on with begin
at column `least` or further right, and there they have no tabs before that column. -/
def plain? (flow : Bool) (least : Nat) (gap : Gap) : Nat → List Char → Option PlainRest
  | _, [] => some ⟨[], gap.hasLineEnd, []⟩
  | column, c :: cs =>
    if isBreak c then plain? flow least (gap.addLineEnd c) 0 cs
    else if isBlank c then
      if gap.hasLineEnd && c == '\t' && column < least then none
      else plain? flow least (gap.addBlank c) (column + 1) cs
    else
      let stops := !gap.isEmpty &&
        ((!flow && column < least) || c == '#' || (column == 0 && isMarker (c :: cs)))
      if !stops && isStrayColon flow c cs then none
      else if stops || endsPlain flow c cs then some ⟨[], gap.hasLineEnd, c :: cs⟩
      else
        (plain? flow least {} (column + 1) cs).map fun r =>
          { r with text := gap.text ++ c :: r.text }

-- ---------------------------------------------------------------------------
-- Blocks of lines
-- ---------------------------------------------------------------------------

/-- How the line ends at the end of a block are treated. -/
inductive Chomp where
  | strip
  | keep
deriving DecidableEq, Repr

/-- How a block is announced. -/
structure BlockHeader where
  folded : Bool
  chomp : Option Chomp := none
  /-- Columns by which the block is indented, where that is said. -/
  step : Option Nat := none

def Chomp.ofChar? (c : Char) : Option Chomp :=
  if c == '+' then some .keep else if c == '-' then some .strip else none

def BlockHeader.stepOf? (c : Char) : Option Nat :=
  if '1' ≤ c ∧ c ≤ '9' then some (c.toNat - '0'.toNat) else none

/-- Marks behind the sign of a block, each once at most, and the lines below it. -/
def blockHeader? (h : BlockHeader) : List Char → Option (BlockHeader × List Char)
  | [] => some (h, [])
  | c :: cs =>
    match Chomp.ofChar? c, BlockHeader.stepOf? c with
    | some chomp, _ =>
      if h.chomp.isSome then none else blockHeader? { h with chomp := some chomp } cs
    | none, some step =>
      if h.step.isSome then none else blockHeader? { h with step := some step } cs
    | none, none => (lineRest? (c :: cs)).map fun rest => (h, rest)

/-- Empty lines, and the indentation of the line behind them. -/
structure EmptyLines where
  lineEnds : List Char
  /-- The column of the most indented line. -/
  widest : Nat
  column : Nat
  rest : List Char

/-- Empty lines of a block. Up to its column, or anywhere while that is not known, blanks
count as indentation, and they must be spaces. -/
def emptyLines? (indent : Option Nat) (widest : Nat) : Nat → List Char → Option EmptyLines
  | column, [] => some ⟨[], max widest column, column, []⟩
  | column, c :: cs =>
    if isBlank c && indent.all (column < ·) then
      if c == '\t' then none else emptyLines? indent widest (column + 1) cs
    else if isBreak c then
      (emptyLines? indent (max widest column) 0 cs).map fun e =>
        { e with lineEnds := c :: e.lineEnds }
    else some ⟨[], max widest column, column, c :: cs⟩

/-- What stands between two lines of a block. A line end is a space, or nothing before
empty lines, where the block is folded and neither line starts with a blank. -/
def blockGap (folded : Bool) (lineEnd : List Char) (empty : List Char) : List Char :=
  (if folded && lineEnd == ['\n'] then (if empty.isEmpty then [' '] else []) else lineEnd) ++ empty

/-- The text of the lines of a block. `lineEnd` is the end of the line before, if there is
one, and `blankBefore` says whether that line started with a blank. -/
def blockText? (h : BlockHeader) (indent : Nat) (lineEnd : List Char) (blankBefore : Bool) :
    Nat → EmptyLines → Option (List Char × List Char)
  | 0, _ => none
  | fuel + 1, e =>
    if e.column == indent && !e.rest.isEmpty then do
      let (line, behind) := e.rest.span fun c => !isBreak c
      let blank := line.head?.any isBlank
      let gap := blockGap (h.folded && !blankBefore && !blank) lineEnd e.lineEnds
      let next ← emptyLines? (some indent) 0 0 (behind.drop 1)
      let (text, rest) ← blockText? h indent (behind.take 1) blank fuel next
      return (gap ++ line ++ text, rest)
    else
      some ((if h.chomp == some .strip then [] else lineEnd)
        ++ (if h.chomp == some .keep then e.lineEnds else []), e.rest)

/-- A block and what follows it; `cs` begins with the marks behind its sign, and `least` is
the least column it may have. -/
def block? (folded : Bool) (least : Nat) (cs : List Char) : Option (List Char × List Char) := do
  let (h, cs) ← blockHeader? { folded } cs
  let known := h.step.map fun n => least - 1 + n
  let e ← emptyLines? known 0 0 cs
  blockText? h (known.getD (max (max e.widest least) 1)) [] false (cs.length + 1) e

end Yaml

end MailMerge
