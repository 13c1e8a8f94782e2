import MailMerge.Document.Basic

/-!
# Places in a block text

Block notation is read by lines and columns. A place says what follows in the text, and
how many characters, lines and columns lie before it. Line ends are written in one way
when a text is read, but two separators of lines and paragraphs are kept as they are.
-/

namespace MailMerge

namespace Yaml

-- ---------------------------------------------------------------------------
-- Classes of characters
-- ---------------------------------------------------------------------------

/-- A blank within a line. -/
def isBlank (c : Char) : Bool := c == ' ' || c == '\t'

/-- A line end, or a separator of lines or paragraphs. -/
def isBreak (c : Char) : Bool := c == '\n' || c == '\u2028' || c == '\u2029'

/-- Letters, digits, lines and strokes, which names are made of. -/
def isNameChar (c : Char) : Bool := c.isAlphanum || c == '_' || c == '-'

/-- Whether a line is at its end. -/
def atLineEnd : List Char → Bool
  | [] => true
  | c :: _ => isBreak c

/-- Whether a text is at its end, or goes on with a blank or a line end. -/
def isGap : List Char → Bool
  | [] => true
  | c :: _ => isBlank c || isBreak c

/-- Whether a line begins or ends a document. -/
def isMarker : List Char → Bool
  | '-' :: '-' :: '-' :: cs => isGap cs
  | '.' :: '.' :: '.' :: cs => isGap cs
  | _ => false

/-- What is left of a line behind blanks and a comment, and nothing if there is more. -/
def lineRest? (cs : List Char) : Option (List Char) :=
  let cs := match cs.dropWhile isBlank with
    | '#' :: cs => cs.dropWhile fun c => !isBreak c
    | cs => cs
  if atLineEnd cs then some (cs.drop 1) else none

-- ---------------------------------------------------------------------------
-- Texts
-- ---------------------------------------------------------------------------

/-- Characters that may stand in a text. -/
def isAllowed (c : Char) : Bool :=
  let n := c.toNat
  c == '\t' || c == '\n' || c == '\r' || n == 0x85 || (0x20 ≤ n && n < 0x7F)
    || (0xA0 ≤ n && n != 0xFEFF && n != 0xFFFE && n != 0xFFFF)

/-- The text with every line end written in one way. -/
def unifyLineEnds : List Char → List Char
  | [] => []
  | '\r' :: '\n' :: cs => '\n' :: unifyLineEnds cs
  | '\r' :: cs => '\n' :: unifyLineEnds cs
  | c :: cs => (if c == '\u0085' then '\n' else c) :: unifyLineEnds cs

-- ---------------------------------------------------------------------------
-- Places
-- ---------------------------------------------------------------------------

structure Place where
  rest : List Char
  /-- Characters before it. -/
  index : Nat := 0
  line : Nat := 0
  column : Nat := 0

namespace Place

/-- One character further. -/
def next (p : Place) : Place :=
  match p.rest with
  | [] => p
  | c :: cs =>
    if isBreak c then ⟨cs, p.index + 1, p.line + 1, 0⟩ else ⟨cs, p.index + 1, p.line, p.column + 1⟩

/-- Some characters further. -/
def advance : Nat → Place → Place
  | 0, p => p
  | n + 1, p => advance n p.next

/-- The place at which a rest of the text begins. -/
def moveTo (p : Place) (rest : List Char) : Place := p.advance (p.rest.length - rest.length)

/-- Whether a line that begins or ends a document is next. -/
def atMarker (p : Place) : Bool := p.column == 0 && isMarker p.rest

end Place

end Yaml

end MailMerge
