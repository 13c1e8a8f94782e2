import MailMerge.Document.Json.Reader
import MailMerge.Text.Blank
import MailMerge.Value.DataType

/-!
# Values of environment variables

The text of an environment variable stands for a truth value, a number, a quoted text, a
list in brackets or a record in braces, and otherwise for itself.
-/

namespace MailMerge

namespace Literal

/-- White space between the parts of a value. -/
def isSpace (c : Char) : Bool := c == ' ' || c == '\t' || c == '\n' || c == '\r' || c == '\x0c'

def dropSpace (cs : List Char) : List Char := cs.dropWhile isSpace

/-- Characters that end a word. -/
def isSeparator (c : Char) : Bool := [',', '{', '}', '[', ']'].contains c

/-- Characters of a name without quotes. -/
def isNameChar (c : Char) : Bool := c.isAlphanum || c == '_' || c == '-'

-- ---------------------------------------------------------------------------
-- Words
-- ---------------------------------------------------------------------------

/-- A whole number of 64 bits, with or without a sign. -/
def wholeNumber? (word : List Char) : Option Int :=
  (readInt? word).filter fun i => -2 ^ 63 ≤ i && i < 2 ^ 64

/-- What a word stands for: a number with a point, a whole number, or itself. -/
def ofWord (cs : List Char) : Document :=
  let word := Text.trim cs
  match (if word.contains '.' then Double.read? (String.ofList word) else none) with
  | some d => .scalar (.double d)
  | none =>
    match wholeNumber? word with
    | some i => .int i
    | none => .text (String.ofList word)

-- ---------------------------------------------------------------------------
-- Quoted texts
-- ---------------------------------------------------------------------------

/-- A text up to its closing quote, escapes as they are written, and the rest. -/
def spanQuoted? : List Char → Option (List Char × List Char)
  | [] => none
  | '"' :: cs => some ([], cs)
  | '\\' :: c :: cs => (spanQuoted? cs).map fun r => ('\\' :: c :: r.1, r.2)
  | c :: cs => if c == '\\' then none else (spanQuoted? cs).map fun r => (c :: r.1, r.2)

/-- What a backslash and one character stand for. -/
def escaped? (c : Char) : Option Char :=
  match c with
  | '"' => some '"'
  | '\\' => some '\\'
  | 'b' => some '\x08'
  | 'f' => some '\x0c'
  | 'n' => some '\n'
  | 'r' => some '\r'
  | 't' => some '\t'
  | _ => none

/-- The character with a code point, put before the rest of a text. -/
def codePoint? (n : Option Nat) (rest : Option (List Char)) : Option (List Char) :=
  n.bind fun n => if n.isValidChar then rest.map (Char.ofNat n :: ·) else none

/-- Whether a character may stand in a quoted text. -/
def isPlain (c : Char) : Bool := c == '\t' || (' ' ≤ c && c != '\x7f')

/-- A quoted text with its escapes replaced. -/
def unescape? : List Char → Option (List Char)
  | [] => some []
  | '\\' :: 'u' :: a :: b :: c :: d :: cs => codePoint? (Json.hex4? a b c d) (unescape? cs)
  | '\\' :: 'U' :: a :: b :: c :: d :: e :: f :: g :: h :: cs =>
    codePoint? (do return (← Json.hex4? a b c d) * 65536 + (← Json.hex4? e f g h)) (unescape? cs)
  | '\\' :: c :: cs => (escaped? c).bind fun x => (unescape? cs).map (x :: ·)
  | c :: cs => if isPlain c && c != '\\' then (unescape? cs).map (c :: ·) else none

/-- The text behind an opening quote, and what follows it. -/
def quoted? (cs : List Char) : Option (String × List Char) :=
  (spanQuoted? cs).bind fun r => (unescape? r.1).map fun text => (String.ofList text, r.2)

/-- The name of a field: a quoted text, or letters, digits, lines and strokes. -/
def fieldName? : List Char → Option (String × List Char)
  | '"' :: cs => quoted? cs
  | cs =>
    let (name, rest) := cs.span isNameChar
    if name.isEmpty then none else some (String.ofList name, rest)

-- ---------------------------------------------------------------------------
-- Values
-- ---------------------------------------------------------------------------

/-- A value that was read, with the white space behind it skipped. -/
def dropSpaceBehind (r : Option (Document × List Char)) : Option (Document × List Char) :=
  r.map fun r => (r.1, dropSpace r.2)

mutual

/-- A value, and what follows it and the white space behind it. -/
def value? : Nat → List Char → Option (Document × List Char)
  | 0, _ => none
  | fuel + 1, cs =>
    dropSpaceBehind <| match dropSpace cs with
    | 't' :: 'r' :: 'u' :: 'e' :: cs => some (.bool true, cs)
    | 'f' :: 'a' :: 'l' :: 's' :: 'e' :: cs => some (.bool false, cs)
    | '{' :: cs => (fields? fuel cs).map fun r => (.record r.1, r.2)
    | '[' :: cs => (items? fuel cs).map fun r => (.list r.1, r.2)
    | '"' :: cs => (quoted? cs).map fun r => (.text r.1, r.2)
    | '\'' :: c :: '\'' :: cs => some (.text (String.ofList [c]), cs)
    | '\'' :: _ => none
    | cs =>
      let (word, rest) := cs.span fun c => !isSeparator c
      some (ofWord word, rest)

/-- Items up to the closing bracket; a comma may stand before it. -/
def items? : Nat → List Char → Option (List Document × List Char)
  | 0, _ => none
  | fuel + 1, cs =>
    match cs with
    | ']' :: cs => some ([], cs)
    | cs =>
      match value? fuel cs with
      | some (d, ']' :: cs) => some ([d], cs)
      | some (d, ',' :: cs) => (items? fuel cs).map fun r => (d :: r.1, r.2)
      | _ => none

/-- Fields up to the closing brace; a comma may stand before it. -/
def fields? : Nat → List Char → Option (List (String × Document) × List Char)
  | 0, _ => none
  | fuel + 1, cs =>
    match cs with
    | '}' :: cs => some ([], cs)
    | cs =>
      match (fieldName? (dropSpace cs)).map fun r => (r.1, dropSpace r.2) with
      | some (name, '=' :: cs) =>
        match value? fuel cs with
        | some (d, '}' :: cs) => some ([(name, d)], cs)
        | some (d, ',' :: cs) => (fields? fuel cs).map fun r => ((name, d) :: r.1, r.2)
        | _ => none
      | _ => none

end

/-- What the text of a variable stands for. -/
def read (s : String) : Document :=
  let cs := s.toList
  match value? (2 * cs.length + 2) cs with
  | some (d, []) => d
  | _ => .text s

end Literal

end MailMerge
