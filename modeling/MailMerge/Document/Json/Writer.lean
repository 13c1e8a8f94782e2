import MailMerge.Document.Basic
import MailMerge.Text.Quoted

/-!
# Writing a JSON text

A document is written without blanks, or with one item a line and two more blanks for
each level. Only quotes, backslashes and controls are escaped. What is no finite number
is written as null.
-/

namespace MailMerge

namespace Json

/-- How one character stands inside a string. -/
def escapeChar (c : Char) : List Char :=
  if c == '"' then ['\\', '"']
  else if c == '\\' then ['\\', '\\']
  else if c == '\n' then ['\\', 'n']
  else if c == '\r' then ['\\', 'r']
  else if c == '\t' then ['\\', 't']
  else if c == '\x08' then ['\\', 'b']
  else if c == '\x0c' then ['\\', 'f']
  else if c.toNat < 0x20 then
    '\\' :: 'u' :: '0' :: '0' :: Nat.digitChar (c.toNat / 16) :: [Nat.digitChar (c.toNat % 16)]
  else [c]

def writeString (s : String) : List Char := '"' :: (s.toList.flatMap escapeChar ++ ['"'])

def writeScalar : Scalar → List Char
  | .null => "null".toList
  | .bool b => if b then "true".toList else "false".toList
  | .int i => (toString i).toList
  | .double d => if d.isFinite then (d.write .document).toList else "null".toList
  | .text s => writeString s

mutual

/-- A document without blanks. -/
def writeChars : Document → List Char
  | .scalar v => writeScalar v
  | .plain s => writeString s
  | .tagged _ d => writeChars d
  | .list [] => ['[', ']']
  | .list (x :: xs) => '[' :: (writeChars x ++ writeItems xs)
  | .record [] => ['{', '}']
  | .record (f :: fs) => '{' :: (writeString f.1 ++ ':' :: (writeChars f.2 ++ writeFields fs))

/-- Further items of a list and its end. -/
def writeItems : List Document → List Char
  | [] => [']']
  | x :: xs => ',' :: (writeChars x ++ writeItems xs)

/-- Further fields of a record and its end. -/
def writeFields : List (String × Document) → List Char
  | [] => ['}']
  | f :: fs => ',' :: (writeString f.1 ++ ':' :: (writeChars f.2 ++ writeFields fs))

end

/-- The text of a document, without blanks. -/
def write (d : Document) : String := String.ofList (writeChars d)

-- ---------------------------------------------------------------------------
-- One item a line
-- ---------------------------------------------------------------------------

/-- A new line at a level. -/
def newLine (level : Nat) : List Char := '\n' :: List.replicate (2 * level) ' '

mutual

/-- A document whose items stand on lines of their own. -/
def layOut (level : Nat) : Document → List Char
  | .scalar v => writeScalar v
  | .plain s => writeString s
  | .tagged _ d => layOut level d
  | .list [] => ['[', ']']
  | .list (x :: xs) =>
    '[' :: (newLine (level + 1) ++ layOut (level + 1) x ++ layOutItems level xs)
  | .record [] => ['{', '}']
  | .record (f :: fs) =>
    '{' :: (newLine (level + 1) ++ writeString f.1 ++ ':' :: ' ' ::
      (layOut (level + 1) f.2 ++ layOutFields level fs))

def layOutItems (level : Nat) : List Document → List Char
  | [] => newLine level ++ [']']
  | x :: xs => ',' :: (newLine (level + 1) ++ layOut (level + 1) x ++ layOutItems level xs)

def layOutFields (level : Nat) : List (String × Document) → List Char
  | [] => newLine level ++ ['}']
  | f :: fs =>
    ',' :: (newLine (level + 1) ++ writeString f.1 ++ ':' :: ' ' ::
      (layOut (level + 1) f.2 ++ layOutFields level fs))

end

/-- The text of a document with one item a line. -/
def writeLines (d : Document) : String := String.ofList (layOut 0 d)

end Json

end MailMerge
