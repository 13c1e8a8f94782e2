import MailMerge.Template.Datum.Basic
import MailMerge.Text.Html
import MailMerge.Text.Quoted

/-!
# Identifiers for names

A template engine knows identifiers of ASCII letters, digits and underscores; names of
columns hold anything. Every other character is written as an underscore and one
character that stands for it, or as its code point between `_7` and `_8`. A name that
does not start with a letter is put behind `OT_`, and so is one that starts with that.
A name between quotes is no name but a text of its own and stays as it is.
-/

namespace MailMerge

namespace Name

/-- The character that stands, behind an underscore, for another. -/
def code? (c : Char) : Option Char :=
  match c with
  | '!' => some 'a'
  | '"' => some 'b'
  | '#' => some 'c'
  | '$' => some 'd'
  | '%' => some 'e'
  | '&' => some 'f'
  | '\'' => some 'g'
  | '(' => some 'h'
  | ')' => some 'i'
  | '*' => some 'j'
  | '+' => some 'k'
  | ',' => some 'l'
  | '-' => some 'm'
  | '.' => some 'n'
  | '/' => some 'o'
  | ':' => some 'p'
  | ';' => some 'q'
  | '<' => some 'r'
  | '=' => some 's'
  | '>' => some 't'
  | '?' => some 'u'
  | '@' => some 'v'
  | '[' => some 'w'
  | '\\' => some 'x'
  | ']' => some 'y'
  | '^' => some 'z'
  | '_' => some '0'
  | '\x60' => some '1'
  | '{' => some '2'
  | '|' => some '3'
  | '}' => some '4'
  | '~' => some '5'
  | ' ' => some '6'
  | _ => none

/-- How one character of a name is written. -/
def encodeChar (c : Char) : List Char :=
  if c.isAlphanum then [c]
  else
    match code? c with
    | some x => ['_', x]
    | none => '_' :: '7' :: (Text.hexDigits c.toNat ++ ['_', '8'])

/-- Whether a name stands between two quotes of one kind. -/
def isQuoted (cs : List Char) : Bool :=
  2 ≤ cs.length &&
    ((cs.head? == some '\'' && cs.getLast? == some '\'') ||
      (cs.head? == some '"' && cs.getLast? == some '"'))

def marker : List Char := ['O', 'T', '_']

/-- Whether the marker has to stand before a name. -/
def needsMarker (cs : List Char) : Bool :=
  !(cs.head?.any Char.isAlpha) || marker.isPrefixOf cs

/-- The characters of the identifier for a name. -/
def identifierChars (cs : List Char) : List Char :=
  if isQuoted cs then cs
  else (if needsMarker cs then marker ++ cs else cs).flatMap encodeChar

/-- The identifier a template engine knows a name by. -/
def identifier (name : String) : String := String.ofList (identifierChars name.toList)

/-- The identifier of a name in a text from an HTML editor, which stores names escaped. -/
def storedIdentifier (name : String) : String := identifier (Html.stored name)

end Name

namespace Context

/-- The entries of a context behind some others, with every name replaced. Fails at the
first name whose replacement is that of a name before it. -/
def mapNamesFrom (f : String → String) (before : Context) : Context → Except RenderError Context
  | [] => .ok []
  | e :: rest =>
    match before.find? fun earlier => f earlier.1 == f e.1 with
    | some earlier => .error (.collision earlier.1 e.1 (f e.1))
    | none => do return (f e.1, e.2) :: (← mapNamesFrom f (e :: before) rest)

/-- A context with every name replaced. -/
def mapNames (f : String → String) (c : Context) : Except RenderError Context :=
  mapNamesFrom f [] c

end Context

end MailMerge
