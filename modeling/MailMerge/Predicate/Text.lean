import MailMerge.Predicate.Basic

/-!
# The text of a predicate

Columns stand between double quotes, values are left to placeholders. A placeholder is
either a question mark or the pair `%s`; in the second style a percent sign inside a
column name is doubled.
-/

namespace MailMerge

inductive PlaceholderStyle where
  | question
  | percent
deriving DecidableEq, Inhabited, Repr

namespace PlaceholderStyle

def placeholder : PlaceholderStyle → String
  | .question => "?"
  | .percent => "%s"

/-- How a character of a column name is written between double quotes. -/
def columnChar (style : PlaceholderStyle) (c : Char) : List Char :=
  if c == '"' then ['"', '"']
  else if c == '%' && style == .percent then ['%', '%']
  else [c]

/-- A column name between double quotes. -/
def column (style : PlaceholderStyle) (name : String) : String :=
  String.ofList ('"' :: (name.toList.flatMap style.columnChar ++ ['"']))

end PlaceholderStyle

def Comparator.symbol : Comparator → String
  | .eq => "="
  | .ne => "!="
  | .lt => "<"
  | .le => "<="
  | .gt => ">"
  | .ge => ">="

/-- The text of a test. -/
def Test.write (style : PlaceholderStyle) : Test → String
  | .compare c o _ => style.column c ++ " " ++ o.symbol ++ " " ++ style.placeholder
  | .compareEmpty c o => style.column c ++ " " ++ o.symbol ++ " ''"
  | .like c negated _ =>
    style.column c ++ (if negated then " NOT LIKE " else " LIKE ") ++ style.placeholder
      ++ " ESCAPE '\\'"
  | .null c negated => style.column c ++ (if negated then " is not null" else " is null")
  | .between c negated _ _ =>
    style.column c ++ (if negated then " NOT BETWEEN " else " BETWEEN ") ++ style.placeholder
      ++ " AND " ++ style.placeholder

namespace Predicate

/-- Texts between parentheses, with the conjunction between them. -/
def writeJoined (kind : Conjunction) (parts : List String) : String :=
  "(" ++ String.intercalate (") " ++ kind.name ++ " (") parts ++ ")"

mutual

/-- The text of a predicate. -/
def write (style : PlaceholderStyle) : Predicate → String
  | .test t => t.write style
  | .join kind tests => writeJoined kind (tests.map (Test.write style))
  | .group kind members => "(" ++ writeJoined kind (writeEach style members) ++ ")"
  | .not p => "(NOT (" ++ write style p ++ "))"

def writeEach (style : PlaceholderStyle) : List Predicate → List String
  | [] => []
  | p :: ps => write style p :: writeEach style ps

end

/-- The text of a predicate that may be missing. -/
def write? (style : PlaceholderStyle) : Option Predicate → String
  | none => ""
  | some p => p.write style

/-- The values of a predicate that may be missing. -/
def values? : Option Predicate → List Value
  | none => []
  | some p => p.values

end Predicate

end MailMerge
