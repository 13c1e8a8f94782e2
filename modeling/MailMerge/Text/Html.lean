/-!
# Text inside HTML

The characters that mean something to HTML are written as entities. An editor
that stores HTML spells five of them; rendered output spells the slash too.
-/

namespace MailMerge

namespace Html

/-- The entity an HTML editor stores for a character, or the character itself. -/
def storedChar (c : Char) : List Char :=
  match c with
  | '&' => "&amp;".toList
  | '<' => "&lt;".toList
  | '>' => "&gt;".toList
  | '"' => "&quot;".toList
  | '\'' => "&#x27;".toList
  | c => [c]

/-- The form in which an HTML editor stores a text. -/
def stored (s : String) : String := String.ofList (s.toList.flatMap storedChar)

/-- The entity rendered output uses for a character, or the character itself. -/
def safeChar (c : Char) : List Char :=
  if c == '/' then "&#x2f;".toList else storedChar c

/-- A text made safe to stand in rendered HTML. -/
def safe (s : String) : String := String.ofList (s.toList.flatMap safeChar)

/-- The fragment shown in place of a preview whose template cannot be read. -/
def syntaxErrorNotice (message : String) : String :=
  "<div class=\"alert alert-danger\" role=\"alert\">\n"
    ++ "  <p>Syntax error detected in the template:</p>\n"
    ++ "  <pre>" ++ stored message ++ "</pre>\n</div>\n"

end Html

end MailMerge
