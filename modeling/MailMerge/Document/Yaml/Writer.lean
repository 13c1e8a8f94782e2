import MailMerge.Document.Json.Writer

/-!
# Writing a block text

Every JSON text is a block text, apart from characters that may not stand in one or mean
something else there. These are all outside the printable ones of ASCII, so they stand
in strings, and there they can be written as escapes.
-/

namespace MailMerge

namespace Yaml

/-- Eight digits of base sixteen. -/
def hex8 (n : Nat) : List Char :=
  [7, 6, 5, 4, 3, 2, 1, 0].map fun place => Nat.digitChar (n / 16 ^ place % 16)

/-- How a character of a JSON text is written. -/
def escapeChar (c : Char) : List Char :=
  if c == '\n' || (' ' ≤ c && c < '\x7f') then [c] else '\\' :: 'U' :: hex8 c.toNat

/-- The text of a document with one item a line. -/
def write (d : Document) : String :=
  String.ofList ((Json.layOut 0 d).flatMap escapeChar ++ ['\n'])

end Yaml

end MailMerge
