import MailMerge.Text.Search

/-!
# Patterns

A pattern is matched against a whole text. A percent sign stands for any run of
characters, an underscore for any one, and a backslash takes the next character as it
is. Letters match only themselves. Neither a pattern nor a text reaches beyond its
first NUL character.
-/

namespace MailMerge

namespace Pattern

/-- What stands before the first NUL character. -/
def untilNul (s : String) : List Char := s.toList.takeWhile (· != '\x00')

/-- All ends of a text, from the whole of it to none. -/
def tails : List Char → List (List Char)
  | [] => [[]]
  | c :: cs => (c :: cs) :: tails cs

/-- Whether a text matches a pattern. -/
def matchChars : List Char → List Char → Bool
  | [], cs => cs.isEmpty
  | '\\' :: p :: ps, cs =>
    match cs with
    | [] => false
    | c :: cs => p == c && matchChars ps cs
  | ['\\'], _ => false
  | p :: ps, cs =>
    if p == '%' then (tails cs).any (matchChars ps)
    else
      match cs with
      | [] => false
      | c :: cs => (p == '_' || p == c) && matchChars ps cs

def accepts (pattern s : String) : Bool := matchChars (untilNul pattern) (untilNul s)

end Pattern

end MailMerge
