import MailMerge.Text.Blank

/-!
# References in a template

Two kinds of markup name a variable: `{{ name }}`, and `{% if name %}` or
`{% elif name %}`. All that stands between the delimiters is the name, blanks aside. A
text is divided into sites of such references and the characters between them.

A name ends before the first closing delimiter on its line that has any character before
it; so a name of one character reaches on to the next delimiter when there is one.
-/

namespace MailMerge

namespace Reference

/-- A part of a template: a character outside every reference, or a reference with what
stands before and behind its name. -/
inductive Piece where
  | char (c : Char)
  | site (before name after : List Char)
deriving DecidableEq, Repr

/-- The kind of markup looked for. -/
inductive Markup where
  | variable
  | condition
deriving DecidableEq, Repr

/-- Blanks at the start of a text, and the rest. -/
def spanBlank (cs : List Char) : List Char × List Char := cs.span isBlank

namespace Markup

/-- The delimiter that ends a reference, with the blanks before it, and the rest. -/
def close? (m : Markup) (cs : List Char) : Option (List Char × List Char) :=
  let (blanks, rest) := spanBlank cs
  match m, rest with
  | .variable, '}' :: '}' :: rest => some (blanks ++ ['}', '}'], rest)
  | .condition, '%' :: '}' :: rest => some (blanks ++ ['%', '}'], rest)
  | _, _ => none

/-- The keyword of a condition and the blanks it needs behind it, and the rest. -/
def keyword? (cs : List Char) : Option (List Char × List Char) :=
  let keywordThen (word : List Char) (rest : List Char) :=
    let (blanks, rest) := spanBlank rest
    if blanks.isEmpty then none else some (word ++ blanks, rest)
  match cs with
  | 'e' :: 'l' :: 'i' :: 'f' :: rest => keywordThen ['e', 'l', 'i', 'f'] rest
  | 'i' :: 'f' :: rest => keywordThen ['i', 'f'] rest
  | _ => none

/-- What stands before the name of a reference that starts here, and the rest. -/
def open? (m : Markup) (cs : List Char) : Option (List Char × List Char) :=
  match m, cs with
  | .variable, '{' :: '{' :: rest =>
    let (blanks, rest) := spanBlank rest
    some ('{' :: '{' :: blanks, rest)
  | .condition, '{' :: '%' :: rest =>
    let (blanks, rest) := spanBlank rest
    (keyword? rest).map fun r => ('{' :: '%' :: (blanks ++ r.1), r.2)
  | _, _ => none

/-- Whether a name may start with a character. -/
def mayStart (m : Markup) (c : Char) : Bool :=
  match m with
  | .variable => !isBlank c && c != '{' && c != '}'
  | .condition => !isBlank c

/-- The shortest continuation of a name, the delimiter behind it, and the rest. It stays
on the line and does not end with a blank. -/
def extend? (m : Markup) : List Char → Option (List Char × List Char × List Char)
  | [] => none
  | c :: cs =>
    match (if isBlank c then none else m.close? cs) with
    | some (after, rest) => some ([c], after, rest)
    | none =>
      if c == '\n' then none
      else (m.extend? cs).map fun r => (c :: r.1, r.2)

/-- The reference that starts at the head of a text: before, name, after. -/
def site? (m : Markup) (cs : List Char) : Option (List Char × List Char × List Char) :=
  match m.open? cs with
  | none => none
  | some (_, []) => none
  | some (before, c :: rest) =>
    if !m.mayStart c then none
    else
      match m.extend? rest with
      | some (more, after, _) => some (before, c :: more, after)
      | none => (m.close? rest).map fun r => (before, [c], r.1)

end Markup

/-- The pieces of a text. The first argument counts characters that belong to a site
already found. -/
def piecesFrom (m : Markup) : Nat → List Char → List Piece
  | _, [] => []
  | skip + 1, _ :: cs => piecesFrom m skip cs
  | 0, c :: cs =>
    match m.site? (c :: cs) with
    | some (before, name, after) =>
      .site before name after ::
        piecesFrom m (before.length + name.length + after.length - 1) cs
    | none => .char c :: piecesFrom m 0 cs

/-- The references of one kind in a text, and the characters between them. -/
def pieces (m : Markup) (cs : List Char) : List Piece := piecesFrom m 0 cs

/-- The characters of a piece, with its name replaced. -/
def Piece.substitute (f : List Char → List Char) : Piece → List Char
  | .char c => [c]
  | .site before name after => before ++ f name ++ after

/-- Replaces the names of all references of one kind. -/
def substituteMarkup (m : Markup) (f : List Char → List Char) (cs : List Char) : List Char :=
  (pieces m cs).flatMap (Piece.substitute f)

/-- Replaces the names of all references: of variables first, then of conditions. -/
def substituteChars (f : List Char → List Char) (cs : List Char) : List Char :=
  substituteMarkup .condition f (substituteMarkup .variable f cs)

/-- Replaces the names of all references in a text. -/
def substitute (f : String → String) (text : String) : String :=
  String.ofList (substituteChars (fun n => (f (String.ofList n)).toList) text.toList)

-- ---------------------------------------------------------------------------
-- Names
-- ---------------------------------------------------------------------------

/-- The names in pieces, each with its place in the text. -/
def placedNames : Nat → List Piece → List (Nat × List Char)
  | _, [] => []
  | i, .char _ :: ps => placedNames (i + 1) ps
  | i, .site before name after :: ps =>
    (i + before.length, name) ::
      placedNames (i + before.length + name.length + after.length) ps

/-- The names a text refers to, in the order of their first places. -/
def names (text : String) : List String :=
  let cs := text.toList
  let placed := placedNames 0 (pieces .variable cs) ++ placedNames 0 (pieces .condition cs)
  ((placed.mergeSort fun a b => a.1 ≤ b.1).map fun p => String.ofList p.2).eraseDups

/-- Points references to one name at another. -/
def rename (old new : String) (text : String) : String :=
  substitute (fun n => if n == old then new else n) text

end Reference

end MailMerge
