import MailMerge.Template.Filter.Arguments
import MailMerge.Text.Blank
import MailMerge.Text.Html
import MailMerge.Text.LetterClass

/-!
# Filters of texts

They take any datum in its written form. What they make of a safe text is safe again:
what is put into one is made safe for HTML first.
-/

namespace MailMerge

namespace Filter

-- ---------------------------------------------------------------------------
-- Case
-- ---------------------------------------------------------------------------

/-- The first character in upper case, the others in lower case. -/
def capitalize : List Char → List Char
  | [] => []
  | c :: cs => LetterCase.upperChar c ++ LetterCase.lowerText cs

def isAsciiPunctuation (c : Char) : Bool :=
  let n := c.toNat
  (0x21 ≤ n && n ≤ 0x2F) || (0x3A ≤ n && n ≤ 0x40) || (0x5B ≤ n && n ≤ 0x60) ||
    (0x7B ≤ n && n ≤ 0x7E)

/-- Every word capitalized. -/
def titleFrom (start : Bool) : List Char → List Char
  | [] => []
  | c :: cs =>
    if isAsciiPunctuation c || isBlank c then c :: titleFrom true cs
    else (if start then LetterCase.upperChar c else LetterCase.lowerChar c) ++ titleFrom false cs

-- ---------------------------------------------------------------------------
-- Parts
-- ---------------------------------------------------------------------------

/-- Every occurrence of a text replaced; `skip` characters belong to one already found. -/
def replaceFrom (old new : List Char) : Nat → List Char → List Char
  | _, [] => []
  | skip + 1, _ :: cs => replaceFrom old new skip cs
  | 0, c :: cs =>
    if old.isPrefixOf (c :: cs) then new ++ replaceFrom old new (old.length - 1) cs
    else c :: replaceFrom old new 0 cs

/-- Every occurrence of a text replaced. The empty text occurs between all characters. -/
def replaceAll (old new cs : List Char) : List Char :=
  if old.isEmpty then new ++ cs.flatMap fun c => c :: new else replaceFrom old new 0 cs

/-- The parts of a text between occurrences of a separator, so many of them at most. -/
def splitFrom (separator : List Char) : Nat → Nat → List Char → List Char → List (List Char)
  | _, _, part, [] => [part.reverse]
  | most, skip + 1, part, _ :: cs => splitFrom separator most skip part cs
  | most, 0, part, c :: cs =>
    if 1 < most && separator.isPrefixOf (c :: cs) then
      part.reverse :: splitFrom separator (most - 1) (separator.length - 1) [] cs
    else splitFrom separator most 0 (c :: part) cs

/-- The single characters of a text, so many parts at most, and what is behind them. -/
def splitEach : Nat → List Char → List (List Char)
  | _, [] => [[]]
  | most, c :: cs => if 1 < most then [c] :: splitEach (most - 1) cs else [c :: cs]

/-- The parts of a text between separators. The empty separator stands between all
characters and at both ends. -/
def splitAt (separator : List Char) (most : Nat) (cs : List Char) : List (List Char) :=
  if most == 0 then []
  else if separator.isEmpty then
    if 1 < most then [] :: splitEach (most - 1) cs else [cs]
  else splitFrom separator most 0 [] cs

/-- The words of a text. -/
def words (cs : List Char) : List (List Char) :=
  ((cs.splitBy fun a b => isBlank a == isBlank b).filter fun w => !(w.head?.any isBlank))

/-- The first words of a text and what follows them, so many parts at most. What is left
of blanks at the end is a part of its own. -/
def splitWords : Nat → List Char → List (List Char)
  | 0, _ => []
  | most + 1, cs =>
    match Text.trimStart cs with
    | [] => if cs.isEmpty then [] else [cs]
    | rest =>
      if most == 0 then [rest]
      else
        rest.takeWhile (fun c => !isBlank c) ::
          splitWords most (rest.dropWhile fun c => !isBlank c)

/-- The lines of a text, without their ends. -/
def lines (cs : List Char) : List (List Char) :=
  let parts := Datum.splitAtChar '\n' cs
  let parts := if parts.getLast? == some [] then parts.dropLast else parts
  parts.map fun p => if p.getLast? == some '\r' then p.dropLast else p

/-- Removes characters of a set from both ends. -/
def trimOf (set cs : List Char) : List Char :=
  let drop (xs : List Char) := xs.dropWhile set.contains
  (drop (drop cs).reverse).reverse

-- ---------------------------------------------------------------------------
-- Indentation
-- ---------------------------------------------------------------------------

/-- A text without the line break it ends with. -/
def dropLineEnd (cs : List Char) : List Char :=
  let cs := if cs.getLast? == some '\n' then cs.dropLast else cs
  if cs.getLast? == some '\r' then cs.dropLast else cs

/-- Blanks put before every line. The first line and empty ones are left out unless they
are asked for. -/
def indent (width : Nat) (first blank : Bool) (cs : List Char) : List Char :=
  let margin := List.replicate width ' '
  let put (line : List Char) := if line.isEmpty && !blank then [] else margin ++ line
  let placed := match Datum.splitAtChar '\n' (dropLineEnd cs) with
    | [] => []
    | line :: rest => (if first then put line else line) :: rest.map put
  dropLineEnd (placed.flatMap fun line => line ++ ['\n'])

-- ---------------------------------------------------------------------------
-- Filters
-- ---------------------------------------------------------------------------

/-- A text, safe if the datum it was made from is. -/
def likeSafe (d : Datum) (cs : List Char) : Datum := .text (String.ofList cs) d.isSafe

/-- A filter of one text. -/
def onText (f : List Char → List Char) (mode : Mode) (args : ArgumentList) :
    Except RenderError Datum := do
  args.atMost 1
  return likeSafe (← args.datum 0) (f (← args.written mode 0).toList)

/-- Texts, handed out one by one. -/
def texts (parts : List (List Char)) : Datum :=
  .list (.series false) (parts.map fun p => Datum.ofText (String.ofList p))

def trim (mode : Mode) (args : ArgumentList) : Except RenderError Datum := do
  args.atMost 2
  let cs := (← args.written mode 0).toList
  let set ← args.written? mode 1
  return likeSafe (← args.datum 0) (match set with
    | some set => trimOf set.toList cs
    | none => Text.trim cs)

/-- A text to be put into another: made safe if the other is and it is not. -/
def fitting (mode : Mode) (host : Datum) (args : ArgumentList) (place : Nat) :
    Except RenderError String := do
  let s ← args.written mode place
  return if host.isSafe && !(← args.datum place).isSafe then Html.safe s else s

def replace (mode : Mode) (args : ArgumentList) : Except RenderError Datum := do
  args.atMost 3
  let host ← args.datum 0
  let cs := (← args.written mode 0).toList
  let old ← fitting mode host args 1
  let new ← fitting mode host args 2
  return likeSafe host (replaceAll old.toList new.toList cs)

def split (mode : Mode) (args : ArgumentList) : Except RenderError Datum := do
  args.atMost 3
  (← args.datum 0).present mode
  let cs := (← args.text 0).toList
  let separator ← args.text? 1
  let most := ((← args.whole? (-2 ^ 63) (2 ^ 63 - 1) 2).filter fun n => 0 ≤ n).map fun n =>
    n.toNat + 1
  return texts (match separator, most with
    | none, none => words cs
    | none, some n => splitWords n cs
    | some s, none => splitAt s.toList (cs.length + 2) cs
    | some s, some n => splitAt s.toList n cs)

def splitLines (mode : Mode) (args : ArgumentList) : Except RenderError Datum := do
  args.atMost 1
  (← args.datum 0).present mode
  return texts (lines (← args.text 0).toList)

def indented (mode : Mode) (args : ArgumentList) : Except RenderError Datum := do
  args.atMost 4
  let cs := (← args.written mode 0).toList
  let width ← args.count 1
  let first ← args.flag 2
  let blank ← args.flag 3
  return likeSafe (← args.datum 0) (indent width first blank cs)

-- ---------------------------------------------------------------------------
-- Safe texts
-- ---------------------------------------------------------------------------

/-- The written form of a datum, taken to be HTML. -/
def markSafe (mode : Mode) (args : ArgumentList) : Except RenderError Datum := do
  args.atMost 1
  return .text (← args.written mode 0) true

/-- The written form of a datum, made safe for HTML. -/
def safeText (d : Datum) : String := if d.isSafe then d.display else Html.safe d.display

def escape (mode : Mode) (args : ArgumentList) : Except RenderError Datum := do
  args.atMost 1
  let d ← args.datum 0
  d.present mode
  return .text (safeText d) true

/-- The written form of a datum; a text stays what it is. -/
def toText (mode : Mode) (args : ArgumentList) : Except RenderError Datum := do
  args.atMost 1
  let d ← args.datum 0
  d.present mode
  return match d with
    | .text s safe => .text s safe
    | d => Datum.ofText d.display

/-- Texts put together with a separator. If any of them is safe the others are made safe
where output is, and the whole is safe. -/
def joinTexts (mode : Mode) (separator : Datum) (items : List Datum) : Datum :=
  if mode.escape && (separator.isSafe || items.any Datum.isSafe) then
    .text ((safeText separator).intercalate (items.map safeText)) true
  else Datum.ofText (separator.display.intercalate (items.map Datum.display))

def join (mode : Mode) (args : ArgumentList) : Except RenderError Datum := do
  args.atMost 2
  let d ← args.datum 0
  d.present mode
  let separator := (args.datum? 1).getD (Datum.ofText "")
  require !separator.isKeywords
  return joinTexts mode separator (← orFail d.items?)

end Filter

end MailMerge
