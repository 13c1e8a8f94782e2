import MailMerge.Template.Datum.Basic
import MailMerge.Text.Blank
import MailMerge.Document.Json.Reader
import MailMerge.Document.Plain

/-!
# Tokens of a template

A template is text with expressions between `{{` and `}}`, statements between `{%` and
`%}`, and comments between `{#` and `#}`. A minus sign next to a delimiter removes the
blanks beyond it. Between `{% raw %}` and `{% endraw %}` everything is text. What cannot
be divided into tokens ends the list with the error that stands there.
-/

namespace MailMerge

inductive Token where
  | data (s : String)
  | variableStart
  | variableEnd
  | blockStart
  | blockEnd
  | ident (s : String)
  | str (s : String)
  | int (n : Nat)
  | double (d : Double)
  | op (s : String)
  /-- The place where no token can be read, and why. -/
  | bad (e : RenderError)
deriving DecidableEq, Inhabited

namespace Token

/-- The two kinds of markup that hold tokens. -/
inductive Markup where
  | variable
  | block
deriving DecidableEq, Repr

-- ---------------------------------------------------------------------------
-- Identifiers and numbers
-- ---------------------------------------------------------------------------

def isIdentStart (c : Char) : Bool := c.isAlpha || c == '_'

def isIdentChar (c : Char) : Bool := c.isAlphanum || c == '_'

/-- The five blanks that may stand between tokens. -/
def isSpace (c : Char) : Bool :=
  c == ' ' || c == '\t' || c == '\n' || c == '\x0c' || c == '\r'

/-- States of reading a number. -/
inductive NumberPart where
  | whole
  | based (base : Nat)
  | fraction
  | exponentMark
  | exponent
deriving DecidableEq, Repr

/-- The part of a number after one more character, if it still is a number. -/
def NumberPart.next? (p : NumberPart) (c : Char) : Option NumberPart :=
  match p with
  | .whole =>
    if c.isDigit || c == '_' then some .whole
    else if c == '.' then some .fraction
    else if c == 'e' || c == 'E' then some .exponentMark
    else none
  | .based base =>
    if c.isDigit || c == '_' || (base == 16 && (Json.hexValue? c).isSome) then some (.based base)
    else none
  | .fraction =>
    if c.isDigit || c == '_' then some .fraction
    else if c == 'e' || c == 'E' then some .exponentMark
    else none
  | .exponentMark =>
    if c == '+' || c == '-' || c.isDigit then some .exponent
    else if c == '_' then some .exponentMark else none
  | .exponent => if c.isDigit || c == '_' then some .exponent else none

/-- Whether a point and what is behind it name an attribute. -/
def startsAttribute : List Char → Bool
  | '.' :: c :: _ => isIdentStart c
  | _ => false

/-- The characters of a number, and its last part. The point of an attribute is none of
them. -/
def spanNumber : NumberPart → List Char → List Char × NumberPart
  | p, [] => ([], p)
  | p, c :: cs =>
    match (if startsAttribute (c :: cs) then none else p.next? c) with
    | some q =>
      let (more, last) := spanNumber q cs
      (c :: more, last)
    | none => ([], p)

/-- Whole numbers have at most 128 bits. -/
def wholeToken? (base : Nat) (digits : List Char) : Option Token :=
  (Plain.natInBase? base digits).bind fun n => if n < 2 ^ 128 then some (.int n) else none

/-- A number at the start of a text, and the rest. Underscores may stand between its
digits. -/
def number? (cs : List Char) : Option (Token × List Char) :=
  let (start, cs) := match cs with
    | '0' :: c :: rest =>
      if c == 'b' || c == 'B' then (NumberPart.based 2, rest)
      else if c == 'o' || c == 'O' then (.based 8, rest)
      else if c == 'x' || c == 'X' then (.based 16, rest)
      else (.whole, cs)
    | _ => (.whole, cs)
  let (spelled, last) := spanNumber start cs
  let rest := cs.drop spelled.length
  let digits := spelled.filter fun c => c != '_'
  if spelled.getLast? == some '_' then none
  else
    match last with
    | .whole => (wholeToken? 10 digits).map fun t => (t, rest)
    | .based base => (wholeToken? base digits).map fun t => (t, rest)
    | _ => (Double.read? (String.ofList digits)).map fun d => (.double d, rest)

-- ---------------------------------------------------------------------------
-- Strings
-- ---------------------------------------------------------------------------

/-- The characters of a string up to its closing quote, and the rest. -/
def spanString (quote : Char) : List Char → Option (List Char × List Char)
  | [] => none
  | '\\' :: c :: cs => (spanString quote cs).map fun r => ('\\' :: c :: r.1, r.2)
  | c :: cs =>
    if c == quote then some ([], cs)
    else if c == '\\' then none
    else (spanString quote cs).map fun r => (c :: r.1, r.2)

/-- The number that hexadecimal digits denote; a plus sign may stand in the place of the
first. -/
def hexNumber? (cs : List Char) : Option Nat :=
  let digits := match cs with
    | '+' :: ds => ds
    | ds => ds
  if digits.isEmpty then none
  else digits.foldlM (fun n c => (Json.hexValue? c).map fun v => 16 * n + v) 0

def isOctalDigit (c : Char) : Bool := '0' ≤ c && c ≤ '7'

/-- The character that two escaped surrogates denote together. -/
def surrogates? (high : Nat) : List Char → Option Char
  | '\\' :: 'u' :: a :: b :: c :: d :: _ =>
    (hexNumber? [a, b, c, d]).bind fun low =>
      if Json.isLowSurrogate low then
        some (Char.ofNat (0x10000 + (high - 0xD800) * 0x400 + (low - 0xDC00)))
      else none
  | _ => none

/-- What the characters behind a backslash denote, and how many of them belong to the
escape. One that is not known stays as it is written. -/
def escape? : List Char → Option (List Char × Nat)
  | [] => none
  | 'u' :: a :: b :: c :: d :: cs =>
    (hexNumber? [a, b, c, d]).bind fun n =>
      if Json.isLowSurrogate n then none
      else if Json.isHighSurrogate n then (surrogates? n cs).map fun x => ([x], 11)
      else some ([Char.ofNat n], 5)
  | 'x' :: a :: b :: _ => (hexNumber? [a, b]).map fun n => ([Char.ofNat n], 3)
  | 'u' :: _ => none
  | 'x' :: _ => none
  | '\'' :: _ => some (['\''], 1)
  | c :: cs =>
    if isOctalDigit c then
      let digits := ((c :: cs).take 3).takeWhile isOctalDigit
      let n := digits.foldl (fun n c => 8 * n + digitValue c) 0
      if n < 256 then some ([Char.ofNat n], digits.length) else none
    else
      match Json.escaped? c with
      | some x => some ([x], 1)
      | none => some (['\\', c], 1)

/-- A string with its escapes replaced; so many characters at the start belong to an
escape already. -/
def unescapeFrom? : Nat → List Char → Option (List Char)
  | _, [] => some []
  | skip + 1, _ :: cs => unescapeFrom? skip cs
  | 0, c :: cs =>
    if c == '\\' then
      (escape? cs).bind fun e => (unescapeFrom? e.2 cs).map (e.1 ++ ·)
    else (unescapeFrom? 0 cs).map (c :: ·)

/-- A string with its escapes replaced. -/
def unescape? (cs : List Char) : Option (List Char) := unescapeFrom? 0 cs

-- ---------------------------------------------------------------------------
-- Delimiters
-- ---------------------------------------------------------------------------

/-- What a sign next to a delimiter asks for. -/
inductive Trim where
  | keep
  | remove
deriving DecidableEq, Repr

/-- A sign next to a delimiter, taken off. -/
def trimSign : List Char → Trim × List Char
  | '-' :: cs => (.remove, cs)
  | '+' :: cs => (.keep, cs)
  | cs => (.keep, cs)

/-- The text before the next opening delimiter, and that delimiter with the rest. -/
def spanText : List Char → List Char × List Char
  | [] => ([], [])
  | '{' :: c :: cs =>
    if c == '{' || c == '%' || c == '#' then ([], '{' :: c :: cs)
    else
      let (before, rest) := spanText (c :: cs)
      ('{' :: before, rest)
  | c :: cs =>
    let (before, rest) := spanText cs
    (c :: before, rest)

/-- The closing delimiter at the start of a text, with the sign before it. -/
def close? (m : Markup) (cs : List Char) : Option (Trim × List Char) :=
  match m, cs with
  | .variable, '}' :: '}' :: cs => some (.keep, cs)
  | .variable, '-' :: '}' :: '}' :: cs => some (.remove, cs)
  | .block, '%' :: '}' :: cs => some (.keep, cs)
  | .block, '-' :: '%' :: '}' :: cs => some (.remove, cs)
  | .block, '+' :: '%' :: '}' :: cs => some (.keep, cs)
  | _, _ => none

/-- The rest of a statement that consists of one word. -/
def wordEnd? (word cs : List Char) : Option (Trim × List Char) :=
  let cs := cs.dropWhile isSpace
  if word.isPrefixOf cs then close? .block ((cs.drop word.length).dropWhile isSpace) else none

/-- The text up to the statement that ends a raw part, whether that statement trims on
either side, and the rest. -/
def spanRaw : List Char → Option (List Char × Trim × Trim × List Char)
  | [] => none
  | '{' :: '%' :: cs =>
    let (before, inside) := trimSign cs
    match wordEnd? "endraw".toList inside with
    | some (after, rest) => some ([], before, after, rest)
    | none => (spanRaw ('%' :: cs)).map fun r => ('{' :: r.1, r.2)
  | c :: cs => (spanRaw cs).map fun r => (c :: r.1, r.2)

/-- The rest behind a comment, and whether the comment trims it. -/
def dropComment : List Char → Option (Trim × List Char)
  | [] => none
  | '-' :: '#' :: '}' :: cs => some (.remove, cs)
  | '#' :: '}' :: cs => some (.keep, cs)
  | _ :: cs => dropComment cs

/-- Text as a token, unless it is empty. -/
def dataToken (cs : List Char) : List Token :=
  if cs.isEmpty then [] else [.data (String.ofList cs)]

/-- Operators of two characters, and those of one. -/
def operator? : List Char → Option (String × List Char)
  | '/' :: '/' :: cs => some ("//", cs)
  | '*' :: '*' :: cs => some ("**", cs)
  | '=' :: '=' :: cs => some ("==", cs)
  | '!' :: '=' :: cs => some ("!=", cs)
  | '>' :: '=' :: cs => some (">=", cs)
  | '<' :: '=' :: cs => some ("<=", cs)
  | c :: cs => if "+-*/%.,:~=|><()[]{}".toList.contains c then some (c.toString, cs) else none
  | [] => none

/-- How an operator changes the number of open brackets. -/
def balanceOf (o : String) : Int :=
  if o == "(" || o == "[" || o == "\x7b" then 1
  else if o == ")" || o == "]" || o == "\x7d" then -1
  else 0

/-- One token inside markup, and the rest. -/
def inside (cs : List Char) : Token × List Char :=
  match operator? cs with
  | some (o, rest) => (.op o, rest)
  | none =>
    match cs with
    | [] => (.bad .malformed, [])
    | c :: rest =>
      if c == '\'' || c == '"' then
        match spanString c rest with
        | none => (.bad .malformed, [])
        | some (spelled, rest) =>
          match unescape? spelled with
          | none => (.bad .failed, [])
          | some cs => (.str (String.ofList cs), rest)
      else if c.isDigit then (number? (c :: rest)).getD (.bad .malformed, [])
      else if isIdentStart c then
        let (name, rest) := (c :: rest).span isIdentChar
        (.ident (String.ofList name), rest)
      else (.bad .malformed, [])

/-- Where the reader stands: in text, which may have lost the blanks it starts with, or in
markup with a number of open brackets. -/
inductive Place where
  | text (t : Trim)
  | markup (m : Markup) (balance : Int)

/-- The tokens of a text. Each step takes a character at least, or ends. -/
def tokensFrom : Nat → Place → List Char → List Token
  | 0, _, _ => []
  | fuel + 1, .text trim, cs =>
    let cs := if trim == .remove then Text.trimStart cs else cs
    let (before, rest) := spanText cs
    match rest with
    | '{' :: c :: rest =>
      let (sign, inner) := trimSign rest
      let before := dataToken (if sign == .remove then Text.trimEnd before else before)
      if c == '#' then
        match dropComment inner with
        | none => before ++ [.bad .malformed]
        | some (trim, rest) => before ++ tokensFrom fuel (.text trim) rest
      else if c == '{' then
        before ++ .variableStart :: tokensFrom fuel (.markup .variable 0) inner
      else
        match wordEnd? "raw".toList inner with
        | none => before ++ .blockStart :: tokensFrom fuel (.markup .block 0) inner
        | some (trimStart, rest) =>
          match spanRaw rest with
          | none => before ++ [.bad .malformed]
          | some (raw, trimEnd, trim, rest) =>
            let raw := if trimStart == .remove then Text.trimStart raw else raw
            let raw := if trimEnd == .remove then Text.trimEnd raw else raw
            before ++ dataToken raw ++ tokensFrom fuel (.text trim) rest
    | _ => dataToken before
  | fuel + 1, .markup m balance, cs =>
    match cs.dropWhile isSpace with
    | [] => []
    | cs =>
      match (if balance == 0 then close? m cs else none) with
      | some (trim, rest) =>
        (match m with | .variable => .variableEnd | .block => .blockEnd) ::
          tokensFrom fuel (.text trim) rest
      | none =>
        match inside cs with
        | (.bad e, _) => [.bad e]
        | (.op o, rest) => .op o :: tokensFrom fuel (.markup m (balance + balanceOf o)) rest
        | (t, rest) => t :: tokensFrom fuel (.markup m balance) rest

/-- The tokens of a template. Unless it is to be kept, one line break at the end is
dropped. -/
def tokenize (keepTrailingNewline : Bool) (template : String) : List Token :=
  let dropLast (c : Char) (cs : List Char) :=
    if cs.getLast? == some c then cs.dropLast else cs
  let cs := template.toList
  let cs := if keepTrailingNewline then cs else dropLast '\r' (dropLast '\n' cs)
  tokensFrom (cs.length + 1) (.text .keep) cs

end Token

end MailMerge
