import MailMerge.Document.Yaml.Scalar
import MailMerge.Document.Yaml.Tag

/-!
# Tokens of a block text

Blocks have no brackets: a block begins where a line stands further right than the
lines before it, and ends where a line stands further left. A key of a block is known
only by the colon behind it. So a place where a key may have begun is kept, and when the
colon comes the key is put into the tokens there.
-/

namespace MailMerge

namespace Yaml

inductive Token where
  | direction (d : Direction)
  | documentStart
  | documentEnd
  | blockListStart
  | blockMapStart
  | blockEnd
  | flowListStart
  | flowListEnd
  | flowMapStart
  | flowMapEnd
  /-- A comma inside brackets. -/
  | comma
  /-- The dash before an item. -/
  | item
  | key
  | value
  | use (name : String)
  | name (name : String)
  | tag (t : Tag)
  | scalar (plain : Bool) (text : String)
deriving DecidableEq, Inhabited

/-- A place where a key may have begun. -/
structure KeyPlace where
  /-- Tokens before it. -/
  tokens : Nat
  index : Nat
  line : Nat
  column : Nat
  /-- It stands where the block has its keys, so it must be one. -/
  required : Bool

/-- What is known between two tokens. -/
structure Scanner where
  place : Place
  tokens : Array Token := #[]
  /-- The columns of the open blocks, innermost first. -/
  blocks : List Nat := []
  /-- Where a key may have begun. -/
  keyPlace : Option KeyPlace := none
  /-- Where a key may have begun outside each open bracket, innermost first. -/
  outerKeys : List (Option KeyPlace) := []
  /-- A key may begin here. -/
  keyAllowed : Bool := true

namespace Scanner

/-- Whether brackets are open. -/
def inFlow (s : Scanner) : Bool := !s.outerKeys.isEmpty

/-- The least column at which a block inside the innermost one may begin. -/
def least (s : Scanner) : Nat :=
  match s.blocks with
  | [] => 0
  | column :: _ => column + 1

/-- One more token, with the text behind it. -/
def push (s : Scanner) (t : Token) (rest : List Char) : Scanner :=
  { s with tokens := s.tokens.push t, place := s.place.moveTo rest }

-- ---------------------------------------------------------------------------
-- Blocks
-- ---------------------------------------------------------------------------

/-- Outside brackets, a block begins at a column that lies further right than the innermost
one. Its token comes behind the given number of tokens. -/
def openBlock (s : Scanner) (t : Token) (column tokens : Nat) : Scanner :=
  if s.inFlow || column < s.least then s
  else { s with blocks := column :: s.blocks, tokens := s.tokens.insertIdxIfInBounds tokens t }

/-- Outside brackets, the blocks for which a test holds end, from within. -/
def closeBlocks (s : Scanner) (ends : Nat → Bool) : Scanner :=
  if s.inFlow then s
  else
    { s with
      blocks := s.blocks.dropWhile ends
      tokens := s.tokens ++ Array.replicate (s.blocks.takeWhile ends).length Token.blockEnd }

-- ---------------------------------------------------------------------------
-- Keys
-- ---------------------------------------------------------------------------

/-- No key has begun. This fails where one had to. -/
def dropKey? (s : Scanner) : Option Scanner :=
  if s.keyPlace.any KeyPlace.required then none else some { s with keyPlace := none }

/-- A key may begin here, if keys may. -/
def saveKey? (s : Scanner) : Option Scanner :=
  if s.keyAllowed then
    let p := s.place
    let required := !s.inFlow && s.least == p.column + 1
    s.dropKey?.map fun s =>
      { s with keyPlace := some ⟨s.tokens.size, p.index, p.line, p.column, required⟩ }
  else some s

/-- Whether a key cannot reach so far: it stands on one line and has 1024 characters at
most. -/
def isLost (p : Place) (k : KeyPlace) : Bool := k.line < p.line || k.index + 1024 < p.index

/-- Places too far back for a key are forgotten. This fails where one had to begin. -/
def dropLostKeys? (s : Scanner) : Option Scanner :=
  let lost := isLost s.place
  if (s.keyPlace :: s.outerKeys).any fun k => k.any fun k => k.required && lost k then none
  else
    some { s with
      keyPlace := s.keyPlace.filter fun k => !lost k
      outerKeys := s.outerKeys.map fun k => k.filter fun k => !lost k }

-- ---------------------------------------------------------------------------
-- Between tokens
-- ---------------------------------------------------------------------------

/-- The place of the next token, and whether a key may begin there: blanks, comments and
line ends are passed over, but not tabs where a key may begin outside brackets. -/
def skipGap (flow : Bool) : Bool → Bool → Place → List Char → Place × Bool
  | keyAllowed, _, p, [] => ({ p with rest := [] }, keyAllowed)
  | keyAllowed, comment, p, c :: cs =>
    if isBreak c then
      skipGap flow (keyAllowed || !flow) false ⟨cs, p.index + 1, p.line + 1, 0⟩ cs
    else if comment || c == '#' || c == ' ' || (c == '\t' && (flow || !keyAllowed)) then
      skipGap flow keyAllowed (comment || c == '#') ⟨cs, p.index + 1, p.line, p.column + 1⟩ cs
    else ({ p with rest := c :: cs }, keyAllowed)

-- ---------------------------------------------------------------------------
-- Single tokens
-- ---------------------------------------------------------------------------

/-- A direction or the begin or end of a document; all blocks end before it. -/
def outside? (s : Scanner) (t : Token) (rest : List Char) : Option Scanner :=
  (s.closeBlocks fun _ => true).dropKey?.map fun s =>
    { s with keyAllowed := false }.push t rest

def openBracket? (s : Scanner) (t : Token) (rest : List Char) : Option Scanner :=
  s.saveKey?.map fun s =>
    { s with outerKeys := s.keyPlace :: s.outerKeys, keyPlace := none, keyAllowed := true }.push
      t rest

def closeBracket? (s : Scanner) (t : Token) (rest : List Char) : Option Scanner :=
  s.dropKey?.map fun s =>
    { s with
      keyPlace := s.outerKeys.head?.getD none
      outerKeys := s.outerKeys.tail
      keyAllowed := false }.push t rest

def comma? (s : Scanner) (rest : List Char) : Option Scanner :=
  s.dropKey?.map fun s => { s with keyAllowed := true }.push .comma rest

/-- A dash, which may begin a block of items. -/
def item? (s : Scanner) (rest : List Char) : Option Scanner :=
  if s.inFlow || s.keyAllowed then
    (s.openBlock .blockListStart s.place.column s.tokens.size).dropKey?.map fun s =>
      { s with keyAllowed := true }.push .item rest
  else none

/-- A question mark before a key. -/
def key? (s : Scanner) (rest : List Char) : Option Scanner :=
  if s.inFlow || s.keyAllowed then
    (s.openBlock .blockMapStart s.place.column s.tokens.size).dropKey?.map fun s =>
      { s with keyAllowed := !s.inFlow }.push .key rest
  else none

/-- A colon. If a key may have begun, it was one. -/
def value? (s : Scanner) (rest : List Char) : Option Scanner :=
  match s.keyPlace with
  | some k =>
    let s := { s with
      tokens := s.tokens.insertIdxIfInBounds k.tokens .key, keyPlace := none, keyAllowed := false }
    some ((s.openBlock .blockMapStart k.column k.tokens).push .value rest)
  | none =>
    if s.inFlow || s.keyAllowed then
      let s := s.openBlock .blockMapStart s.place.column s.tokens.size
      some ({ s with keyAllowed := !s.inFlow }.push .value rest)
    else none

/-- A token with which a key may begin. -/
def content? (s : Scanner) (t : Option (Token × List Char)) : Option Scanner := do
  let s ← s.saveKey?
  let (t, rest) ← t
  return { s with keyAllowed := false }.push t rest

def quoted? (s : Scanner) (r : Option (List Piece × List Char)) : Option Scanner :=
  s.content? (r.map fun r => (.scalar false (String.ofList (fold {} r.1)), r.2))

/-- An unquoted scalar. Behind a line end a key may begin again. -/
def plain? (s : Scanner) : Option Scanner := do
  let r ← Yaml.plain? s.inFlow s.least {} s.place.column s.place.rest
  let s ← s.content? (some (.scalar true (String.ofList r.text), r.rest))
  return { s with keyAllowed := r.newLine }

/-- A block of lines. -/
def block? (s : Scanner) (folded : Bool) (cs : List Char) : Option Scanner := do
  let s ← s.dropKey?
  let (text, rest) ← Yaml.block? folded s.least cs
  return { s with keyAllowed := true }.push (.scalar false (String.ofList text)) rest

-- ---------------------------------------------------------------------------
-- All tokens
-- ---------------------------------------------------------------------------

/-- The token at a place, which begins with a character. -/
def token? (s : Scanner) (c : Char) (cs : List Char) : Option Scanner :=
  if s.place.column == 0 && c == '%' then
    (direction? cs).bind fun r => s.outside? (.direction r.1) r.2
  else if s.place.atMarker then
    s.outside? (if c == '-' then .documentStart else .documentEnd) (cs.drop 2)
  else if c == '-' && isGap cs then s.item? cs
  else if c == '?' && (s.inFlow || isGap cs) then s.key? cs
  else if c == ':' && (s.inFlow || isGap cs) then s.value? cs
  else if startsPlain s.inFlow (c :: cs) then s.plain?
  else
    match c with
    | '[' => s.openBracket? .flowListStart cs
    | '{' => s.openBracket? .flowMapStart cs
    | ']' => s.closeBracket? .flowListEnd cs
    | '}' => s.closeBracket? .flowMapEnd cs
    | ',' => s.comma? cs
    | '*' => s.content? ((nodeName? cs).map fun r => (.use r.1, r.2))
    | '&' => s.content? ((nodeName? cs).map fun r => (.name r.1, r.2))
    | '!' => s.content? ((tag? s.inFlow cs).map fun r => (.tag r.1, r.2))
    | '\'' => s.quoted? (singleQuoted? cs)
    | '"' => s.quoted? (doubleQuoted? cs)
    | '|' => if s.inFlow then none else s.block? false cs
    | '>' => if s.inFlow then none else s.block? true cs
    | _ => none

/-- The end of the text. -/
def end? (s : Scanner) : Option Scanner := (s.closeBlocks fun _ => true).dropKey?

/-- All tokens up to the end of the text. -/
def run? : Nat → Scanner → Option (List Token)
  | 0, _ => none
  | fuel + 1, s => do
    let (place, keyAllowed) := skipGap s.inFlow s.keyAllowed false s.place s.place.rest
    let s ← { s with place, keyAllowed }.dropLostKeys?
    let s := s.closeBlocks (place.column < ·)
    match place.rest with
    | [] => s.end?.map fun s => s.tokens.toList
    | c :: cs => run? fuel (← s.token? c cs)

end Scanner

/-- The tokens of a text with its line ends written in one way. -/
def tokens? (cs : List Char) : Option (List Token) :=
  Scanner.run? (cs.length + 2) { place := { rest := cs } }

end Yaml

end MailMerge
