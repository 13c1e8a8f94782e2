import MailMerge.Document.Json.Reader
import MailMerge.Document.Yaml.Place

/-!
# Tags of nodes and lines of directions

A tag before a node says of which kind it is. It is written in full between pointed
brackets, or as a handle and the text behind it; what a handle stands for is said in a
line that begins with a percent sign, before the document.
-/

namespace MailMerge

namespace Yaml

-- ---------------------------------------------------------------------------
-- Tags
-- ---------------------------------------------------------------------------

/-- A tag as it is written. A tag without a handle is written in full. -/
structure Tag where
  handle : String
  text : String
deriving DecidableEq, Inhabited

/-- Characters of a tag; some marks may stand only in one that is written in full. -/
def isTagChar (full : Bool) (c : Char) : Bool :=
  isNameChar c || ";/?:@&=+$.!~*'()".toList.contains c || (full && ",[]".toList.contains c)

/-- The characters that bytes stand for. -/
def decodeBytes? (bytes : List UInt8) : Option (List Char) :=
  (String.fromUTF8? ⟨bytes.toArray⟩).map String.toList

/-- The text of a tag, up to a character that cannot belong to it. A percent sign and two
digits stand for a byte; `bytes` are those just before, latest first. -/
def tagText? (full : Bool) (bytes : List UInt8) : List Char → Option (List Char × List Char)
  | [] => (decodeBytes? bytes.reverse).map fun held => (held, [])
  | '%' :: a :: b :: cs => do
    let n ← Json.hex4? '0' '0' a b
    tagText? full (n.toUInt8 :: bytes) cs
  | c :: cs => do
    if c == '%' then none
    let held ← decodeBytes? bytes.reverse
    if isTagChar full c then
      let (text, rest) ← tagText? full [] cs
      return (held ++ c :: text, rest)
    else return (held, c :: cs)

/-- The text of a tag, which may not be empty. -/
def someTagText? (full : Bool) (cs : List Char) : Option (String × List Char) := do
  let (text, rest) ← tagText? full [] cs
  if text.isEmpty then none else return (String.ofList text, rest)

/-- A tag behind its exclamation mark, and what follows it. -/
def tagOf? (cs : List Char) : Option (Tag × List Char) :=
  match cs with
  | '<' :: cs => do
    let (text, rest) ← someTagText? true cs
    match rest with
    | '>' :: rest => return (⟨"", text⟩, rest)
    | _ => none
  | cs =>
    let (name, rest) := cs.span isNameChar
    match rest with
    | '!' :: rest => do
      let (text, rest) ← someTagText? false rest
      return (⟨String.ofList ('!' :: name ++ ['!']), text⟩, rest)
    | rest => do
      let (more, rest) ← tagText? false [] rest
      let text := String.ofList (name ++ more)
      return (if text.isEmpty then ⟨"", "!"⟩ else ⟨"!", text⟩, rest)

/-- A tag behind its exclamation mark. A gap must follow it, or a comma inside brackets. -/
def tag? (flow : Bool) (cs : List Char) : Option (Tag × List Char) := do
  let (tag, rest) ← tagOf? cs
  if isGap rest || (flow && rest.head? == some ',') then return (tag, rest) else none

-- ---------------------------------------------------------------------------
-- Names of nodes
-- ---------------------------------------------------------------------------

/-- A name behind the mark for naming or using a node. -/
def nodeName? (cs : List Char) : Option (String × List Char) :=
  let (name, rest) := cs.span isNameChar
  if !name.isEmpty && (isGap rest || rest.head?.any "?:,]\x7d%@\x60".toList.contains) then
    some (String.ofList name, rest)
  else none

-- ---------------------------------------------------------------------------
-- Directions
-- ---------------------------------------------------------------------------

/-- What a line with a percent sign says: the version of the notation, or what a handle
stands for. -/
inductive Direction where
  | version (major minor : Nat)
  | handle (name text : String)
deriving DecidableEq, Inhabited

/-- Up to nine digits. -/
def versionNumber? (cs : List Char) : Option (Nat × List Char) :=
  let (digits, rest) := cs.span Char.isDigit
  if digits.isEmpty || 9 < digits.length then none
  else some (digits.foldl (fun n c => 10 * n + (c.toNat - '0'.toNat)) 0, rest)

def version? (cs : List Char) : Option (Direction × List Char) := do
  let (major, rest) ← versionNumber? cs
  match rest with
  | '.' :: rest =>
    let (minor, rest) ← versionNumber? rest
    return (.version major minor, rest)
  | _ => none

/-- The name of a handle: an exclamation mark, or a name between two of them. -/
def handleName? : List Char → Option (List Char × List Char)
  | '!' :: cs =>
    let (name, rest) := cs.span isNameChar
    match name, rest with
    | name, '!' :: rest => some ('!' :: name ++ ['!'], rest)
    | [], rest => some (['!'], rest)
    | _ :: _, _ => none
  | _ => none

def handle? (cs : List Char) : Option (Direction × List Char) := do
  let (name, rest) ← handleName? cs
  if rest.head?.any isBlank then
    let (text, rest) ← someTagText? true (rest.dropWhile isBlank)
    if isGap rest then return (.handle (String.ofList name) text, rest) else none
  else none

/-- A direction behind its percent sign, and the lines below it. -/
def direction? (cs : List Char) : Option (Direction × List Char) := do
  let (name, rest) := cs.span isNameChar
  if !isGap rest then none
  let rest := rest.dropWhile isBlank
  let (d, rest) ← match String.ofList name with
    | "YAML" => version? rest
    | "TAG" => handle? rest
    | _ => none
  return (d, ← lineRest? rest)

end Yaml

end MailMerge
