import MailMerge.Document.Yaml.Token

/-!
# Nodes of a block text

A text holds one document, which is a node: a scalar, a list, a map, or the use of a node
that has a name. A name may be given again, so each use is settled by number: the number
a name has at that place. Every function spends one unit of fuel for every step.
-/

namespace MailMerge

namespace Yaml

/-- What may stand before a node. -/
structure Label where
  /-- The number its name stands for. -/
  id : Option Nat := none
  tag : Option String := none
deriving DecidableEq, Inhabited

inductive Node where
  | use (id : Nat)
  | scalar (label : Label) (plain : Bool) (text : String)
  | list (label : Label) (items : List Node)
  | map (label : Label) (fields : List (Node × Node))
deriving Inhabited

/-- A node that is left out. -/
def Node.empty : Node := .scalar {} true ""

/-- Tokens that are left, and what is known of the document so far. -/
structure Reading where
  tokens : List Token
  /-- What handles of tags stand for. -/
  handles : List (String × String)
  /-- Numbers of the names given so far. -/
  names : List (String × Nat) := []

abbrev NodeReader := StateT Reading Option

namespace NodeReader

def peek : NodeReader (Option Token) := do return (← get).tokens.head?

def skip : NodeReader Unit := modify fun r => { r with tokens := r.tokens.tail }

/-- Whether one of some tokens is next. -/
def isNext (ts : List Token) : NodeReader Bool := do return (← peek).any ts.contains

/-- Gives a name. Its number is that of the different names given before. -/
def giveName (name : String) : NodeReader Nat := do
  let r ← get
  let id := r.names.length
  set { r with names := (name, id) :: r.names.filter fun n => n.1 != name }
  return id

/-- The number of a name. -/
def idOf (name : String) : NodeReader Nat := do List.lookup name (← get).names

/-- A tag written in full. -/
def fullTag (t : Tag) : NodeReader String := do
  if t.handle.isEmpty then return t.text
  else return (← List.lookup t.handle (← get).handles) ++ t.text

def tag : NodeReader (Option String) := do
  match ← peek with
  | some (.tag t) => skip; return some (← fullTag t)
  | _ => return none

def name : NodeReader (Option Nat) := do
  match ← peek with
  | some (.name name) => skip; return some (← giveName name)
  | _ => return none

/-- A name and a tag, in either order, each of which may be missing. -/
def label : NodeReader Label := do
  match ← name with
  | some id => return { id := some id, tag := ← tag }
  | none =>
    let tag ← tag
    return { id := ← if tag.isSome then name else pure none, tag }

/-- A node of which only the label is there; a label there must be. -/
def emptyNode (label : Label) : NodeReader Node :=
  if label == {} then failure else return .scalar label true ""

/-- A node, unless one of some tokens is next. -/
def nodeUnless (ts : List Token) (read : NodeReader Node) : NodeReader Node := do
  if ← isNext ts then return .empty else read

/-- The value behind a colon; both may be missing. -/
def valueUnless (ts : List Token) (read : NodeReader Node) : NodeReader Node := do
  match ← peek with
  | some .value => skip; nodeUnless ts read
  | _ => return .empty

mutual

/-- A node. In a block, a block may begin; where the node belongs to a key, the items of a
list may also stand in the column of the key. -/
def node : Nat → Bool → Bool → NodeReader Node
  | 0, _, _ => failure
  | fuel + 1, block, ofKey => do
    match ← peek with
    | some (.use name) => skip; return .use (← idOf name)
    | _ =>
      let label ← label
      match ← peek with
      | some (.scalar plain text) =>
        skip
        return .scalar (if label.tag == some "!" then { label with tag := none } else label) plain text
      | some .flowListStart => skip; return .list label (← flowItems fuel true)
      | some .flowMapStart => skip; return .map label (← flowFields fuel true)
      | some .item => if ofKey then return .list label (← looseItems fuel) else emptyNode label
      | some .blockListStart =>
        if block then skip; return .list label (← items fuel) else emptyNode label
      | some .blockMapStart =>
        if block then skip; return .map label (← fields fuel) else emptyNode label
      | _ => emptyNode label

/-- The items of a block. -/
def items : Nat → NodeReader (List Node)
  | 0 => failure
  | fuel + 1 => do
    match ← peek with
    | some .item =>
      skip
      let item ← nodeUnless [.item, .blockEnd] (node fuel true false)
      return item :: (← items fuel)
    | some .blockEnd => skip; return []
    | _ => failure

/-- Items in the column of the key they belong to. -/
def looseItems : Nat → NodeReader (List Node)
  | 0 => failure
  | fuel + 1 => do
    match ← peek with
    | some .item =>
      skip
      let item ← nodeUnless [.item, .key, .value, .blockEnd] (node fuel true false)
      return item :: (← looseItems fuel)
    | _ => return []

/-- The fields of a block. -/
def fields : Nat → NodeReader (List (Node × Node))
  | 0 => failure
  | fuel + 1 => do
    match ← peek with
    | some .key =>
      skip
      let key ← nodeUnless [.key, .value, .blockEnd] (node fuel true true)
      let value ← valueUnless [.key, .value, .blockEnd] (node fuel true true)
      return (key, value) :: (← fields fuel)
    | some .blockEnd => skip; return []
    | _ => failure

/-- Items up to the closing bracket, with commas between them. A field is a map of its own. -/
def flowItems : Nat → Bool → NodeReader (List Node)
  | 0, _ => failure
  | fuel + 1, first => do
    match ← peek, first with
    | some .flowListEnd, _ => skip; return []
    | some .comma, false =>
      skip
      if ← isNext [.flowListEnd] then skip; return []
      else flowItem fuel
    | _, true => flowItem fuel
    | _, false => failure

/-- An item and those behind it. -/
def flowItem : Nat → NodeReader (List Node)
  | 0 => failure
  | fuel + 1 => do
    let item ← match ← peek with
      | some .key =>
        skip
        -- Where the key is left out, what stands in its place is passed over.
        let key ← if ← isNext [.value, .comma, .flowListEnd] then skip; pure .empty
          else node fuel false false
        let value ← valueUnless [.comma, .flowListEnd] (node fuel false false)
        pure (.map {} [(key, value)])
      | _ => node fuel false false
    return item :: (← flowItems fuel false)

/-- Fields up to the closing brace, with commas between them. -/
def flowFields : Nat → Bool → NodeReader (List (Node × Node))
  | 0, _ => failure
  | fuel + 1, first => do
    match ← peek, first with
    | some .flowMapEnd, _ => skip; return []
    | some .comma, false =>
      skip
      if ← isNext [.flowMapEnd] then skip; return []
      else flowField fuel
    | _, true => flowField fuel
    | _, false => failure

/-- A field and those behind it. A key may be left out behind its mark, and its value too. -/
def flowField : Nat → NodeReader (List (Node × Node))
  | 0 => failure
  | fuel + 1 => do
    let field ← match ← peek with
      | some .key =>
        skip
        let key ← nodeUnless [.value, .comma, .flowMapEnd] (node fuel false false)
        let value ← valueUnless [.comma, .flowMapEnd] (node fuel false false)
        pure (key, value)
      | _ => pure (← node fuel false false, .empty)
    return field :: (← flowFields fuel false)

end

end NodeReader

-- ---------------------------------------------------------------------------
-- Documents
-- ---------------------------------------------------------------------------

/-- The handles of tags that need not be said. -/
def knownHandles : List (String × String) := [("!", "!"), ("!!", "tag:yaml.org,2002:")]

def Token.direction? : Token → Option Direction
  | .direction d => some d
  | _ => none

/-- What directions say of handles. No handle may be said twice, and the version only
once. -/
def handlesOf? (ds : List Direction) : Option (List (String × String)) :=
  let versions := ds.filterMap fun d => match d with
    | .version major minor => some (major, minor)
    | .handle _ _ => none
  let handles := ds.filterMap fun d => match d with
    | .version _ _ => none
    | .handle name text => some (name, text)
  if versions.length ≤ 1 && versions.all [(1, 1), (1, 2)].contains && (handles.map (·.1)).Nodup then
    some (handles ++ knownHandles)
  else none

/-- Whether a token stands outside all nodes. -/
def Token.isOutside : Token → Bool
  | .direction _ => true
  | .documentStart => true
  | .documentEnd => true
  | _ => false

/-- The one document of some tokens. Directions need a line that begins the document, and
behind such a line it may be empty. Without tokens it is empty too. -/
def Node.ofTokens? (tokens : List Token) : Option Node := do
  let fuel := 4 * tokens.length + 8
  let directions := (tokens.takeWhile fun t => t.direction?.isSome).filterMap Token.direction?
  let handles ← handlesOf? directions
  let (node, rest) ← match tokens.drop directions.length with
    | [] => if directions.isEmpty then some (Node.empty, []) else none
    | .documentStart :: rest =>
      if rest.head?.all Token.isOutside then some (Node.empty, rest)
      else (NodeReader.node fuel true false { tokens := rest, handles }).map fun r => (r.1, r.2.tokens)
    | rest =>
      if directions.isEmpty then
        (NodeReader.node fuel true false { tokens := rest, handles }).map fun r => (r.1, r.2.tokens)
      else none
  if rest.all (· == .documentEnd) then return node else none

end Yaml

end MailMerge
