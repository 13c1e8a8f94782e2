import MailMerge.Document.Yaml.Node

/-!
# Reading a block text

A document is made of the nodes of a text. The use of a name stands for the node with
its number, wherever that is; the last node with a number counts. Nodes may lie 128
deep, and names may be used a hundred times as often as there are nodes, so a text that
holds itself is not read.
-/

namespace MailMerge

namespace Yaml

namespace Node

mutual

/-- The nodes that have numbers, in the order in which they begin. -/
def named : Node → List (Nat × Node)
  | .use _ => []
  | .scalar l plain text => (l.id.map fun id => (id, Node.scalar l plain text)).toList
  | .list l xs => (l.id.map fun id => (id, Node.list l xs)).toList ++ namedItems xs
  | .map l fs => (l.id.map fun id => (id, Node.map l fs)).toList ++ namedFields fs

def namedItems : List Node → List (Nat × Node)
  | [] => []
  | x :: xs => named x ++ namedItems xs

def namedFields : List (Node × Node) → List (Nat × Node)
  | [] => []
  | f :: fs => named f.1 ++ named f.2 ++ namedFields fs

end

mutual

/-- Begins and ends of nodes. -/
def size : Node → Nat
  | .use _ => 1
  | .scalar _ _ _ => 1
  | .list _ xs => sizeItems xs + 2
  | .map _ fs => sizeFields fs + 2

def sizeItems : List Node → Nat
  | [] => 0
  | x :: xs => size x + sizeItems xs

def sizeFields : List (Node × Node) → Nat
  | [] => 0
  | f :: fs => size f.1 + size f.2 + sizeFields fs

end

end Node

/-- The nodes that have numbers, and how often they may be used. -/
structure NamedNodes where
  nodes : List (Nat × Node)
  most : Nat

/-- Reading that counts how often names were used. -/
abbrev DocumentReader := StateT Nat Option

/-- The node itself, or the node it uses. -/
def Node.target (named : NamedNodes) : Node → DocumentReader Node
  | .use id => do
    modify (· + 1)
    if named.most < (← get) then failure
    List.lookup id named.nodes.reverse
  | n => return n

/-- The text of a key, which must be a scalar. -/
def Node.keyText (named : NamedNodes) (n : Node) : DocumentReader String := do
  match ← n.target named with
  | .scalar _ _ text => return text
  | _ => failure

/-- A document with its tag, if it has one. -/
def Label.mark (l : Label) (d : Document) : Document :=
  match l.tag with
  | none => d
  | some tag => .tagged tag d

/-- The document of a node; `inner?` reads the nodes inside it, if they may lie so deep. -/
def Node.documentWith (named : NamedNodes) (inner? : Option (Node → DocumentReader Document))
    (n : Node) : DocumentReader Document := do
  match ← n.target named with
  | .use _ => failure
  | .scalar l plain text => return l.mark (if plain then .plain text else .text text)
  | .list l items =>
    let inner ← inner?
    return l.mark (.list (← items.mapM inner))
  | .map l fields =>
    let inner ← inner?
    return l.mark (.record (← fields.mapM fun f => do return (← f.1.keyText named, ← inner f.2)))

/-- The document of a node that has room for some levels below it. -/
def Node.document (named : NamedNodes) : Nat → Node → DocumentReader Document
  | 0 => documentWith named none
  | depth + 1 => documentWith named (some (document named depth))

/-- The document a block text denotes, if it is well formed. -/
def read? (s : String) : Option Document := do
  let cs := match s.toList with
    | '\uFEFF' :: cs => cs
    | cs => cs
  if !cs.all isAllowed then none
  let n ← Node.ofTokens? (← tokens? (unifyLineEnds cs))
  (n.document ⟨n.named, 100 * n.size⟩ 128).run' 0

end Yaml

end MailMerge
