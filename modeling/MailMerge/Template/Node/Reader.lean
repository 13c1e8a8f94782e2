import MailMerge.Template.Expr.Reader
import MailMerge.Template.Node.Basic

/-!
# Reading a template

Nodes are read off the list of tokens. A statement ends with the end of its last tag;
what is between its tags is read up to a tag that starts with one of the words that may
follow. Each call spends a unit of fuel.
-/

namespace MailMerge

namespace Node.Reader

open Expr.Reader

-- ---------------------------------------------------------------------------
-- Targets
-- ---------------------------------------------------------------------------

/-- Names that no statement may bind. -/
def reservedNames : List String :=
  ["true", "True", "false", "False", "none", "None", "loop", "self"]

/-- A name that a statement binds. -/
def boundName (ts : List Token) : Except RenderError (String × List Token) :=
  match ts with
  | .ident name :: rest => if reservedNames.contains name then refuse ts else .ok (name, rest)
  | ts => refuse ts

/-- Whether no further target can follow. -/
def endsTargets (ts : List Token) : Bool :=
  match ts with
  | .op ")" :: _ => true
  | .blockEnd :: _ => true
  | .variableEnd :: _ => true
  | .ident "in" :: _ => true
  | _ => false

/-- Attributes behind the name of a namespace. -/
def attributeTarget (owner : Expr) (name : String) : List Token → Except RenderError (Target × List Token)
  | .op "." :: .ident next :: ts => attributeTarget (.attribute owner name) next ts
  | .op "." :: ts => refuse ts
  | ts => .ok (.attribute owner name, ts)

/-- A name, or one in a namespace where that is allowed. -/
def nameTarget (dotted : Bool) (ts : List Token) : Except RenderError (Target × List Token) := do
  let (name, ts) ← boundName ts
  match dotted, ts with
  | true, .op "." :: .ident next :: ts => attributeTarget (.var name) next ts
  | true, .op "." :: ts => refuse ts
  | _, ts => return (.name name, ts)

mutual

/-- One or more targets with commas between them. -/
def target : Nat → Bool → List Token → Except RenderError (Target × List Token)
  | 0, _, ts => refuse ts
  | fuel + 1, dotted, ts => do
    let (items, many, ts) ← targets fuel dotted ts
    match many, items with
    | false, [t] => return (t, ts)
    | _, items => return (.tuple items, ts)

/-- Targets, and whether there is a comma among them. -/
def targets : Nat → Bool → List Token → Except RenderError (List Target × Bool × List Token)
  | 0, _, ts => refuse ts
  | fuel + 1, dotted, ts =>
    if endsTargets ts then .ok ([], false, ts)
    else do
      let (t, ts) ← oneTarget fuel dotted ts
      match ts with
      | .op "," :: ts => do
        let (more, _, ts) ← targets fuel dotted ts
        return (t :: more, true, ts)
      | ts => return ([t], false, ts)

/-- A name, or targets in brackets. -/
def oneTarget : Nat → Bool → List Token → Except RenderError (Target × List Token)
  | 0, _, ts => refuse ts
  | fuel + 1, dotted, ts =>
    match ts with
    | .op "(" :: ts => do
      let (t, ts) ← target fuel dotted ts
      let ts ← expect (.op ")") ts
      return (t, ts)
    | ts => nameTarget dotted ts

end

/-- An expression in the place of a target. -/
def targetOf? : Expr → Option Target
  | .var name => some (.name name)
  | .attribute owner name => some (.attribute owner name)
  | _ => none

-- ---------------------------------------------------------------------------
-- Lists inside tags
-- ---------------------------------------------------------------------------

/-- Bindings with commas between them, up to the end of the tag. -/
def bindings : Nat → Nat → List Token → Except RenderError (List (Target × Expr) × List Token)
  | 0, _, ts => refuse ts
  | fuel + 1, depth, ts => do
    let (t, ts) ← oneTarget fuel false ts
    let ts ← expect (.op "=") ts
    let (e, ts) ← expr fuel depth ts
    match ts with
    | .op "," :: ts => do
      let (more, ts) ← bindings fuel depth ts
      return ((t, e) :: more, ts)
    | ts => return ([(t, e)], ts)

/-- Parameters up to the closing bracket, and the default values of the last ones. -/
def params : Nat → Nat → Bool → List Token → Except RenderError (List String × List Expr × List Token)
  | 0, _, _, ts => refuse ts
  | fuel + 1, depth, needsDefault, ts =>
    match ts with
    | .op ")" :: ts => .ok ([], [], ts)
    | ts => do
      let (name, ts) ← boundName ts
      let (value, ts) ← match ts with
        | .op "=" :: ts => do
          let (e, ts) ← expr fuel depth ts
          pure ([e], ts)
        | ts => if needsDefault then refuse ts else pure ([], ts)
      match ts with
      | .op "," :: ts => do
        let (names, values, ts) ← params fuel depth (needsDefault || !value.isEmpty) ts
        return (name :: names, value ++ values, ts)
      | ts => do
        let ts ← expect (.op ")") ts
        return ([name], value, ts)

/-- Names of another template, each under itself or under an alias. -/
def usedNames : Nat → List Token → Except RenderError (List String × List Token)
  | 0, ts => refuse ts
  | fuel + 1, ts =>
    match ts with
    | .blockEnd :: _ => .ok ([], ts)
    | ts => do
      let (name, ts) ← boundName ts
      let (name, ts) ← match ts with
        | .ident "as" :: ts => boundName ts
        | ts => pure (name, ts)
      match ts with
      | .op "," :: ts => do
        let (more, ts) ← usedNames fuel ts
        return (name :: more, ts)
      | ts => return ([name], ts)

/-- Words about the context another template gets, which change nothing. -/
def dropContext (ts : List Token) : Except RenderError (List Token) :=
  match ts with
  | .ident "with" :: ts => expect (.ident "context") ts
  | .ident "without" :: ts => expect (.ident "context") ts
  | ts => .ok ts

/-- The words of a block behind its name. -/
def blockWords (ts : List Token) : Bool × List Token :=
  match ts with
  | .ident "scoped" :: .ident "required" :: ts => (true, ts)
  | .ident "scoped" :: ts => (false, ts)
  | .ident "required" :: ts => (true, ts)
  | ts => (false, ts)

/-- The tokens behind one token, of any kind but a bad one. -/
def dropOne (ts : List Token) : Except RenderError (List Token) :=
  match ts with
  | .bad e :: _ => .error e
  | ts => .ok ts.tail

/-- The tokens behind the name at the end of a block, if it is repeated there. -/
def blockEnd (name : String) (ts : List Token) : Except RenderError (List Token) :=
  match ts with
  | .ident last :: rest => if last == name then .ok rest else refuse ts
  | ts => .ok ts

-- ---------------------------------------------------------------------------
-- Nodes
-- ---------------------------------------------------------------------------

/-- Where statements stand. -/
structure Site where
  depth : Nat := 0
  /-- Whether they are inside a routine, where there are no blocks. -/
  inRoutine : Bool := false

mutual

/-- Nodes up to a statement that starts with one of the given words, or to the end. The
tokens left start with that word. -/
def nodes : Nat → Site → List String → List Token → Except RenderError (List Node × List Token)
  | 0, _, _, ts => refuse ts
  | fuel + 1, site, stops, ts =>
    match ts with
    | [] => .ok ([], [])
    | .data s :: ts => do
      let (more, ts) ← nodes fuel site stops ts
      return (.text s :: more, ts)
    | .variableStart :: ts => do
      let (e, ts) ← expr fuel site.depth ts
      let ts ← expect .variableEnd ts
      let (more, ts) ← nodes fuel site stops ts
      return (.print e :: more, ts)
    | .blockStart :: ts =>
      match ts with
      | .ident word :: rest =>
        if stops.contains word then .ok ([], .ident word :: rest)
        else if maxDepth ≤ site.depth then .error .malformed
        else do
          let (n, ts) ← statement fuel { site with depth := site.depth + 1 } word rest
          let ts ← expect .blockEnd ts
          let (more, ts) ← nodes fuel site stops ts
          return (n :: more, ts)
      | ts => refuse ts
    | ts => refuse ts

/-- The body of a statement, from the end of a tag up to the tag of a word. -/
def body : Nat → Site → String → List Token → Except RenderError (List Node × List Token)
  | 0, _, _, ts => refuse ts
  | fuel + 1, site, word, ts => do
    let ts ← expect .blockEnd ts
    let (ns, ts) ← nodes fuel site [word] ts
    let ts ← dropOne ts
    return (ns, ts)

/-- A statement behind its first word, up to the end of its last tag. -/
def statement : Nat → Site → String → List Token → Except RenderError (Node × List Token)
  | 0, _, _, ts => refuse ts
  | fuel + 1, site, word, ts =>
    match word with
    | "if" => branch fuel site ts
    | "for" => loop fuel site ts
    | "set" => binding fuel site ts
    | "with" => do
      let (bs, ts) ← match ts with
        | .blockEnd :: _ => pure ([], ts)
        | ts => bindings fuel site.depth ts
      let (ns, ts) ← body fuel site "endwith" ts
      return (.scope bs ns, ts)
    | "filter" => do
      let (chain, ts) ← filterChain fuel site.depth ts
      let (ns, ts) ← body fuel site "endfilter" ts
      return (.filtered chain ns, ts)
    | "autoescape" => do
      let (mode, ts) ← expr fuel site.depth ts
      let (ns, ts) ← body fuel site "endautoescape" ts
      return (.escaping mode ns, ts)
    | "block" =>
      match site.inRoutine, ts with
      | false, .ident name :: ts => do
        let (required, ts) := blockWords ts
        let (ns, ts) ← body fuel site "endblock" ts
        let ts ← blockEnd name ts
        return (.block name required ns, ts)
      | _, ts => refuse ts
    | "macro" =>
      match ts with
      | .ident name :: ts => do
        let ts ← expect (.op "(") ts
        let (names, defaults, ts) ← params fuel site.depth false ts
        let (ns, ts) ← body fuel { site with inRoutine := true } "endmacro" ts
        return (.routine name names defaults ns, ts)
      | ts => refuse ts
    | "call" => do
      let (names, defaults, ts) ← match ts with
        | .op "(" :: ts => params fuel site.depth false ts
        | ts => pure ([], [], ts)
      let (e, ts) ← expr fuel site.depth ts
      if e.isCall then
        let (ns, ts) ← body fuel { site with inRoutine := true } "endcall" ts
        return (.callWith e names defaults ns, ts)
      else refuse ts
    | "do" => do
      let (e, ts) ← expr fuel site.depth ts
      if e.isCall then return (.discard e, ts) else refuse ts
    | "include" => do
      let (e, ts) ← expr fuel site.depth ts
      let ts ← dropContext ts
      match ts with
      | .ident "ignore" :: ts => do
        let ts ← expect (.ident "missing") ts
        let ts ← dropContext ts
        return (.insert e true, ts)
      | ts => return (.insert e false, ts)
    | "extends" => do
      let (e, ts) ← expr fuel site.depth ts
      return (.extend e, ts)
    | "import" => do
      let (e, ts) ← expr fuel site.depth ts
      let ts ← expect (.ident "as") ts
      let (t, ts) ← expr fuel site.depth ts
      let ts ← dropContext ts
      match targetOf? t with
      | some t => return (.use e t, ts)
      | none => refuse ts
    | "from" => do
      let (e, ts) ← expr fuel site.depth ts
      let ts ← expect (.ident "import") ts
      let (names, ts) ← usedNames fuel ts
      let ts ← dropContext ts
      return (.useNames e names, ts)
    | _ => refuse ts

/-- A condition with its branches, up to the word that ends it. -/
def branch : Nat → Site → List Token → Except RenderError (Node × List Token)
  | 0, _, ts => refuse ts
  | fuel + 1, site, ts => do
    let (test, ts) ← expr fuel site.depth ts
    let ts ← expect .blockEnd ts
    let (yes, ts) ← nodes fuel site ["endif", "else", "elif"] ts
    match ts with
    | .ident "else" :: ts => do
      let (no, ts) ← body fuel site "endif" ts
      return (.branch test yes no, ts)
    | .ident "elif" :: ts => do
      let (no, ts) ← branch fuel site ts
      return (.branch test yes [no], ts)
    | ts => do
      let ts ← dropOne ts
      return (.branch test yes [], ts)

/-- A loop behind its first word. -/
def loop : Nat → Site → List Token → Except RenderError (Node × List Token)
  | 0, _, ts => refuse ts
  | fuel + 1, site, ts => do
    let (t, ts) ← target fuel false ts
    let ts ← expect (.ident "in") ts
    let (source, ts) ← binary fuel site.depth .or ts
    let (only, ts) ← match ts with
      | .ident "if" :: ts => do
        let (e, ts) ← expr fuel site.depth ts
        pure (some e, ts)
      | ts => pure (none, ts)
    let (recursive, ts) := match ts with
      | .ident "recursive" :: ts => (true, ts)
      | ts => (false, ts)
    let ts ← expect .blockEnd ts
    let (ns, ts) ← nodes fuel site ["endfor", "else"] ts
    match ts with
    | .ident "else" :: ts => do
      let (otherwise, ts) ← body fuel site "endfor" ts
      return (.loop t source only recursive ns otherwise, ts)
    | ts => do
      let ts ← dropOne ts
      return (.loop t source only recursive ns [], ts)

/-- What a name is bound to: an expression, or the output of a body. -/
def binding : Nat → Site → List Token → Except RenderError (Node × List Token)
  | 0, _, ts => refuse ts
  | fuel + 1, site, ts => do
    let inBrackets := ts.head? == some (.op "(")
    let (t, ts) ← if endsTargets ts then refuse ts else target fuel true ts
    match inBrackets, ts with
    | false, .op "|" :: ts => do
      let (chain, ts) ← filterChain fuel site.depth ts
      let (ns, ts) ← body fuel site "endset" ts
      return (.capture t chain ns, ts)
    | false, .blockEnd :: _ => do
      let (ns, ts) ← body fuel site "endset" ts
      return (.capture t [] ns, ts)
    | _, ts => do
      let ts ← expect (.op "=") ts
      let (e, ts) ← exprOrList fuel site.depth ts
      return (.set t e, ts)

end

end Node.Reader

/-- The nodes of a template, or the error where it cannot be read. No two blocks have one
name. -/
def Node.read (ts : List Token) : Except RenderError (List Node) := do
  let (ns, _) ← Node.Reader.nodes (24 * (ts.length + 2)) { } [] ts
  if ((Node.blocksOf ns).map Block.name).Nodup then return ns else .error .malformed

end MailMerge
