import MailMerge.Template.Expr.Basic
import MailMerge.Template.Token

/-!
# Reading expressions

Expressions are read off a list of tokens. Operators bind by level, from `or` on the
weakest to the power on the strongest, and group to the left; comparisons make a chain.
Each call spends a unit of fuel; nesting is bounded apart from that, to 150 statements
and expressions inside each other.
-/

namespace MailMerge

namespace Expr.Reader

/-- The error where the tokens left do not fit. -/
def refuse {α : Type} (ts : List Token) : Except RenderError α :=
  match ts with
  | .bad e :: _ => .error e
  | _ => .error .malformed

/-- A given token, taken off. -/
def expect (t : Token) (ts : List Token) : Except RenderError (List Token) :=
  match ts with
  | u :: rest => if u == t then .ok rest else refuse ts
  | [] => refuse ts

/-- How deep statements and expressions nest. -/
def maxDepth : Nat := 150

-- ---------------------------------------------------------------------------
-- Operators
-- ---------------------------------------------------------------------------

/-- The levels at which operators bind. -/
inductive Level where
  | or
  | and
  | not
  | compare
  | sum
  | concat
  | product
  | power
deriving DecidableEq, Repr

/-- The next stronger level, `none` beyond the strongest. -/
def Level.next? : Level → Option Level
  | .or => some .and
  | .and => some .not
  | .not => some .compare
  | .compare => some .sum
  | .sum => some .concat
  | .concat => some .product
  | .product => some .power
  | .power => none

/-- The operator of a level at the head of the tokens. -/
def infix? (l : Level) (ts : List Token) : Option ((Expr → Expr → Expr) × List Token) :=
  match l, ts with
  | .or, .ident "or" :: ts => some (.or, ts)
  | .and, .ident "and" :: ts => some (.and, ts)
  | .sum, .op "+" :: ts => some (.binary .add, ts)
  | .sum, .op "-" :: ts => some (.binary .sub, ts)
  | .concat, .op "~" :: ts => some (.binary .concat, ts)
  | .product, .op "*" :: ts => some (.binary .mul, ts)
  | .product, .op "/" :: ts => some (.binary .div, ts)
  | .product, .op "//" :: ts => some (.binary .floorDiv, ts)
  | .product, .op "%" :: ts => some (.binary .rem, ts)
  | .power, .op "**" :: ts => some (.binary .pow, ts)
  | _, _ => none

/-- The sign of a comparison at the head of the tokens. -/
def comparison? (ts : List Token) : Option (CompareOp × List Token) :=
  match ts with
  | .op "==" :: ts => some (.eq, ts)
  | .op "!=" :: ts => some (.ne, ts)
  | .op "<" :: ts => some (.lt, ts)
  | .op "<=" :: ts => some (.le, ts)
  | .op ">" :: ts => some (.gt, ts)
  | .op ">=" :: ts => some (.ge, ts)
  | .ident "in" :: ts => some (.isIn, ts)
  | .ident "not" :: .ident "in" :: ts => some (.isNotIn, ts)
  | _ => none

/-- A comparison of an expression with others, if there are any. -/
def compareOf (e : Expr) (others : List (CompareOp × Expr)) : Expr :=
  if others.isEmpty then e else .compare e (others.map (·.1)) (others.map (·.2))

/-- Words that stand for a datum. -/
def constant? (word : String) : Option Datum :=
  match word with
  | "true" => some (.bool true)
  | "True" => some (.bool true)
  | "false" => some (.bool false)
  | "False" => some (.bool false)
  | "none" => some .none
  | "None" => some .none
  | _ => none

/-- Adjacent strings are one. -/
def joinStrings : List Token → String × List Token
  | .str s :: ts =>
    let (more, rest) := joinStrings ts
    (s ++ more, rest)
  | ts => ("", ts)

/-- Whether a token may start the one argument a test takes without brackets. -/
def startsArgument : Token → Bool
  | .ident s => !(["and", "or", "else", "is"].contains s)
  | .str _ => true
  | .int _ => true
  | .double _ => true
  | .op o => ["+", "-", "[", "\x7b"].contains o
  | _ => false

-- ---------------------------------------------------------------------------
-- Expressions
-- ---------------------------------------------------------------------------

mutual

/-- An expression. -/
def expr : Nat → Nat → List Token → Except RenderError (Expr × List Token)
  | 0, _, ts => refuse ts
  | fuel + 1, depth, ts =>
    if maxDepth ≤ depth then .error .malformed
    else do
      let (e, ts) ← binary fuel (depth + 1) .or ts
      choice fuel (depth + 1) e ts

/-- The choice between an expression and another, if one follows. -/
def choice : Nat → Nat → Expr → List Token → Except RenderError (Expr × List Token)
  | 0, _, _, ts => refuse ts
  | fuel + 1, depth, e, ts =>
    match ts with
    | .ident "if" :: ts => do
      let (condition, ts) ← binary fuel depth .or ts
      match ts with
      | .ident "else" :: ts => do
        let (first, ts) ← binary fuel depth .or ts
        let (no, ts) ← choice fuel depth first ts
        choice fuel depth (.cond condition e no) ts
      | ts => choice fuel depth (.cond condition e (.const (.missing true))) ts
    | ts => .ok (e, ts)

/-- An expression without choices, of a level or stronger. -/
def binary : Nat → Nat → Level → List Token → Except RenderError (Expr × List Token)
  | 0, _, _, ts => refuse ts
  | fuel + 1, depth, l, ts =>
    match l, ts with
    | .not, .ident "not" :: ts => do
      let (e, ts) ← binary fuel depth .not ts
      return (.not e, ts)
    | l, ts => do
      let (e, ts) ← operand fuel depth l ts
      if l == .not then return (e, ts)
      else if l == .compare then do
        let (others, ts) ← comparisons fuel depth ts
        return (compareOf e others, ts)
      else binaryRest fuel depth l e ts

/-- Comparisons behind an expression, with what it is compared with. -/
def comparisons : Nat → Nat → List Token → Except RenderError (List (CompareOp × Expr) × List Token)
  | 0, _, ts => refuse ts
  | fuel + 1, depth, ts =>
    match comparison? ts with
    | some (sign, ts) => do
      let (e, ts) ← operand fuel depth .compare ts
      let (more, ts) ← comparisons fuel depth ts
      return ((sign, e) :: more, ts)
    | none =>
      match ts with
      | .ident "not" :: ts => refuse ts
      | ts => .ok ([], ts)

/-- An expression that binds more strongly than a level. -/
def operand : Nat → Nat → Level → List Token → Except RenderError (Expr × List Token)
  | 0, _, _, ts => refuse ts
  | fuel + 1, depth, l, ts =>
    match l.next? with
    | some next => binary fuel depth next ts
    | none => unary fuel depth ts

/-- Further operators of a level and their right sides. -/
def binaryRest : Nat → Nat → Level → Expr → List Token → Except RenderError (Expr × List Token)
  | 0, _, _, _, ts => refuse ts
  | fuel + 1, depth, l, left, ts =>
    match infix? l ts with
    | some (f, ts) => do
      let (right, ts) ← operand fuel depth l ts
      binaryRest fuel depth l (f left right) ts
    | none => .ok (left, ts)

/-- An operand with its parts, filters and tests. -/
def unary : Nat → Nat → List Token → Except RenderError (Expr × List Token)
  | 0, _, ts => refuse ts
  | fuel + 1, depth, ts => do
    let (e, ts) ← negation fuel depth ts
    let (e, ts) ← parts fuel depth e ts
    filters fuel depth e ts

/-- An operand with the minus signs before it. -/
def negation : Nat → Nat → List Token → Except RenderError (Expr × List Token)
  | 0, _, ts => refuse ts
  | fuel + 1, depth, ts =>
    match ts with
    | .op "-" :: ts => do
      let (e, ts) ← negation fuel depth ts
      return (.neg e, ts)
    | ts => primary fuel depth ts

/-- Attributes, items, slices and calls behind an operand. -/
def parts : Nat → Nat → Expr → List Token → Except RenderError (Expr × List Token)
  | 0, _, _, ts => refuse ts
  | fuel + 1, depth, e, ts =>
    match ts with
    | .op "." :: .ident name :: ts => parts fuel depth (.attribute e name) ts
    | .op "." :: .int n :: ts => parts fuel depth (.item e (.const (.int n))) ts
    | .op "." :: ts => refuse ts
    | .op "(" :: ts => do
      let (args, ts) ← arguments fuel depth true ts
      parts fuel depth (callOf e args) ts
    | .op "[" :: .op ":" :: ts => sliceFrom fuel depth e (.const .none) ts
    | .op "[" :: ts => do
      let (key, ts) ← expr fuel depth ts
      match ts with
      | .op ":" :: ts => sliceFrom fuel depth e key ts
      | ts => do
        let ts ← expect (.op "]") ts
        parts fuel depth (.item e key) ts
    | ts => .ok (e, ts)

/-- The end of a slice behind its first colon. -/
def sliceFrom : Nat → Nat → Expr → Expr → List Token → Except RenderError (Expr × List Token)
  | 0, _, _, _, ts => refuse ts
  | fuel + 1, depth, e, start, ts => do
    let (stop, ts) ← bound fuel depth ts
    match ts with
    | .op ":" :: ts => do
      let (step, ts) ← bound fuel depth ts
      let ts ← expect (.op "]") ts
      parts fuel depth (.slice e start stop step) ts
    | ts => do
      let ts ← expect (.op "]") ts
      parts fuel depth (.slice e start stop (.const .none)) ts

/-- A bound of a slice, which may be left out. -/
def bound : Nat → Nat → List Token → Except RenderError (Expr × List Token)
  | 0, _, ts => refuse ts
  | fuel + 1, depth, ts =>
    match ts with
    | .op ":" :: _ => .ok (.const .none, ts)
    | .op "]" :: _ => .ok (.const .none, ts)
    | ts => expr fuel depth ts

/-- Filters and tests behind an operand. -/
def filters : Nat → Nat → Expr → List Token → Except RenderError (Expr × List Token)
  | 0, _, _, ts => refuse ts
  | fuel + 1, depth, e, ts =>
    match ts with
    | .op "|" :: .ident name :: .op "(" :: ts => do
      let (args, ts) ← arguments fuel depth true ts
      filters fuel depth (.filter e name args) ts
    | .op "|" :: .ident name :: ts => filters fuel depth (.filter e name []) ts
    | .op "|" :: ts => refuse ts
    | .ident "is" :: .ident "not" :: .ident name :: ts => do
      let (args, ts) ← testArguments fuel depth ts
      filters fuel depth (.not (.test e name args)) ts
    | .ident "is" :: .ident name :: ts =>
      if name == "not" then refuse ts
      else do
        let (args, ts) ← testArguments fuel depth ts
        filters fuel depth (.test e name args) ts
    | .ident "is" :: ts => refuse ts
    | ts => .ok (e, ts)

/-- The arguments of a test: in brackets, one without brackets, or none. -/
def testArguments : Nat → Nat → List Token → Except RenderError (List Expr × List Token)
  | 0, _, ts => refuse ts
  | fuel + 1, depth, ts =>
    match ts with
    | .op "(" :: ts => arguments fuel depth true ts
    | t :: rest =>
      if startsArgument t then do
        let (e, ts) ← negation fuel depth (t :: rest)
        let (e, ts) ← parts fuel depth e ts
        return ([e], ts)
      else .ok ([], t :: rest)
    | [] => .ok ([], [])

/-- Arguments up to the closing bracket. Named ones come last. -/
def arguments : Nat → Nat → Bool → List Token → Except RenderError (List Expr × List Token)
  | 0, _, _, ts => refuse ts
  | fuel + 1, depth, positional, ts =>
    match ts with
    | .op ")" :: ts => .ok ([], ts)
    | ts => do
      let (arg, ts) ← argument fuel depth positional ts
      let positional := positional && !arg.isNamed
      match ts with
      | .op "," :: ts => do
        let (more, ts) ← arguments fuel depth positional ts
        return (arg :: more, ts)
      | ts => do
        let ts ← expect (.op ")") ts
        return ([arg], ts)

/-- One argument: by place, by name, or several at once. -/
def argument : Nat → Nat → Bool → List Token → Except RenderError (Expr × List Token)
  | 0, _, _, ts => refuse ts
  | fuel + 1, depth, positional, ts =>
    match ts with
    | .op "**" :: ts => do
      let (e, ts) ← expr fuel depth ts
      return (.spreadNamed e, ts)
    | .op "*" :: ts => do
      let (e, ts) ← expr fuel depth ts
      return (.spread e, ts)
    | ts => do
      let (e, ts) ← expr fuel depth ts
      match e, ts with
      | .var name, .op "=" :: ts => do
        let (e, ts) ← binary fuel depth .or ts
        return (.named name e, ts)
      | e, ts => if positional then return (e, ts) else refuse ts

/-- An operand on its own. -/
def primary : Nat → Nat → List Token → Except RenderError (Expr × List Token)
  | 0, _, ts => refuse ts
  | fuel + 1, depth, ts =>
    if maxDepth ≤ depth then .error .malformed
    else
      let depth := depth + 1
      match ts with
      | .ident name :: ts =>
        match constant? name with
        | some d => .ok (.const d, ts)
        | none => .ok (.var name, ts)
      | .str s :: ts =>
        let (more, ts) := joinStrings ts
        .ok (.const (Datum.ofText (s ++ more)), ts)
      | .int n :: ts => .ok (.const (.int n), ts)
      | .double d :: ts => .ok (.const (.double d), ts)
      | .op "(" :: .op ")" :: ts => .ok (.list [], ts)
      | .op "(" :: ts => do
        let (e, ts) ← expr fuel depth ts
        match ts with
        | .op "," :: ts => do
          let (more, ts) ← items fuel depth ")" ts
          return (.list (e :: more), ts)
        | ts => do
          let ts ← expect (.op ")") ts
          return (e, ts)
      | .op "[" :: ts => do
        let (es, ts) ← items fuel depth "]" ts
        return (.list es, ts)
      | .op "\x7b" :: ts => do
        let (es, ts) ← entries fuel depth ts
        return (.record (es.map (·.1)) (es.map (·.2)), ts)
      | ts => refuse ts

/-- Expressions up to a closing bracket; a comma may stand before it. -/
def items : Nat → Nat → String → List Token → Except RenderError (List Expr × List Token)
  | 0, _, _, ts => refuse ts
  | fuel + 1, depth, close, ts =>
    if ts.head? == some (.op close) then .ok ([], ts.tail)
    else do
      let (e, ts) ← expr fuel depth ts
      match ts with
      | .op "," :: ts => do
        let (more, ts) ← items fuel depth close ts
        return (e :: more, ts)
      | ts => do
        let ts ← expect (.op close) ts
        return ([e], ts)

/-- Keys and values up to the closing brace. -/
def entries : Nat → Nat → List Token → Except RenderError (List (Expr × Expr) × List Token)
  | 0, _, ts => refuse ts
  | fuel + 1, depth, ts =>
    match ts with
    | .op "\x7d" :: ts => .ok ([], ts)
    | ts => do
      let (key, ts) ← expr fuel depth ts
      let ts ← expect (.op ":") ts
      let (value, ts) ← expr fuel depth ts
      match ts with
      | .op "," :: ts => do
        let (more, ts) ← entries fuel depth ts
        return ((key, value) :: more, ts)
      | ts => do
        let ts ← expect (.op "\x7d") ts
        return ([(key, value)], ts)

end

/-- An expression, or several with commas between them as a list. -/
def exprOrList (fuel depth : Nat) (ts : List Token) : Except RenderError (Expr × List Token) := do
  let (e, ts) ← expr fuel depth ts
  match ts with
  | .op "," :: ts => do
    let (more, ts) ← listRest fuel depth ts
    return (.list (e :: more), ts)
  | ts => return (e, ts)
where
  /-- Expressions up to the end of a statement. -/
  listRest : Nat → Nat → List Token → Except RenderError (List Expr × List Token)
    | 0, _, ts => refuse ts
    | fuel + 1, depth, ts =>
      match ts with
      | .blockEnd :: _ => .ok ([], ts)
      | ts => do
        let (e, ts) ← expr fuel depth ts
        match ts with
        | .op "," :: ts => do
          let (more, ts) ← listRest fuel depth ts
          return (e :: more, ts)
        | ts => return ([e], ts)

/-- Filters with bars between them. -/
def filterChain : Nat → Nat → List Token → Except RenderError (List FilterCall × List Token)
  | 0, _, ts => refuse ts
  | fuel + 1, depth, ts =>
    match ts with
    | .ident name :: ts => do
      let (args, ts) ← match ts with
        | .op "(" :: ts => arguments fuel depth true ts
        | ts => .ok ([], ts)
      match ts with
      | .op "|" :: ts => do
        let (more, ts) ← filterChain fuel depth ts
        return ((name, args) :: more, ts)
      | ts => return ([(name, args)], ts)
    | ts => refuse ts

end Expr.Reader

end MailMerge
