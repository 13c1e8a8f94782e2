import MailMerge.Template.Filter.Basic
import MailMerge.Template.State

/-!
# Evaluating expressions

An expression evaluates to a datum. Most only look at the state; calls of routines and of
blocks, and a loop that is run again, run parts of the template and are answered from
outside. Where missing data are errors an operator refuses them, though a list does not.
-/

namespace MailMerge

/-- What an expression asks of the template around it. -/
inductive Request where
  /-- The output of a routine. -/
  | routine (id : Nat) (args : ArgumentList)
  /-- The output of a block. -/
  | block (name : String)
  /-- The output of the innermost loop, run over something else. -/
  | again (source : Datum)
deriving Inhabited

/-- What answers the requests of an expression. -/
abbrev Answer := Request → Rendering Datum

-- ---------------------------------------------------------------------------
-- Operators
-- ---------------------------------------------------------------------------

/-- The datum of a binary operation. -/
def BinaryOp.apply (o : BinaryOp) (mode : Mode) (a b : Datum) : Except RenderError Datum :=
  match o with
  | .add => a.add b
  | .sub => a.sub b
  | .mul => a.mul b
  | .div => a.div b
  | .floorDiv => a.floorDiv b
  | .rem => a.rem b
  | .pow => a.pow b
  | .concat => do
    a.present mode
    b.present mode
    return a.concat b

/-- Whether a comparison of two data holds. -/
def CompareOp.holds (c : CompareOp) (mode : Mode) (a b : Datum) : Except RenderError Bool := do
  a.present mode
  b.present mode
  match c with
  | .eq => return a.alike b
  | .ne => return !a.alike b
  | .lt => return (a.order b).isLT
  | .le => return (a.order b).isLE
  | .gt => return (a.order b).isGT
  | .ge => return (a.order b).isGE
  | .isIn => b.contains a
  | .isNotIn => return !(← b.contains a)

-- ---------------------------------------------------------------------------
-- Arguments
-- ---------------------------------------------------------------------------

/-- An evaluated argument: one or several, by place or by name. -/
inductive Given where
  | places (ds : List Datum)
  | names (ks : ArgumentList.Keywords)

namespace Given

def places? : Given → List Datum
  | .places ds => ds
  | .names _ => []

def keywords? : Given → Option ArgumentList.Keywords
  | .places _ => none
  | .names ks => some ks

/-- The arguments of a call: those given by place, then those given by name as one. -/
def collect (gs : List Given) : ArgumentList :=
  let places := gs.flatMap places?
  match gs.filterMap keywords? with
  | [] => places
  | ks => places ++ [.record .keywords (ks.foldl Datum.mergeEntries [])]

end Given

-- ---------------------------------------------------------------------------
-- Calls
-- ---------------------------------------------------------------------------

namespace LoopState

/-- The argument whose turn it is at the item of a loop. -/
def cycle (l : LoopState) (args : ArgumentList) : Except RenderError Datum :=
  orFail args[l.place % args.length]?

/-- Whether arguments differ from the last ones. -/
def hasChanged (l : LoopState) (args : ArgumentList) : Bool :=
  match l.seen with
  | none => true
  | some seen => !(Datum.alikeItems seen args)

end LoopState

namespace Rendering

/-- The result of calling a datum: a function or a routine. -/
def call (answer : Answer) (d : Datum) (args : ArgumentList) : Rendering Datum :=
  match d with
  | .function "namespace" => do newSpace (← Function.namespaceEntries args)
  | .function name => do Function.apply name args
  | .record (.routine id) _ => answer (.routine id args)
  | _ => fail

/-- The result of calling a name. That of the loop runs the loop again. -/
def callName (s : Surroundings) (answer : Answer) (name : String) (args : ArgumentList) :
    Rendering Datum := do
  match name, args with
  | "super", _ => fail
  | "loop", [source] => answer (.again source)
  | "loop", _ => fail
  | name, args => call answer (← orFail ((← get).lookup? s name)) args

/-- The result of a method of a loop. -/
def callLoop (id : Nat) (name : String) (args : ArgumentList) : Rendering Datum := do
  let st ← get
  let l ← orFail st.loops[id]?
  match name with
  | "cycle" => l.cycle args
  | "changed" =>
    set { st with loops := st.loops.modify id fun l => { l with seen := some args } }
    return .bool (l.hasChanged args)
  | _ => fail

/-- The result of a method: that of a loop, or what a record has under its name. -/
def callMethod (answer : Answer) (d : Datum) (name : String) (args : ArgumentList) :
    Rendering Datum := do
  match d with
  | .record (.loop id) _ => callLoop id name args
  | d => call answer (← orFail (d.attribute? name)) args

end Rendering

-- ---------------------------------------------------------------------------
-- Expressions
-- ---------------------------------------------------------------------------

namespace Expr

/-- The result of a test. A container that is made on the spot is the same as no other. -/
def evalTest (fresh : Bool) (mode : Mode) (name : String) (args : ArgumentList) :
    Except RenderError Datum := do
  let holds ← Filter.test mode name args
  let isContainer := args.any fun d => d.members?.isSome
  return .bool (holds && !(name == "sameas" && fresh && isContainer))

mutual

/-- The datum of an expression. -/
def eval (s : Surroundings) (answer : Answer) : Expr → Rendering Datum
  | .const d => return d
  | .var name => return ((← get).lookup? s name).getD (.missing false)
  | .not e => do
    let d ← eval s answer e
    return .bool !(← d.truth (← Rendering.mode s))
  | .neg e => do (← eval s answer e).negate
  | .binary o a b => do
    let x ← eval s answer a
    let y ← eval s answer b
    o.apply (← Rendering.mode s) x y
  | .compare first signs others => do
    let d ← eval s answer first
    return .bool (← evalChain s answer d signs others)
  | .and a b => do
    let d ← eval s answer a
    if ← d.truth (← Rendering.mode s) then eval s answer b else return d
  | .or a b => do
    let d ← eval s answer a
    if ← d.truth (← Rendering.mode s) then return d else eval s answer b
  | .cond c yes no => do
    let d ← eval s answer c
    if ← d.truth (← Rendering.mode s) then eval s answer yes else eval s answer no
  | .attribute e name => do
    let d ← eval s answer e
    d.partOf (d.attribute? name)
  | .item e key => do
    let d ← eval s answer e
    d.partOf (d.item? (← eval s answer key))
  | .slice e start stop step => do
    let d ← eval s answer e
    let start ← eval s answer start
    let stop ← eval s answer stop
    let step ← eval s answer step
    d.present (← Rendering.mode s)
    d.slice start stop step
  | .filter e name args => do
    let d ← eval s answer e
    let args := Given.collect (← evalArguments s answer args)
    Filter.apply (← Rendering.mode s) name (d :: args)
  | .test e name args => do
    let d ← eval s answer e
    let given := Given.collect (← evalArguments s answer args)
    let fresh := !(e.isLookup && args.all isLookup)
    evalTest fresh (← Rendering.mode s) name (d :: given)
  | .callName name args => do
    Rendering.callName s answer name (Given.collect (← evalArguments s answer args))
  | .callBlock name => answer (.block name)
  | .method e name args => do
    let d ← eval s answer e
    Rendering.callMethod answer d name (Given.collect (← evalArguments s answer args))
  | .call e args => do
    let d ← eval s answer e
    Rendering.call answer d (Given.collect (← evalArguments s answer args))
  | .named _ e => eval s answer e
  | .spread e => eval s answer e
  | .spreadNamed e => eval s answer e
  | .list es => return Datum.ofList (← evalEach s answer es)
  | .record keys values => do
    let ks ← evalEach s answer keys
    let vs ← evalEach s answer values
    return .record .stored (Datum.sortEntries (ks.zip vs))

/-- The data of several expressions. -/
def evalEach (s : Surroundings) (answer : Answer) : List Expr → Rendering (List Datum)
  | [] => return []
  | e :: es => do
    let d ← eval s answer e
    return d :: (← evalEach s answer es)

/-- Whether each comparison of neighbours holds. None behind one that fails is made. -/
def evalChain (s : Surroundings) (answer : Answer) (left : Datum) :
    List CompareOp → List Expr → Rendering Bool
  | sign :: signs, e :: es => do
    let right ← eval s answer e
    if ← sign.holds (← Rendering.mode s) left right then evalChain s answer right signs es
    else return false
  | _, _ => return true

/-- The arguments that expressions stand for. -/
def evalArguments (s : Surroundings) (answer : Answer) : List Expr → Rendering (List Given)
  | [] => return []
  | .named name e :: es => do
    let d ← eval s answer e
    return .names [(Datum.ofText name, d)] :: (← evalArguments s answer es)
  | .spread e :: es => do
    let ds ← orFail (← eval s answer e).items?
    return .places ds :: (← evalArguments s answer es)
  | .spreadNamed e :: es => do
    let ks ← orFail (← eval s answer e).entries?
    return .names ks :: (← evalArguments s answer es)
  | e :: es => do
    let d ← eval s answer e
    return .places [d] :: (← evalArguments s answer es)

end

/-- The result of a call that is given one more argument by name. -/
def evalCall (s : Surroundings) (answer : Answer) (extra : Rendering Given) (e : Expr) :
    Rendering Datum := do
  match e with
  | .callName name args =>
    let given ← evalArguments s answer args
    Rendering.callName s answer name (Given.collect (given ++ [← extra]))
  | .method e name args =>
    let d ← eval s answer e
    let given ← evalArguments s answer args
    Rendering.callMethod answer d name (Given.collect (given ++ [← extra]))
  | .call e args =>
    let d ← eval s answer e
    let given ← evalArguments s answer args
    Rendering.call answer d (Given.collect (given ++ [← extra]))
  | e => eval s answer e

end Expr

end MailMerge
