import MailMerge.Template.Node.Basic

/-!
# Names a routine takes from outside

A routine keeps what the names in its body are bound to where it is declared. Names that
a statement of the body binds, and its parameters, are its own from there on.
-/

namespace MailMerge

namespace Expr

mutual

/-- The names an expression refers to. -/
def names : Expr → List String
  | .const _ => []
  | .var name => [name]
  | .not e => names e
  | .neg e => names e
  | .binary _ a b => names a ++ names b
  | .compare first _ others => names first ++ namesOf others
  | .and a b => names a ++ names b
  | .or a b => names a ++ names b
  | .cond c yes no => names c ++ names yes ++ names no
  | .attribute e _ => names e
  | .item e key => names e ++ names key
  | .slice e start stop step => names e ++ names start ++ names stop ++ names step
  | .filter e _ args => names e ++ namesOf args
  | .test e _ args => names e ++ namesOf args
  | .callName name args => name :: namesOf args
  | .callBlock _ => ["self"]
  | .method e _ args => names e ++ namesOf args
  | .call e args => names e ++ namesOf args
  | .named _ e => names e
  | .spread e => names e
  | .spreadNamed e => names e
  | .list items => namesOf items
  | .record keys values => namesOf keys ++ namesOf values

def namesOf : List Expr → List String
  | [] => []
  | e :: es => names e ++ namesOf es

end

end Expr

namespace Target

mutual

/-- The names a target binds. -/
def names : Target → List String
  | .name s => [s]
  | .attribute _ _ => []
  | .tuple ts => namesOf ts

def namesOf : List Target → List String
  | [] => []
  | t :: ts => names t ++ namesOf ts

end

end Target

/-- Names met so far: those taken from outside, and those bound in the scopes around,
innermost first. -/
structure NamesMet where
  outside : List String
  bound : List (List String)

namespace NamesMet

def push (m : NamesMet) : NamesMet := { m with bound := [] :: m.bound }

def pop (m : NamesMet) : NamesMet := { m with bound := m.bound.tail }

/-- Binds names in the innermost scope. -/
def bind (names : List String) (m : NamesMet) : NamesMet :=
  match m.bound with
  | [] => { m with bound := [names] }
  | scope :: scopes => { m with bound := (names ++ scope) :: scopes }

/-- Refers to a name. -/
def useName (m : NamesMet) (name : String) : NamesMet :=
  if m.bound.any (·.contains name) || m.outside.contains name then m
  else { m with outside := m.outside ++ [name] }

/-- Refers to the names of an expression. -/
def use (e : Expr) (m : NamesMet) : NamesMet := e.names.foldl useName m

/-- Refers to the names of some expressions. -/
def useAll (es : List Expr) (m : NamesMet) : NamesMet := es.foldl (fun m e => m.use e) m

end NamesMet

namespace Node

mutual

/-- The names met after a node. A target is bound before its expression is looked at. -/
def meet : Node → NamesMet → NamesMet
  | .text _, m => m
  | .print e, m => m.use e
  | .branch test yes no, m =>
    (meetAll no (meetAll yes (m.use test).push).pop.push).pop
  | .loop target source only _ body otherwise, m =>
    let inside := ((m.push.bind ["loop"]).use source).bind target.names
    (meetAll otherwise (meetAll body (inside.useAll only.toList)).pop.push).pop
  | .set target e, m => (m.bind target.names).use e
  | .capture target _ body, m => (meetAll body (m.bind target.names).push).pop
  | .scope bindings body, m =>
    let inside := bindings.foldl (fun m b => (m.bind b.1.names).use b.2) m.push
    (meetAll body inside).pop
  | .filtered _ body, m => (meetAll body m.push).pop
  | .escaping _ body, m => (meetAll body m.push).pop
  | .block _ _ body, m => (meetAll body (m.push.bind ["super"])).pop
  | .routine name params defaults body, m =>
    meetAll body ((m.bind ("caller" :: params ++ [name])).useAll defaults)
  | .callWith call params defaults body, m =>
    meetAll body (((m.use call).bind ("caller" :: params)).useAll defaults)
  | .discard e, m => m.use e
  | .insert _ _, m => m
  | .extend _, m => m
  | .use _ target, m => m.bind target.names
  | .useNames _ names, m => m.bind names

def meetAll : List Node → NamesMet → NamesMet
  | [], m => m
  | n :: ns, m => meetAll ns (meet n m)

end

end Node

namespace Routine

/-- The names a routine takes from outside. -/
def outside (r : Routine) : List String :=
  (Node.meetAll r.body (NamesMet.useAll r.defaults ⟨[], [r.params]⟩)).outside

/-- Whether the body calls what it was called with. -/
def usesCaller (r : Routine) : Bool := r.outside.contains "caller"

/-- The names a routine keeps. -/
def kept (r : Routine) : List String := r.outside.filter fun name => name != "caller"

end Routine

end MailMerge
