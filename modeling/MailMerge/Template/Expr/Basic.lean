import MailMerge.Template.Datum.Basic

/-!
# Expressions of a template

An argument that is given by name, or that stands for several, is an expression of its
own kind among the others. A call of a name is not one of the datum the name is bound to:
some names can be called only.
-/

namespace MailMerge

/-- Operators that make a datum of two. -/
inductive BinaryOp where
  | add
  | sub
  | mul
  | div
  | floorDiv
  | rem
  | pow
  | concat
deriving DecidableEq, Repr

/-- What is asked of two data that stand next to each other in a comparison. -/
inductive CompareOp where
  | eq
  | ne
  | lt
  | le
  | gt
  | ge
  | isIn
  | isNotIn
deriving DecidableEq, Repr

inductive Expr where
  | const (d : Datum)
  | var (name : String)
  | not (e : Expr)
  | neg (e : Expr)
  | binary (o : BinaryOp) (a b : Expr)
  /-- Holds if each comparison of neighbours does. -/
  | compare (first : Expr) (signs : List CompareOp) (others : List Expr)
  | and (a b : Expr)
  | or (a b : Expr)
  | cond (test yes no : Expr)
  | attribute (e : Expr) (name : String)
  | item (e key : Expr)
  | slice (e start stop step : Expr)
  | filter (e : Expr) (name : String) (args : List Expr)
  | test (e : Expr) (name : String) (args : List Expr)
  | callName (name : String) (args : List Expr)
  /-- The output of a block of the template. -/
  | callBlock (name : String)
  | method (e : Expr) (name : String) (args : List Expr)
  | call (e : Expr) (args : List Expr)
  /-- An argument given by name. -/
  | named (name : String) (e : Expr)
  /-- Every item of a list, as arguments. -/
  | spread (e : Expr)
  /-- Every entry of a mapping, as arguments given by name. -/
  | spreadNamed (e : Expr)
  | list (items : List Expr)
  | record (keys values : List Expr)
deriving Inhabited

namespace Expr

/-- Whether an expression is a call. -/
def isCall : Expr → Bool
  | .callName _ _ => true
  | .callBlock _ => true
  | .method _ _ _ => true
  | .call _ _ => true
  | _ => false

/-- Whether an argument is given by name. -/
def isNamed : Expr → Bool
  | .named _ _ => true
  | .spreadNamed _ => true
  | _ => false

/-- Whether an expression only looks something up. -/
def isLookup : Expr → Bool
  | .var _ => true
  | .attribute _ _ => true
  | .item _ _ => true
  | _ => false

/-- The call of what an expression stands for. -/
def callOf (e : Expr) (args : List Expr) : Expr :=
  match e with
  | .var name => .callName name args
  | .attribute (.var owner) name =>
    if owner == "self" && args.isEmpty then .callBlock name else .method (.var owner) name args
  | .attribute e name => .method e name args
  | e => .call e args

end Expr

/-- A filter to apply, with its arguments. -/
abbrev FilterCall := String × List Expr

end MailMerge
