import MailMerge.Formula.Basic

/-!
# Predicates

A predicate selects the rows of a table in the store's own query language. It is built
from tests on columns: the tests of one leaf are joined first, and joined leaves are
grouped and negated. A formula without leaves has no predicate, which selects all rows.
-/

namespace MailMerge

/-- The comparisons of the query language. -/
inductive Comparator where
  | eq
  | ne
  | lt
  | le
  | gt
  | ge
deriving DecidableEq, Inhabited, Repr

/-- A test of one column. -/
inductive Test where
  | compare (column : String) (o : Comparator) (v : Value)
  /-- Compares with the empty text. -/
  | compareEmpty (column : String) (o : Comparator)
  | like (column : String) (negated : Bool) (pattern : String)
  | null (column : String) (negated : Bool)
  | between (column : String) (negated : Bool) (low high : Value)
deriving DecidableEq, Inhabited

inductive Predicate where
  | test (t : Test)
  | join (kind : Conjunction) (tests : List Test)
  | group (kind : Conjunction) (members : List Predicate)
  | not (p : Predicate)
deriving Inhabited

-- ---------------------------------------------------------------------------
-- Parameters
-- ---------------------------------------------------------------------------

/-- The values a test compares with, in the order of their places. -/
def Test.values : Test → List Value
  | .compare _ _ v => [v]
  | .compareEmpty _ _ => []
  | .like _ _ pattern => [.text pattern]
  | .null _ _ => []
  | .between _ _ low high => [low, high]

namespace Predicate

mutual

/-- The values a predicate compares with, in the order of their places. -/
def values : Predicate → List Value
  | .test t => t.values
  | .join _ tests => tests.flatMap Test.values
  | .group _ members => valuesEach members
  | .not p => values p

def valuesEach : List Predicate → List Value
  | [] => []
  | p :: ps => values p ++ valuesEach ps

end

/-- Joins the predicates there are; none at all select every row. -/
def combine? (kind : Conjunction) (members : List (Option Predicate)) : Option Predicate :=
  match members.filterMap id with
  | [] => none
  | ps => some (.group kind ps)

end Predicate

end MailMerge
