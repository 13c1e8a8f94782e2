import MailMerge.Value.DataType

/-!
# Operators

The eighteen comparisons a rule can make, each with its name, the number of constants
it takes and the types it accepts.
-/

namespace MailMerge

inductive Operator where
  | equal
  | notEqual
  | beginsWith
  | notBeginsWith
  | contains
  | notContains
  | endsWith
  | notEndsWith
  | isEmpty
  | isNotEmpty
  | isNull
  | isNotNull
  | less
  | lessOrEqual
  | greater
  | greaterOrEqual
  | between
  | notBetween
deriving DecidableEq, Inhabited, Repr

namespace Operator

/-- All operators, in the order they are listed. -/
def all : List Operator :=
  [.equal, .notEqual, .beginsWith, .notBeginsWith, .contains, .notContains, .endsWith,
   .notEndsWith, .isEmpty, .isNotEmpty, .isNull, .isNotNull, .less, .lessOrEqual, .greater,
   .greaterOrEqual, .between, .notBetween]

def name : Operator → String
  | .equal => "equal"
  | .notEqual => "not_equal"
  | .beginsWith => "begins_with"
  | .notBeginsWith => "not_begins_with"
  | .contains => "contains"
  | .notContains => "not_contains"
  | .endsWith => "ends_with"
  | .notEndsWith => "not_ends_with"
  | .isEmpty => "is_empty"
  | .isNotEmpty => "is_not_empty"
  | .isNull => "is_null"
  | .isNotNull => "is_not_null"
  | .less => "less"
  | .lessOrEqual => "less_or_equal"
  | .greater => "greater"
  | .greaterOrEqual => "greater_or_equal"
  | .between => "between"
  | .notBetween => "not_between"

/-- The operator of a given name. -/
def ofName? (s : String) : Option Operator := all.find? fun o => o.name == s

/-- How many constants an operator takes. -/
def arity : Operator → Nat
  | .isEmpty | .isNotEmpty | .isNull | .isNotNull => 0
  | .between | .notBetween => 2
  | _ => 1

/-- Operators that look for a text inside a text. -/
def isPattern : Operator → Bool
  | .beginsWith | .notBeginsWith | .contains | .notContains | .endsWith | .notEndsWith => true
  | _ => false

/-- Operators that ask for the order of two values. -/
def isOrdering : Operator → Bool
  | .less | .lessOrEqual | .greater | .greaterOrEqual | .between | .notBetween => true
  | _ => false

/-- Whether a rule of the given type may use the operator. -/
def accepts (o : Operator) (t : DataType) : Bool :=
  if o.isOrdering then t.isOrdered else if o.isPattern then t == .string else true

theorem ofName?_name (o : Operator) : ofName? o.name = some o := by
  cases o <;> decide

theorem mem_all (o : Operator) : o ∈ all := by
  cases o <;> decide

end Operator

end MailMerge
