import MailMerge.Formula.Basic

/-!
# Formulas in words

The description of a formula joins one phrase for each leaf. A group of one member is
described by that member, and a group without members by nothing.
-/

namespace MailMerge

namespace Comparison

/-- A constant as it is shown: as the declared type where it can be read so. -/
def displayConstant (c : Comparison) (v : Value) : String :=
  ((c.dataType.coerce? v).getD v).display

/-- What stands between the variable and a single constant. -/
def verb : Operator → String
  | .equal => " equal to "
  | .notEqual => " not equal to "
  | .beginsWith => " starts with "
  | .notBeginsWith => " does not start with "
  | .contains => " contains "
  | .notContains => " does not contain "
  | .endsWith => " ends with "
  | .notEndsWith => " does not end with "
  | .isEmpty => " is empty"
  | .isNotEmpty => " is not empty"
  | .isNull => " is null"
  | .isNotNull => " is not null"
  | .less => " is less than "
  | .lessOrEqual => " is less than or equal to "
  | .greater => " is greater than "
  | .greaterOrEqual => " is greater than or equal to "
  | .between => " is between "
  | .notBetween => " is not between "

/-- The phrase for a leaf. A missing constant leaves a gap; a range needs its bounds. -/
def describe (c : Comparison) : Except FormulaError String :=
  match c.operator.arity, c.operand with
  | 0, _ => .ok (c.field ++ verb c.operator)
  | 1, .single v => .ok (c.field ++ verb c.operator ++ c.displayConstant v)
  | 1, _ => .ok (c.field ++ verb c.operator)
  | _, .range low high =>
    .ok (c.field ++ verb c.operator ++ c.displayConstant low ++ " and " ++ c.displayConstant high)
  | _, _ => .error (.arity c.field c.operator)

end Comparison

namespace Formula

/-- The description of a group from those of its members. -/
def joinPhrases (kind : Conjunction) (negated : Bool) : List String → String
  | [] => ""
  | members =>
    let joined := match members with
      | [m] => m
      | ms => "(" ++ String.intercalate (") " ++ kind.name ++ " (") ms ++ ")"
    if negated then "NOT (" ++ joined ++ ")" else joined

/-- A formula in words. -/
def describe (f : Formula) : Except FormulaError String := f.fold Comparison.describe joinPhrases

end Formula

end MailMerge
