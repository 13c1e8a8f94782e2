import MailMerge.Formula.Basic
import MailMerge.Text.Search

/-!
# The truth of a formula

A formula is true or false of a row. A comparison with a null cell is false, and so is
every comparison when there is no row at all; only the tests for null tell them apart.
A variable the row does not have is an error.
-/

namespace MailMerge

namespace Comparison

/-- The value compared, `none` when it is null or there is no row. -/
def cell (c : Comparison) : Option Context → Except FormulaError (Option Value)
  | none => .ok none
  | some row =>
    match row.get? c.field with
    | none => .error (.missingVariable c.field)
    | some .null => .ok none
    | some v => .ok (some v)

/-- A cell read as the declared type where it can be. -/
def asDeclared (c : Comparison) (v : Value) : Value := (c.dataType.coerce? v).getD v

/-- The order of a cell and a constant. -/
def order (c : Comparison) (v constant : Value) : Except FormulaError Ordering :=
  match v.compare? constant with
  | some o => .ok o
  | none => .error (.incomparable c.field v.kindName c.dataType)

/-- Whether a cell equals the constant. -/
def testEqual (c : Comparison) (cell : Option Value) (expected : Bool) :
    Except FormulaError Bool := do
  let constant ← c.constant
  match cell with
  | none => return false
  | some v => return (c.asDeclared v).alike constant == expected

/-- Whether the text of a cell and the constant stand in a relation. -/
def testText (c : Comparison) (cell : Option Value) (relation : List Char → List Char → Bool)
    (expected : Bool) : Except FormulaError Bool := do
  let constant ← c.constant
  match cell with
  | none => return false
  | some v => return relation constant.display.toList v.display.toList == expected

/-- Whether the order of a cell and the constant is one of those wanted. -/
def testOrder (c : Comparison) (cell : Option Value) (wanted : Ordering → Bool) :
    Except FormulaError Bool := do
  let constant ← c.constant
  match cell with
  | none => return false
  | some v => return wanted (← c.order (c.asDeclared v) constant)

/-- Whether a cell lies between the bounds. The upper bound matters only when the lower
one is met. -/
def testRange (c : Comparison) (cell : Option Value) (expected : Bool) :
    Except FormulaError Bool := do
  let (low, high) ← c.range
  match cell with
  | none => return false
  | some v =>
    let v := c.asDeclared v
    if (← c.order v low) == .lt then return false == expected
    return ((← c.order v high) != .gt) == expected

/-- Whether a comparison is true of a row. The variable is looked up first, then the type
is checked, then the constants are read. -/
def isTrue (row : Option Context) (c : Comparison) : Except FormulaError Bool := do
  let cell ← c.cell row
  c.checkType
  match c.operator with
  | .equal => c.testEqual cell true
  | .notEqual => c.testEqual cell false
  | .beginsWith => c.testText cell List.isPrefixOf true
  | .notBeginsWith => c.testText cell List.isPrefixOf false
  | .contains => c.testText cell Text.occursIn true
  | .notContains => c.testText cell Text.occursIn false
  | .endsWith => c.testText cell List.isSuffixOf true
  | .notEndsWith => c.testText cell List.isSuffixOf false
  | .isEmpty => return cell.any fun v => v.text? == some ""
  | .isNotEmpty => return cell.any fun v => v.text? != some ""
  | .isNull => return cell.isNone
  | .isNotNull => return cell.isSome
  | .less => c.testOrder cell (· == .lt)
  | .lessOrEqual => c.testOrder cell (· != .gt)
  | .greater => c.testOrder cell (· == .gt)
  | .greaterOrEqual => c.testOrder cell (· != .lt)
  | .between => c.testRange cell true
  | .notBetween => c.testRange cell false

end Comparison

namespace Formula

/-- Truth of a group from the truth of its members. -/
def joinTruth (kind : Conjunction) (negated : Bool) (members : List Bool) : Bool :=
  let joined := match kind with
    | .and => members.all id
    | .or => members.any id
  joined != negated

/-- Whether a formula is true of a row, or of no row. -/
def isTrue (f : Formula) (row : Option Context) : Except FormulaError Bool :=
  f.fold (Comparison.isTrue row) joinTruth

end Formula

end MailMerge
