import MailMerge.Predicate.Basic

/-!
# From formulas to predicates

Each leaf becomes a joined pair of tests, or a single one for the order of values; the
second test of a pair says what a null cell means. A text searched for is escaped, so
that it stands for itself inside a pattern.
-/

namespace MailMerge

/-- Puts a backslash before what has a meaning inside a pattern. -/
def escapePattern (cs : List Char) : List Char :=
  cs.flatMap fun c => if c == '%' || c == '_' || c == '\\' then ['\\', c] else [c]

namespace Comparison

/-- Fails unless the variable is one of the columns, where these are known. -/
def checkColumn (columns : Option (List String)) (c : Comparison) : Except FormulaError Unit :=
  match columns with
  | none => .ok ()
  | some names => if names.contains c.field then .ok () else .error (.unknownColumn c.field)

/-- The pattern for a text at the start, inside, or at the end, as marked by the two
ends. -/
def likePattern (c : Comparison) (openStart openEnd : Bool) : Except FormulaError String := do
  let text ← c.pattern
  let start := if openStart then ['%'] else []
  let stop := if openEnd then ['%'] else []
  return String.ofList (start ++ escapePattern text.toList ++ stop)

/-- A pattern test that holds only of cells that are not null. -/
def likeTest (c : Comparison) (openStart openEnd : Bool) : Except FormulaError Predicate := do
  let pattern ← c.likePattern openStart openEnd
  return .join .and [.like c.field false pattern, .null c.field true]

/-- The opposite of a pattern test; it holds of null cells. -/
def notLikeTest (c : Comparison) (openStart openEnd : Bool) : Except FormulaError Predicate := do
  let pattern ← c.likePattern openStart openEnd
  return .join .or [.like c.field true pattern, .null c.field false]

/-- A test of order; it has no answer for null cells. -/
def orderTest (c : Comparison) (o : Comparator) : Except FormulaError Predicate := do
  return .test (.compare c.field o (← c.constant))

def rangeTest (c : Comparison) (negated : Bool) : Except FormulaError Predicate := do
  let (low, high) ← c.range
  return .test (.between c.field negated low high)

/-- The predicate of a leaf. The column is checked before the constants. -/
def compile (columns : Option (List String)) (c : Comparison) : Except FormulaError Predicate := do
  c.checkColumn columns
  match c.operator with
  | .equal => return .join .and [.compare c.field .eq (← c.constant), .null c.field true]
  | .notEqual => return .join .or [.compare c.field .ne (← c.constant), .null c.field false]
  | .beginsWith => c.likeTest false true
  | .contains => c.likeTest true true
  | .endsWith => c.likeTest true false
  | .notBeginsWith => c.notLikeTest false true
  | .notContains => c.notLikeTest true true
  | .notEndsWith => c.notLikeTest true false
  | .isEmpty => return .join .or [.compareEmpty c.field .eq, .null c.field false]
  | .isNotEmpty => return .join .and [.compareEmpty c.field .ne, .null c.field true]
  | .isNull => return .join .and [.null c.field false]
  | .isNotNull => return .join .and [.null c.field true]
  | .less => c.orderTest .lt
  | .lessOrEqual => c.orderTest .le
  | .greater => c.orderTest .gt
  | .greaterOrEqual => c.orderTest .ge
  | .between => c.rangeTest false
  | .notBetween => c.rangeTest true

end Comparison

namespace Formula

/-- The predicate of a group from those of its members. -/
def joinPredicates (kind : Conjunction) (negated : Bool) (members : List (Option Predicate)) :
    Option Predicate :=
  (Predicate.combine? kind members).map fun p => if negated then .not p else p

/-- The predicate of a formula. Where the columns are known, a variable that is none of
them is an error. -/
def compile (f : Formula) (columns : Option (List String)) :
    Except FormulaError (Option Predicate) :=
  f.fold (fun c => (c.compile columns).map some) joinPredicates

end Formula

end MailMerge
