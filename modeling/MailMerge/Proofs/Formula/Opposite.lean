import MailMerge.Proofs.Formula.Check
import MailMerge.Proofs.Formula.Retold

/-!
# Opposite operators

Every operator has one that asks the opposite question. It has the same constants, so that a leaf
and its opposite fail together, with errors that differ at most in the operator they are about. On a
value their answers are opposite. On null they are not: both are false, and only the tests for null
themselves remain opposite.
-/

namespace MailMerge

-- ---------------------------------------------------------------------------
-- Operators
-- ---------------------------------------------------------------------------

namespace Operator

/-- The operator that asks the opposite question. -/
def opposite : Operator → Operator
  | .equal => .notEqual
  | .notEqual => .equal
  | .beginsWith => .notBeginsWith
  | .notBeginsWith => .beginsWith
  | .contains => .notContains
  | .notContains => .contains
  | .endsWith => .notEndsWith
  | .notEndsWith => .endsWith
  | .isEmpty => .isNotEmpty
  | .isNotEmpty => .isEmpty
  | .isNull => .isNotNull
  | .isNotNull => .isNull
  | .less => .greaterOrEqual
  | .greaterOrEqual => .less
  | .greater => .lessOrEqual
  | .lessOrEqual => .greater
  | .between => .notBetween
  | .notBetween => .between

/-- Whether an operator asks for null, and not for a value. -/
def testsNull : Operator → Bool
  | .isNull | .isNotNull => true
  | _ => false

theorem accepts_opposite (o : Operator) (t : DataType) : o.opposite.accepts t = o.accepts t := by
  cases o <;> rfl

theorem arity_opposite (o : Operator) : o.opposite.arity = o.arity := by
  cases o <;> rfl

theorem testsNull_opposite (o : Operator) : o.opposite.testsNull = o.testsNull := by
  cases o <;> rfl

theorem beq_isNull_of_testsNull {o : Operator} (h : o.testsNull = false) :
    (o == .isNull) = false := by
  refine beq_eq_false_iff_ne.mpr fun heq => ?_
  rw [heq] at h
  cases h

end Operator

/-- The same error, about another operator. -/
def FormulaError.about (o : Operator) : FormulaError → FormulaError
  | .typeNotAllowed _ t => .typeNotAllowed o t
  | .arity n _ => .arity n o
  | .ruleArity n _ => .ruleArity n o
  | e => e

namespace Comparison

open Formula (translate)

-- ---------------------------------------------------------------------------
-- Opposite leaves
-- ---------------------------------------------------------------------------

/-- The leaf with the operator that asks the opposite question. -/
def opposite (c : Comparison) : Comparison := { c with operator := c.operator.opposite }

variable {c : Comparison} {row : Option Context}

theorem retold_opposite (c : Comparison) :
    c.Retold c.opposite (.about c.operator.opposite) where
  dataType := rfl
  operand := rfl
  typeNotAllowed := rfl
  arity := rfl
  invalidConstant _ := rfl
  incomparable _ := rfl

theorem cell_opposite : c.opposite.cell row = c.cell row := rfl

theorem operator_opposite : c.opposite.operator = c.operator.opposite := rfl

theorem checkType_opposite :
    c.opposite.checkType = c.checkType.mapError (.about c.operator.opposite) :=
  (retold_opposite c).checkType (c.operator.accepts_opposite _)

theorem check_opposite : c.opposite.check = c.check.mapError (.about c.operator.opposite) := by
  have h := retold_opposite c
  rw [check, check, checkType_opposite, checkConstants, checkConstants, operator_opposite,
    Operator.arity_opposite, h.constant, h.range]
  cases c.checkType with
  | error e => rfl
  | ok _ =>
    split
    · rfl
    · cases c.constant <;> rfl
    · cases c.range <;> rfl

/-- On a value the opposite leaf gives the opposite answer. -/
theorem isTrue_opposite_of_value {v : Value} (h : c.cell row = .ok (some v)) :
    c.opposite.isTrue row = translate (!·) (.about c.operator.opposite) (c.isTrue row) := by
  have hretold := retold_opposite c
  have hvalue : some v = none → (!false) = false := fun h => nomatch h
  rw [isTrue, isTrue, cell_opposite, h, checkType_opposite, operator_opposite]
  generalize FormulaError.about c.operator.opposite = ρ at hretold ⊢
  cases c.checkType with
  | error e => rfl
  | ok _ =>
    simp only [Except.mapError, bind, Except.bind]
    cases hop : c.operator <;> simp only [Operator.opposite]
    case equal | notEqual =>
      refine hretold.testEqual hvalue fun b => ?_
      cases b <;> rfl
    case beginsWith | notBeginsWith | contains | notContains | endsWith | notEndsWith =>
      refine hretold.testText hvalue fun b => ?_
      cases b <;> rfl
    case isEmpty => exact congrArg Except.ok rfl
    case isNotEmpty => exact congrArg Except.ok (Bool.not_not _).symm
    case isNull | isNotNull => rfl
    case less | lessOrEqual | greater | greaterOrEqual =>
      refine hretold.testOrder hvalue fun o => ?_
      cases o <;> rfl
    case between | notBetween =>
      refine hretold.testRange hvalue fun b => ?_
      cases b <;> rfl

-- ---------------------------------------------------------------------------
-- Answers of both
-- ---------------------------------------------------------------------------

/-- Whether a leaf reads null: null stands in its variable, or there is no row. -/
def ReadsNull (c : Comparison) : Option Context → Prop
  | none => True
  | some row => row.get? c.field = some .null

/-- Whether a row leaves the variable of a leaf free. -/
def Missing (c : Comparison) : Option Context → Prop
  | none => False
  | some row => row.get? c.field = none

theorem cell_cases (c : Comparison) (row : Option Context) :
    (c.Missing row ∧ c.cell row = .error (.missingVariable c.field)) ∨
      (c.ReadsNull row ∧ c.cell row = .ok none) ∨
      ∃ v, ¬c.ReadsNull row ∧ c.cell row = .ok (some v) := by
  cases row with
  | none => exact .inr (.inl ⟨trivial, rfl⟩)
  | some row =>
    simp only [Missing, ReadsNull, cell]
    cases row.get? c.field with
    | none => exact .inl ⟨rfl, rfl⟩
    | some v => cases v <;> simp

theorem isTrue_of_missing (h : c.cell row = .error (.missingVariable c.field)) :
    c.isTrue row = .error (.missingVariable c.field) := by
  rw [isTrue, h]
  rfl

/-- The tests for null check nothing but the variable, and say what its cell is. -/
theorem isTrue_of_testsNull {cell : Option Value} (htests : c.operator.testsNull = true)
    (h : c.cell row = .ok cell) :
    ∃ b, c.isTrue row = .ok b ∧ c.opposite.isTrue row = .ok (!b) := by
  rw [isTrue, isTrue, cell_opposite, h, checkType, checkType, operator_opposite,
    Operator.accepts_opposite]
  cases hop : c.operator <;> rw [hop] at htests <;> cases htests
  case isNull => exact ⟨cell.isNone, rfl, by cases cell <;> rfl⟩
  case isNotNull => exact ⟨cell.isSome, rfl, by cases cell <;> rfl⟩

/-- On null a leaf and its opposite pass their checks together, and then both are false. -/
theorem isTrue_opposite_of_null (htests : c.operator.testsNull = false)
    (h : c.cell row = .ok none) :
    (∃ e, c.isTrue row = .error e ∧
      c.opposite.isTrue row = .error (e.about c.operator.opposite)) ∨
    (c.isTrue row = .ok false ∧ c.opposite.isTrue row = .ok false) := by
  have hnull : (c.operator == .isNull) = false := Operator.beq_isNull_of_testsNull htests
  have hnull' : (c.opposite.operator == .isNull) = false :=
    Operator.beq_isNull_of_testsNull (c.operator.testsNull_opposite.trans htests)
  rw [isTrue_of_null h, isTrue_of_null (cell_opposite.trans h), check_opposite, hnull, hnull']
  cases c.check with
  | error e => exact .inl ⟨e, rfl, rfl⟩
  | ok _ => exact .inr ⟨rfl, rfl⟩

/-- A leaf and its opposite. They fail together, with the same error about either operator. On null
and without a row both are false, and on any other value the answers are opposite. The tests for
null are opposite on null too, and fail only if the row leaves the variable free. -/
theorem isTrue_opposite (c : Comparison) (row : Option Context) :
    (∃ e, c.isTrue row = .error e ∧ c.opposite.isTrue row = .error (e.about c.operator.opposite) ∧
      (c.operator.testsNull = false ∨ c.Missing row)) ∨
    (c.ReadsNull row ∧ c.operator.testsNull = false ∧
      c.isTrue row = .ok false ∧ c.opposite.isTrue row = .ok false) ∨
    ((¬c.ReadsNull row ∨ c.operator.testsNull = true) ∧
      ∃ b, c.isTrue row = .ok b ∧ c.opposite.isTrue row = .ok (!b)) := by
  obtain ⟨hmissing, hcell⟩ | ⟨hnull, hcell⟩ | ⟨v, hvalue, hcell⟩ := c.cell_cases row
  · exact .inl ⟨_, isTrue_of_missing hcell, isTrue_of_missing (cell_opposite.trans hcell),
      .inr hmissing⟩
  · cases htests : c.operator.testsNull with
    | true => exact .inr (.inr ⟨.inr rfl, isTrue_of_testsNull htests hcell⟩)
    | false =>
      obtain ⟨e, he, he'⟩ | hfalse := isTrue_opposite_of_null htests hcell
      · exact .inl ⟨e, he, he', .inl rfl⟩
      · exact .inr (.inl ⟨hnull, rfl, hfalse⟩)
  · cases htests : c.operator.testsNull with
    | true => exact .inr (.inr ⟨.inr rfl, isTrue_of_testsNull htests hcell⟩)
    | false =>
      rw [isTrue_opposite_of_value hcell]
      cases c.isTrue row with
      | error e => exact .inl ⟨e, rfl, rfl, .inl rfl⟩
      | ok b => exact .inr (.inr ⟨.inl hvalue, b, rfl, rfl⟩)

end Comparison

end MailMerge
