import MailMerge.Formula.Truth
import MailMerge.Proofs.Formula.Fold

/-!
# Leaves told differently

The variable and the operator of a leaf stand in its errors, but its tests read nothing of a leaf
but the declared type and the constants. A leaf with the type and the constants of another one
tests as that one does, and fails where it fails, with its errors told differently.
-/

namespace MailMerge

open Formula (translate)

namespace Comparison

/-- A leaf with the type and constants of another one, whose errors are those of the other told
differently. -/
structure Retold (c c' : Comparison) (ρ : FormulaError → FormulaError) : Prop where
  dataType : c'.dataType = c.dataType
  operand : c'.operand = c.operand
  typeNotAllowed :
    .typeNotAllowed c'.operator c'.dataType = ρ (.typeNotAllowed c.operator c.dataType)
  arity : .arity c'.field c'.operator = ρ (.arity c.field c.operator)
  invalidConstant (text : String) :
    .invalidConstant c'.field c'.dataType text = ρ (.invalidConstant c.field c.dataType text)
  incomparable (kind : String) :
    .incomparable c'.field kind c'.dataType = ρ (.incomparable c.field kind c.dataType)

namespace Retold

variable {c c' : Comparison} {ρ : FormulaError → FormulaError}

-- ---------------------------------------------------------------------------
-- The type and the constants
-- ---------------------------------------------------------------------------

theorem checkType (h : Retold c c' ρ)
    (haccepts : c'.operator.accepts c.dataType = c.operator.accepts c.dataType) :
    c'.checkType = c.checkType.mapError ρ := by
  rw [Comparison.checkType, Comparison.checkType, h.typeNotAllowed, h.dataType, haccepts]
  split <;> rfl

theorem coerce (h : Retold c c' ρ) (v : Value) : c'.coerce v = (c.coerce v).mapError ρ := by
  rw [Comparison.coerce, Comparison.coerce, h.invalidConstant, h.dataType]
  cases c.dataType.coerce? v <;> rfl

theorem constant (h : Retold c c' ρ) : c'.constant = c.constant.mapError ρ := by
  rw [Comparison.constant, Comparison.constant, h.operand, h.arity]
  cases c.operand with
  | single v => exact h.coerce v
  | _ => rfl

theorem range (h : Retold c c' ρ) : c'.range = c.range.mapError ρ := by
  rw [Comparison.range, Comparison.range, h.operand, h.arity]
  cases c.operand with
  | range low high =>
    simp only [h.coerce]
    cases c.coerce low with
    | error e => rfl
    | ok low => cases c.coerce high <;> rfl
  | _ => rfl

theorem pattern (h : Retold c c' ρ) : c'.pattern = c.pattern.mapError ρ := by
  rw [Comparison.pattern, Comparison.pattern, h.operand, h.arity, h.invalidConstant]
  cases c.operand with
  | single v => cases v <;> rfl
  | _ => rfl

-- ---------------------------------------------------------------------------
-- Tests
-- ---------------------------------------------------------------------------

theorem asDeclared (h : Retold c c' ρ) (v : Value) : c'.asDeclared v = c.asDeclared v := by
  rw [Comparison.asDeclared, h.dataType, Comparison.asDeclared]

theorem order (h : Retold c c' ρ) (v constant : Value) :
    c'.order v constant = (c.order v constant).mapError ρ := by
  rw [Comparison.order, Comparison.order, h.incomparable]
  cases v.compare? constant <;> rfl

-- What is wanted of the answer may be turned round by `φ`; without a value it cannot be.
variable {φ : Bool → Bool} {cell : Option Value}

theorem testEqual (h : Retold c c' ρ) {expected expected' : Bool}
    (hnull : cell = none → φ false = false)
    (hexpected : ∀ b, (b == expected') = φ (b == expected)) :
    c'.testEqual cell expected' = translate φ ρ (c.testEqual cell expected) := by
  rw [Comparison.testEqual, Comparison.testEqual, h.constant]
  cases c.constant with
  | error e => rfl
  | ok constant =>
    cases cell with
    | none => exact congrArg Except.ok (hnull rfl).symm
    | some v =>
      simp only [Except.mapError, bind, Except.bind, h.asDeclared]
      exact congrArg Except.ok (hexpected _)

theorem testText (h : Retold c c' ρ) {relation : List Char → List Char → Bool}
    {expected expected' : Bool} (hnull : cell = none → φ false = false)
    (hexpected : ∀ b, (b == expected') = φ (b == expected)) :
    c'.testText cell relation expected' = translate φ ρ (c.testText cell relation expected) := by
  rw [Comparison.testText, Comparison.testText, h.constant]
  cases c.constant with
  | error e => rfl
  | ok constant =>
    cases cell with
    | none => exact congrArg Except.ok (hnull rfl).symm
    | some v => exact congrArg Except.ok (hexpected _)

theorem testOrder (h : Retold c c' ρ) {wanted wanted' : Ordering → Bool}
    (hnull : cell = none → φ false = false) (hwanted : ∀ o, wanted' o = φ (wanted o)) :
    c'.testOrder cell wanted' = translate φ ρ (c.testOrder cell wanted) := by
  rw [Comparison.testOrder, Comparison.testOrder, h.constant]
  cases c.constant with
  | error e => rfl
  | ok constant =>
    cases cell with
    | none => exact congrArg Except.ok (hnull rfl).symm
    | some v =>
      simp only [Except.mapError, bind, Except.bind, h.asDeclared, h.order]
      cases c.order (c.asDeclared v) constant with
      | error e => rfl
      | ok o => exact congrArg Except.ok (hwanted o)

theorem testRange (h : Retold c c' ρ) {expected expected' : Bool}
    (hnull : cell = none → φ false = false)
    (hexpected : ∀ b, (b == expected') = φ (b == expected)) :
    c'.testRange cell expected' = translate φ ρ (c.testRange cell expected) := by
  rw [Comparison.testRange, Comparison.testRange, h.range]
  cases c.range with
  | error e => rfl
  | ok bounds =>
    cases cell with
    | none => exact congrArg Except.ok (hnull rfl).symm
    | some v =>
      simp only [Except.mapError, bind, Except.bind, h.asDeclared, h.order]
      cases c.order (c.asDeclared v) bounds.1 with
      | error e => rfl
      | ok low =>
        cases hlow : (low == .lt) with
        | true =>
          simp only [hlow, if_true]
          exact congrArg Except.ok (hexpected _)
        | false =>
          simp only [hlow, Bool.false_eq_true, if_false]
          cases c.order (c.asDeclared v) bounds.2 with
          | error e => rfl
          | ok high => exact congrArg Except.ok (hexpected _)

end Retold

end Comparison

end MailMerge
