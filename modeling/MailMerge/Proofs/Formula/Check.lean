import MailMerge.Formula.Truth
import MailMerge.Proofs.Traversal

/-!
# The checks of a leaf

Before a leaf looks at a value it checks that its operator accepts the declared type, and that the
constants it compares with are there and can be read as that type. Without a value that is all it
does. With one it can fail in one more way, when the value has no order to the constants.
-/

namespace MailMerge

namespace Comparison

/-- Fails unless the operator has its constants and they can be read as the declared type. -/
def checkConstants (c : Comparison) : Except FormulaError Unit :=
  match c.operator.arity with
  | 0 => .ok ()
  | 1 => c.constant.map fun _ => ()
  | _ => c.range.map fun _ => ()

/-- What is checked of a leaf whatever the row is. -/
def check (c : Comparison) : Except FormulaError Unit := do
  c.checkType
  c.checkConstants

variable {c : Comparison} {row row' : Option Context} {e : FormulaError}

-- ---------------------------------------------------------------------------
-- Errors of the checks
-- ---------------------------------------------------------------------------

theorem error_of_coerce {v : Value} (h : c.coerce v = .error e) :
    e = .invalidConstant c.field c.dataType v.display := by
  rw [coerce] at h
  split at h
  · cases h
  · cases h
    rfl

/-- An error over constants: their number is wrong, or one of them cannot be read. -/
def BadConstants (c : Comparison) (e : FormulaError) : Prop :=
  e = .arity c.field c.operator ∨ ∃ v : Value, e = .invalidConstant c.field c.dataType v.display

theorem error_of_constant (h : c.constant = .error e) : c.BadConstants e := by
  rw [constant] at h
  split at h
  · exact .inr ⟨_, error_of_coerce h⟩
  · cases h
    exact .inl rfl

theorem error_of_range (h : c.range = .error e) : c.BadConstants e := by
  rw [range] at h
  split at h
  · obtain hlow | ⟨low, -, h⟩ := error_of_bind_eq_error h
    · exact .inr ⟨_, error_of_coerce hlow⟩
    · obtain hhigh | ⟨high, -, h⟩ := error_of_bind_eq_error h
      · exact .inr ⟨_, error_of_coerce hhigh⟩
      · cases h
  · cases h
    exact .inl rfl

theorem error_of_checkConstants (h : c.checkConstants = .error e) : c.BadConstants e := by
  rw [checkConstants] at h
  split at h
  · cases h
  · exact error_of_constant (error_of_map_eq_error h)
  · exact error_of_range (error_of_map_eq_error h)

theorem error_of_check (h : c.check = .error e) :
    e = .typeNotAllowed c.operator c.dataType ∨ c.BadConstants e := by
  rw [check, checkType] at h
  split at h
  · exact .inr (error_of_checkConstants h)
  · cases h
    exact .inl rfl

-- ---------------------------------------------------------------------------
-- Tests
-- ---------------------------------------------------------------------------

theorem testEqual_none (expected : Bool) :
    c.testEqual none expected = c.constant.map fun _ => false := by
  rw [testEqual]
  cases c.constant <;> rfl

theorem testText_none (relation : List Char → List Char → Bool) (expected : Bool) :
    c.testText none relation expected = c.constant.map fun _ => false := by
  rw [testText]
  cases c.constant <;> rfl

theorem testOrder_none (wanted : Ordering → Bool) :
    c.testOrder none wanted = c.constant.map fun _ => false := by
  rw [testOrder]
  cases c.constant <;> rfl

theorem testRange_none (expected : Bool) :
    c.testRange none expected = c.range.map fun _ => false := by
  rw [testRange]
  cases c.range <;> rfl

/-- Without a value a leaf passes its checks or does not; of what passes, only the test for null
is true. -/
theorem isTrue_of_null (h : c.cell row = .ok none) :
    c.isTrue row = c.check.map fun _ => c.operator == .isNull := by
  rw [isTrue, h, check]
  cases c.checkType with
  | error e => rfl
  | ok _ =>
    simp only [bind, Except.bind, checkConstants]
    cases hop : c.operator <;>
      simp only [testEqual_none, testText_none, testOrder_none, testRange_none, Operator.arity]
    case isEmpty | isNotEmpty | isNull | isNotNull => rfl
    case between | notBetween => cases c.range <;> rfl
    all_goals cases c.constant <;> rfl

/-- An error over a value that has no order to the constants. -/
def NoOrder (c : Comparison) (e : FormulaError) : Prop :=
  ∃ v : Value, e = .incomparable c.field v.kindName c.dataType

variable {cell : Option Value}

theorem error_of_order {v constant : Value} (h : c.order v constant = .error e) : c.NoOrder e := by
  rw [order] at h
  split at h
  · cases h
  · cases h
    exact ⟨v, rfl⟩

theorem error_of_testEqual {expected : Bool} (h : c.testEqual cell expected = .error e) :
    c.constant = .error e := by
  obtain hconstant | ⟨constant, -, h⟩ := error_of_bind_eq_error h
  · exact hconstant
  · cases cell <;> cases h

theorem error_of_testText {relation : List Char → List Char → Bool} {expected : Bool}
    (h : c.testText cell relation expected = .error e) : c.constant = .error e := by
  obtain hconstant | ⟨constant, -, h⟩ := error_of_bind_eq_error h
  · exact hconstant
  · cases cell <;> cases h

theorem error_of_testOrder {wanted : Ordering → Bool} (h : c.testOrder cell wanted = .error e) :
    c.constant = .error e ∨ c.NoOrder e := by
  obtain hconstant | ⟨constant, -, h⟩ := error_of_bind_eq_error h
  · exact .inl hconstant
  · cases cell with
    | none => cases h
    | some v =>
      obtain horder | ⟨o, -, h⟩ := error_of_bind_eq_error h
      · exact .inr (error_of_order horder)
      · cases h

theorem error_of_testRange {expected : Bool} (h : c.testRange cell expected = .error e) :
    c.range = .error e ∨ c.NoOrder e := by
  obtain hrange | ⟨⟨low, high⟩, -, h⟩ := error_of_bind_eq_error h
  · exact .inl hrange
  · cases cell with
    | none => cases h
    | some v =>
      obtain hlow | ⟨o, -, h⟩ := error_of_bind_eq_error h
      · exact .inr (error_of_order hlow)
      · split at h
        · cases h
        · obtain hhigh | ⟨o', -, h⟩ := error_of_bind_eq_error h
          · exact .inr (error_of_order hhigh)
          · cases h

/-- A leaf fails over its variable, over its checks or over a value without an order. -/
theorem error_of_isTrue (h : c.isTrue row = .error e) :
    c.cell row = .error e ∨ c.check = .error e ∨ c.NoOrder e := by
  obtain hcell | ⟨cell, -, h⟩ := error_of_bind_eq_error h
  · exact .inl hcell
  refine .inr ?_
  rw [check]
  obtain htype | ⟨_, htype, h⟩ := error_of_bind_eq_error h
  · exact .inl (by rw [htype]; rfl)
  rw [htype]
  change c.checkConstants = .error e ∨ c.NoOrder e
  rw [checkConstants]
  cases hop : c.operator <;> rw [hop] at h <;> dsimp only at h
  case equal | notEqual => exact .inl (by rw [error_of_testEqual h]; rfl)
  case beginsWith | notBeginsWith | contains | notContains | endsWith | notEndsWith =>
    exact .inl (by rw [error_of_testText h]; rfl)
  case isEmpty | isNotEmpty | isNull | isNotNull => cases h
  case less | lessOrEqual | greater | greaterOrEqual =>
    exact (error_of_testOrder h).imp_left fun hconstant => by rw [hconstant]; rfl
  case between | notBetween =>
    exact (error_of_testRange h).imp_left fun hrange => by rw [hrange]; rfl

end Comparison

end MailMerge
