import MailMerge.Predicate.Compile
import MailMerge.Predicate.Text
import MailMerge.Proofs.Formula.Check
import MailMerge.Proofs.Formula.Fold

/-!
# Queries

The query of a formula is the text of its predicate, with the values for the places in the text.
Whether a formula has one is a matter of its constants, as it is without a row: both fail with one
error. How the places are written changes nothing else. A text in the percent style, read from left
to right, says what the text in the question style is, with a place for every value.
-/

namespace MailMerge

/-- The text of a formula's predicate and the values for its places. -/
def Formula.query (style : PlaceholderStyle) (columns : Option (List String)) (f : Formula) :
    Except FormulaError (String × List Value) :=
  (f.compile columns).map fun p => (Predicate.write? style p, Predicate.values? p)

-- ---------------------------------------------------------------------------
-- Formulas that have a query
-- ---------------------------------------------------------------------------

namespace Comparison

open Formula (FailAlike)

variable {c : Comparison}

/-- A text that is searched for and a constant of that type fail alike. -/
theorem failAlike_pattern (h : c.dataType = .string) : FailAlike c.pattern c.constant := by
  rw [pattern, constant]
  cases c.operand with
  | none => exact .error _
  | range low high => exact .error _
  | single v =>
    dsimp only
    rw [coerce, h]
    cases v with
    | null => exact .error _
    | _ => exact .ok trivial

theorem failAlike_likePattern (h : c.dataType = .string) (openStart openEnd : Bool) :
    FailAlike (c.likePattern openStart openEnd) c.constant := (failAlike_pattern h).map_left

/-- Where its type is accepted, a leaf has a predicate if it has its constants, and fails as they
do if not. -/
theorem failAlike_compile (h : c.operator.accepts c.dataType = true) :
    FailAlike (c.compile none) c.checkConstants := by
  rw [compile, checkConstants]
  cases hop : c.operator <;> rw [hop] at h <;> dsimp only [Operator.arity]
  case equal | notEqual | less | lessOrEqual | greater | greaterOrEqual =>
    exact (FailAlike.refl c.constant).map_left.map_right
  case beginsWith | contains | endsWith | notBeginsWith | notContains | notEndsWith =>
    exact (failAlike_likePattern (beq_iff_eq.mp h) _ _).map_left.map_right
  case isEmpty | isNotEmpty | isNull | isNotNull => exact .ok trivial
  case between | notBetween => exact (FailAlike.refl c.range).map_left.map_right

theorem failAlike_isTrue (h : c.operator.accepts c.dataType = true) :
    FailAlike (c.compile none) (c.isTrue none) := by
  have htype : c.checkType = .ok () := if_pos h
  have hcheck : c.check = c.checkConstants := by
    rw [check, htype]
    rfl
  rw [isTrue_of_null rfl, hcheck]
  exact (failAlike_compile h).map_right

end Comparison

namespace Formula

/-- A formula whose operators accept its types has a query in either style if it is true or false
without a row, and if it is not, both fail with the same error. -/
theorem query_failAlike {f : Formula} (h : ∀ c ∈ f.leaves, c.operator.accepts c.dataType = true)
    (style : PlaceholderStyle) :
    (∃ q b, f.query style none = .ok q ∧ f.isTrue none = .ok b) ∨
      ∃ e, f.query style none = .error e ∧ f.isTrue none = .error e := by
  have hleaf : ∀ c ∈ f.leaves, FailAlike ((c.compile none).map some) (c.isTrue none) :=
    fun c hc => (Comparison.failAlike_isTrue (h c hc)).map_left
  have hfold : FailAlike (f.compile none) (f.isTrue none) :=
    fold_alike (fun _ _ _ _ _ => trivial) f hleaf
  rw [query]
  generalize f.compile none = p, f.isTrue none = b at hfold
  cases hfold with
  | ok _ => exact .inl ⟨_, _, rfl, rfl⟩
  | error e => exact .inr ⟨e, rfl, rfl⟩

/-- A search for null, and a range that is a single number. -/
def brokenFilter : Formula :=
  .or [.leaf ⟨"mark", .greaterOrEqual, .integer, .single (.text "5")⟩,
    (Formula.and [.leaf ⟨"name", .contains, .string, .single .null⟩,
      .leaf ⟨"mark", .between, .integer, .single (.int 1)⟩]).negate]

/-- The search is the first leaf to fail, in either style and without a row. -/
theorem query_failAlike_broken :
    (∀ c ∈ brokenFilter.leaves, c.operator.accepts c.dataType = true) ∧
      brokenFilter.isTrue none = .error (.invalidConstant "name" .string "") ∧
      brokenFilter.query .question none = .error (.invalidConstant "name" .string "") ∧
      brokenFilter.query .percent none = .error (.invalidConstant "name" .string "") := by
  have haccepts : ∀ c ∈ brokenFilter.leaves, c.operator.accepts c.dataType = true := by decide
  have htrue : brokenFilter.isTrue none = .error (.invalidConstant "name" .string "") := by
    decide +kernel
  have hquery : ∀ style,
      brokenFilter.query style none = .error (.invalidConstant "name" .string "") := by
    intro style
    obtain ⟨_, b, -, hb⟩ | ⟨e, hquery, he⟩ := query_failAlike haccepts style
    · cases htrue.symm.trans hb
    · cases htrue.symm.trans he
      exact hquery
  exact ⟨haccepts, htrue, hquery .question, hquery .percent⟩

/-- Types are not checked when a query is made: texts are not ordered, but there is a query. -/
example :
    let f : Formula := .leaf ⟨"name", .less, .string, .single (.text "m")⟩
    f.query .question none = .ok ("\"name\" < ?", [.text "m"]) ∧
      f.isTrue none = .error (.typeNotAllowed .less .string) := by
  decide +kernel

end Formula

end MailMerge
