import MailMerge.Proofs.Formula.Retold
import MailMerge.Proofs.Name.Renaming
import Mathlib.Logic.Equiv.Basic

/-!
# Renaming the variables of a formula

A formula whose variables are replaced, no two by one, is true of a row renamed in the
same way exactly where it was true before, and fails where it failed, with the new names
in its errors.
-/

namespace MailMerge

variable {σ : String → String}

/-- An error about variables whose names are replaced. -/
def FormulaError.renamed (σ : String → String) : FormulaError → FormulaError
  | .missingVariable n => .missingVariable (σ n)
  | .invalidConstant n t v => .invalidConstant (σ n) t v
  | .arity n o => .arity (σ n) o
  | .incomparable n found t => .incomparable (σ n) found t
  | .unknownColumn n => .unknownColumn (σ n)
  | .ruleArity n o => .ruleArity (σ n) o
  | e => e

namespace Comparison

/-- A leaf on another variable. -/
def renamed (σ : String → String) (c : Comparison) : Comparison := { c with field := σ c.field }

variable (c : Comparison)

/-- Only the errors of a leaf tell which variable it is on. -/
theorem retold_renamed (σ : String → String) : c.Retold (c.renamed σ) (.renamed σ) where
  dataType := rfl
  operand := rfl
  typeNotAllowed := rfl
  arity := rfl
  invalidConstant _ := rfl
  incomparable _ := rfl

theorem constant_renamed : (c.renamed σ).constant = c.constant.mapError (.renamed σ) :=
  (c.retold_renamed σ).constant

theorem range_renamed : (c.renamed σ).range = c.range.mapError (.renamed σ) :=
  (c.retold_renamed σ).range

theorem pattern_renamed : (c.renamed σ).pattern = c.pattern.mapError (.renamed σ) :=
  (c.retold_renamed σ).pattern

/-- A cell is found again in a row that binds the new name to what the old one was bound to. -/
theorem cell_renamed {row row' : Context} (hrow : row'.get? (σ c.field) = row.get? c.field) :
    (c.renamed σ).cell (some row') = (c.cell (some row)).mapError (.renamed σ) := by
  have hget : row'.get? (c.renamed σ).field = row.get? c.field := hrow
  simp only [cell, hget]
  cases row.get? c.field with
  | none => rfl
  | some v => cases v <;> rfl

theorem isTrue_renamed_of {row row' : Context} (hrow : row'.get? (σ c.field) = row.get? c.field) :
    (c.renamed σ).isTrue (some row') = Formula.translate id (.renamed σ) (c.isTrue (some row)) := by
  have hoperator : (c.renamed σ).operator = c.operator := rfl
  have h := c.retold_renamed σ
  simp only [isTrue, cell_renamed c hrow, h.checkType rfl, hoperator]
  cases c.cell (some row) with
  | error e => rfl
  | ok cell =>
    cases c.checkType with
    | error e => rfl
    | ok _ =>
      cases c.operator
      case equal | notEqual => exact h.testEqual (fun _ => rfl) fun _ => rfl
      case beginsWith | notBeginsWith | contains | notContains | endsWith | notEndsWith =>
        exact h.testText (fun _ => rfl) fun _ => rfl
      case isEmpty | isNotEmpty | isNull | isNotNull => rfl
      case less | lessOrEqual | greater | greaterOrEqual =>
        exact h.testOrder (fun _ => rfl) fun _ => rfl
      case between | notBetween => exact h.testRange (fun _ => rfl) fun _ => rfl

end Comparison

namespace Formula

/-- A formula on other variables. -/
def renamed (σ : String → String) : Formula → Formula := mapLeaves (Comparison.renamed σ)

/-- A formula on other variables is true of a row that binds them to what the old ones are bound
to in another row, where the formula is true of that one. -/
theorem isTrue_renamed_of {row row' : Context} (hrow : ∀ n, row'.get? (σ n) = row.get? n)
    (f : Formula) :
    (f.renamed σ).isTrue (some row') = (f.isTrue (some row)).mapError (.renamed σ) := by
  have hleaf : ∀ c : Comparison, (c.renamed σ).isTrue (some row')
      = translate id (.renamed σ) (c.isTrue (some row)) :=
    fun c => c.isTrue_renamed_of (hrow c.field)
  have hgroup : ∀ kind negated xs,
      joinTruth kind negated (xs.map id) = id (joinTruth kind negated xs) := by
    intro kind negated xs
    rw [List.map_id, id]
  rw [isTrue, renamed, fold_mapLeaves hleaf hgroup f, translate_id, isTrue]

theorem isTrue_renamed (hσ : Function.Injective σ) (f : Formula) (row : Context) :
    (f.renamed σ).isTrue (some (row.renamed σ)) = (f.isTrue (some row)).mapError (.renamed σ) :=
  isTrue_renamed_of (Context.get?_renamed hσ row) f

mutual

theorem mapLeaves_congr {g g' : Comparison → Comparison} (f : Formula)
    (h : ∀ c ∈ f.leaves, g c = g' c) : f.mapLeaves g = f.mapLeaves g' := by
  match f with
  | .leaf c => rw [mapLeaves, mapLeaves, h c (List.mem_singleton_self c)]
  | .group kind negated children =>
    rw [mapLeaves, mapLeaves, mapLeavesEach_congr children h]

theorem mapLeavesEach_congr {g g' : Comparison → Comparison} (fs : List Formula)
    (h : ∀ c ∈ leavesEach fs, g c = g' c) : mapLeavesEach g fs = mapLeavesEach g' fs := by
  match fs with
  | [] => rfl
  | f :: fs =>
    rw [mapLeavesEach, mapLeavesEach, mapLeaves_congr f fun c hc => h c (List.mem_append_left _ hc),
      mapLeavesEach_congr fs fun c hc => h c (List.mem_append_right _ hc)]

end

mutual

/-- Leaves changed twice are changed once by both changes. -/
theorem mapLeaves_mapLeaves (g g' : Comparison → Comparison) (f : Formula) :
    (f.mapLeaves g).mapLeaves g' = f.mapLeaves (g' ∘ g) := by
  match f with
  | .leaf c => rfl
  | .group kind negated children =>
    rw [mapLeaves, mapLeaves, mapLeavesEach_mapLeavesEach g g' children, mapLeaves]

theorem mapLeavesEach_mapLeavesEach (g g' : Comparison → Comparison) (fs : List Formula) :
    mapLeavesEach g' (mapLeavesEach g fs) = mapLeavesEach (g' ∘ g) fs := by
  match fs with
  | [] => rfl
  | f :: fs =>
    rw [mapLeavesEach, mapLeavesEach, mapLeaves_mapLeaves g g' f,
      mapLeavesEach_mapLeavesEach g g' fs, mapLeavesEach]

end

mutual

theorem mapLeaves_id (f : Formula) : f.mapLeaves id = f := by
  match f with
  | .leaf c => rfl
  | .group kind negated children => rw [mapLeaves, mapLeavesEach_id children]

theorem mapLeavesEach_id (fs : List Formula) : mapLeavesEach id fs = fs := by
  match fs with
  | [] => rfl
  | f :: fs => rw [mapLeavesEach, mapLeaves_id f, mapLeavesEach_id fs]

end

/-- Moving leaves to a variable that no leaf is on. -/
theorem rename_eq_renamed {old new : String} {f : Formula} (h : ∀ c ∈ f.leaves, c.field ≠ new) :
    f.rename old new = f.renamed (Equiv.swap old new) := by
  refine mapLeaves_congr f fun c hc => ?_
  rw [Comparison.renamed]
  by_cases hold : c.field = old
  · rw [if_pos (beq_iff_eq.mpr hold), hold, Equiv.swap_apply_left]
  · rw [if_neg (mt beq_iff_eq.mp hold), Equiv.swap_apply_of_ne_of_ne hold (h c hc)]

/-- A formula is true or false of a row only if it has all the variables. -/
theorem contains_of_isTrue_eq_ok {f : Formula} {row : Context} {b : Bool}
    (h : f.isTrue (some row) = .ok b) : ∀ c ∈ f.leaves, row.contains c.field = true := by
  intro c hc
  obtain ⟨x, hx⟩ := leaf_of_fold_eq_ok f h c hc
  rw [Context.contains]
  cases hget : row.get? c.field with
  | some v => rfl
  | none => simp [Comparison.isTrue, Comparison.cell, hget, bind, Except.bind] at hx

end Formula

end MailMerge
