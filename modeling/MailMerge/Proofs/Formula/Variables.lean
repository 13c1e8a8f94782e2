import MailMerge.Proofs.Formula.Check
import MailMerge.Proofs.Formula.Renaming

/-!
# What a formula reads of a row

The truth of a formula is a matter of its own variables: rows that bind these alike are answered
alike, and no row at all is answered as a row of nulls. Every variable is looked up, whatever the
groups around it would say without it, so that a row that leaves one of them free is an error, and
a missing variable is always one of them.
-/

namespace MailMerge

namespace Comparison

variable {c : Comparison} {row row' : Option Context}

theorem isTrue_of_cell_eq (h : c.cell row = c.cell row') : c.isTrue row = c.isTrue row' := by
  rw [isTrue, isTrue, h]

theorem isTrue_congr {row row' : Context} (h : row.get? c.field = row'.get? c.field) :
    c.isTrue (some row) = c.isTrue (some row') :=
  isTrue_of_cell_eq (by rw [cell, cell, h])

theorem isTrue_none {row : Context} (h : row.get? c.field = some .null) :
    c.isTrue none = c.isTrue (some row) :=
  isTrue_of_cell_eq (by rw [cell, cell, h])

/-- The cell of a leaf is missing only where a row leaves its variable free. -/
theorem missing_of_cell {n : String} (h : c.cell row = .error (.missingVariable n)) :
    n = c.field ∧ ∃ ctx, row = some ctx ∧ ctx.get? n = none := by
  cases row with
  | none => cases h
  | some ctx =>
    rw [cell] at h
    split at h
    next hget =>
      cases h
      exact ⟨rfl, ctx, rfl, hget⟩
    next => cases h
    next => cases h

/-- No check of a leaf misses a variable, nor does a comparison. -/
theorem missing_of_isTrue {n : String} (h : c.isTrue row = .error (.missingVariable n)) :
    n = c.field ∧ ∃ ctx, row = some ctx ∧ ctx.get? n = none := by
  obtain hcell | hcheck | ⟨_, horder⟩ := error_of_isTrue h
  · exact missing_of_cell hcell
  · obtain htype | harity | ⟨_, hconstant⟩ := error_of_check hcheck
    · cases htype
    · cases harity
    · cases hconstant
  · cases horder

end Comparison

namespace Formula

theorem field_mem_variableNames {f : Formula} {c : Comparison} (h : c ∈ f.leaves) :
    c.field ∈ f.variableNames := List.mem_map_of_mem h

/-- A formula that has an answer for a row has its variables bound there. -/
theorem exists_error_of_get?_eq_none {f : Formula} {row : Context} {n : String}
    (hn : n ∈ f.variableNames) (h : row.get? n = none) : ∃ e, f.isTrue (some row) = .error e := by
  obtain ⟨c, hc, rfl⟩ := List.mem_map.mp hn
  cases htrue : f.isTrue (some row) with
  | error e => exact ⟨e, rfl⟩
  | ok b =>
    have hbound := contains_of_isTrue_eq_ok htrue c hc
    rw [Context.contains, h] at hbound
    cases hbound

/-- A formula reads its own variables of a row, all of them, and nothing else. Rows that bind them
alike have one answer or one error, and no row has that of every row that binds them to null. If a
row leaves one of them free there is an error, and an error about a missing variable names one that
the row leaves free. -/
theorem isTrue_reads_variables (f : Formula) :
    (∀ row row' : Context, (∀ n ∈ f.variableNames, row.get? n = row'.get? n) →
      f.isTrue (some row) = f.isTrue (some row')) ∧
    (∀ row : Context, (∀ n ∈ f.variableNames, row.get? n = some .null) →
      f.isTrue none = f.isTrue (some row)) ∧
    (∀ (row : Context) (n : String), n ∈ f.variableNames → row.get? n = none →
      ∃ e, f.isTrue (some row) = .error e) ∧
    (∀ (row : Option Context) (n : String), f.isTrue row = .error (.missingVariable n) →
      n ∈ f.variableNames ∧ ∃ ctx, row = some ctx ∧ ctx.get? n = none) := by
  refine ⟨fun row row' h => ?_, fun row h => ?_, fun row n => exists_error_of_get?_eq_none,
    fun row n h => ?_⟩
  · exact fold_congr f fun c hc => Comparison.isTrue_congr (h _ (field_mem_variableNames hc))
  · exact fold_congr f fun c hc => Comparison.isTrue_none (h _ (field_mem_variableNames hc))
  · obtain ⟨c, hc, hfails⟩ := leaf_of_fold_eq_error f h
    obtain ⟨rfl, hmissing⟩ := Comparison.missing_of_isTrue hfails
    exact ⟨field_mem_variableNames hc, hmissing⟩

/-- A mark that is good enough, or a resit that was not missed. -/
def passedFormula : Formula :=
  .or [.leaf ⟨"mark", .greaterOrEqual, .integer, .single (.text "5")⟩,
    (Formula.and [.leaf ⟨"resit", .isNull, .integer, .none⟩]).negate]

/-- A mark that is good enough by itself does not make up for a resit that is not bound. -/
theorem isTrue_reads_variables_passed :
    (passedFormula.isTrue (some [("mark", .int 3), ("resit", .int 6)]) = .ok true ∧
      passedFormula.isTrue (some [("name", .text "Ada"), ("resit", .int 6), ("mark", .int 3)])
        = .ok true) ∧
    (passedFormula.isTrue (some [("resit", .null), ("mark", .null)]) = .ok false ∧
      passedFormula.isTrue none = .ok false) ∧
    ("resit" ∈ passedFormula.variableNames ∧
      ∃ e, passedFormula.isTrue (some [("mark", .int 9)]) = .error e) ∧
    passedFormula.isTrue (some [("mark", .int 9)]) = .error (.missingVariable "resit") ∧
    ∃ ctx, some [("mark", Value.int 9)] = some ctx ∧ Context.get? ctx "resit" = none := by
  obtain ⟨hcongr, hnull, hfree, hmissing⟩ := isTrue_reads_variables passedFormula
  have hnames : passedFormula.variableNames = ["mark", "resit"] := rfl
  have hrow : passedFormula.isTrue (some [("mark", .int 3), ("resit", .int 6)]) = .ok true := by
    decide +kernel
  have hnulls : passedFormula.isTrue (some [("resit", .null), ("mark", .null)]) = .ok false := by
    decide +kernel
  have herror : passedFormula.isTrue (some [("mark", .int 9)])
      = .error (.missingVariable "resit") := by
    decide +kernel
  have hmem : "resit" ∈ passedFormula.variableNames := by decide
  refine ⟨⟨hrow, ?_⟩, ⟨hnulls, ?_⟩, ⟨hmem, hfree _ "resit" hmem rfl⟩, herror,
    (hmissing _ _ herror).2⟩
  · refine (hcongr _ _ ?_).trans hrow
    rw [hnames]
    decide
  · refine (hnull _ ?_).trans hnulls
    rw [hnames]
    decide

end Formula

end MailMerge
