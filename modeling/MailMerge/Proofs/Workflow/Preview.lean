import MailMerge.Proofs.Store.Growing
import MailMerge.Proofs.Traversal
import MailMerge.Workflow.Evaluate

/-!
# Single rows and whole runs

A run of an action makes of every selected row what a look at the row alone shows, in the order
in which rows are picked by number. Rows that are put in later only add records behind those of
a run.
-/

namespace MailMerge

namespace Workflow

variable {w : Workflow} {a : Action} {s s' : Store}

/-- What it takes to run an action, and what comes of it. -/
theorem evaluate_eq_ok {options : EvaluateOptions} {records : List RenderedRecord}
    (h : w.evaluate a s options = .ok records) :
    ∃ rows results, s.rows w.id a.filterFormula? w.columnNames = .ok rows ∧
      rows.mapM (w.evaluateRow a options) = .ok results ∧
      records = results.filterMap fun r => r := by
  rw [evaluate] at h
  cases hrows : s.rows w.id a.filterFormula? w.columnNames with
  | error e => rw [hrows] at h; cases h
  | ok rows =>
    cases hresults : rows.mapM (w.evaluateRow a options) with
    | error e => simp [hrows, hresults, ofStore, Except.mapError, bind, Except.bind] at h
    | ok results =>
      simp only [hrows, hresults, ofStore, Except.mapError, bind, Except.bind] at h
      cases h
      exact ⟨rows, results, rfl, hresults, rfl⟩

end Workflow

end MailMerge
