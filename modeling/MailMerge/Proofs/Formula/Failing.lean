import MailMerge.Formula.Describe
import MailMerge.Proofs.Predicate.Query

/-!
# The leaf a formula fails at

A question is asked of every leaf, from the first to the last, whatever the groups around would make
of the answers. So a formula fails exactly if one of its leaves does when it is asked alone, and then
with the error of the first of these. Columns that are known only decide which leaves fail: a formula
has the query it has without them if its variables are among them, and none if they are not.
-/

namespace MailMerge

namespace Comparison

variable {c : Comparison}

theorem compile_of_known {columns : List String} (h : c.field ∈ columns) :
    c.compile (some columns) = c.compile none := by
  have hcheck : c.checkColumn (some columns) = c.checkColumn none :=
    if_pos (List.contains_iff_mem.mpr h)
  rw [compile, compile, hcheck]

theorem known_of_compile {columns : List String} {p : Predicate}
    (h : c.compile (some columns) = .ok p) : c.field ∈ columns := by
  obtain ⟨_, hcheck, -⟩ := exists_of_bind_eq_ok h
  rw [checkColumn] at hcheck
  split at hcheck
  · next hmem => exact List.contains_iff_mem.mp hmem
  · cases hcheck

end Comparison

namespace Formula

variable {α β : Type} {ask : Formula → Except FormulaError α} {f : Formula}

-- ---------------------------------------------------------------------------
-- Leaves one by one
-- ---------------------------------------------------------------------------

/-- A question fails of a formula exactly if it fails of a leaf alone, and then as it does of the
first such leaf. -/
structure FailsByLeaves (ask : Formula → Except FormulaError α) (f : Formula) : Prop where
  fails : (∃ e, ask f = .error e) ↔ ∃ c ∈ f.leaves, ∃ e, ask (.leaf c) = .error e
  first : ∀ e, ask f = .error e ↔ ∃ before c after, f.leaves = before ++ c :: after ∧
    (∀ d ∈ before, ∃ x, ask (.leaf d) = .ok x) ∧ ask (.leaf c) = .error e

/-- What is made of an answer is of no account to the failures. -/
theorem FailsByLeaves.of_failAlike {ask' : Formula → Except FormulaError β}
    (halike : ∀ f, FailAlike (ask f) (ask' f)) (h : FailsByLeaves ask f) :
    FailsByLeaves ask' f := by
  have herror : ∀ f e, ask' f = .error e ↔ ask f = .error e := fun f e =>
    ((halike f).error_iff e).symm
  have hok : ∀ f, (∃ y, ask' f = .ok y) ↔ ∃ x, ask f = .ok x := by
    intro f
    have hf := halike f
    generalize ask f = x, ask' f = y at hf
    cases hf with
    | ok _ => exact ⟨fun _ => ⟨_, rfl⟩, fun _ => ⟨_, rfl⟩⟩
    | error e => exact ⟨fun ⟨_, h⟩ => (nomatch h), fun ⟨_, h⟩ => (nomatch h)⟩
  exact ⟨by simpa only [herror] using h.fails, by simpa only [herror, hok] using h.first⟩

theorem failsByLeaves_fold (leaf : Comparison → Except FormulaError α)
    (group : Conjunction → Bool → List α → α) (f : Formula) :
    FailsByLeaves (fold leaf group) f := by
  have herror := fun e => (fold_failAlike_leaves leaf group f).error_iff e
  refine ⟨⟨fun ⟨e, h⟩ => ?_, fun ⟨c, hc, e, h⟩ => ?_⟩, fun e => ?_⟩
  · obtain ⟨c, hc, hfails⟩ := leaf_of_fold_eq_error f h
    exact ⟨c, hc, e, hfails⟩
  · cases hf : f.fold leaf group with
    | error e' => exact ⟨e', rfl⟩
    | ok x =>
      obtain ⟨y, hy⟩ := leaf_of_fold_eq_ok f hf c hc
      exact nomatch hy.symm.trans h
  · rw [herror, mapM_eq_error_iff]
    rfl

-- ---------------------------------------------------------------------------
-- Known columns
-- ---------------------------------------------------------------------------

/-- Among known columns a formula has the query it has without them. -/
theorem query_of_known (style : PlaceholderStyle) {columns : List String}
    (h : ∀ n ∈ f.variableNames, n ∈ columns) :
    f.query style (some columns) = f.query style none := by
  have hcompile : f.compile (some columns) = f.compile none := by
    refine fold_congr f fun c hc => ?_
    rw [Comparison.compile_of_known (h _ (List.mem_map_of_mem hc))]
  rw [query, query, hcompile]

theorem known_of_query {style : PlaceholderStyle} {columns : List String}
    {q : String × List Value} (h : f.query style (some columns) = .ok q) :
    ∀ n ∈ f.variableNames, n ∈ columns := by
  intro n hn
  obtain ⟨c, hc, rfl⟩ := List.mem_map.mp hn
  cases hcompile : f.compile (some columns) with
  | error e =>
    rw [query, hcompile] at h
    cases h
  | ok p =>
    obtain ⟨y, hy⟩ := leaf_of_fold_eq_ok f hcompile c hc
    cases hleaf : c.compile (some columns) with
    | error e =>
      rw [hleaf] at hy
      cases hy
    | ok p => exact Comparison.known_of_compile hleaf

-- ---------------------------------------------------------------------------
-- Every question
-- ---------------------------------------------------------------------------

/-- Whether it is asked for its truth, its query or its description, a formula fails exactly if a
leaf alone does, with the error of the first such leaf. With known columns it has a query if its
variables are among them and it has one without, and that is the query. -/
theorem fails_as_first_leaf (f : Formula) :
    (∀ row, FailsByLeaves (fun f => f.isTrue row) f) ∧
    (∀ style columns, FailsByLeaves (query style columns) f) ∧
    FailsByLeaves describe f ∧
    ∀ style columns q, f.query style (some columns) = .ok q ↔
      (∀ n ∈ f.variableNames, n ∈ columns) ∧ f.query style none = .ok q := by
  refine ⟨fun row => failsByLeaves_fold _ _ f, fun style columns => ?_, failsByLeaves_fold _ _ f,
    fun style columns q => ⟨fun h => ?_, fun ⟨hknown, h⟩ => ?_⟩⟩
  · have hcompile : FailsByLeaves (fun f => f.compile columns) f := failsByLeaves_fold _ _ f
    exact hcompile.of_failAlike fun f => (FailAlike.refl _).map_right
  · have hknown := known_of_query h
    exact ⟨hknown, query_of_known style hknown ▸ h⟩
  · rw [query_of_known style hknown, h]

/-- The second leaf is the first that fails: without a row over its constant, with the columns known
over its variable. The description of the third fails alone. -/
example :
    let f : Formula := .or [.leaf ⟨"mark", .less, .integer, .single (.int 5)⟩,
      (Formula.and [.leaf ⟨"name", .equal, .integer, .single (.text "x")⟩]).negate,
      .leaf ⟨"seat", .between, .integer, .single (.int 1)⟩]
    f.isTrue none = .error (.invalidConstant "name" .integer "x") ∧
      f.query .percent (some ["mark"]) = .error (.unknownColumn "name") ∧
      f.describe = .error (.arity "seat" .between) := by
  decide +kernel

end Formula

end MailMerge
