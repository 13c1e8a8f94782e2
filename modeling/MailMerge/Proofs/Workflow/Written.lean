import MailMerge.Workflow.Document
import MailMerge.Proofs.Formula.RuleBuilder.Written
import MailMerge.Proofs.Instant.Years
import MailMerge.Proofs.Traversal
import Mathlib.Data.List.Induction

/-!
# Written workflows

A workflow is read back from the text it is written as: what a field leaves out is its default,
and no field is taken for another. The parts come first, from the inside out: formulas in
conditions, conditions and form columns in actions, actions, columns and attributes in the
workflow.
-/

namespace MailMerge

-- ---------------------------------------------------------------------------
-- Entries in order
-- ---------------------------------------------------------------------------

namespace Sorted

variable {α : Type} {es : List (String × α)}

/-- Whether entries stand in the order of their names, no name twice. -/
def InOrder (es : List (String × α)) : Prop :=
  es.Pairwise fun e f => Text.order e.1.toList f.1.toList = .lt

instance : Decidable (InOrder es) :=
  inferInstanceAs (Decidable (es.Pairwise fun e f => Text.order e.1.toList f.1.toList = .lt))

theorem insert_eq_append {e : String × α}
    (h : ∀ f ∈ es, Text.order f.1.toList e.1.toList = .lt) : insert e es = es ++ [e] := by
  induction es with
  | nil => rfl
  | cons f fs ih =>
    rw [List.forall_mem_cons] at h
    have hafter : Text.order e.1.toList f.1.toList = .gt := by
      rw [← Text.order_swap, h.1]
      rfl
    rw [insert, hafter, ih h.2]
    rfl

/-- Entries in order stay as they are. -/
theorem ofEntries_eq_self (h : InOrder es) : ofEntries es = es := by
  -- From the end, since every entry is put behind those before it.
  induction es using List.reverseRecOn with
  | nil => rfl
  | append_singleton es e ih =>
    obtain ⟨hes, -, hlast⟩ := List.pairwise_append.mp h
    have hbefore := ih hes
    rw [ofEntries] at hbefore ⊢
    rw [List.foldl_append, hbefore]
    exact insert_eq_append fun f hf => hlast f hf e (List.mem_singleton_self e)

end Sorted

-- ---------------------------------------------------------------------------
-- Documents
-- ---------------------------------------------------------------------------

namespace Document

theorem exactItems_iff {ds : List Document} : ExactItems ds ↔ ∀ d ∈ ds, d.Exact := by
  induction ds with
  | nil => exact ⟨fun _ => List.forall_mem_nil _, fun _ => trivial⟩
  | cons d ds ih => rw [ExactItems, ih, List.forall_mem_cons]

theorem exactFields_iff {fs : List (String × Document)} :
    ExactFields fs ↔ ∀ f ∈ fs, f.2.Exact := by
  induction fs with
  | nil => exact ⟨fun _ => List.forall_mem_nil _, fun _ => trivial⟩
  | cons f fs ih => rw [ExactFields, ih, List.forall_mem_cons]

theorem exact_list {ds : List Document} (h : ∀ d ∈ ds, d.Exact) : (list ds).Exact :=
  exactItems_iff.mpr h

theorem exact_record {fs : List (String × Document)} (h : ∀ f ∈ fs, f.2.Exact) :
    (record fs).Exact :=
  exactFields_iff.mpr h

mutual

/-- A document without unquoted scalars and tags has nothing to resolve. -/
theorem resolve?_eq_self {scalar? : String → Option Scalar} (d : Document) (h : d.Exact) :
    d.resolve? scalar? = some d := by
  match d, h with
  | .scalar v, _ => rfl
  | .list ds, h => rw [resolve?, resolveItems?_eq_self ds h, Option.map_some]
  | .record fs, h => rw [resolve?, resolveFields?_eq_self fs h, Option.map_some]

theorem resolveItems?_eq_self {scalar? : String → Option Scalar} (ds : List Document)
    (h : ExactItems ds) : resolveItems? scalar? ds = some ds := by
  match ds, h with
  | [], _ => rfl
  | d :: ds, ⟨hd, hds⟩ =>
    rw [resolveItems?, resolve?_eq_self d hd, resolveItems?_eq_self ds hds]
    rfl

theorem resolveFields?_eq_self {scalar? : String → Option Scalar} (fs : List (String × Document))
    (h : ExactFields fs) : resolveFields? scalar? fs = some fs := by
  match fs, h with
  | [], _ => rfl
  | f :: fs, ⟨hf, hfs⟩ =>
    rw [resolveFields?, resolve?_eq_self f.2 hf, resolveFields?_eq_self fs hfs]
    rfl

end

/-- A list is read back if its items are. -/
theorem listOf?_map {α : Type} {read : Document → Option α} {write : α → Document} {xs : List α}
    (h : ∀ x ∈ xs, read (write x) = some x) : listOf? read (.list (xs.map write)) = some xs := by
  change (xs.map write).mapM read = some xs
  rw [mapM_eq_some_iff, List.forall₂_map_left_iff, List.forall₂_same]
  exact h

theorem intWithin?_int {least most i : Int} (hleast : least ≤ i) (hmost : i ≤ most) :
    intWithin? least most (.int i) = some i := by
  change (if least ≤ i ∧ i ≤ most then some i else none) = some i
  rw [if_pos ⟨hleast, hmost⟩]

theorem int64?_toInt (i : Int64) : int64? (.int i.toInt) = some i := by
  have hlow : -2 ^ 63 ≤ i.toInt := i.le_toInt
  have hhigh : i.toInt < 2 ^ 63 := i.toInt_lt
  rw [int64?, intWithin?_int hlow (by omega), Option.map_some, Int64.ofInt_toInt]

end Document

-- ---------------------------------------------------------------------------
-- Conditions
-- ---------------------------------------------------------------------------

theorem Formula.ofDocument_toDocument {f : Formula} (h : ∀ c ∈ f.leaves, c.Storable)
    (hnull : ∀ c ∈ f.leaves, c.operand ≠ .single .null) : ofDocument f.toDocument = .ok f := by
  have hfind : (f.leaves.find? fun c => c.operand == .single .null) = none := by
    simpa using hnull
  rw [ofDocument, ofDocument?_toDocument f fun c hc => (h c hc).kept]
  change f.toNode.toFormula = .ok f
  rw [toFormula_toNode f h, unlessNull, hfind]

namespace Condition

/-- Whether a condition can be read back: its formula can, and its count is one of 64 bits. -/
structure Storable (c : Condition) : Prop where
  leaves : ∀ l ∈ c.formula.leaves, l.Storable
  noNull : ∀ l ∈ c.formula.leaves, l.operand ≠ .single .null
  counted : ∀ n ∈ c.selectedRows, n < 2 ^ 64

variable {c : Condition}

theorem Storable.exact_formula (h : c.Storable) : c.formula.toDocument.Exact :=
  c.formula.exact_toDocument fun l hl => (h.leaves l hl).kept

theorem Storable.formulaOf? (h : c.Storable) :
    formulaOf? c.formula.toDocument = some c.formula := by
  rw [Condition.formulaOf?, Document.resolve?_eq_self _ h.exact_formula]
  change (Formula.ofDocument c.formula.toDocument).toOption = _
  rw [Formula.ofDocument_toDocument h.leaves h.noNull]
  rfl

theorem countOf?_int {n : Nat} (h : n < 2 ^ 64) : countOf? (.int n) = some (some n) := by
  have hnull : (Document.int n).isNull = false := rfl
  rw [countOf?, hnull, Document.intWithin?_int (by omega) (by omega)]
  rfl

/-- The fields a condition is written with. -/
def toFields (c : Condition) : List (String × Document) :=
  [("name", .text c.name)] ++ textField "description_text" c.description
    ++ [("formula", c.formula.toDocument), ("is_filter", .bool c.isFilter)]
    ++ match c.selectedRows with
      | some n => [("n_rows_selected", .int n)]
      | none => []

theorem toDocument_eq (c : Condition) : c.toDocument = .record c.toFields := rfl

theorem fields?_toDocument (c : Condition) :
    c.toDocument.fields? .json fieldNames = some c.toFields := by
  obtain ⟨name, description, formula, isFilter, selectedRows⟩ := c
  rw [toDocument_eq, toFields, textField]
  cases description.isEmpty <;> cases selectedRows <;> rfl

/-- A text is read back from its field, or from there being none. -/
theorem optional?_description (c : Condition) :
    Document.Fields.optional? c.toFields "description_text" "" Document.text?
      = some c.description := by
  obtain ⟨name, description, formula, isFilter, selectedRows⟩ := c
  rw [toFields, textField]
  cases hempty : description.isEmpty with
  | true =>
    rw [String.isEmpty_iff.mp hempty]
    cases selectedRows <;> rfl
  | false => cases selectedRows <;> rfl

theorem Storable.optional?_selectedRows (h : c.Storable) :
    Document.Fields.optional? c.toFields "n_rows_selected" none countOf?
      = some c.selectedRows := by
  have hcounted := h.counted
  obtain ⟨name, description, formula, isFilter, selectedRows⟩ := c
  rw [toFields, textField]
  cases selectedRows with
  | none => cases description.isEmpty <;> rfl
  | some n => cases description.isEmpty <;> exact countOf?_int (hcounted n rfl)

theorem Storable.ofDocument?_toDocument (h : c.Storable) :
    ofDocument? .json c.toDocument = some c := by
  have hname : Document.Fields.required? c.toFields "name" Document.text? = some c.name := rfl
  have hformula : Document.Fields.required? c.toFields "formula" Condition.formulaOf?
      = some c.formula := by
    rw [← h.formulaOf?, toFields, textField]
    cases c.description.isEmpty <;> rfl
  have hfilter : Document.Fields.optional? c.toFields "is_filter" false Document.bool?
      = some c.isFilter := by
    rw [toFields, textField]
    cases c.description.isEmpty <;> rfl
  rw [ofDocument?, fields?_toDocument]
  simp only [Option.bind_eq_bind, Option.bind_some, hname, optional?_description, hformula,
    hfilter, h.optional?_selectedRows]

theorem Storable.exact_toDocument (h : c.Storable) : c.toDocument.Exact := by
  refine Document.exact_record fun f hf => ?_
  change f ∈ c.toFields at hf
  have hformula := h.exact_formula
  have hcounted := h.counted
  rw [toFields, textField] at hf
  simp only [List.mem_append, List.mem_cons, List.not_mem_nil, or_false] at hf
  rcases hf with ((rfl | hf) | rfl | rfl) | hf
  · trivial
  · split at hf
    · exact absurd hf List.not_mem_nil
    · rw [List.mem_singleton] at hf
      rw [hf]
      trivial
  · exact hformula
  · trivial
  · split at hf
    next n hn =>
      rw [List.mem_singleton] at hf
      have hn := hcounted n hn
      rw [hf]
      constructor <;> omega
    next => exact absurd hf List.not_mem_nil

end Condition

-- ---------------------------------------------------------------------------
-- Actions
-- ---------------------------------------------------------------------------

theorem ActionKind.ofDocument?_name (k : ActionKind) :
    ofDocument? .json (.text k.name) = some k := by
  cases k <;> rfl

theorem ActionColumn.ofDocument?_toDocument (c : ActionColumn) :
    ofDocument? .json c.toDocument = some c := rfl

theorem ActionColumn.exact_toDocument (c : ActionColumn) : c.toDocument.Exact :=
  ⟨trivial, trivial, trivial⟩

namespace Action

/-- The fields an action is written with. -/
def toFields (a : Action) : List (String × Document) :=
  [("name", .text a.name), ("action_type", .text a.kind.name), ("content", .text a.content)]
    ++ Condition.textField "description_text" a.description
    ++ [("conditions", .list (a.conditions.map Condition.toDocument))]
    ++ if a.columns.isEmpty then []
      else [("columns", .list (a.columns.map ActionColumn.toDocument))]

theorem toDocument_eq (a : Action) : a.toDocument = .record a.toFields := rfl

theorem fields?_toDocument (a : Action) :
    a.toDocument.fields? .json fieldNames = some a.toFields := by
  rw [toDocument_eq, toFields, Condition.textField]
  cases a.description.isEmpty <;> cases a.columns.isEmpty <;> rfl

theorem optional?_description (a : Action) :
    Document.Fields.optional? a.toFields "description_text" "" Document.text?
      = some a.description := by
  rw [toFields, Condition.textField]
  cases hempty : a.description.isEmpty with
  | true =>
    rw [String.isEmpty_iff.mp hempty]
    cases a.columns.isEmpty <;> rfl
  | false => cases a.columns.isEmpty <;> rfl

theorem optional?_columns (a : Action) :
    Document.Fields.optional? a.toFields "columns" []
      (Document.listOf? (ActionColumn.ofDocument? .json)) = some a.columns := by
  have hlist : Document.listOf? (ActionColumn.ofDocument? .json)
      (.list (a.columns.map ActionColumn.toDocument)) = some a.columns :=
    Document.listOf?_map fun c _ => c.ofDocument?_toDocument
  rw [toFields, Condition.textField]
  cases hempty : a.columns.isEmpty with
  | true =>
    rw [List.isEmpty_iff.mp hempty]
    cases a.description.isEmpty <;> rfl
  | false =>
    rw [← hlist]
    cases a.description.isEmpty <;> rfl

variable {a : Action}

theorem ofDocument?_toDocument (h : ∀ c ∈ a.conditions, c.Storable) :
    ofDocument? .json a.toDocument = some a := by
  have hname : Document.Fields.required? a.toFields "name" Document.text? = some a.name := rfl
  have hkind : Document.Fields.optional? a.toFields "action_type" .out
      (ActionKind.ofDocument? .json) = some a.kind := ActionKind.ofDocument?_name a.kind
  have hcontent : Document.Fields.optional? a.toFields "content" "" Document.text?
      = some a.content := rfl
  have hconditions : Document.Fields.optional? a.toFields "conditions" []
      (Document.listOf? (Condition.ofDocument? .json)) = some a.conditions := by
    have hlist : Document.listOf? (Condition.ofDocument? .json)
        (.list (a.conditions.map Condition.toDocument)) = some a.conditions :=
      Document.listOf?_map fun c hc => (h c hc).ofDocument?_toDocument
    rw [← hlist, toFields, Condition.textField]
    cases a.description.isEmpty <;> rfl
  rw [ofDocument?, fields?_toDocument]
  simp only [Option.bind_eq_bind, Option.bind_some, hname, hkind, hcontent, optional?_description,
    hconditions, optional?_columns]

theorem exact_toDocument (h : ∀ c ∈ a.conditions, c.Storable) : a.toDocument.Exact := by
  refine Document.exact_record fun f hf => ?_
  change f ∈ a.toFields at hf
  have hconditions : (Document.list (a.conditions.map Condition.toDocument)).Exact :=
    Document.exact_list (List.forall_mem_map.mpr fun c hc => (h c hc).exact_toDocument)
  have hcolumns : (Document.list (a.columns.map ActionColumn.toDocument)).Exact :=
    Document.exact_list (List.forall_mem_map.mpr fun c _ => c.exact_toDocument)
  rw [toFields, Condition.textField] at hf
  simp only [List.mem_append, List.mem_cons, List.not_mem_nil, or_false] at hf
  rcases hf with (((rfl | rfl | rfl) | hf) | rfl) | hf
  · trivial
  · trivial
  · trivial
  · split at hf
    · exact absurd hf List.not_mem_nil
    · rw [List.mem_singleton] at hf
      rw [hf]
      trivial
  · exact hconditions
  · split at hf
    · exact absurd hf List.not_mem_nil
    · rw [List.mem_singleton] at hf
      rw [hf]
      exact hcolumns

end Action

-- ---------------------------------------------------------------------------
-- Workflows
-- ---------------------------------------------------------------------------

theorem Column.ofDocument?_toDocument (c : Column) : ofDocument? .json c.toDocument = some c := by
  obtain ⟨name, dataType, isKey⟩ := c
  cases dataType <;> rfl

theorem Column.exact_toDocument (c : Column) : c.toDocument.Exact :=
  ⟨trivial, trivial, trivial, trivial⟩

namespace Workflow

/-- Whether a workflow can be read back: its attributes stand in order, once each, and are no
doubles and no instants, and its conditions can be read back. -/
structure Storable (w : Workflow) : Prop where
  attributes : Sorted.InOrder w.attributes
  kept : ∀ e ∈ w.attributes, e.2.Kept
  conditions : ∀ a ∈ w.actions, ∀ c ∈ a.conditions, c.Storable

variable {w : Workflow}

theorem Storable.attributesOf? (h : w.Storable) :
    attributesOf? (.record (w.attributes.map fun e => (e.1, e.2.toDocument)))
      = some w.attributes := by
  have hentries : (w.attributes.map fun e => (e.1, e.2.toDocument)).mapM
      (fun e => do return (e.1, ← e.2.value?) : String × Document → Option (String × Value))
        = some w.attributes := by
    rw [mapM_eq_some_iff, List.forall₂_map_left_iff, List.forall₂_same]
    intro e he
    rw [Value.value?_toDocument (h.kept e he)]
    rfl
  rw [Workflow.attributesOf?]
  change Option.bind (List.mapM _ (w.attributes.map fun e => (e.1, e.2.toDocument))) _ = _
  rw [hentries]
  change some (Sorted.ofEntries w.attributes) = _
  rw [Sorted.ofEntries_eq_self h.attributes]

theorem Storable.ofDocument?_toDocument (h : w.Storable) :
    ofDocument? .json w.toDocument = some w := by
  have hcolumns : Document.listOf? (Column.ofDocument? .json)
      (.list (w.columns.map Column.toDocument)) = some w.columns :=
    Document.listOf?_map fun c _ => c.ofDocument?_toDocument
  have hactions : Document.listOf? (Action.ofDocument? .json)
      (.list (w.actions.map Action.toDocument)) = some w.actions :=
    Document.listOf?_map fun a ha => Action.ofDocument?_toDocument (h.conditions a ha)
  change (Document.int64? (.int w.id.toInt)).bind _ = _
  rw [Document.int64?_toInt]
  change (Document.listOf? (Column.ofDocument? .json)
    (.list (w.columns.map Column.toDocument))).bind _ = _
  rw [hcolumns]
  change (Workflow.attributesOf? (.record (w.attributes.map fun e => (e.1, e.2.toDocument)))).bind _
    = _
  rw [h.attributesOf?]
  change (Document.listOf? (Action.ofDocument? .json)
    (.list (w.actions.map Action.toDocument))).bind _ = _
  rw [hactions]
  rfl

theorem Storable.exact_toDocument (h : w.Storable) : w.toDocument.Exact := by
  have hid : -2 ^ 63 ≤ w.id.toInt ∧ w.id.toInt < 2 ^ 64 := by
    have hlow : -2 ^ 63 ≤ w.id.toInt := w.id.le_toInt
    have hhigh : w.id.toInt < 2 ^ 63 := w.id.toInt_lt
    omega
  have hcolumns : (Document.list (w.columns.map Column.toDocument)).Exact :=
    Document.exact_list (List.forall_mem_map.mpr fun c _ => c.exact_toDocument)
  have hattributes :
      (Document.record (w.attributes.map fun e => (e.1, e.2.toDocument))).Exact :=
    Document.exact_record (List.forall_mem_map.mpr fun e he => (h.kept e he).exact_toScalar)
  have hactions : (Document.list (w.actions.map Action.toDocument)).Exact :=
    Document.exact_list
      (List.forall_mem_map.mpr fun a ha => Action.exact_toDocument (h.conditions a ha))
  exact ⟨hid, trivial, hcolumns, hattributes, hactions, trivial⟩

/-- Reading undoes writing. -/
theorem ofText?_toText (h : w.Storable) (hdepth : w.toDocument.depth ≤ Json.maxDepth) :
    ofText? w.toText = some w := by
  rw [ofText?, toText, Json.read?_write h.exact_toDocument hdepth]
  exact h.ofDocument?_toDocument

/-- A letter with a filter that was counted and a condition that was not, and a form. -/
def course : Workflow where
  id := -7
  columns := [⟨"mark", .integer, false⟩, ⟨"e-mail", .string, true⟩]
  attributes := [("Zürich", .null), ("term", .text "\"2\"\n"), ("year", .int 2024)]
  actions :=
    [{ name := "note", content := "\x7b\x7b mark \x7d\x7d", conditions :=
        [{ name := "present", isFilter := true, selectedRows := some 0, formula := .group .or true
            [.leaf ⟨"mark", .between, .integer, .range (.int 1) (.text "6")⟩, .group .and false []] },
          { name := "passed", description := "4 or more",
            formula := .leaf ⟨"mark", .isNotNull, .integer, .none⟩ }] },
      { name := "", kind := .input, description := "a form",
        columns := [{ name := "mark" }, { name := "e-mail", isActive := false }] }]

theorem ofText?_toText_course :
    course.Storable ∧ course.toDocument.depth ≤ Json.maxDepth ∧
      ofText? course.toText = some course := by
  have hleaves : ∀ a ∈ course.actions, ∀ c ∈ a.conditions, ∀ l ∈ c.formula.leaves,
      l.Storable := by decide
  have hnull : ∀ a ∈ course.actions, ∀ c ∈ a.conditions, ∀ l ∈ c.formula.leaves,
      l.operand ≠ .single .null := by decide
  have hcounted : ∀ a ∈ course.actions, ∀ c ∈ a.conditions, ∀ n ∈ c.selectedRows,
      n < 2 ^ 64 := by decide
  have hstorable : course.Storable :=
    ⟨by decide, by decide, fun a ha c hc =>
      ⟨hleaves a ha c hc, hnull a ha c hc, hcounted a ha c hc⟩⟩
  have hdepth : course.toDocument.depth ≤ Json.maxDepth := by decide
  exact ⟨hstorable, hdepth, ofText?_toText hstorable hdepth⟩

end Workflow

end MailMerge
