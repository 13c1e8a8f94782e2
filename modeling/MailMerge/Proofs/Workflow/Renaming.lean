import MailMerge.Proofs.Letter.Renaming
import MailMerge.Proofs.Store.Renaming
import MailMerge.Proofs.Workflow.Names
import MailMerge.Workflow.Evaluate

/-!
# Carrying out an action after a column is renamed

Renaming a column in a workflow and in its table goes through everything a run of an action
does: the rows the filter selects, the names they are bound under, the conditions asked of
them, and the text rendered for them. What a run returns stays the same.
-/

namespace MailMerge

theorem Row.toContext_renamed {σ : String → String} (hσ : Function.Injective σ) (cells : Row)
    (names : List String) :
    cells.toContext (names.map σ) = (cells.toContext names).renamed σ := by
  rw [toContext, toContext, ← Context.ofEntries_renamed hσ, List.zip_map_left]
  rfl

-- ---------------------------------------------------------------------------
-- Conditions
-- ---------------------------------------------------------------------------

namespace Action

variable {old new : String} (a : Action)

theorem filterFormula?_rename :
    (a.rename old new).filterFormula? = a.filterFormula?.map (Formula.rename old new) := by
  have hfind : (a.rename old new).filter? = a.filter?.map (Condition.rename old new) :=
    List.find?_map
  rw [filterFormula?, hfind, filterFormula?]
  cases a.filter? <;> rfl

theorem flag_rename {row : Context} (hrow : row.contains new = false) {c : Condition}
    (hold : c.name ≠ old) (hnew : c.name ≠ new) {e : String × Value} (h : flag row c = .ok e) :
    flag (row.renamed (Equiv.swap old new)) (c.rename old new)
      = .ok (Equiv.swap old new e.1, e.2) := by
  cases hb : c.formula.isTrue (some row) with
  | error e => rw [flag, hb] at h; cases h
  | ok b =>
    rw [flag, hb] at h
    cases h
    have hfields : ∀ d ∈ c.formula.leaves, d.field ≠ new := by
      intro d hd heq
      have hcontains := Formula.contains_of_isTrue_eq_ok hb d hd
      rw [heq, hrow] at hcontains
      cases hcontains
    have htrue : (c.rename old new).formula.isTrue (some (row.renamed (Equiv.swap old new)))
        = .ok b := by
      rw [Condition.rename, Formula.rename_eq_renamed hfields,
        Formula.isTrue_renamed (Equiv.injective _), hb]
      rfl
    rw [flag, htrue, Equiv.swap_apply_of_ne_of_ne hold hnew]
    rfl

end Action

-- ---------------------------------------------------------------------------
-- Rows
-- ---------------------------------------------------------------------------

/-- Options that name the key column by its new name. -/
def EvaluateOptions.rename (old new : String) (options : EvaluateOptions) : EvaluateOptions :=
  { options with keyColumn := options.keyColumn.map fun k => if k == old then new else k }

namespace Workflow

variable {old new : String} {w w' : Workflow}

theorem rowContext_eq_ok {a : Action} {row c : Context} (h : w.rowContext a row = .ok c) :
    ∃ flags, a.namedConditions.mapM (Action.flag row) = .ok flags ∧
      c = (row.insertAll flags).insertAll w.attributes := by
  cases hflags : a.namedConditions.mapM (Action.flag row) with
  | error e => rw [rowContext, hflags] at h; cases h
  | ok flags =>
    rw [rowContext, hflags] at h
    cases h
    exact ⟨flags, rfl, rfl⟩

theorem distinct_of_rowContext {a : Action} {row c : Context} (hrow : row.Distinct)
    (h : w.rowContext a row = .ok c) : c.Distinct := by
  obtain ⟨flags, -, rfl⟩ := rowContext_eq_ok h
  exact (hrow.insertAll flags).insertAll w.attributes

/-- What a row binds stays bound when flags and attributes are put over it. -/
theorem contains_of_rowContext {a : Action} {row c : Context} {n : String}
    (hn : row.contains n = true) (h : w.rowContext a row = .ok c) : c.contains n = true := by
  obtain ⟨flags, -, rfl⟩ := rowContext_eq_ok h
  rw [Context.contains_iff_mem_names] at hn ⊢
  exact Context.mem_names_insertAll.mpr (.inr (Context.mem_names_insertAll.mpr (.inr hn)))

theorem contains_toContext {cells : Row} {names : List String} (h : cells.length = names.length)
    (n : String) : (cells.toContext names).contains n = names.contains n := by
  have hnames : (names.zip cells).map (·.1) = names := List.map_fst_zip (Nat.le_of_eq h.symm)
  rw [Bool.eq_iff_iff, Context.contains_iff_mem_names, List.contains_iff_mem, Row.toContext,
    Context.ofEntries, Context.mem_names_insertAll, hnames]
  simp

namespace Renames

variable (h : Renames old new w w')
include h

theorem ne_old_of_attribute {e : String × Value} (he : e ∈ w.attributes) : e.1 ≠ old :=
  fun heq => h.named.attributes e he (heq ▸ h.isColumn)

theorem attributes_renamed : w'.attributes = w.attributes.renamed (Equiv.swap old new) := by
  rw [h.attributes, Context.renamed]
  refine ((List.map_congr_left fun e he => ?_).trans (List.map_id _)).symm
  have hnew : e.1 ≠ new := fun heq =>
    h.fresh (heq ▸ List.mem_append_right _ (List.mem_map_of_mem he))
  rw [Equiv.swap_apply_of_ne_of_ne (h.ne_old_of_attribute he) hnew]
  rfl

theorem rowContext_rename {a : Action} (ha : a ∈ w.actions)
    (hconditions : ∀ c ∈ a.conditions, c.name ≠ new) {row c : Context}
    (hrow : row.contains new = false) (hc : w.rowContext a row = .ok c) :
    w'.rowContext (a.rename old new) (row.renamed (Equiv.swap old new))
      = .ok (c.renamed (Equiv.swap old new)) := by
  have hσ : Function.Injective (Equiv.swap old new) := Equiv.injective _
  have hflag : ∀ d ∈ a.namedConditions, ∀ e, Action.flag row d = .ok e →
      Action.flag (row.renamed (Equiv.swap old new)) (d.rename old new)
        = .ok (Equiv.swap old new e.1, e.2) := by
    intro d hd e he
    have hold : d.name ≠ old := fun heq =>
      h.named.conditions a ha d hd (heq ▸ List.mem_append_left _ h.isColumn)
    exact Action.flag_rename hrow hold (hconditions d (List.mem_of_mem_filter hd)) he
  obtain ⟨flags, hflags, rfl⟩ := rowContext_eq_ok hc
  have hflags' : (a.rename old new).namedConditions.mapM
      (Action.flag (row.renamed (Equiv.swap old new)))
        = .ok (Context.renamed (Equiv.swap old new) flags) := by
    rw [a.namedConditions_rename]
    exact mapM_map_eq_ok hflag hflags
  rw [rowContext, hflags', h.attributes_renamed]
  simp only [bind, Except.bind, pure, Except.pure, Context.insertAll_renamed hσ]

theorem keyColumn?_rename {options : EvaluateOptions} (hkey : options.keyColumn ≠ some new) :
    w'.keyColumn? (options.rename old new)
      = (w.keyColumn? options).map (Equiv.swap old new) := by
  rw [keyColumn?, keyColumn?, EvaluateOptions.rename]
  cases hk : options.keyColumn with
  | none => rfl
  | some k =>
    have hnew : k ≠ new := fun heq => hkey (by rw [hk, heq])
    have hswap : (if k == old then new else k) = Equiv.swap old new k := by
      by_cases hold : k = old
      · rw [if_pos (beq_iff_eq.mpr hold), hold, Equiv.swap_apply_left]
      · rw [if_neg (mt beq_iff_eq.mp hold), Equiv.swap_apply_of_ne_of_ne hold hnew]
    have hcontains : w'.columnNames.contains (Equiv.swap old new k) = w.columnNames.contains k := by
      rw [h.columns, Bool.eq_iff_iff, List.contains_iff_mem, List.contains_iff_mem,
        List.mem_map_of_injective (Equiv.injective _)]
    rw [Option.map_some, hswap, Option.filter_some, Option.filter_some, hcontains]
    split <;> rfl

theorem toContext_rename (cells : Row) :
    cells.toContext w'.columnNames
      = (cells.toContext w.columnNames).renamed (Equiv.swap old new) := by
  rw [h.columns, Row.toContext_renamed (Equiv.injective _)]

/-- The value of the key in a row is the same by either name. -/
theorem keyValue_rename {options : EvaluateOptions} (hkey : options.keyColumn ≠ some new)
    (cells : Row) :
    (w'.keyColumn? (options.rename old new)).bind
        ((cells.toContext w.columnNames).renamed (Equiv.swap old new)).get?
      = (w.keyColumn? options).bind (cells.toContext w.columnNames).get? := by
  rw [h.keyColumn?_rename hkey]
  cases w.keyColumn? options with
  | none => rfl
  | some k => exact Context.get?_renamed (Equiv.injective _) _ k

theorem evaluateRow_rename {a : Action} (ha : a ∈ w.actions)
    (hconditions : ∀ c ∈ a.conditions, c.name ≠ new) {l : Letter} (hcontent : a.content = l.text)
    (hl : l.All Render.Sendable Render.Sendable) (hnew : Render.Sendable new)
    (hunused : new ∉ Reference.names a.content) {options : EvaluateOptions}
    (hkey : options.keyColumn ≠ some new) (hsubject : options.subject = none) {cells : Row}
    (hcells : cells.length = w.columnNames.length) {r : Option RenderedRecord}
    (hr : w.evaluateRow a options cells = .ok r) :
    w'.evaluateRow (a.rename old new) (options.rename old new) cells = .ok r := by
  have hfresh : (cells.toContext w.columnNames).contains new = false := by
    rw [contains_toContext hcells]
    simpa using fun hmem => h.fresh (List.mem_append_left _ hmem)
  have hoptions : (options.rename old new).subject = none := hsubject
  unfold evaluateRow at hr ⊢
  simp only [h.toContext_rename, h.keyValue_rename hkey, hsubject, hoptions] at hr ⊢
  change (if (((w.keyColumn? options).bind (cells.toContext w.columnNames).get?).any fun v =>
    options.excluded.contains v.exclusionKey) = true then _ else _) = _
  split at hr
  · next hexcluded =>
    rw [if_pos hexcluded]
    exact hr
  · next hexcluded =>
    rw [if_neg hexcluded]
    cases hcontext : w.rowContext a (cells.toContext w.columnNames) with
    | error e => rw [hcontext] at hr; cases hr
    | ok c =>
      have hdistinct : c.Distinct := distinct_of_rowContext (Context.distinct_ofEntries _) hcontext
      have hold : c.contains old = true := by
        refine contains_of_rowContext ?_ hcontext
        rw [contains_toContext hcells]
        exact List.contains_iff_mem.mpr h.isColumn
      have hcontext' := h.rowContext_rename ha hconditions hfresh hcontext
      cases hbody : Render.renderAction options.render a.content c a.toDatum with
      | error e => simp [hcontext, hbody, Except.mapError, bind, Except.bind] at hr
      | ok body =>
        have hbody' : Render.renderAction (options.rename old new).render
            (a.rename old new).content (c.renamed (Equiv.swap old new))
            (a.rename old new).toDatum = .ok body := by
          have hrename : (a.rename old new).content = Reference.rename old new l.text :=
            congrArg (Reference.rename old new) hcontent
          rw [hcontent] at hbody hunused
          rw [hrename]
          exact Render.renderAction_rename _ hl hunused hnew hdistinct hold _ _ hbody
        simp only [hcontext, hbody, Except.mapError, bind, Except.bind] at hr
        simp only [hcontext', hbody', Except.mapError, bind, Except.bind]
        exact hr

/-- The filter of an action selects the same rows of the renamed table. -/
theorem rows_rename {a : Action} {s s' : Store} (hstore : s.renameColumn w.id old new = .ok s')
    (hold : Table.numbers old = false) (hnew : Table.numbers new = false) {rows : List Row}
    (hrows : s.rows w.id a.filterFormula? w.columnNames = .ok rows) :
    s'.rows w'.id (a.rename old new).filterFormula? w'.columnNames = .ok rows := by
  obtain ⟨t, ht, holdMem, hnewMem, rfl⟩ := Store.renameColumn_eq_ok hstore
  have hnumbers : ∀ n ∈ t.names, Table.numbers (Equiv.swap old new n) = Table.numbers n := by
    intro n hn
    have hne : n ≠ new := fun heq => hnewMem (heq ▸ hn)
    by_cases h : n = old
    · rw [h, Equiv.swap_apply_left, hold, hnew]
    · rw [Equiv.swap_apply_of_ne_of_ne h hne]
  have hfilter : a.filterFormula?.map (Formula.rename old new)
      = a.filterFormula?.map (Formula.renamed (Equiv.swap old new)) := by
    obtain ⟨t', p, ht', -, hp, -, -⟩ := Store.rows_eq_ok hrows
    cases ht.symm.trans ht'
    rcases Store.compileFilter_eq_ok hp with ⟨hnone, -⟩ | ⟨f, hsome, hf⟩
    · rw [hnone]
      rfl
    · rw [hsome, Option.map_some, Option.map_some, Formula.rename_eq_renamed]
      exact fun c hc heq => hnewMem (heq ▸ Formula.mem_of_compile_eq_ok hf c hc)
  rw [h.id, h.columns, a.filterFormula?_rename, hfilter]
  exact Store.rows_renamed s w.id (Equiv.injective _) hnumbers ht hrows

end Renames

-- ---------------------------------------------------------------------------
-- Runs
-- ---------------------------------------------------------------------------

/-- Renaming a column in a workflow and in its table leaves what a run returns as it is, if
the key is not asked for by the new name before there is such a column. -/
theorem evaluate_rename (hw : w.validate = .ok ()) {a : Action} (ha : a ∈ w.actions)
    {l : Letter} (hcontent : a.content = l.text) (hl : l.All Render.Sendable Render.Sendable)
    (hisColumn : old ∈ w.columnNames) (hnew : Render.Sendable new)
    (hconditions : ∀ b ∈ w.actions, ∀ c ∈ b.conditions, c.name ≠ new)
    (hunused : new ∉ Reference.names a.content) (hold : Table.sameName old "rowid" = false)
    (hnewRow : Table.sameName new "rowid" = false) {options : EvaluateOptions}
    (hsubject : options.subject = none) (hkey : options.keyColumn ≠ some new) {s s' : Store}
    {records : List RenderedRecord} (hrun : w.evaluate a s options = .ok records)
    (hrename : w.rename old new = .ok w') (hstore : s.renameColumn w.id old new = .ok s') :
    w'.actions = w.actions.map (Action.rename old new) ∧
      w'.evaluate (a.rename old new) s' (options.rename old new) = .ok records := by
  have hne : old ≠ new := by
    obtain ⟨t, -, holdMem, hnewMem, -⟩ := Store.renameColumn_eq_ok hstore
    exact fun heq => hnewMem (heq ▸ holdMem)
  have h : Renames old new w w' := renames_of_rename (named_of_validate hw) hne hisColumn hrename
  refine ⟨h.actions, ?_⟩
  cases hrows : s.rows w.id a.filterFormula? w.columnNames with
  | error e => simp [evaluate, ofStore, hrows, Except.mapError, bind, Except.bind] at hrun
  | ok rows =>
    simp only [evaluate, ofStore, hrows, Except.mapError, bind, Except.bind] at hrun
    cases heach : rows.mapM (w.evaluateRow a options) with
    | error e => rw [heach] at hrun; cases hrun
    | ok rs =>
      have heach' : (rows.map fun cells => cells).mapM
          (w'.evaluateRow (a.rename old new) (options.rename old new))
            = .ok (rs.map fun r => r) := by
        refine mapM_map_eq_ok (fun cells hcells r hr => ?_) heach
        exact h.evaluateRow_rename ha (hconditions a ha) hcontent hl hnew hunused hkey hsubject
          (Store.length_of_mem_rows hrows cells hcells) hr
      rw [List.map_id', List.map_id'] at heach'
      rw [heach] at hrun
      simp only [evaluate, ofStore, h.rows_rename hstore hold hnewRow hrows, Except.mapError, bind,
        Except.bind, heach']
      exact hrun

-- ---------------------------------------------------------------------------
-- A workflow with marks
-- ---------------------------------------------------------------------------

/-- A letter about a mark, if it is good enough. -/
def markLetter : Letter :=
  .ofText "Dear " <| .reference "first name" <|
    .condition "passed" (.ofText ", " (.reference "mark" .done))
      (.always (.ofText ", see you" .done)) <| .ofText " in " <| .reference "course" .done

def markColumns : List Column := [⟨"first name", .string, true⟩, ⟨"mark", .integer, false⟩]

/-- The letter goes to whoever has a mark. The filter may be called like a column. -/
def markAction : Action where
  name := "note"
  content := markLetter.text
  conditions :=
    [{ name := "mark", formula := .leaf ⟨"mark", .isNotNull, .integer, .none⟩, isFilter := true },
     { name := "passed",
       formula := .leaf ⟨"mark", .greaterOrEqual, .integer, .single (.text "5")⟩ }]

def markWorkflow : Workflow where
  id := 1
  columns := markColumns
  attributes := [("course", .text "Logic")]
  actions := [markAction]

def markTable : Table where
  columns := markColumns
  rows :=
    [[.text "Ann", .int 7], [.text "Bob", .null], [.text "Eve", .int 3], [.text "Max", .int 9]]

def markStore : Store := ⟨[(1, markTable)]⟩

/-- The workflow with its marks called otherwise. -/
def finalWorkflow : Workflow :=
  { markWorkflow with
    columns := [⟨"first name", .string, true⟩, ⟨"final mark", .integer, false⟩]
    actions := [markAction.rename "mark" "final mark"] }

def finalStore : Store := markStore.put 1 (markTable.renameColumn "mark" "final mark")

/-- The run asks for the mark as the key and passes one over. -/
def markOptions : EvaluateOptions where
  keyColumn := some "mark"
  excluded := ["9"]

def markRecords : List RenderedRecord :=
  [{ body := "Dear Ann, 7 in Logic", key := some (.int 7) },
   { body := "Dear Eve, see you in Logic", key := some (.int 3) }]

theorem evaluate_rename_mark :
    (markWorkflow.validate = .ok () ∧ markAction ∈ markWorkflow.actions ∧
      markAction.content = markLetter.text ∧
      markLetter.All Render.Sendable Render.Sendable ∧ "mark" ∈ markWorkflow.columnNames ∧
      Render.Sendable "final mark" ∧
      (∀ b ∈ markWorkflow.actions, ∀ c ∈ b.conditions, c.name ≠ "final mark") ∧
      "final mark" ∉ Reference.names markAction.content ∧
      Table.sameName "mark" "rowid" = false ∧ Table.sameName "final mark" "rowid" = false ∧
      markOptions.subject = none ∧ markOptions.keyColumn ≠ some "final mark" ∧
      markWorkflow.evaluate markAction markStore markOptions = .ok markRecords ∧
      markWorkflow.rename "mark" "final mark" = .ok finalWorkflow ∧
      markStore.renameColumn markWorkflow.id "mark" "final mark" = .ok finalStore) ∧
    finalWorkflow.actions = markWorkflow.actions.map (Action.rename "mark" "final mark") ∧
      finalWorkflow.evaluate (markAction.rename "mark" "final mark") finalStore
        (markOptions.rename "mark" "final mark") = .ok markRecords := by
  have hvalid : markWorkflow.validate = .ok () := by decide +kernel
  have haction : markAction ∈ markWorkflow.actions := List.mem_singleton_self _
  have hletter : markLetter.All Render.Sendable Render.Sendable := by decide +kernel
  have hcolumn : "mark" ∈ markWorkflow.columnNames := by decide +kernel
  have hname : Render.Sendable "final mark" := by decide +kernel
  have hconditions : ∀ b ∈ markWorkflow.actions, ∀ c ∈ b.conditions, c.name ≠ "final mark" := by
    decide +kernel
  have hunused : "final mark" ∉ Reference.names markAction.content := by
    rw [Reference.mem_names_iff]
    decide +kernel
  have hold : Table.sameName "mark" "rowid" = false := by decide +kernel
  have hnew : Table.sameName "final mark" "rowid" = false := by decide +kernel
  have hkey : markOptions.keyColumn ≠ some "final mark" := by decide +kernel
  have hrun : markWorkflow.evaluate markAction markStore markOptions = .ok markRecords := by
    decide +kernel
  have hrename : markWorkflow.rename "mark" "final mark" = .ok finalWorkflow := rfl
  have hstore : markStore.renameColumn markWorkflow.id "mark" "final mark" = .ok finalStore := rfl
  exact ⟨⟨hvalid, haction, rfl, hletter, hcolumn, hname, hconditions, hunused, hold, hnew, rfl,
      hkey, hrun, hrename, hstore⟩,
    evaluate_rename hvalid haction rfl hletter hcolumn hname hconditions hunused hold hnew rfl
      hkey hrun hrename hstore⟩

/-- A key asked for by the new name is no column at first and is passed over in silence;
afterwards it is there. -/
theorem evaluate_rename_newKey :
    markWorkflow.evaluate markAction markStore { keyColumn := some "final mark" }
      = .ok [{ body := "Dear Ann, 7 in Logic" }, { body := "Dear Eve, see you in Logic" },
          { body := "Dear Max, 9 in Logic" }] ∧
    markWorkflow.validate = .ok () ∧ markLetter.All Render.Sendable Render.Sendable ∧
    Render.Sendable "final mark" ∧
    markWorkflow.rename "mark" "final mark" = .ok finalWorkflow ∧
    markStore.renameColumn 1 "mark" "final mark" = .ok finalStore ∧
    finalWorkflow.evaluate (markAction.rename "mark" "final mark") finalStore
        (EvaluateOptions.rename "mark" "final mark" { keyColumn := some "final mark" })
      = .ok [{ body := "Dear Ann, 7 in Logic", key := some (.int 7) },
          { body := "Dear Eve, see you in Logic", key := some (.int 3) },
          { body := "Dear Max, 9 in Logic", key := some (.int 9) }] := by
  refine ⟨?_, ?_, ?_, ?_, rfl, rfl, ?_⟩ <;> decide +kernel

end Workflow

end MailMerge
