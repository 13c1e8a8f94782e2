import MailMerge.Proofs.Store.Filled
import MailMerge.Proofs.Workflow.Renaming

/-!
# Merging a row with conditions and attributes

The rules about names are decided one by one, columns before attributes before actions. A
workflow that keeps them binds no name for a row from two sources: a later source hides nothing
of an earlier one, and the order of conditions does not show.
-/

namespace MailMerge

namespace Context

variable {c : Context} {n : String} {v : Value}

theorem get?_eq_none_iff : c.get? n = none ↔ n ∉ c.map (·.1) := by
  rw [← contains_iff_mem_names, contains, Bool.not_eq_true, Option.isSome_eq_false_iff,
    Option.isNone_iff_eq_none]

theorem mem_names_of_get? (h : c.get? n = some v) : n ∈ c.map (·.1) := by
  rw [← contains_iff_mem_names, contains, h]
  rfl

/-- Under distinct names an entry is what its name is bound to. -/
theorem Distinct.get?_eq_some_iff (hc : c.Distinct) : c.get? n = some v ↔ (n, v) ∈ c := by
  induction c with
  | nil => simp [get?]
  | cons e c ih =>
    obtain ⟨hfresh, hrest⟩ := List.nodup_cons.mp hc
    rw [get?_cons, List.mem_cons]
    by_cases h : n = e.1
    · subst h
      have hnotMem : (e.1, v) ∉ c := fun hmem =>
        hfresh (List.mem_map.mpr ⟨(e.1, v), hmem, rfl⟩)
      rw [if_pos rfl, Option.some.injEq, or_iff_left hnotMem, Prod.ext_iff]
      exact ⟨fun hv => ⟨rfl, hv.symm⟩, fun hv => hv.2.symm⟩
    · have hne : (n, v) ≠ e := fun heq => h (congrArg Prod.fst heq)
      rw [if_neg h, ih hrest]
      exact (or_iff_right hne).symm

/-- Entries of distinct names hide what there was, and nothing else. -/
theorem get?_insertAll {entries : Context} (h : entries.Distinct) (c : Context) (n : String) :
    (c.insertAll entries).get? n = (entries.get? n).or (c.get? n) := by
  induction entries generalizing c with
  | nil => rfl
  | cons e entries ih =>
    obtain ⟨hfresh, hrest⟩ := List.nodup_cons.mp h
    have hstep : c.insertAll (e :: entries) = (Context.insert e.1 e.2 c).insertAll entries := rfl
    rw [hstep, ih hrest, get?_insert, get?_cons]
    by_cases hn : n = e.1
    · have hnone : Context.get? entries n = none := get?_eq_none_iff.mpr (hn ▸ hfresh)
      rw [hnone, if_pos hn, if_pos hn]
      rfl
    · rw [if_neg hn, if_neg hn]

/-- Entries of names that are not bound yet bind them, and hide nothing. -/
theorem get?_insertAll_eq_some_iff {entries : Context} (h : entries.Distinct)
    (hfresh : ∀ e ∈ entries, e.1 ∉ c.map (·.1)) :
    (c.insertAll entries).get? n = some v ↔
      c.get? n = some v ∨ Context.get? entries n = some v := by
  rw [get?_insertAll h, Option.or_eq_some_iff]
  constructor
  · rintro (hentry | ⟨-, hc⟩)
    · exact .inr hentry
    · exact .inl hc
  · rintro (hc | hentry)
    · refine .inr ⟨get?_eq_none_iff.mpr fun hmem => ?_, hc⟩
      obtain ⟨e, he, rfl⟩ := List.mem_map.mp hmem
      exact hfresh e he (mem_names_of_get? hc)
    · exact .inl hentry

end Context

-- ---------------------------------------------------------------------------
-- Conditions of an action
-- ---------------------------------------------------------------------------

namespace Action

variable {row : Context} {flags : List (String × Value)} {cs : List Condition}

theorem flag_eq_ok_iff {c : Condition} {e : String × Value} :
    flag row c = .ok e ↔ ∃ b, c.formula.isTrue (some row) = .ok b ∧ e = (c.name, .bool b) := by
  rw [flag]
  cases c.formula.isTrue (some row) with
  | error e => simp
  | ok b => simp [eq_comm]

theorem names_of_flags (h : cs.mapM (flag row) = .ok flags) :
    flags.map (·.1) = cs.map (·.name) := by
  rw [mapM_eq_ok_iff] at h
  induction h with
  | nil => rfl
  | cons hflag _ ih =>
    obtain ⟨b, -, rfl⟩ := flag_eq_ok_iff.mp hflag
    rw [List.map_cons, List.map_cons, ih]

/-- Flags bind the names of their conditions to what these are of the row. -/
theorem get?_flags_iff (hnames : (cs.map (·.name)).Nodup) (h : cs.mapM (flag row) = .ok flags)
    {n : String} {v : Value} :
    Context.get? flags n = some v ↔
      ∃ c ∈ cs, c.name = n ∧ ∃ b, c.formula.isTrue (some row) = .ok b ∧ v = .bool b := by
  have hdistinct : Context.Distinct flags := by
    rw [Context.Distinct, names_of_flags h]
    exact hnames
  rw [hdistinct.get?_eq_some_iff, mem_iff_of_mapM_eq_ok h]
  simp only [flag_eq_ok_iff, Prod.mk.injEq]
  constructor
  · rintro ⟨c, hc, b, hb, hname, hv⟩
    exact ⟨c, hc, hname.symm, b, hb, hv⟩
  · rintro ⟨c, hc, hname, b, hb, hv⟩
    exact ⟨c, hc, b, hb, hname.symm, hv⟩

end Action

namespace Workflow

variable {w : Workflow} {a : Action} {row ctx : Context}

-- ---------------------------------------------------------------------------
-- What a row is merged with
-- ---------------------------------------------------------------------------

/-- Conditions are told apart from columns and attributes in every action. -/
theorem conditionNames_free_iff :
    (∀ n ∈ w.conditionNames, n ∉ w.variableNames) ↔
      ∀ a ∈ w.actions, ∀ c ∈ a.conditions, c.isFilter = false →
        c.name ∉ w.columnNames ∧ c.name ∉ w.attributes.map (·.1) := by
  simp only [conditionNames, variableNames, Action.namedConditions, List.mem_flatMap,
    List.mem_map, List.mem_filter, List.mem_append, not_or, Bool.not_eq_true']
  constructor
  · intro h a ha c hc hnamed
    exact h c.name ⟨a, ha, c, ⟨hc, hnamed⟩, rfl⟩
  · rintro h n ⟨a, ha, c, ⟨hc, hnamed⟩, rfl⟩
    exact h a ha c hc hnamed

/-- What an action has to bind for a row. -/
inductive Binds (w : Workflow) (a : Action) (row : Context) : String → Value → Prop where
  | cell {n : String} {v : Value} (h : row.get? n = some v) : Binds w a row n v
  | flag {c : Condition} {b : Bool} (hc : c ∈ a.namedConditions)
      (hb : c.formula.isTrue (some row) = .ok b) : Binds w a row c.name (.bool b)
  | attribute {n : String} {v : Value} (h : w.attributes.get? n = some v) : Binds w a row n v

theorem binds_iff {n : String} {v : Value} :
    w.Binds a row n v ↔ (row.get? n = some v ∨
      ∃ c ∈ a.namedConditions, c.name = n ∧
        ∃ b, c.formula.isTrue (some row) = .ok b ∧ v = .bool b) ∨
      w.attributes.get? n = some v := by
  constructor
  · rintro (hcell | ⟨hc, hb⟩ | hattribute)
    · exact .inl (.inl hcell)
    · exact .inl (.inr ⟨_, hc, rfl, _, hb, rfl⟩)
    · exact .inr hattribute
  · rintro ((hcell | ⟨c, hc, rfl, b, hb, rfl⟩) | hattribute)
    · exact .cell hcell
    · exact .flag hc hb
    · exact .attribute hattribute

/-- The names of an action are told apart from those of columns and attributes. -/
structure Apart (w : Workflow) (a : Action) : Prop where
  distinct : (a.namedConditions.map (·.name)).Nodup
  conditions : ∀ c ∈ a.namedConditions, c.name ∉ w.variableNames
  attributes : ∀ e ∈ w.attributes, e.1 ∉ w.columnNames

theorem apart_of_validate (hw : w.validate = .ok ()) (ha : a ∈ w.actions) : w.Apart a where
  distinct := ((validate_eq_ok_iff.mp hw).1.conditions a ha).sublist (List.filter_sublist.map _)
  conditions := (named_of_validate hw).conditions a ha
  attributes := (named_of_validate hw).attributes

/-- The order of the conditions does not matter to the rules. -/
theorem Apart.perm (h : w.Apart a) {cs : List Condition} (hcs : cs.Perm a.conditions) :
    w.Apart { a with conditions := cs } where
  distinct := (((hcs.filter fun c => !c.isFilter).map _).nodup_iff).mpr h.distinct
  conditions := fun c hc => h.conditions c ((hcs.filter _).mem_iff.mp hc)
  attributes := h.attributes

/-- Nothing is hidden where names are told apart. -/
theorem Apart.get?_rowContext_iff (h : w.Apart a) (hattributes : w.attributes.Distinct)
    (hrow : ∀ n, row.contains n → n ∈ w.columnNames) (hctx : w.rowContext a row = .ok ctx)
    (n : String) (v : Value) : ctx.get? n = some v ↔ w.Binds a row n v := by
  obtain ⟨flags, hflags, rfl⟩ := rowContext_eq_ok hctx
  have hnames := Action.names_of_flags hflags
  have hflagsDistinct : Context.Distinct flags := by
    rw [Context.Distinct, hnames]
    exact h.distinct
  have hcolumn : ∀ m ∈ row.map (·.1), m ∈ w.columnNames := fun m hm =>
    hrow m (Context.contains_iff_mem_names.mpr hm)
  have hcondition : ∀ m ∈ flags.map (·.1), m ∉ w.variableNames := by
    intro m hm
    rw [hnames] at hm
    obtain ⟨c, hc, rfl⟩ := List.mem_map.mp hm
    exact h.conditions c hc
  have hflagsFresh : ∀ e ∈ flags, e.1 ∉ row.map (·.1) := fun e he hmem =>
    hcondition e.1 (List.mem_map_of_mem he) (List.mem_append_left _ (hcolumn e.1 hmem))
  have hattributesFresh : ∀ e ∈ w.attributes, e.1 ∉ (row.insertAll flags).map (·.1) := by
    intro e he hmem
    rcases Context.mem_names_insertAll.mp hmem with hflag | hcell
    · exact hcondition e.1 hflag (List.mem_append_right _ (List.mem_map_of_mem he))
    · exact h.attributes e he (hcolumn e.1 hcell)
  rw [Context.get?_insertAll_eq_some_iff hattributes hattributesFresh,
    Context.get?_insertAll_eq_some_iff hflagsDistinct hflagsFresh,
    Action.get?_flags_iff h.distinct hflags, binds_iff]

theorem binds_perm {cs : List Condition} (hcs : cs.Perm a.conditions) {n : String} {v : Value} :
    w.Binds { a with conditions := cs } row n v ↔ w.Binds a row n v := by
  have hmem : ∀ c, c ∈ Action.namedConditions { a with conditions := cs } ↔
      c ∈ a.namedConditions := fun c => (hcs.filter _).mem_iff
  simp only [binds_iff, hmem]

/-- The rules about names are those that keep merging free of conflicts: where they hold, a row
of the workflow is merged with the conditions of an action and the attributes without loss, and
in whatever order the conditions stand. -/
theorem validate_keeps_names_apart (w : Workflow) :
    (w.validate = .ok () ↔
      w.columnNames.Nodup ∧ (∀ e ∈ w.attributes, e.1 ∉ w.columnNames) ∧
      ∀ a ∈ w.actions, (a.conditions.filter (·.isFilter)).length ≤ 1 ∧
        (a.conditions.map (·.name)).Nodup ∧
        ∀ c ∈ a.conditions, c.isFilter = false →
          c.name ∉ w.columnNames ∧ c.name ∉ w.attributes.map (·.1)) ∧
    (w.validate = .ok () → w.attributes.Distinct → ∀ a ∈ w.actions, ∀ row : Context,
      (∀ n, row.contains n → n ∈ w.columnNames) → ∀ ctx, w.rowContext a row = .ok ctx →
        (∀ c ∈ a.namedConditions, ∃ b, c.formula.isTrue (some row) = .ok b) ∧
        (∀ n v, ctx.get? n = some v ↔ w.Binds a row n v) ∧
        ∀ cs : List Condition, cs.Perm a.conditions →
          ∃ ctx', w.rowContext { a with conditions := cs } row = .ok ctx' ∧
            ∀ n, ctx'.get? n = ctx.get? n) := by
  constructor
  · rw [validate_eq_ok_iff, conditionNames_free_iff]
    constructor
    · rintro ⟨hw, hfree⟩
      exact ⟨hw.columns, hw.attributes, fun a ha => ⟨hw.filters a ha, hw.conditions a ha,
        hfree a ha⟩⟩
    · rintro ⟨hcolumns, hattributes, hactions⟩
      exact ⟨⟨hcolumns, hattributes, fun a ha => (hactions a ha).1,
        fun a ha => (hactions a ha).2.1⟩, fun a ha => (hactions a ha).2.2⟩
  · intro hvalid hattributes a ha row hrow ctx hctx
    have hapart := apart_of_validate hvalid ha
    have hbinds := hapart.get?_rowContext_iff hattributes hrow hctx
    refine ⟨?_, hbinds, ?_⟩
    · intro c hc
      obtain ⟨flags, hflags, -⟩ := rowContext_eq_ok hctx
      obtain ⟨e, -, he⟩ := exists_result_of_forall₂ (mapM_eq_ok_iff.mp hflags) hc
      obtain ⟨b, hb, -⟩ := Action.flag_eq_ok_iff.mp he
      exact ⟨b, hb⟩
    · intro cs hcs
      obtain ⟨flags, hflags, -⟩ := rowContext_eq_ok hctx
      have hmem : ∀ c ∈ Action.namedConditions { a with conditions := cs },
          c ∈ a.namedConditions := fun c => (hcs.filter _).mem_iff.mp
      obtain ⟨flags', hflags'⟩ := exists_mapM_eq_ok hflags hmem
      have hctx' : w.rowContext { a with conditions := cs } row
          = .ok ((row.insertAll flags').insertAll w.attributes) := by
        rw [rowContext, hflags']
        rfl
      refine ⟨_, hctx', fun n => Option.ext fun v => ?_⟩
      rw [(hapart.perm hcs).get?_rowContext_iff hattributes hrow hctx', binds_perm hcs, hbinds]

/-- Two conditions and a filter that is called like the column it asks about. -/
def gradedAction : Action where
  name := "grade"
  conditions :=
    [{ name := "passed", formula := .leaf ⟨"mark", .greater, .integer, .single (.int 4)⟩ },
     { name := "mark", formula := .leaf ⟨"mark", .isNotNull, .integer, .none⟩, isFilter := true },
     { name := "best", formula := .leaf ⟨"mark", .equal, .integer, .single (.int 10)⟩ }]

def gradedWorkflow : Workflow :=
  { markWorkflow with actions := [gradedAction, { gradedAction with name := "again" }] }

def gradedRow : Context := [("mark", .int 7), ("first name", .text "Ann")]

/-- The marks of a row with two conditions and an attribute, and the same with the conditions
the other way round. -/
theorem validate_keeps_names_apart_graded :
    (gradedWorkflow.validate = .ok () ∧ gradedWorkflow.attributes.Distinct ∧
      gradedAction ∈ gradedWorkflow.actions ∧
      (∀ n, gradedRow.contains n → n ∈ gradedWorkflow.columnNames) ∧
      gradedWorkflow.rowContext gradedAction gradedRow
        = .ok (gradedRow ++ [("passed", .bool true), ("best", .bool false),
            ("course", .text "Logic")])) ∧
    gradedWorkflow.Binds gradedAction gradedRow "best" (.bool false) ∧
    ∃ ctx, gradedWorkflow.rowContext
        { gradedAction with conditions := gradedAction.conditions.reverse } gradedRow = .ok ctx ∧
      ∀ n, ctx.get? n = Context.get? (gradedRow ++ [("passed", .bool true),
        ("best", .bool false), ("course", .text "Logic")]) n := by
  have hvalid : gradedWorkflow.validate = .ok () := rfl
  have hattributes : gradedWorkflow.attributes.Distinct := by decide
  have haction : gradedAction ∈ gradedWorkflow.actions := List.mem_cons_self
  have hrow : ∀ n, gradedRow.contains n → n ∈ gradedWorkflow.columnNames := by
    have hnames : ∀ n ∈ gradedRow.map (·.1), n ∈ gradedWorkflow.columnNames := by decide
    exact fun n hn => hnames n (Context.contains_iff_mem_names.mp hn)
  have hctx : gradedWorkflow.rowContext gradedAction gradedRow
      = .ok (gradedRow ++ [("passed", .bool true), ("best", .bool false),
          ("course", .text "Logic")]) := by
    decide +kernel
  obtain ⟨-, hbinds, horder⟩ := (validate_keeps_names_apart gradedWorkflow).2 hvalid hattributes
    gradedAction haction gradedRow hrow _ hctx
  exact ⟨⟨hvalid, hattributes, haction, hrow, hctx⟩, (hbinds "best" (.bool false)).mp rfl,
    horder _ (List.reverse_perm _)⟩

end Workflow

end MailMerge
