import MailMerge.Proofs.Workflow.Preview
import MailMerge.Proofs.Workflow.Renaming

/-!
# Rows that are passed over

A list of excluded keys takes records out of what a run returns and changes none of the others. A
row is passed over for the cell it has in the key column, whatever flag or attribute has the name
of the column.
-/

namespace MailMerge

/-- Whether the key of a record is one of those passed over. -/
def RenderedRecord.isExcluded (excluded : List String) (r : RenderedRecord) : Bool :=
  r.key.any fun v => excluded.contains v.exclusionKey

namespace Workflow

variable {w : Workflow} {a : Action} {s : Store} {options : EvaluateOptions}

-- ---------------------------------------------------------------------------
-- Single rows
-- ---------------------------------------------------------------------------

/-- What goes with the text of a row: the cell in the key column. -/
def keyOf (w : Workflow) (options : EvaluateOptions) (cells : Row) : Option Value :=
  (w.keyColumn? options).bind (cells.toContext w.columnNames).get?

/-- The second text of a row, if one is asked for. -/
def subjectOf (options : EvaluateOptions) (context : Context) :
    Except ActionError (Option String) :=
  match options.subject with
  | none => pure none
  | some text => some <$> (Render.render options.render text context).mapError .ofSubject

/-- The record of a row, whether its key is excluded or not. -/
def recordOf (w : Workflow) (a : Action) (options : EvaluateOptions) (cells : Row) :
    Except ActionError RenderedRecord := do
  let context ← w.rowContext a (cells.toContext w.columnNames)
  let body ← (Render.renderAction options.render a.content context a.toDatum).mapError .ofText
  let subject ← subjectOf options context
  return { body, subject, key := w.keyOf options cells }

theorem key_of_recordOf {cells : Row} {r : RenderedRecord}
    (h : w.recordOf a options cells = .ok r) : r.key = w.keyOf options cells := by
  obtain ⟨context, -, h⟩ := exists_of_bind_eq_ok h
  obtain ⟨body, -, h⟩ := exists_of_bind_eq_ok h
  obtain ⟨subject, -, h⟩ := exists_of_bind_eq_ok h
  cases h
  rfl

/-- A row is passed over before anything is made of it; else it becomes its record. -/
theorem evaluateRow_eq (w : Workflow) (a : Action) (options : EvaluateOptions) (cells : Row) :
    w.evaluateRow a options cells
      = if (w.keyOf options cells).any fun v => options.excluded.contains v.exclusionKey
        then .ok none else (w.recordOf a options cells).map some := by
  rw [evaluateRow, recordOf]
  change (if (w.keyOf options cells).any _ = true then _ else _) = _
  refine if_congr Iff.rfl rfl ?_
  cases w.rowContext a (cells.toContext w.columnNames) with
  | error e => rfl
  | ok context =>
    cases hbody : Render.renderAction options.render a.content context a.toDatum with
    | error e => simp [hbody, Except.mapError, Except.map, bind, Except.bind]
    | ok body =>
      unfold subjectOf
      cases options.subject with
      | none => simp [hbody, Except.mapError, Except.map, bind, Except.bind, pure, Except.pure, keyOf]
      | some text =>
        cases htext : Render.render options.render text context <;>
          simp [hbody, htext, Except.mapError, Except.map, bind, Except.bind, pure, Except.pure,
            keyOf, Functor.map]

/-- Where a row becomes a record without excluded keys, it becomes the same record with them or
is passed over, by the key of the record. -/
theorem evaluateRow_excluding {cells : Row} {result : Option RenderedRecord}
    (h : w.evaluateRow a { options with excluded := [] } cells = .ok result) :
    ∃ r, result = some r ∧ r.key = w.keyOf options cells ∧ ∀ excluded,
      w.evaluateRow a { options with excluded } cells
        = .ok (result.filter fun r => !r.isExcluded excluded) := by
  have hnone : ((w.keyOf { options with excluded := [] } cells).any fun v =>
      ([] : List String).contains v.exclusionKey) = false := by
    cases w.keyOf { options with excluded := [] } cells <;> rfl
  rw [evaluateRow_eq, hnone, if_neg Bool.false_ne_true] at h
  have hrecord : w.recordOf a { options with excluded := [] } cells = w.recordOf a options cells :=
    rfl
  rw [hrecord] at h
  cases hr : w.recordOf a options cells with
  | error e => rw [hr] at h; cases h
  | ok r =>
    rw [hr] at h
    cases h
    have hkey := key_of_recordOf hr
    refine ⟨r, rfl, hkey, fun excluded => ?_⟩
    have hr' : w.recordOf a { options with excluded } cells = .ok r := hr
    have hkey' : w.keyOf { options with excluded } cells = r.key := hkey.symm
    rw [evaluateRow_eq, hr', hkey', Option.filter_some]
    change (if r.isExcluded excluded = true then _ else _) = _
    cases r.isExcluded excluded <;> rfl

-- ---------------------------------------------------------------------------
-- Runs
-- ---------------------------------------------------------------------------

/-- The records of a run beside the rows they were made of. -/
theorem evaluate_excluding {records : List RenderedRecord}
    (h : w.evaluate a s { options with excluded := [] } = .ok records) :
    (∃ rows, s.rows w.id a.filterFormula? w.columnNames = .ok rows ∧
      List.Forall₂ (fun cells r => r.key = w.keyOf options cells) rows records) ∧
    ∀ excluded, w.evaluate a s { options with excluded }
      = .ok (records.filter fun r => !r.isExcluded excluded) := by
  obtain ⟨rows, results, hrows, hresults, rfl⟩ := evaluate_eq_ok h
  refine ⟨⟨rows, hrows, ?_⟩, fun excluded => ?_⟩
  · have heach := mapM_eq_ok_iff.mp hresults
    clear hrows hresults h
    induction heach with
    | nil => exact .nil
    | cons hresult _ ih =>
      obtain ⟨r, rfl, hkey, -⟩ := evaluateRow_excluding hresult
      exact .cons hkey ih
  · have hrun : (rows.map fun cells => cells).mapM (w.evaluateRow a { options with excluded })
        = .ok (results.map (Option.filter fun r => !r.isExcluded excluded)) := by
      refine mapM_map_eq_ok (fun cells _ result hresult => ?_) hresults
      obtain ⟨-, -, -, hfilter⟩ := evaluateRow_excluding hresult
      exact hfilter excluded
    rw [List.map_id'] at hrun
    simp only [evaluate, ofStore, hrows, hrun, Except.mapError, bind, Except.bind, pure, Except.pure,
      List.filterMap_map, List.filter_filterMap]
    rfl

/-- A key column that the workflow does not have is not asked for. -/
theorem keyColumn?_eq_none (h : ∀ k ∈ options.keyColumn, k ∉ w.columnNames) :
    w.keyColumn? options = none := by
  rw [keyColumn?]
  cases hkey : options.keyColumn with
  | none => rfl
  | some k =>
    have hk : w.columnNames.contains k = false := by simpa using h k hkey
    rw [Option.filter_some, hk, if_neg Bool.false_ne_true]

/-- A row that is as long as the list of columns has a cell in each of them. -/
theorem exists_keyOf {k : String} (hkey : k ∈ options.keyColumn) (hk : k ∈ w.columnNames)
    {cells : Row} (hcells : cells.length = w.columnNames.length) :
    ∃ v, (cells.toContext w.columnNames).get? k = some v ∧ w.keyOf options cells = some v := by
  have hcontains : (cells.toContext w.columnNames).contains k = true := by
    rw [contains_toContext hcells]
    exact List.contains_iff_mem.mpr hk
  obtain ⟨v, hv⟩ := Option.isSome_iff_exists.mp hcontains
  have hcolumn : w.keyColumn? options = some k := by
    rw [keyColumn?, Option.mem_def.mp hkey, Option.filter_some,
      if_pos (List.contains_iff_mem.mpr hk)]
  exact ⟨v, hv, by rw [keyOf, hcolumn, Option.bind_some, hv]⟩

/-- Excluded keys only take records out of a run, those with these keys, and all stay where there
is no key column. The key of a record is the cell its row has in the key column. Two lists of
excluded keys leave together, in whatever order, the records that both leave. -/
theorem exclusions_only_filter {records : List RenderedRecord}
    (hrun : w.evaluate a s { options with excluded := [] } = .ok records) :
    (∀ excluded, w.evaluate a s { options with excluded }
      = .ok (records.filter fun r => !r.isExcluded excluded)) ∧
    ((∀ k ∈ options.keyColumn, k ∉ w.columnNames) →
      ∀ excluded, w.evaluate a s { options with excluded } = .ok records) ∧
    (∀ k ∈ options.keyColumn, k ∈ w.columnNames →
      ∃ rows, s.rows w.id a.filterFormula? w.columnNames = .ok rows ∧
        List.Forall₂ (fun cells r =>
          ∃ v, (cells.toContext w.columnNames).get? k = some v ∧ r.key = some v) rows records) ∧
    ∀ first second, ∃ kept kept',
      w.evaluate a s { options with excluded := first } = .ok kept ∧
      w.evaluate a s { options with excluded := second } = .ok kept' ∧
      ∀ excluded, (∀ k, k ∈ excluded ↔ k ∈ first ∨ k ∈ second) →
        w.evaluate a s { options with excluded } = .ok (kept.filter fun r => r ∈ kept') := by
  obtain ⟨⟨rows, hrows, hkeys⟩, hfilter⟩ := evaluate_excluding hrun
  refine ⟨hfilter, fun hcolumn excluded => ?_, fun k hkey hk => ⟨rows, hrows, ?_⟩,
    fun first second => ⟨_, _, hfilter first, hfilter second, fun excluded hboth => ?_⟩⟩
  · have hkeyless : ∀ r ∈ records, r.isExcluded excluded = false := by
      intro r hr
      obtain ⟨cells, -, hkey⟩ := exists_mem_of_forall₂ hkeys hr
      rw [RenderedRecord.isExcluded, hkey, keyOf, keyColumn?_eq_none hcolumn]
      rfl
    rw [hfilter, List.filter_eq_self.mpr fun r hr => by rw [hkeyless r hr]; rfl]
  · refine List.Forall₂.imp ?_ ((List.forall₂_and_left _ _).mpr
      ⟨Store.length_of_mem_rows hrows, hkeys⟩)
    rintro cells r ⟨hcells, hr⟩
    rw [hr]
    exact exists_keyOf hkey hk hcells
  · have hsplit : ∀ r : RenderedRecord, r.isExcluded excluded
        = (r.isExcluded first || r.isExcluded second) := by
      intro r
      rw [RenderedRecord.isExcluded, RenderedRecord.isExcluded, RenderedRecord.isExcluded]
      cases r.key with
      | none => rfl
      | some v => simp [hboth]
    rw [hfilter, List.filter_filter]
    refine congrArg Except.ok (List.filter_congr fun r hr => ?_)
    simp [hsplit, hr, Bool.and_comm]

-- ---------------------------------------------------------------------------
-- A constant with the name of the key column
-- ---------------------------------------------------------------------------

/-- A workflow whose constant hides the marks from its texts. -/
def hidingWorkflow : Workflow :=
  { markWorkflow with attributes := [("course", .text "Logic"), ("mark", .text "?")] }

def hidingOptions : EvaluateOptions where
  keyColumn := some "mark"

def annRecord : RenderedRecord := { body := "Dear Ann, ? in Logic", key := some (.int 7) }

def eveRecord : RenderedRecord := { body := "Dear Eve, see you in Logic", key := some (.int 3) }

def maxRecord : RenderedRecord := { body := "Dear Max, ? in Logic", key := some (.int 9) }

theorem exclusions_only_filter_hidden :
    hidingWorkflow.evaluate markAction markStore { hidingOptions with excluded := [] }
      = .ok [annRecord, eveRecord, maxRecord] ∧
    hidingWorkflow.evaluate markAction markStore { hidingOptions with excluded := ["3", "?"] }
      = .ok [annRecord, maxRecord] ∧
    hidingWorkflow.evaluate markAction markStore { hidingOptions with excluded := ["9"] }
      = .ok [annRecord, eveRecord] ∧
    hidingWorkflow.evaluate markAction markStore { hidingOptions with excluded := ["9", "?", "3"] }
      = .ok [annRecord] := by
  have hrun : hidingWorkflow.evaluate markAction markStore { hidingOptions with excluded := [] }
      = .ok [annRecord, eveRecord, maxRecord] := by decide +kernel
  obtain ⟨hfilter, -, -, hboth⟩ := exclusions_only_filter hrun
  obtain ⟨kept, kept', hkept, hkept', hcommon⟩ := hboth ["3", "?"] ["9"]
  have hfirst := hfilter ["3", "?"]
  have hsecond := hfilter ["9"]
  have htwo : [annRecord, eveRecord, maxRecord].filter (fun r => !r.isExcluded ["3", "?"])
      = [annRecord, maxRecord] := by decide +kernel
  have hone : [annRecord, eveRecord, maxRecord].filter (fun r => !r.isExcluded ["9"])
      = [annRecord, eveRecord] := by decide +kernel
  rw [htwo] at hfirst
  rw [hone] at hsecond
  cases hkept.symm.trans hfirst
  cases hkept'.symm.trans hsecond
  refine ⟨hrun, hfirst, hsecond, (hcommon ["9", "?", "3"] fun k => ?_).trans ?_⟩
  · simp only [List.mem_cons, List.not_mem_nil, or_false]
    rw [or_comm, or_comm (a := k = "?")]
  · decide +kernel

end Workflow

end MailMerge
