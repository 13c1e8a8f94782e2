import MailMerge.Proofs.Text.Digits
import MailMerge.Proofs.Workflow.Names
import Mathlib.Data.List.Nodup

/-!
# Renaming and the rules about names

Renaming asks whether a column or an attribute has the new name, and not whether a condition
has it. So it keeps all rules but one: the workflow that comes out is valid unless the new
name is that of a condition that is asked of rows.
-/

namespace MailMerge

-- ---------------------------------------------------------------------------
-- Names of sorted entries
-- ---------------------------------------------------------------------------

theorem Sorted.mem_names_insert {α : Type} {e : String × α} {es : List (String × α)}
    {n : String} : n ∈ (insert e es).map (·.1) ↔ n = e.1 ∨ n ∈ es.map (·.1) := by
  induction es with
  | nil => simp [insert]
  | cons f es ih =>
    rw [insert]
    split
    · simp
    · next heq =>
      have hname : e.1 = f.1 := String.toList_inj.mp (Text.order_eq_iff.mp heq)
      simp [hname]
    · rw [List.map_cons, List.mem_cons, ih, List.map_cons, List.mem_cons, or_left_comm]

namespace Workflow

variable {w w' : Workflow} {old new : String}

-- ---------------------------------------------------------------------------
-- One renaming
-- ---------------------------------------------------------------------------

/-- What a renaming does to the names of a workflow: one of a column or an attribute gives way
to another, and no other name changes. -/
structure Renamed (old new : String) (w w' : Workflow) : Prop where
  orderly : w'.Orderly
  conditions : w'.conditionNames = w.conditionNames
  names : ∀ n, n ∈ w'.variableNames ↔ n = new ∨ n ≠ old ∧ n ∈ w.variableNames

theorem conditionNames_of_actions (h : w'.actions = w.actions.map (Action.rename old new)) :
    w'.conditionNames = w.conditionNames := by
  have hnames : ∀ a : Action, ((a.rename old new).namedConditions).map (·.name)
      = a.namedConditions.map (·.name) := by
    intro a
    rw [Action.namedConditions_rename, List.map_map]
    rfl
  rw [conditionNames, h, List.flatMap_map]
  simp only [hnames]
  rfl

/-- Renaming changes neither the names of conditions nor which of them are filters. -/
theorem orderly_of_actions (hw : w.Orderly) (hcolumns : w'.columnNames.Nodup)
    (hattributes : ∀ e ∈ w'.attributes, e.1 ∉ w'.columnNames)
    (h : w'.actions = w.actions.map (Action.rename old new)) : w'.Orderly := by
  refine ⟨hcolumns, hattributes, ?_, ?_⟩
  · intro a' ha'
    rw [h] at ha'
    obtain ⟨a, ha, rfl⟩ := List.mem_map.mp ha'
    have hfilters : (a.rename old new).conditions.filter (·.isFilter)
        = (a.conditions.filter (·.isFilter)).map (Condition.rename old new) := List.filter_map
    rw [hfilters, List.length_map]
    exact hw.filters a ha
  · intro a' ha'
    rw [h] at ha'
    obtain ⟨a, ha, rfl⟩ := List.mem_map.mp ha'
    have hnames : (a.rename old new).conditions.map (·.name) = a.conditions.map (·.name) :=
      List.map_map
    rw [hnames]
    exact hw.conditions a ha

/-- Where the names of columns are different the new one takes the place of the old one. -/
theorem mem_names_renameColumns {cs : List Column} (h : (cs.map (·.name)).Nodup)
    (hold : old ∈ cs.map (·.name)) (hnew : new ∉ cs.map (·.name)) {n : String} :
    n ∈ (renameColumns old new cs).map (·.name) ↔ n = new ∨ n ≠ old ∧ n ∈ cs.map (·.name) := by
  rw [names_renameColumns h hnew, List.mem_map]
  constructor
  · rintro ⟨m, hm, rfl⟩
    by_cases hmold : m = old
    · exact .inl (by rw [hmold, Equiv.swap_apply_left])
    · have hmnew : m ≠ new := fun heq => hnew (heq ▸ hm)
      rw [Equiv.swap_apply_of_ne_of_ne hmold hmnew]
      exact .inr ⟨hmold, hm⟩
  · rintro (rfl | ⟨hn, hmem⟩)
    · exact ⟨old, hold, Equiv.swap_apply_left old n⟩
    · have hnnew : n ≠ new := fun heq => hnew (heq ▸ hmem)
      exact ⟨n, hmem, Equiv.swap_apply_of_ne_of_ne hn hnnew⟩

theorem renamed_of_columns (hw : w.Orderly) (hold : old ∈ w.columnNames)
    (hnew : new ∉ w.variableNames)
    (hcolumns : w'.columns = renameColumns old new w.columns)
    (hattributes : w'.attributes = w.attributes)
    (hactions : w'.actions = w.actions.map (Action.rename old new)) :
    Renamed old new w w' := by
  have hfree : new ∉ w.columnNames := fun hmem => hnew (List.mem_append_left _ hmem)
  have hfree' : new ∉ w.attributes.map (·.1) := fun hmem => hnew (List.mem_append_right _ hmem)
  have hmem : ∀ n, n ∈ w'.columnNames ↔ n = new ∨ n ≠ old ∧ n ∈ w.columnNames := fun n => by
    rw [columnNames, hcolumns]
    exact mem_names_renameColumns hw.columns hold hfree
  have hdisjoint : ∀ e ∈ w'.attributes, e.1 ∉ w'.columnNames := by
    intro e he hcolumn
    rw [hattributes] at he
    rcases (hmem e.1).mp hcolumn with heq | ⟨-, hcolumn⟩
    · exact hfree' (heq ▸ List.mem_map_of_mem he)
    · exact hw.attributes e he hcolumn
  have hnodup : w'.columnNames.Nodup := by
    have hnames : (renameColumns old new w.columns).map (·.name)
        = w.columnNames.map (Equiv.swap old new) := names_renameColumns hw.columns hfree
    rw [columnNames, hcolumns, hnames]
    exact List.Nodup.map (Equiv.injective _) hw.columns
  refine ⟨orderly_of_actions hw hnodup hdisjoint hactions, conditionNames_of_actions hactions, ?_⟩
  intro n
  have hkept : n ∈ w.attributes.map (·.1) → n ≠ old := by
    rintro hn rfl
    obtain ⟨e, he, heq⟩ := List.mem_map.mp hn
    exact hw.attributes e he (heq ▸ hold)
  rw [variableNames, List.mem_append, hmem, hattributes, variableNames, List.mem_append]
  constructor
  · rintro ((h | ⟨hn, h⟩) | h)
    · exact .inl h
    · exact .inr ⟨hn, .inl h⟩
    · exact .inr ⟨hkept h, .inr h⟩
  · rintro (h | ⟨hn, h | h⟩)
    · exact .inl (.inl h)
    · exact .inl (.inr ⟨hn, h⟩)
    · exact .inr h

theorem renamed_of_attributes {v : Value} (hw : w.Orderly) (hold : old ∉ w.columnNames)
    (hnew : new ∉ w.variableNames)
    (hcolumns : w'.columns = w.columns)
    (hattributes : w'.attributes
      = Sorted.insert (new, v) (w.attributes.filter fun e => e.1 != old))
    (hactions : w'.actions = w.actions.map (Action.rename old new)) :
    Renamed old new w w' := by
  have hnames : w'.columnNames = w.columnNames := by rw [columnNames, hcolumns, columnNames]
  have hmem : ∀ n, n ∈ w'.attributes.map (·.1) ↔
      n = new ∨ n ≠ old ∧ n ∈ w.attributes.map (·.1) := by
    intro n
    rw [hattributes, Sorted.mem_names_insert]
    simp only [List.mem_map, List.mem_filter, bne_iff_ne]
    grind
  have hdisjoint : ∀ e ∈ w'.attributes, e.1 ∉ w'.columnNames := by
    intro e he hcolumn
    rw [hnames] at hcolumn
    rcases (hmem e.1).mp (List.mem_map_of_mem he) with heq | ⟨-, hattribute⟩
    · exact hnew (List.mem_append_left _ (heq ▸ hcolumn))
    · obtain ⟨e', he', heq⟩ := List.mem_map.mp hattribute
      exact hw.attributes e' he' (heq ▸ hcolumn)
  refine ⟨orderly_of_actions hw (hnames ▸ hw.columns) hdisjoint hactions,
    conditionNames_of_actions hactions, ?_⟩
  intro n
  have hkept : n ∈ w.columnNames → n ≠ old := fun hn heq => hold (heq ▸ hn)
  rw [variableNames, List.mem_append, hnames, hmem, variableNames, List.mem_append]
  constructor
  · rintro (h | h | ⟨hn, h⟩)
    · exact .inr ⟨hkept h, .inl h⟩
    · exact .inl h
    · exact .inr ⟨hn, .inr h⟩
  · rintro (h | ⟨hn, h | h⟩)
    · exact .inr (.inl h)
    · exact .inl h
    · exact .inr (.inr ⟨hn, h⟩)

theorem renamed_of_rename (hw : w.Orderly) (hne : old ≠ new) (h : w.rename old new = .ok w') :
    Renamed old new w w' := by
  cases renameStep_of_rename h with
  | same heq => exact absurd heq hne
  | column _ hnew hold => exact renamed_of_columns hw hold hnew rfl rfl rfl
  | constant _ hnew hold => exact renamed_of_attributes hw hold hnew rfl rfl rfl

-- ---------------------------------------------------------------------------
-- Runs of renamings
-- ---------------------------------------------------------------------------

/-- Carries out renamings one after the other; the first that fails ends this. -/
def renameAll (w : Workflow) (renamings : List (String × String)) : Except NameError Workflow :=
  renamings.foldlM (fun w r => w.rename r.1 r.2) w

/-- What a run of renamings does to the names of a workflow: all new ones are among those that
were asked for. -/
structure RenamedBy (renamings : List (String × String)) (w w' : Workflow) : Prop where
  orderly : w'.Orderly
  conditions : w'.conditionNames = w.conditionNames
  names : ∀ n ∈ w'.variableNames, n ∈ w.variableNames ∨ ∃ r ∈ renamings, r.1 ≠ r.2 ∧ n = r.2

theorem renamedBy_of_renameAll {renamings : List (String × String)} (hw : w.Orderly)
    (h : w.renameAll renamings = .ok w') : RenamedBy renamings w w' := by
  induction renamings generalizing w with
  | nil =>
    cases h
    exact ⟨hw, rfl, fun n hn => .inl hn⟩
  | cons r renamings ih =>
    rw [renameAll, List.foldlM_cons] at h
    cases hstep : w.rename r.1 r.2 with
    | error e => rw [hstep] at h; cases h
    | ok w₁ =>
      rw [hstep] at h
      by_cases hne : r.1 = r.2
      · have hsame : w = w₁ := by
          rw [rename, if_pos (beq_iff_eq.mpr hne)] at hstep
          exact Except.ok.inj hstep
        have hrest := ih (hsame ▸ hw) h
        refine ⟨hrest.orderly, hsame ▸ hrest.conditions, fun n hn => ?_⟩
        rcases hrest.names n hn with hmem | ⟨r', hr', hnew⟩
        · exact .inl (hsame ▸ hmem)
        · exact .inr ⟨r', List.mem_cons_of_mem r hr', hnew⟩
      · have hone := renamed_of_rename hw hne hstep
        have hrest := ih hone.orderly h
        refine ⟨hrest.orderly, hrest.conditions.trans hone.conditions, fun n hn => ?_⟩
        rcases hrest.names n hn with hmem | ⟨r', hr', hnew⟩
        · rcases (hone.names n).mp hmem with rfl | ⟨-, hmem⟩
          · exact .inr ⟨r, List.mem_cons_self, hne, rfl⟩
          · exact .inl hmem
        · exact .inr ⟨r', List.mem_cons_of_mem r hr', hnew⟩

/-- A renaming of a valid workflow leaves it valid if it renames nothing or takes a name that no
condition asked of rows has, and only then. So runs of such renamings keep it valid. -/
theorem validate_rename_iff (hw : w.validate = .ok ()) :
    (∀ old new w', w.rename old new = .ok w' →
      (w'.validate = .ok () ↔ old = new ∨ new ∉ w.conditionNames)) ∧
    ∀ renamings w', w.renameAll renamings = .ok w' →
      (∀ r ∈ renamings, r.1 = r.2 ∨ r.2 ∉ w.conditionNames) → w'.validate = .ok () := by
  obtain ⟨horderly, hconditions⟩ := validate_eq_ok_iff.mp hw
  constructor
  · intro old new w' h
    by_cases hne : old = new
    · rw [rename, if_pos (beq_iff_eq.mpr hne)] at h
      cases h
      exact ⟨fun _ => .inl hne, fun _ => hw⟩
    · have hrenamed := renamed_of_rename horderly hne h
      rw [validate_eq_ok_iff, hrenamed.conditions]
      constructor
      · rintro ⟨-, hfree⟩
        exact .inr fun hmem => hfree new hmem ((hrenamed.names new).mpr (.inl rfl))
      · rintro (heq | hnew)
        · exact absurd heq hne
        · refine ⟨hrenamed.orderly, fun n hn hmem => ?_⟩
          rcases (hrenamed.names n).mp hmem with rfl | ⟨-, hmem⟩
          · exact hnew hn
          · exact hconditions n hn hmem
  · intro renamings w' h hfree
    have hrenamed := renamedBy_of_renameAll horderly h
    refine validate_eq_ok_iff.mpr ⟨hrenamed.orderly, fun n hn hmem => ?_⟩
    rw [hrenamed.conditions] at hn
    rcases hrenamed.names n hmem with hmem | ⟨r, hr, hne, rfl⟩
    · exact hconditions n hn hmem
    · exact (hfree r hr).elim hne fun hnew => hnew hn

/-- A workflow with a condition that is named `passed`. -/
def marks : Workflow where
  id := 1
  columns := [⟨"email", .string, true⟩, ⟨"mark", .integer, false⟩]
  attributes := [("course", .text "Logic")]
  actions := [
    { name := "note"
      conditions := [
        { name := "passed", formula := .leaf ⟨"mark", .greater, .integer, .single (.int 4)⟩ },
        { name := "mark", formula := .leaf ⟨"email", .isNotNull, .string, .none⟩,
          isFilter := true }] }]

/-- Two renamings that a valid workflow survives: of a column, and of an attribute to the name
that this column has given up. -/
theorem validate_rename_marks :
    marks.validate = .ok () ∧
    ∃ w', marks.renameAll [("mark", "final mark"), ("course", "mark")] = .ok w' ∧
      w'.validate = .ok () := by
  have hvalid : marks.validate = .ok () := rfl
  have hfree : ∀ r ∈ [("mark", "final mark"), ("course", "mark")],
      r.1 = r.2 ∨ r.2 ∉ marks.conditionNames := by decide
  exact ⟨hvalid, _, rfl,
    (validate_rename_iff hvalid).2 [("mark", "final mark"), ("course", "mark")] _ rfl hfree⟩

/-- A column may take the name of a condition, and the workflow is not valid any more. -/
theorem validate_rename_condition :
    marks.validate = .ok () ∧
    ∃ w', marks.rename "mark" "passed" = .ok w' ∧
      w'.validate = .error (.conditionTaken "passed" "note") :=
  ⟨rfl, _, rfl, rfl⟩

end Workflow

end MailMerge
