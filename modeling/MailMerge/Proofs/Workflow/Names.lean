import MailMerge.Proofs.Traversal
import MailMerge.Workflow.Names
import Mathlib.Logic.Equiv.Basic

/-!
# The names of a workflow

What the rules about names promise, and what renaming a column does to a workflow that keeps
them: one column has another name, and every action follows it.
-/

namespace MailMerge

namespace Workflow

-- ---------------------------------------------------------------------------
-- Rules about names
-- ---------------------------------------------------------------------------

theorem repeated?_eq_none_iff {ns seen : List String} :
    repeated? seen ns = none ↔ ns.Nodup ∧ ∀ n ∈ ns, n ∉ seen := by
  induction ns generalizing seen with
  | nil => simp [repeated?]
  | cons n ns ih =>
    rw [repeated?]
    split
    · next hseen =>
      have hn : n ∈ seen := by simpa using hseen
      simp [hn]
    · next hseen =>
      have hn : n ∉ seen := by simpa using hseen
      rw [ih, List.nodup_cons]
      constructor
      · rintro ⟨hnodup, hfresh⟩
        refine ⟨⟨fun hmem => hfresh n hmem List.mem_cons_self, hnodup⟩, fun m hm => ?_⟩
        rcases List.mem_cons.mp hm with rfl | hm
        · exact hn
        · exact fun hmem => hfresh m hm (List.mem_cons_of_mem n hmem)
      · rintro ⟨⟨hfresh, hnodup⟩, hseen⟩
        refine ⟨hnodup, fun m hm hmem => ?_⟩
        rcases List.mem_cons.mp hmem with rfl | hmem
        · exact hfresh hm
        · exact hseen m (List.mem_cons_of_mem n hm) hmem

theorem checkConditions_cons (taken seen : List String) (action : String) (c : Condition)
    (cs : List Condition) :
    checkConditions taken action seen (c :: cs) =
      if c.name ∈ seen then .error (.repeatedCondition action c.name)
      else if c.isFilter = false ∧ c.name ∈ taken then .error (.conditionTaken c.name action)
      else checkConditions taken action (c.name :: seen) cs := by
  rw [checkConditions]
  by_cases hseen : c.name ∈ seen
  · simp only [List.contains_iff_mem.mpr hseen, hseen, if_true]
    rfl
  · have hcontains : seen.contains c.name = false := by simpa using hseen
    by_cases htaken : c.isFilter = false ∧ c.name ∈ taken
    · simp only [hcontains, hseen, htaken, List.contains_iff_mem.mpr htaken.2, if_false,
        and_self, if_true]
      rfl
    · have hguard : (!c.isFilter && taken.contains c.name) = false := by simpa using htaken
      simp only [hcontains, hseen, htaken, hguard, if_false]
      rfl

theorem checkConditions_eq_ok_iff {taken seen : List String} {action : String}
    {cs : List Condition} :
    checkConditions taken action seen cs = .ok () ↔
      (cs.map (·.name)).Nodup ∧ (∀ c ∈ cs, c.name ∉ seen) ∧
        ∀ c ∈ cs, c.isFilter = false → c.name ∉ taken := by
  induction cs generalizing seen with
  | nil => simp [checkConditions]
  | cons c cs ih =>
    rw [checkConditions_cons]
    by_cases hseen : c.name ∈ seen
    · simp [hseen]
    · by_cases htaken : c.isFilter = false ∧ c.name ∈ taken
      · simp [hseen, htaken]
      · rw [if_neg hseen, if_neg htaken, ih]
        grind

/-- The names of the conditions that are asked of rows, of all actions. -/
def conditionNames (w : Workflow) : List String :=
  w.actions.flatMap fun a => a.namedConditions.map (·.name)

/-- What the rules say of each kind of name by itself. -/
structure Orderly (w : Workflow) : Prop where
  columns : w.columnNames.Nodup
  attributes : ∀ e ∈ w.attributes, e.1 ∉ w.columnNames
  filters : ∀ a ∈ w.actions, (a.conditions.filter (·.isFilter)).length ≤ 1
  conditions : ∀ a ∈ w.actions, (a.conditions.map (·.name)).Nodup

theorem checkAction_eq_ok_iff {taken : List String} {a : Action} :
    checkAction taken a = .ok () ↔ (a.conditions.filter (·.isFilter)).length ≤ 1 ∧
      (a.conditions.map (·.name)).Nodup ∧ ∀ c ∈ a.namedConditions, c.name ∉ taken := by
  have hnamed : (∀ c ∈ a.conditions, c.isFilter = false → c.name ∉ taken) ↔
      ∀ c ∈ a.namedConditions, c.name ∉ taken := by
    simp [Action.namedConditions]
  rw [checkAction]
  split
  · next h => exact ⟨fun heq => (by cases heq), fun hle => absurd hle.1 (Nat.not_le.mpr h)⟩
  · next h =>
    rw [← hnamed]
    change checkConditions taken a.name [] a.conditions = .ok () ↔ _
    rw [checkConditions_eq_ok_iff]
    simp only [Nat.not_lt.mp h, List.not_mem_nil, not_false_eq_true, implies_true, true_and]

/-- The rules hold where each kind of name is in order and no condition is named like a column
or an attribute. -/
theorem validate_eq_ok_iff {w : Workflow} :
    w.validate = .ok () ↔ w.Orderly ∧ ∀ n ∈ w.conditionNames, n ∉ w.variableNames := by
  have hconditions : (∀ n ∈ w.conditionNames, n ∉ w.variableNames) ↔
      ∀ a ∈ w.actions, ∀ c ∈ a.namedConditions, c.name ∉ w.variableNames := by
    simp only [conditionNames, List.mem_flatMap, List.mem_map]
    exact ⟨fun h a ha c hc => h c.name ⟨a, ha, c, hc, rfl⟩,
      fun h n ⟨a, ha, c, hc, hn⟩ => hn ▸ h a ha c hc⟩
  rw [validate]
  cases hcolumns : repeated? [] w.columnNames with
  | some n =>
    refine ⟨fun h => (by cases h), fun h => ?_⟩
    rw [repeated?_eq_none_iff.mpr ⟨h.1.columns, fun _ _ => List.not_mem_nil⟩] at hcolumns
    cases hcolumns
  | none =>
    cases hattributes : (w.attributes.map (·.1)).find? w.columnNames.contains with
    | some n =>
      refine ⟨fun h => (by cases h), fun h => ?_⟩
      obtain ⟨e, he, rfl⟩ := List.mem_map.mp (List.mem_of_find?_eq_some hattributes)
      exact absurd (List.contains_iff_mem.mp (List.find?_some hattributes)) (h.1.attributes e he)
    | none =>
      have hdisjoint : ∀ e ∈ w.attributes, e.1 ∉ w.columnNames := fun e he hmem =>
        List.find?_eq_none.mp hattributes e.1 (List.mem_map_of_mem he)
          (List.contains_iff_mem.mpr hmem)
      change w.actions.forM (checkAction w.variableNames) = .ok () ↔ _
      rw [forM_eq_ok_iff, hconditions]
      simp only [checkAction_eq_ok_iff]
      exact ⟨fun h => ⟨⟨(repeated?_eq_none_iff.mp hcolumns).1, hdisjoint, fun a ha => (h a ha).1,
          fun a ha => (h a ha).2.1⟩, fun a ha => (h a ha).2.2⟩,
        fun h a ha => ⟨h.1.filters a ha, h.1.conditions a ha, h.2 a ha⟩⟩

/-- The names a workflow binds for a row are not bound twice. -/
structure Named (w : Workflow) : Prop where
  columns : w.columnNames.Nodup
  attributes : ∀ e ∈ w.attributes, e.1 ∉ w.columnNames
  conditions : ∀ a ∈ w.actions, ∀ c ∈ a.namedConditions, c.name ∉ w.variableNames

theorem named_of_validate {w : Workflow} (h : w.validate = .ok ()) : w.Named := by
  obtain ⟨hw, hconditions⟩ := validate_eq_ok_iff.mp h
  refine ⟨hw.columns, hw.attributes, fun a ha c hc => hconditions c.name ?_⟩
  exact List.mem_flatMap.mpr ⟨a, ha, List.mem_map_of_mem hc⟩

end Workflow

-- ---------------------------------------------------------------------------
-- Conditions
-- ---------------------------------------------------------------------------

/-- A condition on other variables. -/
def Condition.rename (old new : String) (c : Condition) : Condition :=
  { c with formula := c.formula.rename old new }

theorem Action.namedConditions_rename {old new : String} (a : Action) :
    (a.rename old new).namedConditions = a.namedConditions.map (Condition.rename old new) := by
  rw [namedConditions, namedConditions]
  exact List.filter_map

namespace Workflow

-- ---------------------------------------------------------------------------
-- Renaming a column
-- ---------------------------------------------------------------------------

theorem names_renameColumns {old new : String} {cs : List Column} (h : (cs.map (·.name)).Nodup)
    (hnew : new ∉ cs.map (·.name)) :
    (renameColumns old new cs).map (·.name) = (cs.map (·.name)).map (Equiv.swap old new) := by
  induction cs with
  | nil => rfl
  | cons c cs ih =>
    rw [List.map_cons] at h hnew
    obtain ⟨hfresh, hnodup⟩ := List.nodup_cons.mp h
    obtain ⟨hne, hnew⟩ := List.ne_and_not_mem_of_not_mem_cons hnew
    rw [renameColumns]
    split
    · next heq =>
      have hname : c.name = old := by simpa using heq
      have hsame : (cs.map (·.name)).map (Equiv.swap old new) = cs.map (·.name) := by
        refine (List.map_congr_left fun n hn => ?_).trans (List.map_id _)
        have hnold : n ≠ old := fun heq => hfresh (by rw [hname, ← heq]; exact hn)
        exact Equiv.swap_apply_of_ne_of_ne hnold fun heq => hnew (heq ▸ hn)
      rw [List.map_cons, List.map_cons, List.map_cons, hsame, hname, Equiv.swap_apply_left]
    · next hname =>
      have hname : c.name ≠ old := by simpa using hname
      rw [List.map_cons, ih hnodup hnew, List.map_cons, List.map_cons,
        Equiv.swap_apply_of_ne_of_ne hname (Ne.symm hne)]

theorem column?_isSome {w : Workflow} {n : String} :
    (w.column? n).isSome = true ↔ n ∈ w.columnNames := by
  simp [column?, columnNames]

/-- What a renaming can do to a workflow: nothing if the names are one; else a column, or else an
attribute, takes a name that neither has, and every action follows it. -/
inductive RenameStep (old new : String) (w : Workflow) : Workflow → Prop
  | same (heq : old = new) : RenameStep old new w w
  | column (hne : old ≠ new) (hnew : new ∉ w.variableNames) (hold : old ∈ w.columnNames) :
    RenameStep old new w
      { w with
        columns := renameColumns old new w.columns
        actions := w.actions.map (Action.rename old new) }
  | constant (hne : old ≠ new) (hnew : new ∉ w.variableNames) (hold : old ∉ w.columnNames)
    {v : Value} (hv : w.attributes.get? old = some v) :
    RenameStep old new w
      { w with
        attributes := Sorted.insert (new, v) (w.attributes.filter fun e => e.1 != old)
        actions := w.actions.map (Action.rename old new) }

theorem renameStep_of_rename {w w' : Workflow} {old new : String}
    (h : w.rename old new = .ok w') : RenameStep old new w w' := by
  rw [rename] at h
  split at h
  · next heq =>
    cases h
    exact .same (beq_iff_eq.mp heq)
  · next hne =>
    have hne : old ≠ new := mt beq_iff_eq.mpr hne
    split at h
    · cases h
    · next hfree =>
      have hnew : new ∉ w.variableNames := by simpa using hfree
      split at h
      · next hcolumn =>
        cases h
        exact .column hne hnew (column?_isSome.mp hcolumn)
      · next hcolumn =>
        split at h
        · next hv =>
          cases h
          exact .constant hne hnew (mt column?_isSome.mpr hcolumn) hv
        · cases h

/-- A workflow beside the same with a column renamed. -/
structure Renames (old new : String) (w w' : Workflow) : Prop where
  named : w.Named
  isColumn : old ∈ w.columnNames
  fresh : new ∉ w.variableNames
  id : w'.id = w.id
  attributes : w'.attributes = w.attributes
  columns : w'.columnNames = w.columnNames.map (Equiv.swap old new)
  actions : w'.actions = w.actions.map (Action.rename old new)

theorem renames_of_rename {w w' : Workflow} {old new : String} (hw : w.Named) (hne : old ≠ new)
    (hold : old ∈ w.columnNames) (h : w.rename old new = .ok w') : Renames old new w w' := by
  cases renameStep_of_rename h with
  | same heq => exact absurd heq hne
  | column _ hnew _ =>
    have hcolumns : new ∉ w.columns.map (·.name) := fun hmem =>
      hnew (List.mem_append_left _ hmem)
    exact ⟨hw, hold, hnew, rfl, rfl, names_renameColumns hw.columns hcolumns, rfl⟩
  | constant _ _ hfree => exact absurd hold hfree

-- ---------------------------------------------------------------------------
-- Renaming in place
-- ---------------------------------------------------------------------------

theorem run_takeAttribute (name : String) (w : Workflow) :
    (takeAttribute name).run w = .ok (w.attributes.get? name)
      { w with attributes := w.attributes.filter fun e => e.1 != name } := rfl

/-- Taking away an attribute that is not there changes nothing. -/
theorem attributes_of_get?_eq_none {w : Workflow} {name : String}
    (h : w.attributes.get? name = none) :
    { w with attributes := w.attributes.filter fun e => e.1 != name } = w := by
  have hkept : w.attributes.filter (fun e => e.1 != name) = w.attributes := by
    apply List.filter_eq_self.mpr
    intro e he
    have hne := List.lookup_eq_none_iff.mp h e he
    simpa [bne, BEq.comm] using hne
  rw [hkept]

/-- Renaming in place comes to the workflow that renaming gives, and to the one it began with if
it fails. -/
theorem run_renameInPlace (old new : String) (w : Workflow) :
    (renameInPlace old new).run w = match w.rename old new with
      | .ok w' => .ok () w'
      | .error e => .error e w := by
  unfold renameInPlace rename
  split
  · rfl
  · simp only [EStateM.run_bind, EStateM.run_get]
    split
    · rfl
    · simp only [EStateM.run_bind, EStateM.run_get]
      split
      · rfl
      · simp only [EStateM.run_bind, run_takeAttribute]
        cases hvalue : w.attributes.get? old with
        | some v => rfl
        | none =>
          simp only [attributes_of_get?_eq_none hvalue]
          rfl

end Workflow

end MailMerge
