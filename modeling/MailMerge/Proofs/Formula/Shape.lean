import MailMerge.Formula.Describe
import MailMerge.Formula.Truth
import MailMerge.Predicate.Compile
import MailMerge.Proofs.Formula.Check
import MailMerge.Proofs.Formula.Fold
import MailMerge.Proofs.Formula.RuleBuilder.Accepted

/-!
# Well-shaped formulas

A formula is well-shaped when every leaf has as many constants as its operator takes. Reading a
rule-builder text makes sure of that, and negating, renaming and joining formulas keep it. No
question asked of a well-shaped formula fails for want of a constant, and its description does not
fail at all.
-/

namespace MailMerge

-- ---------------------------------------------------------------------------
-- Errors of shape
-- ---------------------------------------------------------------------------

/-- Whether an error is about the shape of a formula: a text that is none, or constants that are
too many or too few. -/
def FormulaError.IsShape : FormulaError → Prop
  | .arity _ _ | .malformed | .unknownShape | .unknownCondition _ | .ruleWithoutField
  | .ruleArity _ _ => True
  | .missingVariable _ | .typeNotAllowed _ _ | .invalidConstant _ _ _ | .incomparable _ _ _
  | .unknownColumn _ => False

/-- Whether an answer is no error of shape. -/
def ShapeFree {α : Type} (x : Except FormulaError α) : Prop := ∀ e, x = .error e → ¬ e.IsShape

namespace ShapeFree

variable {α β : Type} {x : Except FormulaError α} {f : α → Except FormulaError β}

theorem ok (a : α) : ShapeFree (.ok a : Except FormulaError α) := fun e h => by cases h

theorem error {e : FormulaError} (h : ¬ e.IsShape) : ShapeFree (.error e : Except FormulaError α) :=
  fun e' he => by
    cases he
    exact h

theorem bind (hx : ShapeFree x) (hf : ∀ a, ShapeFree (f a)) : ShapeFree (x >>= f) := by
  intro e he
  cases hxe : x with
  | error e' =>
    rw [hxe] at he
    cases he
    exact hx e hxe
  | ok a =>
    rw [hxe] at he
    exact hf a e he

theorem map {g : α → β} (hx : ShapeFree x) : ShapeFree (x.map g) := by
  have hbind : x.map g = x >>= fun a => .ok (g a) := by cases x <;> rfl
  rw [hbind]
  exact hx.bind fun a => ok (g a)

end ShapeFree

-- ---------------------------------------------------------------------------
-- Leaves
-- ---------------------------------------------------------------------------

namespace Comparison

/-- Whether a leaf has as many constants as its operator takes: none, a single one or a range. -/
def WellShaped (c : Comparison) : Prop := c.operand.values.length = c.operator.arity

variable {c : Comparison}

theorem shapeFree_coerce (c : Comparison) (v : Value) : ShapeFree (c.coerce v) := by
  rw [coerce]
  split
  · exact .ok _
  · exact .error id

theorem shapeFree_constant (h : c.operand.values.length = 1) : ShapeFree c.constant := by
  rw [constant]
  cases hc : c.operand with
  | single v => exact c.shapeFree_coerce v
  | none => rw [hc] at h; cases h
  | range low high => rw [hc] at h; cases h

theorem shapeFree_range (h : c.operand.values.length = 2) : ShapeFree c.range := by
  rw [range]
  cases hc : c.operand with
  | range low high =>
    exact (c.shapeFree_coerce low).bind fun _ => (c.shapeFree_coerce high).bind fun _ => .ok _
  | none => rw [hc] at h; cases h
  | single v => rw [hc] at h; cases h

theorem shapeFree_pattern (h : c.operand.values.length = 1) : ShapeFree c.pattern := by
  rw [pattern]
  cases hc : c.operand with
  | single v =>
    cases v with
    | null => exact .error id
    | _ => exact .ok _
  | none => rw [hc] at h; cases h
  | range low high => rw [hc] at h; cases h

theorem shapeFree_cell (c : Comparison) (row : Option Context) : ShapeFree (c.cell row) := by
  cases row with
  | none => exact .ok _
  | some row =>
    rw [cell]
    split
    · exact .error id
    · exact .ok _
    · exact .ok _

theorem shapeFree_checkType (c : Comparison) : ShapeFree c.checkType := by
  rw [checkType]
  split
  · exact .ok _
  · exact .error id

theorem WellShaped.shapeFree_check (h : c.WellShaped) : ShapeFree c.check := by
  refine c.shapeFree_checkType.bind fun _ => ?_
  rw [WellShaped] at h
  rw [checkConstants]
  cases hop : c.operator <;> rw [hop] at h <;> dsimp only [Operator.arity]
  case isEmpty | isNotEmpty | isNull | isNotNull => exact .ok _
  case between | notBetween => exact (shapeFree_range h).map
  all_goals exact (shapeFree_constant h).map

/-- The number of constants matters in the checks alone. -/
theorem WellShaped.shapeFree_isTrue (h : c.WellShaped) (row : Option Context) :
    ShapeFree (c.isTrue row) := by
  intro e he
  obtain hcell | hcheck | ⟨v, rfl⟩ := error_of_isTrue he
  · exact c.shapeFree_cell row e hcell
  · exact h.shapeFree_check e hcheck
  · exact id

theorem shapeFree_likePattern (h : c.operand.values.length = 1) (openStart openEnd : Bool) :
    ShapeFree (c.likePattern openStart openEnd) :=
  (shapeFree_pattern h).bind fun _ => .ok _

theorem WellShaped.shapeFree_compile (h : c.WellShaped) (columns : Option (List String)) :
    ShapeFree (c.compile columns) := by
  have hcolumn : ShapeFree (c.checkColumn columns) := by
    cases columns with
    | none => exact .ok _
    | some names =>
      rw [checkColumn]
      split
      · exact .ok _
      · exact .error id
  refine hcolumn.bind fun _ => ?_
  rw [WellShaped] at h
  cases hop : c.operator <;> rw [hop] at h <;> dsimp only
  case equal | notEqual => exact (shapeFree_constant h).bind fun _ => .ok _
  case beginsWith | notBeginsWith | contains | notContains | endsWith | notEndsWith =>
    exact (shapeFree_likePattern h _ _).bind fun _ => .ok _
  case isEmpty | isNotEmpty | isNull | isNotNull => exact .ok _
  case less | lessOrEqual | greater | greaterOrEqual =>
    exact (shapeFree_constant h).bind fun _ => .ok _
  case between | notBetween => exact (shapeFree_range h).bind fun _ => .ok _

theorem WellShaped.describe_eq_ok (h : c.WellShaped) : ∃ t, c.describe = .ok t := by
  obtain ⟨field, operator, dataType, operand⟩ := c
  have hshape : operand.values.length = operator.arity := h
  rw [describe, ← hshape]
  cases operand <;> exact ⟨_, rfl⟩

end Comparison

-- ---------------------------------------------------------------------------
-- Formulas
-- ---------------------------------------------------------------------------

namespace Formula

/-- Whether every leaf has as many constants as its operator takes. -/
def WellShaped (f : Formula) : Prop := ∀ c ∈ f.leaves, c.WellShaped

variable {f : Formula}

theorem shapeFree_fold {α : Type} {leaf : Comparison → Except FormulaError α}
    {group : Conjunction → Bool → List α → α} (h : ∀ c ∈ f.leaves, ShapeFree (leaf c)) :
    ShapeFree (f.fold leaf group) := by
  intro e he
  obtain ⟨c, hc, hfails⟩ := leaf_of_fold_eq_error f he
  exact h c hc e hfails

theorem WellShaped.shapeFree_isTrue (h : f.WellShaped) (row : Option Context) :
    ShapeFree (f.isTrue row) :=
  shapeFree_fold fun c hc => (h c hc).shapeFree_isTrue row

theorem WellShaped.shapeFree_compile (h : f.WellShaped) (columns : Option (List String)) :
    ShapeFree (f.compile columns) :=
  shapeFree_fold fun c hc => ((h c hc).shapeFree_compile columns).map

theorem WellShaped.describe_eq_ok (h : f.WellShaped) : ∃ t, f.describe = .ok t := by
  cases hdescribe : f.describe with
  | ok t => exact ⟨t, rfl⟩
  | error e =>
    obtain ⟨c, hc, hfails⟩ := leaf_of_fold_eq_error f hdescribe
    obtain ⟨t, ht⟩ := (h c hc).describe_eq_ok
    rw [ht] at hfails
    cases hfails

-- ---------------------------------------------------------------------------
-- What is done to formulas
-- ---------------------------------------------------------------------------

theorem mem_leavesEach {fs : List Formula} {c : Comparison} :
    c ∈ leavesEach fs ↔ ∃ f ∈ fs, c ∈ f.leaves := by
  induction fs with
  | nil => exact ⟨fun h => absurd h List.not_mem_nil, fun ⟨_, h, _⟩ => absurd h List.not_mem_nil⟩
  | cons f fs ih => rw [leavesEach, List.mem_append, ih, List.exists_mem_cons_iff]

theorem leaves_negate (f : Formula) : f.negate.leaves = f.leaves := by
  cases f <;> rfl

theorem WellShaped.negate (h : f.WellShaped) : f.negate.WellShaped := by
  rw [WellShaped, leaves_negate]
  exact h

theorem WellShaped.rename (h : f.WellShaped) (old new : String) :
    (f.rename old new).WellShaped := by
  rw [WellShaped, Formula.rename, leaves_mapLeaves]
  refine List.forall_mem_map.mpr fun c hc => ?_
  split
  · exact h c hc
  · exact h c hc

theorem WellShaped.group {fs : List Formula} (h : ∀ f ∈ fs, f.WellShaped) (kind : Conjunction)
    (negated : Bool) : (Formula.group kind negated fs).WellShaped := by
  intro c hc
  obtain ⟨f, hf, hcf⟩ := mem_leavesEach.mp hc
  exact h f hf c hcf

/-- Formulas that were read, and what is made of them by negating, renaming and joining. -/
inductive Built : Formula → Prop
  | read {s : String} {f : Formula} (h : ofText s = .ok f) : Built f
  | negate {f : Formula} (h : Built f) : Built f.negate
  | rename {f : Formula} (old new : String) (h : Built f) : Built (f.rename old new)
  | and {fs : List Formula} (h : ∀ f ∈ fs, Built f) : Built (.and fs)
  | or {fs : List Formula} (h : ∀ f ∈ fs, Built f) : Built (.or fs)

/-- Every leaf of a formula that was read has a name and the constants it needs. -/
theorem accepted_of_ofText {s : String} (h : ofText s = .ok f) : ∀ c ∈ f.leaves, c.Accepted := by
  rw [ofText] at h
  split at h
  next d _ => exact (gives_of_ofDocument h).2
  next => cases h

theorem Built.wellShaped (h : Built f) : f.WellShaped := by
  induction h with
  | read h => exact fun c hc => (accepted_of_ofText h c hc).arity
  | negate _ ih => exact ih.negate
  | rename old new _ ih => exact ih.rename old new
  | and _ ih => exact .group ih .and false
  | or _ ih => exact .group ih .or false

/-- What is checked when a formula is read is enough: no later question fails over its shape. -/
theorem built_shapeFree :
    (∀ f, Built f → (∃ t, f.describe = .ok t) ∧ (∀ row, ShapeFree (f.isTrue row)) ∧
      ∀ columns, ShapeFree (f.compile columns)) ∧
    ∀ s f, ofText s = .ok f → ∀ c ∈ f.leaves, c.field ≠ "" ∧ c.WellShaped := by
  constructor
  · intro f hf
    have hshape := hf.wellShaped
    exact ⟨hshape.describe_eq_ok, hshape.shapeFree_isTrue, hshape.shapeFree_compile⟩
  · intro s f hs c hc
    have haccepted := accepted_of_ofText hs c hc
    exact ⟨haccepted.named, haccepted.arity⟩

/-- A formula that was read, its opposite, and itself on another variable. -/
def joined : Formula := .or [invited, invited.negate, .and [invited.rename "age" "home\ttown"]]

theorem built_shapeFree_joined :
    ofText invited.toText = .ok invited ∧ Built joined ∧
      ((∃ t, joined.describe = .ok t) ∧ (∀ row, ShapeFree (joined.isTrue row)) ∧
        ∀ columns, ShapeFree (joined.compile columns)) ∧
      ∀ c ∈ invited.leaves, c.field ≠ "" ∧ c.WellShaped := by
  have hread : ofText invited.toText = .ok invited := ofText_toText_eq (by decide) (by decide)
  have hinvited : Built invited := .read hread
  have hrenamed : Built (.and [invited.rename "age" "home\ttown"]) :=
    .and (List.forall_mem_singleton.mpr (hinvited.rename _ _))
  have hjoined : Built joined :=
    .or (List.forall_mem_cons.mpr ⟨hinvited, List.forall_mem_cons.mpr
      ⟨hinvited.negate, List.forall_mem_singleton.mpr hrenamed⟩⟩)
  exact ⟨hread, hjoined, built_shapeFree.1 joined hjoined, built_shapeFree.2 _ _ hread⟩

end Formula

end MailMerge
