import MailMerge.Predicate.Text
import MailMerge.Proofs.Predicate.Renaming

/-!
# Renaming as substitution

A formula with a variable renamed says of a row what the formula says of the row in which the old
name stands for what the new one is bound to. That holds whatever the new name is: the formula
may be on it already, and the row may not bind it. The predicate of the renamed formula compares
other columns with the same values.
-/

namespace MailMerge

-- ---------------------------------------------------------------------------
-- Rows with a name bound anew
-- ---------------------------------------------------------------------------

namespace Context

/-- One name bound to what another one is bound to, and to nothing where that one is free. -/
def rebound (old new : String) (c : Context) : Context :=
  match c.get? new with
  | some v => insert old v c
  | none => c.filter fun e => e.1 != old

theorem get?_filter_ne (old n : String) (c : Context) :
    get? (c.filter fun e => e.1 != old) n = if n = old then none else c.get? n := by
  induction c with
  | nil =>
    split <;> rfl
  | cons e c ih =>
    rw [List.filter_cons]
    split
    · next hne =>
      have hne : e.1 ≠ old := by simpa using hne
      rw [get?_cons, ih, get?_cons]
      by_cases h : n = e.1
      · rw [if_pos h, if_neg (h ▸ hne), if_pos h]
      · rw [if_neg h, if_neg h]
    · next heq =>
      have heq : e.1 = old := by simpa using heq
      rw [ih, get?_cons]
      by_cases h : n = old
      · rw [if_pos h, if_pos h]
      · rw [if_neg h, if_neg h, if_neg (heq ▸ h)]

theorem get?_rebound (old new n : String) (c : Context) :
    (c.rebound old new).get? n = c.get? (if n = old then new else n) := by
  rw [rebound]
  cases hnew : c.get? new with
  | some v =>
    dsimp only
    rw [get?_insert]
    split
    · exact hnew.symm
    · rfl
  | none =>
    dsimp only
    rw [get?_filter_ne]
    split
    · exact hnew.symm
    · rfl

end Context

namespace Formula

variable {old new : String}

-- ---------------------------------------------------------------------------
-- Variables
-- ---------------------------------------------------------------------------

theorem rename_eq (old new : String) (f : Formula) :
    f.rename old new = f.renamed fun n => if n = old then new else n := by
  refine mapLeaves_congr f fun c _ => ?_
  rw [Comparison.renamed]
  by_cases h : c.field = old
  · rw [if_pos (beq_iff_eq.mpr h), if_pos h]
  · rw [if_neg (mt beq_iff_eq.mp h), if_neg h]

theorem variableNames_renamed (σ : String → String) (f : Formula) :
    (f.renamed σ).variableNames = f.variableNames.map σ := by
  rw [variableNames, renamed, leaves_mapLeaves, List.map_map, variableNames, List.map_map]
  rfl

mutual

theorem mentions_iff (f : Formula) (n : String) : f.mentions n = true ↔ n ∈ f.variableNames := by
  match f with
  | .leaf c =>
    rw [mentions, beq_iff_eq, variableNames, leaves, List.map_singleton, List.mem_singleton]
    exact eq_comm
  | .group kind negated children => exact mentionsEach_iff children n

theorem mentionsEach_iff (fs : List Formula) (n : String) :
    mentionsEach fs n = true ↔ n ∈ (leavesEach fs).map (·.field) := by
  match fs with
  | [] => simp [mentionsEach, leavesEach]
  | f :: fs =>
    rw [mentionsEach, Bool.or_eq_true, mentions_iff f n, mentionsEach_iff fs n, leavesEach,
      List.map_append, List.mem_append, variableNames]

end

/-- A variable renamed to one that no leaf is on can be renamed back. -/
theorem rename_rename {f : Formula} (h : f.mentions new = false) :
    (f.rename old new).rename new old = f := by
  have hfields : ∀ c ∈ f.leaves, c.field ≠ new := by
    intro c hc heq
    have hmentions := (mentions_iff f new).mpr (heq ▸ List.mem_map_of_mem hc)
    rw [h] at hmentions
    cases hmentions
  rw [rename, rename, mapLeaves_mapLeaves]
  refine (mapLeaves_congr f fun c hc => ?_).trans f.mapLeaves_id
  by_cases hold : c.field = old
  · simp [← hold]
  · simp [hold, hfields c hc]

-- ---------------------------------------------------------------------------
-- Truth and predicates
-- ---------------------------------------------------------------------------

/-- The renamed formula answers as the formula does of the row with the old name bound anew, and
fails as it does, with the new name in the error. -/
theorem isTrue_rename (f : Formula) (old new : String) (c : Context) :
    (f.rename old new).isTrue (some c)
      = (f.isTrue (some (c.rebound old new))).mapError
          (.renamed fun n => if n = old then new else n) := by
  rw [rename_eq]
  exact isTrue_renamed_of (fun n => (c.get?_rebound old new n).symm) f

theorem values?_compile_rename (f : Formula) (old new : String) :
    ((f.rename old new).compile none).toOption.map Predicate.values?
      = (f.compile none).toOption.map Predicate.values? := by
  rw [rename_eq, compile_renamed_unchecked]
  cases f.compile none with
  | error e => rfl
  | ok p =>
    cases p with
    | none => rfl
    | some p => exact congrArg some p.values_renamed

/-- Renaming a variable is substitution, whatever the new name is. The renamed formula is true or
false of a row as the formula is of the row with the old name bound anew, its variables are those
of the formula with the new name in place of the old one, and its predicate, if there is one,
has the same values. A formula mentions the variables it has, and one that does not mention the
new name comes back when it is renamed back. -/
theorem rename_substitutes (f : Formula) (old new : String) :
    (∀ (c : Context) (b : Bool), (f.rename old new).isTrue (some c) = .ok b ↔
      f.isTrue (some (c.rebound old new)) = .ok b) ∧
    (f.rename old new).variableNames
      = f.variableNames.map (fun n => if n = old then new else n) ∧
    (∀ n, f.mentions n = true ↔ n ∈ f.variableNames) ∧
    ((f.rename old new).compile none).toOption.map Predicate.values?
      = (f.compile none).toOption.map Predicate.values? ∧
    (f.mentions new = false → (f.rename old new).rename new old = f) := by
  refine ⟨fun c b => ?_, ?_, mentions_iff f, values?_compile_rename f old new, rename_rename⟩
  · rw [isTrue_rename]
    cases f.isTrue (some (c.rebound old new)) <;> simp [Except.mapError]
  · rw [rename_eq, variableNames_renamed]

/-- A mark that is good enough, and no resit that was missed or had the same mark. -/
def resitFormula : Formula :=
  .and [.leaf ⟨"mark", .greaterOrEqual, .integer, .single (.text "5")⟩,
    (Formula.or [.leaf ⟨"resit", .isNull, .integer, .none⟩,
      .leaf ⟨"mark", .equal, .integer, .single (.int 7)⟩]).negate]

theorem rename_substitutes_resit :
    resitFormula.isTrue (some [("mark", .int 3), ("resit", .int 9)]) = .ok false ∧
    resitFormula.isTrue (some [("mark", .int 9), ("resit", .int 9)]) = .ok true ∧
    (resitFormula.rename "mark" "resit").isTrue (some [("mark", .int 3), ("resit", .int 9)])
      = .ok true ∧
    (resitFormula.rename "mark" "resit").variableNames = ["resit", "resit", "resit"] ∧
    ((resitFormula.rename "mark" "resit").compile none).toOption.map Predicate.values?
      = some [.int 5, .int 7] ∧
    resitFormula.mentions "final mark" = false ∧
    (resitFormula.rename "mark" "final mark").rename "final mark" "mark" = resitFormula := by
  have hbefore : resitFormula.isTrue (some [("mark", .int 3), ("resit", .int 9)]) = .ok false := by
    decide +kernel
  have hbound : resitFormula.isTrue (some [("mark", .int 9), ("resit", .int 9)]) = .ok true := by
    decide +kernel
  have hvalues : (resitFormula.compile none).toOption.map Predicate.values?
      = some [.int 5, .int 7] := by decide +kernel
  have hfresh : resitFormula.mentions "final mark" = false := by decide +kernel
  obtain ⟨htrue, hnames, -, hcompile, -⟩ := rename_substitutes resitFormula "mark" "resit"
  obtain ⟨-, -, -, -, hback⟩ := rename_substitutes resitFormula "mark" "final mark"
  exact ⟨hbefore, hbound, (htrue _ _).mpr hbound, hnames, hcompile.trans hvalues, hfresh,
    hback hfresh⟩

end Formula

end MailMerge
