import MailMerge.Formula.Truth
import MailMerge.Predicate.Text
import MailMerge.Proofs.Formula.Fold
import MailMerge.Proofs.Traversal
import MailMerge.Store.Basic

/-!
# Formulas without leaves

A formula of groups alone compares nothing. It has no predicate, so a store selects every row
by it, while its truth is that of its groups: one without members holds if it is a conjunction
and fails if it is a disjunction, and a negated one turns its answer round.
-/

namespace MailMerge

namespace Formula

variable {α : Type}

-- ---------------------------------------------------------------------------
-- Answers that ask no leaf
-- ---------------------------------------------------------------------------

mutual

/-- Without leaves a question has an answer, whatever it would ask of them. -/
theorem exists_answer {group : Conjunction → Bool → List α → α} {R : Formula → α → Prop}
    (hgroup : ∀ kind negated children xs, List.Forall₂ R children xs →
      R (.group kind negated children) (group kind negated xs))
    (f : Formula) (h : f.leaves = []) : ∃ x, R f x ∧ ∀ leaf, f.fold leaf group = .ok x := by
  match f with
  | .leaf c => cases h
  | .group kind negated children =>
    obtain ⟨xs, hxs, hfold⟩ := exists_answers hgroup children h
    refine ⟨_, hgroup kind negated children xs hxs, fun leaf => ?_⟩
    rw [fold, hfold leaf]
    rfl

theorem exists_answers {group : Conjunction → Bool → List α → α} {R : Formula → α → Prop}
    (hgroup : ∀ kind negated children xs, List.Forall₂ R children xs →
      R (.group kind negated children) (group kind negated xs))
    (fs : List Formula) (h : leavesEach fs = []) :
    ∃ xs, List.Forall₂ R fs xs ∧ ∀ leaf, foldEach leaf group fs = .ok xs := by
  match fs with
  | [] => exact ⟨[], .nil, fun _ => rfl⟩
  | f :: fs =>
    obtain ⟨hf, hfs⟩ := List.append_eq_nil_iff.mp h
    obtain ⟨x, hx, hfold⟩ := exists_answer hgroup f hf
    obtain ⟨xs, hxs, hfoldEach⟩ := exists_answers hgroup fs hfs
    refine ⟨x :: xs, .cons hx hxs, fun leaf => ?_⟩
    rw [foldEach, hfold leaf, hfoldEach leaf]
    rfl

end

theorem variableNames_eq_nil_iff {f : Formula} : f.variableNames = [] ↔ f.leaves = [] :=
  List.map_eq_nil_iff

-- ---------------------------------------------------------------------------
-- Predicates
-- ---------------------------------------------------------------------------

variable {columns : Option (List String)}

theorem joinPredicates_eq_none_iff {kind : Conjunction} {negated : Bool}
    {ps : List (Option Predicate)} :
    joinPredicates kind negated ps = none ↔ ∀ p ∈ ps, p = none := by
  rw [joinPredicates, Option.map_eq_none_iff, Predicate.combine?]
  split
  · next h => simpa [List.filterMap_eq_nil_iff] using h
  · next h => simpa [List.filterMap_eq_nil_iff] using h

/-- Every leaf has a predicate, and a group has none only if no member has one. -/
theorem leaves_of_compile_eq_none {f : Formula} (h : f.compile columns = .ok none) :
    f.leaves = [] := by
  have hgroup : ∀ (kind : Conjunction) (negated : Bool) (pss : List (List (Option Predicate)))
      (ps : List (Option Predicate)),
      List.Forall₂ (fun qs p => p = none → ∀ q ∈ qs, q = none) pss ps →
      joinPredicates kind negated ps = none → ∀ q ∈ pss.flatten, q = none := by
    intro kind negated pss ps hpss hjoined q hq
    obtain ⟨qs, hqs, hmem⟩ := List.mem_flatten.mp hq
    obtain ⟨p, hp, hnone⟩ := exists_result_of_forall₂ hpss hqs
    exact hnone (joinPredicates_eq_none_iff.mp hjoined p hp) q hmem
  obtain ⟨ps, hps, hnone⟩ := answers_of_fold_eq_ok (R := fun qs p => p = none → ∀ q ∈ qs, q = none)
    (fun p hp => List.forall_mem_singleton.mpr hp) hgroup f h
  generalize f.leaves = cs at hps ⊢
  cases hps with
  | nil => rfl
  | @cons c p _ _ hc _ =>
    rw [hnone rfl p List.mem_cons_self] at hc
    cases hcompile : c.compile columns with
    | error e => rw [hcompile] at hc; cases hc
    | ok p => rw [hcompile] at hc; cases hc

/-- A formula has no predicate exactly if it has no leaves, whatever columns are known. -/
theorem compile_eq_none_iff {f : Formula} : f.compile columns = .ok none ↔ f.leaves = [] := by
  constructor
  · exact leaves_of_compile_eq_none
  · intro h
    have hgroup : ∀ (kind : Conjunction) (negated : Bool) (children : List Formula)
        (ps : List (Option Predicate)), List.Forall₂ (fun _ p => p = none) children ps →
        joinPredicates kind negated ps = none := by
      intro kind negated children ps hps
      rw [joinPredicates_eq_none_iff]
      intro p hp
      obtain ⟨-, -, hnone⟩ := exists_mem_of_forall₂ hps hp
      exact hnone
    obtain ⟨p, rfl, hfold⟩ := exists_answer hgroup f h
    exact hfold _

end Formula

namespace Predicate

variable {style : PlaceholderStyle}

theorem append_ne_empty {start : String} (h : start ≠ "") (rest : String) : start ++ rest ≠ "" :=
  fun heq => h (String.append_eq_empty_iff.mp heq).1

theorem column_ne_empty (name : String) : style.column name ≠ "" := by
  simp [PlaceholderStyle.column]

theorem writeTest_ne_empty (t : Test) : t.write style ≠ "" := by
  cases t <;> simp only [Test.write, String.append_assoc] <;>
    exact append_ne_empty (column_ne_empty _) _

/-- The text of a predicate is never empty. -/
theorem write_ne_empty (p : Predicate) : p.write style ≠ "" := by
  cases p with
  | test t => exact writeTest_ne_empty t
  | join kind tests =>
    simp only [write, writeJoined, String.append_assoc]
    exact append_ne_empty (by decide) _
  | group kind members =>
    simp only [write, String.append_assoc]
    exact append_ne_empty (by decide) _
  | not p =>
    simp only [write, String.append_assoc]
    exact append_ne_empty (by decide) _

theorem write?_eq_empty_iff {p : Option Predicate} : write? style p = "" ↔ p = none := by
  cases p with
  | none => simp [write?]
  | some p => simp [write?, write_ne_empty]

end Predicate

namespace Formula

-- ---------------------------------------------------------------------------
-- Truth
-- ---------------------------------------------------------------------------

/-- What groups say by themselves: a conjunction fails by one member and a disjunction holds by
one, else they do not, and a negated group says the opposite. -/
inductive Settles : Formula → Bool → Prop where
  | all {negated : Bool} {children : List Formula} (h : ∀ f ∈ children, Settles f true) :
    Settles (.group .and negated children) (!negated)
  | notAll {negated : Bool} {children : List Formula} {f : Formula} (hf : f ∈ children)
      (h : Settles f false) : Settles (.group .and negated children) negated
  | any {negated : Bool} {children : List Formula} {f : Formula} (hf : f ∈ children)
      (h : Settles f true) : Settles (.group .or negated children) (!negated)
  | notAny {negated : Bool} {children : List Formula} (h : ∀ f ∈ children, Settles f false) :
    Settles (.group .or negated children) negated

theorem Settles.unique {f : Formula} {b b' : Bool} (h : f.Settles b) (h' : f.Settles b') :
    b = b' := by
  induction h generalizing b' with
  | all h ih =>
    cases h' with
    | all _ => rfl
    | notAll hf hfalse => exact absurd (ih _ hf hfalse) (by decide)
  | notAll hf _ ih =>
    cases h' with
    | all h => exact absurd (ih (h _ hf)) (by decide)
    | notAll _ _ => rfl
  | any hf _ ih =>
    cases h' with
    | any _ _ => rfl
    | notAny h => exact absurd (ih (h _ hf)) (by decide)
  | notAny h ih =>
    cases h' with
    | any hf htrue => exact absurd (ih _ hf htrue) (by decide)
    | notAny _ => rfl

theorem settles_joinTruth {kind : Conjunction} {negated : Bool} {children : List Formula}
    {bs : List Bool} (h : List.Forall₂ Settles children bs) :
    Settles (.group kind negated children) (joinTruth kind negated bs) := by
  have hmember : ∀ b ∈ bs, ∃ f ∈ children, f.Settles b := fun b => exists_mem_of_forall₂ h
  have hresult : ∀ f ∈ children, ∃ b ∈ bs, f.Settles b := fun f => exists_result_of_forall₂ h
  cases kind with
  | and =>
    cases hall : bs.all id with
    | true =>
      simp only [joinTruth, hall, Bool.true_bne]
      refine .all fun f hf => ?_
      obtain ⟨b, hb, hsettles⟩ := hresult f hf
      have htrue : b = true := List.all_eq_true.mp hall b hb
      exact htrue ▸ hsettles
    | false =>
      simp only [joinTruth, hall, Bool.false_bne]
      obtain ⟨b, hb, hfalse⟩ := List.all_eq_false.mp hall
      obtain ⟨f, hf, hsettles⟩ := hmember b hb
      have hb : b = false := by simpa using hfalse
      exact .notAll hf (hb ▸ hsettles)
  | or =>
    cases hany : bs.any id with
    | true =>
      simp only [joinTruth, hany, Bool.true_bne]
      obtain ⟨b, hb, htrue⟩ := List.any_eq_true.mp hany
      obtain ⟨f, hf, hsettles⟩ := hmember b hb
      have hb : b = true := htrue
      exact .any hf (hb ▸ hsettles)
    | false =>
      simp only [joinTruth, hany, Bool.false_bne]
      refine .notAny fun f hf => ?_
      obtain ⟨b, hb, hsettles⟩ := hresult f hf
      have hfalse : b = false := by simpa using List.any_eq_false.mp hany b hb
      exact hfalse ▸ hsettles

/-- Without leaves a formula is of every row what its groups say. -/
theorem exists_settles {f : Formula} (h : f.leaves = []) :
    ∃ b, f.Settles b ∧ ∀ row, f.isTrue row = .ok b := by
  obtain ⟨b, hb, hfold⟩ := exists_answer (fun _ _ _ _ => settles_joinTruth) f h
  exact ⟨b, hb, fun row => hfold _⟩

-- ---------------------------------------------------------------------------
-- Rows
-- ---------------------------------------------------------------------------

theorem compileFilter_of_leaves_eq_nil {f : Formula} (h : f.leaves = []) (t : Table) :
    Store.compileFilter t (some f) = Store.compileFilter t none := by
  simp only [Store.compileFilter, compile_eq_none_iff.mpr h]
  rfl

/-- A formula has no predicate exactly if it names no variable. Then it selects every row, and
its truth is the same of all rows and of none: what its groups say. -/
theorem no_predicate_iff (f : Formula) :
    (∀ columns, f.compile columns = .ok none ↔ f.variableNames = []) ∧
    (∀ columns p, f.compile columns = .ok p →
      ∀ style, Predicate.write? style p = "" ↔ f.variableNames = []) ∧
    (f.variableNames = [] →
      (∀ (s : Store) id,
        (∀ columns, s.rows id (some f) columns = s.rows id none columns) ∧
        s.countRows id (some f) = s.countRows id none) ∧
      (∃ b, ∀ row, f.isTrue row = .ok b) ∧
      ∀ row b, f.isTrue row = .ok b ↔ f.Settles b) := by
  simp only [variableNames_eq_nil_iff]
  refine ⟨fun columns => compile_eq_none_iff, ?_, ?_⟩
  · intro columns p hp style
    have hnone : f.compile columns = .ok none ↔ f.leaves = [] := compile_eq_none_iff
    rw [Predicate.write?_eq_empty_iff, ← hnone, hp, Except.ok.injEq]
  · intro h
    refine ⟨fun s id => ⟨fun columns => ?_, ?_⟩, ?_⟩
    · simp only [Store.rows, compileFilter_of_leaves_eq_nil h]
    · simp only [Store.countRows, compileFilter_of_leaves_eq_nil h]
    · obtain ⟨b, hsettles, htrue⟩ := exists_settles h
      refine ⟨⟨b, htrue⟩, fun row b' => ?_⟩
      rw [htrue row, Except.ok.injEq]
      constructor
      · intro heq
        exact heq ▸ hsettles
      · exact hsettles.unique

/-- Groups within groups, one of them negated. -/
def bareGroups : Formula := .and [.group .or true [], .or [.and [], .or []]]

theorem no_predicate_bareGroups :
    bareGroups.variableNames = [] ∧ bareGroups.compile none = .ok none ∧
      bareGroups.Settles true ∧ ∀ row, bareGroups.isTrue row = .ok true := by
  have hnames : bareGroups.variableNames = [] := rfl
  obtain ⟨hcompile, -, hrest⟩ := no_predicate_iff bareGroups
  obtain ⟨-, -, htruth⟩ := hrest hnames
  have hsettles : bareGroups.Settles true := (htruth none true).mp rfl
  exact ⟨hnames, (hcompile none).mpr hnames, hsettles, fun row => (htruth row true).mpr hsettles⟩

/-- A disjunction of nothing selects every row and is true of none. -/
theorem not_isTrue_or_nil :
    (Formula.or []).variableNames = [] ∧ (Formula.or []).compile none = .ok none ∧
      (Formula.or []).isTrue none = .ok false :=
  ⟨rfl, rfl, rfl⟩

end Formula

end MailMerge
