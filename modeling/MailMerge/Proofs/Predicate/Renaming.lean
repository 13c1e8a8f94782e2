import MailMerge.Predicate.Compile
import MailMerge.Predicate.Truth
import MailMerge.Proofs.Formula.Renaming

/-!
# Renaming the columns of a predicate

The predicate of a renamed formula is the renamed predicate of the formula, and it has the
same answers on rows whose columns are renamed in the same way.
-/

namespace MailMerge

variable {σ : String → String}

/-- A test of another column. -/
def Test.renamed (σ : String → String) : Test → Test
  | .compare n o v => .compare (σ n) o v
  | .compareEmpty n o => .compareEmpty (σ n) o
  | .like n negated pattern => .like (σ n) negated pattern
  | .null n negated => .null (σ n) negated
  | .between n negated low high => .between (σ n) negated low high

namespace Predicate

mutual

/-- A predicate on other columns. -/
def renamed (σ : String → String) : Predicate → Predicate
  | .test t => .test (t.renamed σ)
  | .join kind tests => .join kind (tests.map (Test.renamed σ))
  | .group kind members => .group kind (renamedEach σ members)
  | .not p => .not (renamed σ p)

def renamedEach (σ : String → String) : List Predicate → List Predicate
  | [] => []
  | p :: ps => renamed σ p :: renamedEach σ ps

end

theorem renamedEach_eq_map (σ : String → String) (ps : List Predicate) :
    renamedEach σ ps = ps.map (renamed σ) := by
  induction ps with
  | nil => rfl
  | cons p ps ih => rw [renamedEach, ih, List.map_cons]

-- ---------------------------------------------------------------------------
-- Values
-- ---------------------------------------------------------------------------

theorem test_values_renamed (t : Test) : (t.renamed σ).values = t.values := by
  cases t <;> rfl

mutual

/-- What columns are compared with is the same whatever they are called. -/
theorem values_renamed (p : Predicate) : (p.renamed σ).values = p.values := by
  match p with
  | .test t => exact test_values_renamed t
  | .join kind tests =>
    rw [renamed, values, List.flatMap_map, values]
    exact congrArg (List.flatMap · tests) (funext test_values_renamed)
  | .group kind members => exact valuesEach_renamedEach members
  | .not p => exact values_renamed p

theorem valuesEach_renamedEach (ps : List Predicate) :
    valuesEach (renamedEach σ ps) = valuesEach ps := by
  match ps with
  | [] => rfl
  | p :: ps => rw [renamedEach, valuesEach, values_renamed p, valuesEach_renamedEach ps, valuesEach]

end

-- ---------------------------------------------------------------------------
-- Truth
-- ---------------------------------------------------------------------------

variable {row row' : String → Slot}

theorem test_truth_renamed (h : ∀ n, row' (σ n) = row n) (t : Test) :
    (t.renamed σ).truth row' = t.truth row := by
  cases t <;> simp only [Test.renamed, Test.truth, h]

mutual

theorem truth_renamed (h : ∀ n, row' (σ n) = row n) (p : Predicate) :
    (p.renamed σ).truth row' = p.truth row := by
  match p with
  | .test t => exact test_truth_renamed h t
  | .join kind tests =>
    have htests : (tests.map (Test.renamed σ)).map (Test.truth row') = tests.map (Test.truth row) := by
      rw [List.map_map]
      exact List.map_congr_left fun t _ => test_truth_renamed h t
    rw [renamed, truth, htests, truth]
  | .group kind members => rw [renamed, truth, truthEach_renamedEach h members, truth]
  | .not p => rw [renamed, truth, truth_renamed h p, truth]

theorem truthEach_renamedEach (h : ∀ n, row' (σ n) = row n) (ps : List Predicate) :
    truthEach row' (renamedEach σ ps) = truthEach row ps := by
  match ps with
  | [] => rfl
  | p :: ps => rw [renamedEach, truthEach, truth_renamed h p, truthEach_renamedEach h ps, truthEach]

end

theorem selects_renamed (h : ∀ n, row' (σ n) = row n) (p : Option Predicate) :
    selects (p.map (renamed σ)) row' = selects p row := by
  cases p with
  | none => rfl
  | some p => simp only [selects, Option.map_some, truth_renamed h]

end Predicate

-- ---------------------------------------------------------------------------
-- Compilation
-- ---------------------------------------------------------------------------

namespace Comparison

variable (c : Comparison)

theorem checkColumn_renamed (hσ : Function.Injective σ) (names : List String) :
    (c.renamed σ).checkColumn (some (names.map σ))
      = (c.checkColumn (some names)).mapError (.renamed σ) := by
  have hcontains : (names.map σ).contains (σ c.field) = names.contains c.field := by
    rw [Bool.eq_iff_iff, List.contains_iff_mem, List.contains_iff_mem,
      List.mem_map_of_injective hσ]
  have hfield : (c.renamed σ).field = σ c.field := rfl
  simp only [checkColumn]
  rw [hfield, hcontains]
  by_cases h : names.contains c.field = true
  · rw [if_pos h, if_pos h]
    rfl
  · rw [if_neg h, if_neg h]
    rfl

theorem likePattern_renamed (openStart openEnd : Bool) :
    (c.renamed σ).likePattern openStart openEnd
      = (c.likePattern openStart openEnd).mapError (.renamed σ) := by
  simp only [likePattern, pattern_renamed]
  cases c.pattern <;> rfl

theorem likeTest_renamed (openStart openEnd : Bool) :
    (c.renamed σ).likeTest openStart openEnd
      = ((c.likeTest openStart openEnd).map (Predicate.renamed σ)).mapError (.renamed σ) := by
  simp only [likeTest, likePattern_renamed]
  cases c.likePattern openStart openEnd <;> rfl

theorem notLikeTest_renamed (openStart openEnd : Bool) :
    (c.renamed σ).notLikeTest openStart openEnd
      = ((c.notLikeTest openStart openEnd).map (Predicate.renamed σ)).mapError (.renamed σ) := by
  simp only [notLikeTest, likePattern_renamed]
  cases c.likePattern openStart openEnd <;> rfl

theorem orderTest_renamed (o : Comparator) :
    (c.renamed σ).orderTest o
      = ((c.orderTest o).map (Predicate.renamed σ)).mapError (.renamed σ) := by
  simp only [orderTest, constant_renamed]
  cases c.constant <;> rfl

theorem rangeTest_renamed (negated : Bool) :
    (c.renamed σ).rangeTest negated
      = ((c.rangeTest negated).map (Predicate.renamed σ)).mapError (.renamed σ) := by
  simp only [rangeTest, range_renamed]
  cases c.range <;> rfl

/-- Only the check of the column asks what the names are. -/
theorem compile_renamed_of {columns columns' : Option (List String)}
    (hcolumn : (c.renamed σ).checkColumn columns' = (c.checkColumn columns).mapError (.renamed σ)) :
    (c.renamed σ).compile columns'
      = ((c.compile columns).map (Predicate.renamed σ)).mapError (.renamed σ) := by
  have hoperator : (c.renamed σ).operator = c.operator := rfl
  simp only [compile, hcolumn, hoperator, constant_renamed]
  cases c.checkColumn columns with
  | error e => rfl
  | ok _ =>
    cases c.operator
    case equal | notEqual => cases c.constant <;> rfl
    case beginsWith | contains | endsWith => exact likeTest_renamed c _ _
    case notBeginsWith | notContains | notEndsWith => exact notLikeTest_renamed c _ _
    case isEmpty | isNotEmpty | isNull | isNotNull => rfl
    case less | lessOrEqual | greater | greaterOrEqual => exact orderTest_renamed c _
    case between | notBetween => exact rangeTest_renamed c _

end Comparison

namespace Formula

theorem joinPredicates_renamed (kind : Conjunction) (negated : Bool)
    (members : List (Option Predicate)) :
    joinPredicates kind negated (members.map (Option.map (Predicate.renamed σ)))
      = (joinPredicates kind negated members).map (Predicate.renamed σ) := by
  have hmembers : (members.map (Option.map (Predicate.renamed σ))).filterMap id
      = (members.filterMap id).map (Predicate.renamed σ) := by
    induction members with
    | nil => rfl
    | cons p members ih =>
      cases p with
      | none => exact ih
      | some p => exact congrArg (p.renamed σ :: ·) ih
  simp only [joinPredicates, Predicate.combine?, hmembers]
  cases members.filterMap id with
  | nil => rfl
  | cons p ps =>
    cases negated <;>
      simp [Predicate.renamed, Predicate.renamedEach, Predicate.renamedEach_eq_map]

theorem compile_renamed_of {columns columns' : Option (List String)}
    (hcolumn : ∀ c : Comparison,
      (c.renamed σ).checkColumn columns' = (c.checkColumn columns).mapError (.renamed σ))
    (f : Formula) :
    (f.renamed σ).compile columns'
      = ((f.compile columns).map (Option.map (Predicate.renamed σ))).mapError (.renamed σ) := by
  have hleaf : ∀ c : Comparison, ((c.renamed σ).compile columns').map some
      = translate (Option.map (Predicate.renamed σ)) (.renamed σ) ((c.compile columns).map some) := by
    intro c
    rw [Comparison.compile_renamed_of c (hcolumn c), translate]
    cases c.compile columns <;> rfl
  exact fold_mapLeaves hleaf joinPredicates_renamed f

theorem compile_renamed (hσ : Function.Injective σ) (f : Formula) (names : List String) :
    (f.renamed σ).compile (some (names.map σ))
      = ((f.compile (some names)).map (Option.map (Predicate.renamed σ))).mapError
          (.renamed σ) :=
  compile_renamed_of (fun c => Comparison.checkColumn_renamed c hσ names) f

/-- Where no columns are known, formulas have predicates whatever their variables are called. -/
theorem compile_renamed_unchecked (σ : String → String) (f : Formula) :
    (f.renamed σ).compile none
      = ((f.compile none).map (Option.map (Predicate.renamed σ))).mapError (.renamed σ) :=
  compile_renamed_of (fun _ => rfl) f

/-- A formula has a predicate over known columns only if it compares no others. -/
theorem mem_of_compile_eq_ok {f : Formula} {names : List String} {p : Option Predicate}
    (h : f.compile (some names) = .ok p) : ∀ c ∈ f.leaves, c.field ∈ names := by
  intro c hc
  obtain ⟨x, hx⟩ := leaf_of_fold_eq_ok f h c hc
  by_contra hmem
  have hcolumn : c.checkColumn (some names) = .error (.unknownColumn c.field) := by
    simp [Comparison.checkColumn, hmem]
  simp [Comparison.compile, hcolumn, bind, Except.bind, Except.map] at hx

end Formula

end MailMerge
