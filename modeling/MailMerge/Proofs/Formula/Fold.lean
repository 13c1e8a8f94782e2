import MailMerge.Formula.Basic
import MailMerge.Proofs.Traversal

/-!
# Questions asked of a formula

Every question visits all leaves: an answer is made of the answers for the leaves, and a failure is
that of the first leaf that fails. Where the answers for leaves are translated, so is the answer for
the formula.
-/

namespace MailMerge

namespace Formula

variable {α β : Type} {leaf : Comparison → Except FormulaError α}
  {group : Conjunction → Bool → List α → α}

-- ---------------------------------------------------------------------------
-- Leaves
-- ---------------------------------------------------------------------------

-- By induction on the formula: the leaves of a group are those of its members, one member after the
-- other, and so are their answers.
mutual

/-- What an answer is made of: the answers for the leaves, in their order. -/
theorem answers_of_fold_eq_ok {R : List α → α → Prop} (hleaf : ∀ x, R [x] x)
    (hgroup : ∀ kind negated yss xs, List.Forall₂ R yss xs → R yss.flatten (group kind negated xs))
    (f : Formula) {x : α} (h : f.fold leaf group = .ok x) :
    ∃ ys, List.Forall₂ (fun c y => leaf c = .ok y) f.leaves ys ∧ R ys x := by
  match f with
  | .leaf c => exact ⟨[x], .cons h .nil, hleaf x⟩
  | .group kind negated children =>
    rw [fold] at h
    cases heach : foldEach leaf group children with
    | error e => rw [heach] at h; cases h
    | ok xs =>
      rw [heach] at h
      cases h
      obtain ⟨yss, hyss, hR⟩ := answers_of_foldEach_eq_ok hleaf hgroup children heach
      exact ⟨yss.flatten, hyss, hgroup kind negated yss xs hR⟩

theorem answers_of_foldEach_eq_ok {R : List α → α → Prop} (hleaf : ∀ x, R [x] x)
    (hgroup : ∀ kind negated yss xs, List.Forall₂ R yss xs → R yss.flatten (group kind negated xs))
    (fs : List Formula) {xs : List α} (h : foldEach leaf group fs = .ok xs) :
    ∃ yss, List.Forall₂ (fun c y => leaf c = .ok y) (leavesEach fs) yss.flatten ∧
      List.Forall₂ R yss xs := by
  match fs with
  | [] =>
    cases h
    exact ⟨[], .nil, .nil⟩
  | f :: fs =>
    rw [foldEach] at h
    cases hf : fold leaf group f with
    | error e => rw [hf] at h; cases h
    | ok x =>
      cases hfs : foldEach leaf group fs with
      | error e => rw [hf, hfs] at h; cases h
      | ok xs =>
        rw [hf, hfs] at h
        cases h
        obtain ⟨ys, hys, hR⟩ := answers_of_fold_eq_ok hleaf hgroup f hf
        obtain ⟨yss, hyss, hReach⟩ := answers_of_foldEach_eq_ok hleaf hgroup fs hfs
        exact ⟨ys :: yss, List.rel_append hys hyss, .cons hR hReach⟩

end

/-- A formula that has an answer has one for each of its leaves. -/
theorem leaf_of_fold_eq_ok (f : Formula) {x : α} (h : f.fold leaf group = .ok x) :
    ∀ c ∈ f.leaves, ∃ y, leaf c = .ok y := by
  intro c hc
  obtain ⟨ys, hys, -⟩ := answers_of_fold_eq_ok (R := fun _ _ => True) (fun _ => trivial)
    (fun _ _ _ _ _ => trivial) f h
  obtain ⟨y, -, hy⟩ := exists_result_of_forall₂ hys hc
  exact ⟨y, hy⟩

/-- What the answer of a formula gathers stands there leaf by leaf. -/
theorem gather_of_fold_eq_ok {gather : α → List β}
    (hgroup : ∀ kind negated xs, gather (group kind negated xs) = xs.flatMap gather)
    (f : Formula) {x : α} (h : f.fold leaf group = .ok x) :
    ∃ ys, List.Forall₂ (fun c y => leaf c = .ok y) f.leaves ys ∧
      gather x = ys.flatMap gather := by
  refine answers_of_fold_eq_ok (R := fun ys x => gather x = ys.flatMap gather)
    (fun x => (List.flatMap_singleton gather x).symm) (fun kind negated yss xs hxs => ?_) f h
  rw [hgroup]
  induction hxs with
  | nil => rfl
  | cons hx _ ih => rw [List.flatMap_cons, List.flatten_cons, List.flatMap_append, hx, ih]

mutual

theorem leaves_mapLeaves (g : Comparison → Comparison) (f : Formula) :
    (f.mapLeaves g).leaves = f.leaves.map g := by
  match f with
  | .leaf c => rfl
  | .group kind negated children => exact leavesEach_mapLeavesEach g children

theorem leavesEach_mapLeavesEach (g : Comparison → Comparison) (fs : List Formula) :
    leavesEach (mapLeavesEach g fs) = (leavesEach fs).map g := by
  match fs with
  | [] => rfl
  | f :: fs =>
    rw [mapLeavesEach, leavesEach, leaves_mapLeaves g f, leavesEach_mapLeavesEach g fs, leavesEach,
      List.map_append]

end

-- ---------------------------------------------------------------------------
-- Two questions
-- ---------------------------------------------------------------------------

/-- Two questions are answered alike: both fail with one error, or they have related answers. -/
inductive Alike (R : α → β → Prop) : Except FormulaError α → Except FormulaError β → Prop
  | ok {x : α} {y : β} (h : R x y) : Alike R (.ok x) (.ok y)
  | error (e : FormulaError) : Alike R (.error e) (.error e)

namespace Alike

variable {α' β' : Type} {R : α → β → Prop} {R' : α' → β' → Prop}
  {x : Except FormulaError α} {y : Except FormulaError β}

theorem refl (x : Except FormulaError α) : Alike Eq x x := by
  cases x with
  | ok x => exact .ok rfl
  | error e => exact .error e

theorem eq {y : Except FormulaError α} (h : Alike Eq x y) : x = y := by
  cases h with
  | ok h => rw [h]
  | error e => rfl

theorem map {k : α → α'} {k' : β → β'} (h : Alike R x y) (hk : ∀ a b, R a b → R' (k a) (k' b)) :
    Alike R' (x.map k) (y.map k') := by
  cases h with
  | ok h => exact .ok (hk _ _ h)
  | error e => exact .error e

theorem bind {k : α → Except FormulaError α'} {k' : β → Except FormulaError β'} (h : Alike R x y)
    (hk : ∀ a b, R a b → Alike R' (k a) (k' b)) : Alike R' (x >>= k) (y >>= k') := by
  cases h with
  | ok h => exact hk _ _ h
  | error e => exact .error e

end Alike

/-- Two questions fail alike: both fail with one error, or neither fails. -/
def FailAlike (x : Except FormulaError α) (y : Except FormulaError β) : Prop :=
  Alike (fun _ _ => True) x y

namespace FailAlike

variable {α' : Type} {x : Except FormulaError α} {y : Except FormulaError β}

theorem refl (x : Except FormulaError α) : FailAlike x x := by
  cases x with
  | ok x => exact .ok trivial
  | error e => exact .error e

theorem map_left {k : α → α'} (h : FailAlike x y) : FailAlike (x.map k) y := by
  cases h with
  | ok _ => exact .ok trivial
  | error e => exact .error e

theorem symm (h : FailAlike x y) : FailAlike y x := by
  cases h with
  | ok _ => exact .ok trivial
  | error e => exact .error e

theorem map_right {k : β → α'} (h : FailAlike x y) : FailAlike x (y.map k) := h.symm.map_left.symm

theorem error_iff (h : FailAlike x y) (e : FormulaError) : x = .error e ↔ y = .error e := by
  cases h with
  | ok _ => exact ⟨fun h => (nomatch h), fun h => (nomatch h)⟩
  | error e' => exact ⟨fun h => (by cases h; rfl), fun h => (by cases h; rfl)⟩

end FailAlike

-- By induction on the formula: a group asks its members in turn, as a traversal of all their leaves
-- does, and what it makes of the answers is no error.
mutual

/-- A formula fails as a traversal of its leaves does. -/
theorem fold_failAlike_leaves (leaf : Comparison → Except FormulaError α)
    (group : Conjunction → Bool → List α → α) (f : Formula) :
    FailAlike (f.fold leaf group) (f.leaves.mapM leaf) := by
  match f with
  | .leaf c =>
    rw [fold, leaves, List.mapM_cons]
    cases leaf c with
    | error e => exact .error e
    | ok x => exact .ok trivial
  | .group kind negated children => exact (foldEach_failAlike_leaves leaf group children).map_left

theorem foldEach_failAlike_leaves (leaf : Comparison → Except FormulaError α)
    (group : Conjunction → Bool → List α → α) (fs : List Formula) :
    FailAlike (foldEach leaf group fs) ((leavesEach fs).mapM leaf) := by
  match fs with
  | [] => exact .ok trivial
  | f :: fs =>
    rw [foldEach, leavesEach, List.mapM_append]
    have hf := fold_failAlike_leaves leaf group f
    have hfs := foldEach_failAlike_leaves leaf group fs
    exact hf.bind fun _ _ _ => hfs.bind fun _ _ _ => .ok trivial

end

/-- A formula fails only as one of its leaves does. -/
theorem leaf_of_fold_eq_error (f : Formula) {e : FormulaError} (h : f.fold leaf group = .error e) :
    ∃ c ∈ f.leaves, leaf c = .error e :=
  exists_of_mapM_eq_error (((fold_failAlike_leaves leaf group f).error_iff e).mp h)

section

variable {R : α → β → Prop} {leaf' : Comparison → Except FormulaError β}
  {group' : Conjunction → Bool → List β → β}

-- By induction on the formula: leaves are asked in one order, so that the first to fail is one.
mutual

/-- Questions that are answered alike of every leaf are answered alike of the formula. -/
theorem fold_alike (hgroup : ∀ kind negated xs ys, List.Forall₂ R xs ys →
      R (group kind negated xs) (group' kind negated ys))
    (f : Formula) (h : ∀ c ∈ f.leaves, Alike R (leaf c) (leaf' c)) :
    Alike R (f.fold leaf group) (f.fold leaf' group') := by
  match f with
  | .leaf c => exact h c (List.mem_singleton_self c)
  | .group kind negated children =>
    exact (foldEach_alike hgroup children h).map (hgroup kind negated)

theorem foldEach_alike (hgroup : ∀ kind negated xs ys, List.Forall₂ R xs ys →
      R (group kind negated xs) (group' kind negated ys))
    (fs : List Formula) (h : ∀ c ∈ leavesEach fs, Alike R (leaf c) (leaf' c)) :
    Alike (List.Forall₂ R) (foldEach leaf group fs) (foldEach leaf' group' fs) := by
  match fs with
  | [] => exact .ok .nil
  | f :: fs =>
    have hf := fold_alike hgroup f fun c hc => h c (List.mem_append_left _ hc)
    have hfs := foldEach_alike hgroup fs fun c hc => h c (List.mem_append_right _ hc)
    exact hf.bind fun _ _ hx => hfs.bind fun _ _ hxs => .ok (.cons hx hxs)

end

/-- Leaves decide the answer, groups only join what they say. -/
theorem fold_congr {leaf' : Comparison → Except FormulaError α} (f : Formula)
    (h : ∀ c ∈ f.leaves, leaf c = leaf' c) : f.fold leaf group = f.fold leaf' group := by
  refine (fold_alike (fun kind negated xs ys hxs => ?_) f fun c hc => ?_).eq
  · rw [List.forall₂_eq_eq_eq] at hxs
    rw [hxs]
  · rw [h c hc]
    exact .refl _

end

-- ---------------------------------------------------------------------------
-- Translations
-- ---------------------------------------------------------------------------

/-- An answer translated, and an error. -/
def translate (φ : α → β) (ρ : FormulaError → FormulaError) (x : Except FormulaError α) :
    Except FormulaError β := (x.map φ).mapError ρ

theorem translate_id (ρ : FormulaError → FormulaError) (x : Except FormulaError α) :
    translate id ρ x = x.mapError ρ := by
  cases x <;> rfl

variable {leaf' : Comparison → Except FormulaError β} {group' : Conjunction → Bool → List β → β}
  {g : Comparison → Comparison} {φ : α → β} {ρ : FormulaError → FormulaError}

mutual

theorem fold_mapLeaves (hleaf : ∀ c, leaf' (g c) = translate φ ρ (leaf c))
    (hgroup : ∀ kind negated xs, group' kind negated (xs.map φ) = φ (group kind negated xs))
    (f : Formula) : (f.mapLeaves g).fold leaf' group' = translate φ ρ (f.fold leaf group) := by
  match f with
  | .leaf c => exact hleaf c
  | .group kind negated children =>
    rw [mapLeaves, fold, foldEach_mapLeavesEach hleaf hgroup children, fold]
    cases foldEach leaf group children with
    | error e => rfl
    | ok xs =>
      simp only [translate, Except.map, Except.mapError, hgroup]

theorem foldEach_mapLeavesEach (hleaf : ∀ c, leaf' (g c) = translate φ ρ (leaf c))
    (hgroup : ∀ kind negated xs, group' kind negated (xs.map φ) = φ (group kind negated xs))
    (fs : List Formula) :
    foldEach leaf' group' (mapLeavesEach g fs)
      = ((foldEach leaf group fs).map (List.map φ)).mapError ρ := by
  match fs with
  | [] => rfl
  | f :: fs =>
    rw [mapLeavesEach, foldEach, fold_mapLeaves hleaf hgroup f,
      foldEach_mapLeavesEach hleaf hgroup fs, foldEach]
    cases fold leaf group f with
    | error e => rfl
    | ok x =>
      cases foldEach leaf group fs with
      | error e => rfl
      | ok xs => rfl

end

end Formula

end MailMerge
