import Mathlib.Data.List.Forall2

/-!
# Traversals that can fail

A list is gone through from the front, and the first failure ends it. It succeeds exactly when
every member does, and then there is one result beside each member.
-/

namespace MailMerge

variable {ε α β : Type}

theorem exists_of_bind_eq_ok {x : Except ε α} {f : α → Except ε β} {b : β}
    (h : x >>= f = .ok b) : ∃ a, x = .ok a ∧ f a = .ok b := by
  cases x with
  | error e => exact nomatch h
  | ok a => exact ⟨a, rfl, h⟩

theorem error_of_bind_eq_error {x : Except ε α} {f : α → Except ε β} {e : ε}
    (h : x >>= f = .error e) : x = .error e ∨ ∃ a, x = .ok a ∧ f a = .error e := by
  cases x with
  | error e' => exact .inl (by cases h; rfl)
  | ok a => exact .inr ⟨a, rfl, h⟩

theorem error_of_map_eq_error {x : Except ε α} {f : α → β} {e : ε} (h : x.map f = .error e) :
    x = .error e := by
  cases x with
  | error e' => cases h; rfl
  | ok a => cases h

theorem forM_eq_ok_iff {f : α → Except ε Unit} {xs : List α} :
    xs.forM f = .ok () ↔ ∀ x ∈ xs, f x = .ok () := by
  induction xs with
  | nil => exact ⟨fun _ x hx => absurd hx List.not_mem_nil, fun _ => rfl⟩
  | cons x xs ih =>
    change (f x >>= fun _ => xs.forM f) = .ok () ↔ _
    cases hx : f x with
    | error e =>
      refine ⟨fun h => (by cases h), fun h => ?_⟩
      rw [h x List.mem_cons_self] at hx
      cases hx
    | ok _ =>
      rw [List.forall_mem_cons, ← ih]
      exact ⟨fun h => ⟨hx, h⟩, fun h => h.2⟩

theorem mapM_eq_ok_iff {f : α → Except ε β} {xs : List α} {ys : List β} :
    xs.mapM f = .ok ys ↔ List.Forall₂ (fun x y => f x = .ok y) xs ys := by
  induction xs generalizing ys with
  | nil =>
    rw [List.mapM_nil, List.forall₂_nil_left_iff]
    exact ⟨fun h => (Except.ok.inj h).symm, fun h => h ▸ rfl⟩
  | cons x xs ih =>
    rw [List.mapM_cons, List.forall₂_cons_left_iff]
    cases hx : f x with
    | error e => exact ⟨fun h => (nomatch h), fun ⟨_, _, h, _⟩ => (nomatch h)⟩
    | ok y =>
      cases hxs : xs.mapM f with
      | error e =>
        refine ⟨fun h => (nomatch h), fun ⟨_, zs, _, hzs, _⟩ => ?_⟩
        rw [ih.mpr hzs] at hxs
        cases hxs
      | ok zs =>
        refine ⟨fun h => ?_, fun ⟨y', zs', hy, hzs, heq⟩ => ?_⟩
        · cases h
          exact ⟨y, zs, rfl, ih.mp hxs, rfl⟩
        · cases hy
          cases hxs.symm.trans (ih.mpr hzs)
          rw [heq]
          rfl

/-- The failure of a traversal is that of a member. -/
theorem exists_of_mapM_eq_error {f : α → Except ε β} {xs : List α} {e : ε}
    (h : xs.mapM f = .error e) : ∃ x ∈ xs, f x = .error e := by
  induction xs with
  | nil => cases h
  | cons x xs ih =>
    rw [List.mapM_cons] at h
    rcases error_of_bind_eq_error h with hx | ⟨y, -, hrest⟩
    · exact ⟨x, List.mem_cons_self, hx⟩
    · rcases error_of_bind_eq_error hrest with hxs | ⟨ys, -, hok⟩
      · obtain ⟨x', hmem, hx'⟩ := ih hxs
        exact ⟨x', List.mem_cons_of_mem x hmem, hx'⟩
      · cases hok

/-- A traversal fails at the first of its members that does. -/
theorem mapM_eq_error_iff {f : α → Except ε β} {xs : List α} {e : ε} :
    xs.mapM f = .error e ↔ ∃ before x after, xs = before ++ x :: after ∧
      (∀ x' ∈ before, ∃ y, f x' = .ok y) ∧ f x = .error e := by
  induction xs with
  | nil =>
    refine ⟨fun h => (nomatch h), fun ⟨before, x, after, heq, _⟩ => ?_⟩
    exact absurd heq.symm (by simp)
  | cons x xs ih =>
    constructor
    · intro h
      rw [List.mapM_cons] at h
      rcases error_of_bind_eq_error h with hx | ⟨y, hy, hrest⟩
      · exact ⟨[], x, xs, rfl, fun _ hmem => (nomatch hmem), hx⟩
      · rcases error_of_bind_eq_error hrest with hxs | ⟨ys, -, hok⟩
        · obtain ⟨before, x', after, rfl, hbefore, hx'⟩ := ih.mp hxs
          exact ⟨x :: before, x', after, rfl, List.forall_mem_cons.mpr ⟨⟨y, hy⟩, hbefore⟩, hx'⟩
        · cases hok
    · rintro ⟨before, x', after, heq, hbefore, hx'⟩
      rw [List.mapM_cons]
      cases before with
      | nil =>
        cases heq
        rw [hx']
        rfl
      | cons b before =>
        cases heq
        obtain ⟨⟨y, hy⟩, hbefore⟩ := List.forall_mem_cons.mp hbefore
        rw [hy, ih.mpr ⟨before, x', after, rfl, hbefore, hx'⟩]
        rfl

theorem mapM_eq_some_iff {f : α → Option β} {xs : List α} {ys : List β} :
    xs.mapM f = some ys ↔ List.Forall₂ (fun x y => f x = some y) xs ys := by
  induction xs generalizing ys with
  | nil =>
    rw [List.mapM_nil, List.forall₂_nil_left_iff]
    exact ⟨fun h => (Option.some.inj h).symm, fun h => h ▸ rfl⟩
  | cons x xs ih =>
    simp only [List.mapM_cons, Option.bind_eq_bind, Option.bind_eq_some_iff, Option.pure_def,
      Option.some.injEq, List.forall₂_cons_left_iff, ih]
    constructor
    · rintro ⟨y, hy, zs, hzs, rfl⟩
      exact ⟨y, zs, hy, hzs, rfl⟩
    · rintro ⟨y, zs, hy, hzs, rfl⟩
      exact ⟨y, hy, zs, hzs, rfl⟩

/-- Every result is that of a member. -/
theorem exists_mem_of_forall₂ {R : α → β → Prop} {xs : List α} {ys : List β}
    (h : List.Forall₂ R xs ys) {y : β} (hy : y ∈ ys) : ∃ x ∈ xs, R x y := by
  induction h with
  | nil => cases hy
  | cons hxy _ ih =>
    rcases List.mem_cons.mp hy with rfl | hy
    · exact ⟨_, List.mem_cons_self, hxy⟩
    · obtain ⟨x, hx, hR⟩ := ih hy
      exact ⟨x, List.mem_cons_of_mem _ hx, hR⟩

/-- Every member has a result. -/
theorem exists_result_of_forall₂ {R : α → β → Prop} {xs : List α} {ys : List β}
    (h : List.Forall₂ R xs ys) {x : α} (hx : x ∈ xs) : ∃ y ∈ ys, R x y :=
  exists_mem_of_forall₂ h.flip hx

/-- The results of a traversal are those of the members. -/
theorem mem_iff_of_mapM_eq_ok {f : α → Except ε β} {xs : List α} {ys : List β}
    (h : xs.mapM f = .ok ys) {y : β} : y ∈ ys ↔ ∃ x ∈ xs, f x = .ok y := by
  have hpairs := mapM_eq_ok_iff.mp h
  constructor
  · exact exists_mem_of_forall₂ hpairs
  · rintro ⟨x, hx, hy⟩
    obtain ⟨z, hz, hxz⟩ := exists_result_of_forall₂ hpairs hx
    cases hy.symm.trans hxz
    exact hz

/-- A traversal of members of a list succeeds if that of the list does. -/
theorem exists_mapM_eq_ok {f : α → Except ε β} {xs xs' : List α} {ys : List β}
    (h : xs.mapM f = .ok ys) (hsub : ∀ x ∈ xs', x ∈ xs) : ∃ ys', xs'.mapM f = .ok ys' := by
  induction xs' with
  | nil => exact ⟨[], rfl⟩
  | cons x xs' ih =>
    rw [List.forall_mem_cons] at hsub
    obtain ⟨y, -, hy⟩ := exists_result_of_forall₂ (mapM_eq_ok_iff.mp h) hsub.1
    obtain ⟨ys', hys'⟩ := ih hsub.2
    exact ⟨y :: ys', mapM_eq_ok_iff.mpr (.cons hy (mapM_eq_ok_iff.mp hys'))⟩

/-- Another traversal that follows a first one step by step follows it as a whole. -/
theorem mapM_map_eq_ok {ε' α' β' : Type} {f : α → Except ε β} {g : α' → Except ε' β'}
    {r : α → α'} {k : β → β'} {xs : List α} {ys : List β}
    (h : ∀ x ∈ xs, ∀ y, f x = .ok y → g (r x) = .ok (k y)) (hys : xs.mapM f = .ok ys) :
    (xs.map r).mapM g = .ok (ys.map k) := by
  rw [mapM_eq_ok_iff] at hys ⊢
  rw [List.forall₂_map_left_iff, List.forall₂_map_right_iff]
  refine List.Forall₂.imp ?_ ((List.forall₂_and_left _ _).mpr ⟨h, hys⟩)
  exact fun x y ⟨hx, hy⟩ => hx y hy

end MailMerge
