import MailMerge.Proofs.Name.Context

/-!
# Renaming the names of a context

Contexts whose names are replaced by others, no two by one, are built and searched as
before.
-/

namespace MailMerge

namespace Context

variable {σ : String → String}

/-- A context with its names replaced. -/
def renamed (σ : String → String) (c : Context) : Context := c.map fun e => (σ e.1, e.2)

theorem get?_renamed (hσ : Function.Injective σ) (c : Context) (n : String) :
    (c.renamed σ).get? (σ n) = c.get? n :=
  lookup_map_names hσ n c

theorem contains_renamed (hσ : Function.Injective σ) (c : Context) (n : String) :
    (c.renamed σ).contains (σ n) = c.contains n := by
  rw [contains, get?_renamed hσ, contains]

theorem insert_renamed (hσ : Function.Injective σ) (n : String) (v : Value) (c : Context) :
    insert (σ n) v (c.renamed σ) = (insert n v c).renamed σ := by
  induction c with
  | nil => rfl
  | cons e c ih =>
    obtain ⟨m, w⟩ := e
    have hkey : (σ m == σ n) = (m == n) := by
      by_cases h : m = n
      · simp [h]
      · rw [beq_eq_false_iff_ne.mpr h, beq_eq_false_iff_ne.mpr (hσ.ne h)]
    rw [renamed, List.map_cons, insert, hkey, insert]
    split
    · rfl
    · exact congrArg ((σ m, w) :: ·) ih

theorem insertAll_renamed (hσ : Function.Injective σ) (entries c : Context) :
    (c.renamed σ).insertAll (entries.renamed σ) = (c.insertAll entries).renamed σ := by
  induction entries generalizing c with
  | nil => rfl
  | cons e entries ih =>
    have hstep := ih (insert e.1 e.2 c)
    rw [← insert_renamed hσ] at hstep
    exact hstep

theorem ofEntries_renamed (hσ : Function.Injective σ) (entries : Context) :
    ofEntries (entries.renamed σ) = (ofEntries entries).renamed σ :=
  insertAll_renamed hσ entries []

-- ---------------------------------------------------------------------------
-- Names that are bound
-- ---------------------------------------------------------------------------

theorem mem_names_insert {n : String} {v : Value} {c : Context} {m : String} :
    m ∈ (insert n v c).map (·.1) ↔ m = n ∨ m ∈ c.map (·.1) := by
  induction c with
  | nil => simp [insert]
  | cons e c ih =>
    rw [insert]
    split
    · next h =>
      have heq : e.1 = n := by simpa using h
      simp [heq]
    · simp only [List.map_cons, List.mem_cons, ih]
      exact or_left_comm

theorem Distinct.insert {c : Context} (hc : c.Distinct) (n : String) (v : Value) :
    Distinct (Context.insert n v c) := by
  induction c with
  | nil => exact List.nodup_singleton n
  | cons e c ih =>
    obtain ⟨hfresh, hrest⟩ := List.nodup_cons.mp hc
    rw [Context.insert]
    split
    · exact List.nodup_cons.mpr ⟨hfresh, hrest⟩
    · next h =>
      have hne : e.1 ≠ n := by simpa using h
      refine List.nodup_cons.mpr ⟨fun hmem => ?_, ih hrest⟩
      rcases mem_names_insert.mp hmem with heq | hmem
      · exact hne heq
      · exact hfresh hmem

theorem Distinct.insertAll {c : Context} (hc : c.Distinct) (entries : List (String × Value)) :
    Distinct (c.insertAll entries) := by
  induction entries generalizing c with
  | nil => exact hc
  | cons e entries ih => exact ih (hc.insert e.1 e.2)

theorem distinct_ofEntries (entries : List (String × Value)) : (ofEntries entries).Distinct := by
  have hnil : Distinct [] := List.nodup_nil
  exact hnil.insertAll entries

theorem mem_names_insertAll {entries : List (String × Value)} {c : Context} {m : String} :
    m ∈ (c.insertAll entries).map (·.1) ↔ m ∈ entries.map (·.1) ∨ m ∈ c.map (·.1) := by
  induction entries generalizing c with
  | nil => simp [insertAll]
  | cons e entries ih =>
    rw [insertAll, List.foldl_cons]
    refine (ih (c := Context.insert e.1 e.2 c)).trans ?_
    rw [mem_names_insert, List.map_cons, List.mem_cons]
    tauto

theorem contains_iff_mem_names {c : Context} {n : String} :
    c.contains n = true ↔ n ∈ c.map (·.1) := by
  induction c with
  | nil => simp [contains, get?]
  | cons e c ih =>
    rw [contains, get?, List.lookup_cons, List.map_cons, List.mem_cons, ← ih]
    by_cases h : n = e.1
    · simp [h]
    · rw [beq_eq_false_iff_ne.mpr h]
      exact (or_iff_right h).symm

end Context

end MailMerge
