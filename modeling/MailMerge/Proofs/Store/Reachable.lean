import MailMerge.Proofs.Store.Filled
import MailMerge.Proofs.Store.Renaming
import MailMerge.Proofs.Table.Retained
import MailMerge.Store.Import

/-!
# Reachable stores

Stores are reached from the empty one by making, dropping, filling and importing tables and by
renaming their columns. If only values that suit their columns are put in, the columns of every
table have different names, and beside each column every row has what the column stores for
such a value.
-/

namespace MailMerge

/-- A cell that a column of a type has for one of the values it may hold. -/
def Cell.Suits (t : DataType) (cell : Cell) : Prop :=
  ∃ v : Value, v.Suits t ∧ cell = (Cell.ofValue v).stored t

namespace Table

/-- A row with a value for each column that the column may hold. -/
def SuitsRow (columns : List Column) (row : Row) : Prop :=
  List.Forall₂ (fun c v => Value.Suits c.dataType v) columns row

instance (columns : List Column) (row : Row) : Decidable (SuitsRow columns row) :=
  inferInstanceAs (Decidable (List.Forall₂ _ _ _))

/-- A table whose columns have different names and hold nothing but what suits them. -/
structure Typed (t : Table) : Prop where
  distinct : t.names.Nodup
  suits : ∀ cells ∈ t.rows, List.Forall₂ (fun c cell => Cell.Suits c.dataType cell) t.columns cells

variable {t : Table}

theorem Typed.append (ht : t.Typed) {rows : List Row}
    (hrows : ∀ row ∈ rows, SuitsRow t.columns row) :
    Typed { t with rows := t.rows ++ rows.map t.storedRow } := by
  refine ⟨ht.distinct, fun cells hcells => ?_⟩
  rcases List.mem_append.mp hcells with hcells | hcells
  · exact ht.suits cells hcells
  · obtain ⟨row, hrow, rfl⟩ := List.mem_map.mp hcells
    exact forall₂_storedRow (hrows row hrow)

theorem Typed.renamed (ht : t.Typed) {σ : String → String} (hσ : Function.Injective σ) :
    (t.renamed σ).Typed := by
  refine ⟨?_, fun cells hcells => ?_⟩
  · rw [names_renamed]
    exact ht.distinct.map hσ
  · exact List.forall₂_map_left_iff.mpr (ht.suits cells hcells)

end Table

namespace Store

variable {s s' : Store} {id : Int64} {columns : List Column}

-- ---------------------------------------------------------------------------
-- What changes a store
-- ---------------------------------------------------------------------------

theorem table_eq_ok_iff {t : Table} : s.table id = .ok t ↔ s.find? id = some t := by
  rw [table]
  cases s.find? id <;> simp

theorem find?_drop (s : Store) (id id' : Int64) :
    (s.drop id).find? id' = if id' = id then none else s.find? id' := by
  obtain ⟨tables⟩ := s
  rw [drop, find?, find?]
  induction tables with
  | nil => simp
  | cons e tables ih =>
    dsimp only at ih ⊢
    by_cases h : e.1 = id
    · have hne : ¬(e.1 != id) = true := by simpa using h
      rw [List.filter_cons, if_neg hne, ih, List.lookup_cons, h]
      by_cases h' : id' = id
      · rw [if_pos h', if_pos h']
      · rw [if_neg h', if_neg h', beq_eq_false_iff_ne.mpr h']
    · have hne : (e.1 != id) = true := by simpa using h
      rw [List.filter_cons, if_pos hne, List.lookup_cons, ih, List.lookup_cons]
      by_cases h' : id' = e.1
      · have hkept : ¬id' = id := h'.symm ▸ h
        rw [beq_iff_eq.mpr h', if_neg hkept, if_neg hkept]
      · rw [beq_eq_false_iff_ne.mpr h']

theorem find?_put_of_ne (s : Store) {id id' : Int64} (t : Table) (h : id' ≠ id) :
    (s.put id t).find? id' = s.find? id' := by
  rw [put, find?, List.lookup_cons, beq_eq_false_iff_ne.mpr h]
  exact (find?_drop s id id').trans (if_neg h)

/-- What it takes to import records, and what comes of it. -/
theorem importRecords_eq_ok {d : Document} {n : Nat}
    (h : s.importRecords id columns d = (s', .ok n)) :
    ∃ rows made, rowsOf columns d = .ok rows ∧ n = rows.length ∧
      (made = s ∧ (s.find? id).isSome ∨ s.find? id = none ∧ s.create id columns = .ok made) ∧
      made.insert id rows = .ok s' := by
  rw [importRecords] at h
  cases hrows : rowsOf columns d with
  | error e => rw [hrows] at h; cases h
  | ok rows =>
    rw [hrows] at h
    dsimp only at h
    split at h
    · cases h
    · next made hmade =>
      split at h
      · cases h
      · next filled hfilled =>
        cases h
        refine ⟨rows, made, rfl, rfl, ?_, hfilled⟩
        split at hmade
        · next hsome =>
          cases hmade
          exact .inl ⟨rfl, hsome⟩
        · next hnone => exact .inr ⟨by simpa using hnone, hmade⟩

/-- A table made for records stays when they are refused. -/
theorem importRecords_eq_error {d : Document} {e : StoreError}
    (h : s.importRecords id columns d = (s', .error e)) :
    s' = s ∨ s.create id columns = .ok s' := by
  rw [importRecords] at h
  split at h
  · cases h
    exact .inl rfl
  · split at h
    · cases h
      exact .inl rfl
    · next made hmade =>
      split at h
      · cases h
        split at hmade
        · cases hmade
          exact .inl rfl
        · exact .inr hmade
      · cases h

/-- A store all of whose tables have a property. -/
def Every (P : Table → Prop) (s : Store) : Prop := ∀ id t, s.find? id = some t → P t

variable {P : Table → Prop}

theorem Every.put (hs : s.Every P) {t : Table} (ht : P t) : (s.put id t).Every P := by
  intro id' t' h
  by_cases hid : id' = id
  · rw [hid, find?_put] at h
    cases h
    exact ht
  · rw [find?_put_of_ne s t hid] at h
    exact hs id' t' h

theorem Every.drop (hs : s.Every P) (id : Int64) : (s.drop id).Every P := by
  intro id' t h
  rw [find?_drop] at h
  exact hs id' t (Option.ite_none_left_eq_some.mp h).2

-- ---------------------------------------------------------------------------
-- Reachable stores
-- ---------------------------------------------------------------------------

/-- One change of a store that puts in only values that suit their columns. -/
inductive Change (s : Store) : Store → Prop
  | created {id : Int64} {columns : List Column} {s' : Store}
    (h : s.create id columns = .ok s') : Change s s'
  | dropped (id : Int64) : Change s (s.drop id)
  | inserted {id : Int64} {t : Table} {rows : List Row} {s' : Store} (ht : s.find? id = some t)
    (hrows : ∀ row ∈ rows, Table.SuitsRow t.columns row)
    (h : s.insert id rows = .ok s') : Change s s'
  | renamed {id : Int64} {old new : String} {s' : Store}
    (h : s.renameColumn id old new = .ok s') : Change s s'
  | imported {id : Int64} {columns : List Column} {d : Document} {s' : Store}
    {result : Except StoreError Nat}
    (hrows : ∀ t rows, s'.find? id = some t → rowsOf columns d = .ok rows →
      ∀ row ∈ rows, Table.SuitsRow t.columns row)
    (h : s.importRecords id columns d = (s', result)) : Change s s'

inductive Reachable : Store → Prop
  | empty : Reachable empty
  | changed {s s' : Store} (hs : Reachable s) (h : s.Change s') : Reachable s'

/-- A store all of whose tables hold what suits their columns. -/
def Typed (s : Store) : Prop := ∀ id t, s.find? id = some t → t.Typed

theorem Typed.create (hs : s.Typed) (h : s.create id columns = .ok s') : s'.Typed := by
  obtain ⟨rfl, -, hdistinct⟩ := create_eq_ok h
  exact Every.put hs ⟨nodup_of_checkDistinct hdistinct, fun _ hcells => nomatch hcells⟩

theorem Typed.insert (hs : s.Typed) {t : Table} {rows : List Row} (ht : s.find? id = some t)
    (hrows : ∀ row ∈ rows, Table.SuitsRow t.columns row) (h : s.insert id rows = .ok s') :
    s'.Typed := by
  obtain ⟨t', ht', rfl⟩ := insert_eq_ok h
  cases ht.symm.trans ht'
  exact Every.put hs ((hs _ _ ht).append hrows)

theorem Typed.change (hs : s.Typed) (h : s.Change s') : s'.Typed := by
  cases h with
  | created h => exact hs.create h
  | dropped id => exact Every.drop hs id
  | inserted ht hrows h => exact hs.insert ht hrows h
  | renamed h =>
    obtain ⟨t, ht, -, -, rfl⟩ := renameColumn_eq_ok h
    exact Every.put hs ((hs _ _ (table_eq_ok_iff.mp ht)).renamed (Equiv.injective _))
  | @imported id columns d _ result hrows h =>
    cases result with
    | ok n =>
      obtain ⟨rows, made, hread, -, hmade, hinsert⟩ := importRecords_eq_ok h
      have hmade : made.Typed := by
        rcases hmade with ⟨rfl, -⟩ | ⟨-, hcreate⟩
        · exact hs
        · exact hs.create hcreate
      obtain ⟨t, ht, rfl⟩ := insert_eq_ok hinsert
      have hsuits := hrows _ rows (find?_put ..) hread
      exact hmade.insert ht hsuits hinsert
    | error e =>
      rcases importRecords_eq_error h with rfl | hcreate
      · exact hs
      · exact hs.create hcreate

/-- The tables of a reachable store hold what suits their columns, by induction on the changes
that lead to it. -/
theorem Reachable.typed (h : s.Reachable) : s.Typed := by
  induction h with
  | empty =>
    intro id t h
    cases h
  | changed _ h ih => exact ih.change h

end Store

end MailMerge
