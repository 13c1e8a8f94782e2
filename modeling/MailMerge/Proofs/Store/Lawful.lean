import MailMerge.Proofs.Store.Database

/-!
# Lawful tables

A table has columns, whose names differ in more than the case of letters, in every row a cell for
each of them, and in a key column no cell twice, null apart. Rows are taken in exactly when this
stays so.
-/

namespace MailMerge

namespace Table

theorem sameName_comm (a b : String) : sameName a b = sameName b a := BEq.comm

/-- Two rows that do not have the same cell in a column; null is no cell. -/
def Apart (t : Table) (n : String) (a b : List Cell) : Prop :=
  (t.slot a n).2 ≠ .null → (t.slot b n).2 ≠ .null → (t.slot a n).2.order (t.slot b n).2 ≠ .eq

structure Lawful (t : Table) : Prop where
  columns : t.columns ≠ []
  distinct : t.names.Pairwise fun a b => sameName a b = false
  width : ∀ cells ∈ t.rows, cells.length = t.columns.length
  keys : ∀ c ∈ t.columns, c.isKey = true → t.rows.Pairwise (t.Apart c.name)

variable {t t' : Table} {cells : List Cell}

/-- A table without rows is lawful if its columns have different names. -/
theorem lawful_of_distinct {columns : List Column} (hne : columns ≠ [])
    (hdistinct : (columns.map (·.name)).Pairwise fun a b => sameName a b = false) :
    Lawful { columns } where
  columns := hne
  distinct := hdistinct
  width _ hcells := absurd hcells List.not_mem_nil
  keys _ _ _ := List.Pairwise.nil

theorem Lawful.nodup (ht : t.Lawful) : t.names.Nodup := by
  refine ht.distinct.imp ?_
  rintro a _ h rfl
  simp [sameName] at h

theorem length_storedRow {row : Row} (h : row.length = t.columns.length) :
    (t.storedRow row).length = t.columns.length := by
  simp [storedRow, h]

-- ---------------------------------------------------------------------------
-- Taking in rows
-- ---------------------------------------------------------------------------

/-- A row repeats no key exactly when it is apart from all rows in every key column. -/
theorem repeatedKey?_eq_none_iff (hnames : t.names.Nodup) (h : cells.length = t.columns.length) :
    t.repeatedKey? cells = none ↔
      ∀ c ∈ t.columns, c.isKey = true → ∀ row ∈ t.rows, t.Apart c.name row cells := by
  have hslot : ∀ c ∈ t.columns, ∃ cell, t.slot cells c.name = (c.dataType, cell) ∧
      (c, cell) ∈ t.columns.zip cells := fun c hc =>
    exists_slot hnames (List.forall₂_iff_zip.mpr ⟨h.symm, fun hmem => hmem⟩) hc
  simp only [repeatedKey?, List.findSome?_eq_none_iff, Prod.forall, ite_eq_right_iff,
    reduceCtorEq, imp_false, Bool.and_eq_true, bne_iff_ne, holds, List.any_eq_true, beq_iff_eq]
  constructor
  · intro hnone c hc hkey row hrow _ hcell heq
    obtain ⟨cell, hcells, hmem⟩ := hslot c hc
    rw [hcells] at hcell heq
    exact hnone c cell hmem ⟨⟨hkey, hcell⟩, row, hrow, heq⟩
  · rintro hapart c cell hmem ⟨⟨hkey, hcell⟩, row, hrow, heq⟩
    have hcells := slot_of_mem_zip hnames hmem
    have hrowCell : (t.slot row c.name).2 ≠ .null := by
      intro hnull
      rw [hnull] at heq
      cases cell <;> first | exact hcell rfl | cases heq
    refine hapart c (List.of_mem_zip hmem).1 hkey row hrow hrowCell ?_ ?_
    · rwa [hcells]
    · rwa [hcells]

/-- A row repeats no key exactly when the table stays lawful with it. -/
theorem Lawful.append_iff (ht : t.Lawful) (hwidth : cells.length = t.columns.length) :
    t.repeatedKey? cells = none ↔ Lawful { t with rows := t.rows ++ [cells] } := by
  rw [repeatedKey?_eq_none_iff ht.nodup hwidth]
  constructor
  · intro hapart
    refine ⟨ht.columns, ht.distinct, ?_, ?_⟩
    · intro row hrow
      rcases List.mem_append.mp hrow with hrow | hrow
      · exact ht.width row hrow
      · rw [List.mem_singleton.mp hrow, hwidth]
    · intro c hc hkey
      refine List.pairwise_append.mpr ⟨ht.keys c hc hkey, List.pairwise_singleton .., ?_⟩
      intro row hrow cells' hcells'
      rw [List.mem_singleton.mp hcells']
      exact hapart c hc hkey row hrow
  · intro hlawful c hc hkey row hrow
    have hpairwise := List.pairwise_append.mp (hlawful.keys c hc hkey)
    exact hpairwise.2.2 row hrow cells (List.mem_singleton_self cells)

/-- A table with fewer rows of a lawful one is lawful. -/
theorem Lawful.of_sublist (ht : t.Lawful) {rows : List (List Cell)} (h : rows.Sublist t.rows) :
    Lawful { t with rows } where
  columns := ht.columns
  distinct := ht.distinct
  width cells hcells := ht.width cells (h.subset hcells)
  keys c hc hkey := (ht.keys c hc hkey).sublist h

/-- Rows are taken in if they are as long as there are columns and the table that comes out is
lawful, and only then. -/
theorem Lawful.appendRows_eq_ok_iff (ht : t.Lawful) (id : Int64) (position : Nat)
    {rows : List Row} :
    Store.appendRows id position t rows = .ok t' ↔
      (∀ row ∈ rows, row.length = t.columns.length) ∧
        t' = { t with rows := t.rows ++ rows.map t.storedRow } ∧ t'.Lawful := by
  induction rows generalizing t position with
  | nil =>
    constructor
    · intro h
      cases h
      exact ⟨fun row hrow => absurd hrow List.not_mem_nil, by simp, ht⟩
    · rintro ⟨-, rfl, -⟩
      simp [Store.appendRows]
  | cons row rest ih =>
    rw [Store.appendRows_cons, List.forall_mem_cons]
    by_cases hwidth : row.length = t.columns.length
    · have hstep := ht.append_iff (length_storedRow hwidth)
      rw [if_pos hwidth]
      cases hkey : t.repeatedKey? (t.storedRow row) with
      | some column =>
        rw [hkey] at hstep
        constructor
        · intro h
          cases h
        · rintro ⟨-, rfl, hlawful⟩
          have hfirst : (t.rows ++ [t.storedRow row]).Sublist
              (t.rows ++ (row :: rest).map t.storedRow) := by simp
          cases hstep.mpr (hlawful.of_sublist hfirst)
      | none =>
        have hrows : t.rows ++ (row :: rest).map t.storedRow
            = (t.rows ++ [t.storedRow row]) ++ rest.map t.storedRow := by simp
        rw [hrows]
        dsimp only
        rw [ih (hstep.mp hkey) (position + 1)]
        exact ⟨fun h => ⟨⟨hwidth, h.1⟩, h.2⟩, fun h => ⟨h.1.2, h.2⟩⟩
    · rw [if_neg hwidth]
      constructor
      · intro h
        cases h
      · intro h
        exact absurd h.1.1 hwidth

-- ---------------------------------------------------------------------------
-- Renaming columns
-- ---------------------------------------------------------------------------

/-- A column may take a name that no other column has, the case of letters apart. -/
theorem Lawful.renamed (ht : t.Lawful) {old new : String} (hnew : new ∉ t.names)
    (hfree : ∀ n ∈ t.names, n ≠ old → sameName n new = false) :
    (t.renamed (Equiv.swap old new)).Lawful where
  columns := by simpa [Table.renamed] using ht.columns
  distinct := by
    have hkept : ∀ n ∈ t.names, n ≠ old → Equiv.swap old new n = n := by
      rintro n hn hne
      exact Equiv.swap_apply_of_ne_of_ne hne fun heq => hnew (heq ▸ hn)
    rw [names_renamed, List.pairwise_map]
    refine List.Pairwise.imp_of_mem ?_ (List.Pairwise.and ht.distinct ht.nodup)
    rintro a b ha hb ⟨hdistinct, hne⟩
    by_cases haold : a = old
    · have hbold : b ≠ old := fun h => hne (haold.trans h.symm)
      rw [haold, Equiv.swap_apply_left, hkept b hb hbold, sameName_comm]
      exact hfree b hb hbold
    · rw [hkept a ha haold]
      by_cases hbold : b = old
      · rw [hbold, Equiv.swap_apply_left]
        exact hfree a ha haold
      · rwa [hkept b hb hbold]
  width cells hcells := by simpa [Table.renamed] using ht.width cells hcells
  keys := by
    intro c hc hkey
    obtain ⟨d, hd, rfl⟩ := List.mem_map.mp hc
    refine (ht.keys d hd hkey).imp ?_
    intro a b hapart
    simpa only [Apart, slot_renamed t (Equiv.injective _)] using hapart

end Table

namespace Store

variable {s s' : Store} {id : Int64} {columns : List Column} {t : Table}

-- ---------------------------------------------------------------------------
-- What each operation leaves
-- ---------------------------------------------------------------------------

theorem pairwise_of_checkDistinct {ns : List String} (h : checkDistinct ns = .ok ()) :
    ns.Pairwise fun a b => Table.sameName a b = false := by
  induction ns with
  | nil => exact List.Pairwise.nil
  | cons n ns ih =>
    rw [checkDistinct] at h
    split at h
    · cases h
    · next hany =>
      refine List.pairwise_cons.mpr ⟨?_, ih h⟩
      simpa using hany

theorem find?_eq_none_of_create (h : s.create id columns = .ok s') : s.find? id = none := by
  rw [create_eq] at h
  split at h
  · cases h
  · split at h
    · cases h
    · next hnone => simpa using hnone

theorem sameName_of_renameColumn {old new : String} (ht : s.find? id = some t)
    (h : s.renameColumn id old new = .ok s') :
    ∀ n ∈ t.names, n ≠ old → Table.sameName n new = false := by
  rw [renameColumn_eq, ht] at h
  dsimp only at h
  split at h
  · cases h
  · split at h
    · cases h
    · split at h
      · cases h
      · split at h
        · cases h
        · next hnone => simpa using hnone

/-- An import leaves the store, or the one in which its table was made, and puts rows into it or
not. -/
theorem importText_eq {text : String} {result : Except StoreError Nat}
    (h : s.importText id columns text = (s', result)) :
    ∃ made, (made = s ∨ s.create id columns = .ok made) ∧
      (s' = made ∨ ∃ rows, made.insert id rows = .ok s') := by
  rw [importText] at h
  split at h
  · cases h
    exact ⟨s, .inl rfl, .inl rfl⟩
  · cases result with
    | ok n =>
      obtain ⟨rows, made, -, -, hmade, hinsert⟩ := importRecords_eq_ok h
      exact ⟨made, hmade.imp And.left And.right, .inr ⟨rows, hinsert⟩⟩
    | error e =>
      rcases importRecords_eq_error h with rfl | hcreate
      · exact ⟨s', .inl rfl, .inl rfl⟩
      · exact ⟨s', .inr hcreate, .inl rfl⟩

-- ---------------------------------------------------------------------------
-- Lawful stores
-- ---------------------------------------------------------------------------

/-- A store all of whose tables are lawful. -/
def Lawful (s : Store) : Prop := s.Every Table.Lawful

theorem Lawful.create (hs : s.Lawful) (h : s.create id columns = .ok s') : s'.Lawful := by
  obtain ⟨rfl, hne, hdistinct⟩ := create_eq_ok h
  exact Every.put hs (Table.lawful_of_distinct hne (pairwise_of_checkDistinct hdistinct))

theorem Lawful.insert (hs : s.Lawful) {rows : List Row} (h : s.insert id rows = .ok s') :
    s'.Lawful := by
  rw [insert_eq] at h
  cases ht : s.find? id with
  | none => rw [ht] at h; cases h
  | some t =>
    cases happend : appendRows id 1 t rows with
    | error e => simp [ht, happend] at h
    | ok t' =>
      simp only [ht, happend, Except.ok.injEq] at h
      rw [← h]
      exact Every.put hs ((hs id t ht).appendRows_eq_ok_iff id 1 |>.mp happend).2.2

theorem Lawful.renameColumn (hs : s.Lawful) {old new : String}
    (h : s.renameColumn id old new = .ok s') : s'.Lawful := by
  obtain ⟨t, ht, -, hnew, rfl⟩ := renameColumn_eq_ok h
  have ht := table_eq_ok_iff.mp ht
  exact Every.put hs ((hs id t ht).renamed hnew (sameName_of_renameColumn ht h))

theorem Lawful.importText (hs : s.Lawful) {text : String} {result : Except StoreError Nat}
    (h : s.importText id columns text = (s', result)) : s'.Lawful := by
  obtain ⟨made, hmade, hfilled⟩ := importText_eq h
  have hlawful : made.Lawful := by
    rcases hmade with rfl | hcreate
    · exact hs
    · exact hs.create hcreate
  rcases hfilled with rfl | ⟨rows, hinsert⟩
  · exact hlawful
  · exact hlawful.insert hinsert

end Store

end MailMerge
