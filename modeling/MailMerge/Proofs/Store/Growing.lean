import MailMerge.Proofs.Store.Reading

/-!
# Growing stores

Rows that are put in later stand behind the rows that are there. Where no column numbers the
rows, what was read before is what a later read begins with.
-/

namespace MailMerge

namespace Table

/-- A table with the same columns and perhaps more rows behind those that were there. -/
structure Extends (t' t : Table) : Prop where
  columns : t'.columns = t.columns
  rows : t.rows <+: t'.rows

variable {t t' t'' : Table}

theorem Extends.refl (t : Table) : t.Extends t := ⟨rfl, List.prefix_rfl⟩

theorem Extends.trans (h' : t''.Extends t') (h : t'.Extends t) : t''.Extends t :=
  ⟨h'.columns.trans h.columns, h.rows.trans h'.rows⟩

theorem Extends.names (h : t'.Extends t) : t'.names = t.names := by
  rw [Table.names, h.columns, Table.names]

theorem Extends.slot (h : t'.Extends t) : t'.slot = t.slot := by
  funext row n
  rw [Table.slot, Table.slots, h.columns, Table.slot, Table.slots]

theorem Extends.project (h : t'.Extends t) : t'.project = t.project := by
  funext names row
  rw [Table.project, h.slot, Table.project]

theorem Extends.selected (h : t'.Extends t) (hnumbers : ∀ n ∈ t.names, numbers n = false)
    (p : Option Predicate) : t.selected p <+: t'.selected p := by
  rw [Table.selected, t.ordered_eq_rows hnumbers, Table.selected,
    t'.ordered_eq_rows (h.names ▸ hnumbers), h.slot]
  exact h.rows.filter _

end Table

namespace Store

variable {s s' : Store}

/-- A store into whose tables rows were put. -/
inductive Grown (s : Store) : Store → Prop
  | refl : Grown s s
  | inserted {s' s'' : Store} {id : Int64} {rows : List Row} (hs : Grown s s')
    (h : s'.insert id rows = .ok s'') : Grown s s''

/-- Putting rows into one table extends it and leaves the others. -/
theorem extends_of_insert {id id' : Int64} {rows : List Row} (h : s.insert id rows = .ok s')
    {t : Table} (ht : s.find? id' = some t) : ∃ t', s'.find? id' = some t' ∧ t'.Extends t := by
  obtain ⟨u, hu, rfl⟩ := insert_eq_ok h
  by_cases hid : id' = id
  · subst hid
    cases ht.symm.trans hu
    exact ⟨_, find?_put .., rfl, List.prefix_append ..⟩
  · exact ⟨t, (find?_put_of_ne s _ hid).trans ht, .refl t⟩

/-- A grown store has an extension of each table, by induction on what was put in. -/
theorem Grown.extends (h : s.Grown s') {id : Int64} {t : Table} (ht : s.find? id = some t) :
    ∃ t', s'.find? id = some t' ∧ t'.Extends t := by
  induction h with
  | refl => exact ⟨t, ht, .refl t⟩
  | inserted _ h ih =>
    obtain ⟨t', ht', hextends⟩ := ih
    obtain ⟨t'', ht'', hextends'⟩ := extends_of_insert h ht'
    exact ⟨t'', ht'', hextends'.trans hextends⟩

/-- What was read is what a read of the grown store begins with. -/
theorem Grown.rows (h : s.Grown s') {id : Int64}
    (hnumbers : ∀ t, s.find? id = some t → ∀ n ∈ t.names, Table.numbers n = false)
    {filter : Option Formula} {columns : List String} {rows : List Row}
    (hrows : s.rows id filter columns = .ok rows) :
    ∃ rows', s'.rows id filter columns = .ok rows' ∧ rows <+: rows' := by
  obtain ⟨t, p, ht, hcolumns, hp, hempty, rfl⟩ := rows_eq_ok hrows
  have ht := table_eq_ok_iff.mp ht
  obtain ⟨t', ht', hextends⟩ := h.extends ht
  have hp' : compileFilter t' filter = .ok p := by
    cases filter with
    | none => exact hp
    | some f =>
      rw [compileFilter, hextends.names]
      exact hp
  have hcolumns' : ∀ n ∈ columns, n ∈ t'.names :=
    hextends.names ▸ mem_names_of_checkColumns hcolumns
  refine ⟨_, rows_of_compileFilter ht' hp' (by simpa using hempty) hcolumns', ?_⟩
  rw [hextends.project]
  exact (hextends.selected (hnumbers t ht) p).map _

end Store

end MailMerge
