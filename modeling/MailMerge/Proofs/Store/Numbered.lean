import MailMerge.Proofs.Store.Reading
import MailMerge.Proofs.Store.Single

/-!
# Columns that number rows

Rows are read in the order in which they were put in, unless a column has the name that numbers
rows: then its cells put them in order. So a column that is given this name, or loses it, may
change the order of the rows, and a renaming between other names changes nothing but the name.
-/

namespace MailMerge

/-- A name as it is after a renaming. -/
def afterRenaming (old new n : String) : String := if n = old then new else n

theorem mergeSort_pair {α : Type} (le : α → α → Bool) (a b : α) :
    [a, b].mergeSort le = if le a b then [a, b] else [b, a] := by
  simp [List.mergeSort, List.MergeSort.Internal.splitInTwo, List.merge]

namespace Table

variable {t : Table} {n m old new : String}

theorem sameName_of_numbers (hn : numbers n = true) (hm : numbers m = true) :
    sameName n m = true := by
  rw [numbers, sameName, beq_iff_eq] at hn hm
  rw [sameName, beq_iff_eq, hn, hm]

/-- Only one column can number the rows. -/
theorem orderColumn?_eq_some (hdistinct : t.names.Pairwise fun a b => sameName a b = false)
    (hn : n ∈ t.names) (hnumbers : numbers n = true) : t.orderColumn? = some n := by
  rw [orderColumn?]
  generalize t.names = ns at hdistinct hn
  induction hdistinct with
  | nil => cases hn
  | @cons m ms hm _ ih =>
    rw [List.find?_cons]
    rcases List.mem_cons.mp hn with rfl | hn
    · rw [show sameName n "rowid" = true from hnumbers]
    · have hother : sameName m "rowid" = false := by
        by_contra hsame
        have hboth := sameName_of_numbers (Bool.not_eq_false _ ▸ hsame) hnumbers
        rw [hm n hn] at hboth
        cases hboth
      rw [hother]
      exact ih hn

theorem eq_of_numbers (hdistinct : t.names.Pairwise fun a b => sameName a b = false)
    (hn : n ∈ t.names) (hm : m ∈ t.names) (hnumbers : numbers n = true)
    (hnumbers' : numbers m = true) : n = m :=
  Option.some.inj ((orderColumn?_eq_some hdistinct hn hnumbers).symm.trans
    (orderColumn?_eq_some hdistinct hm hnumbers'))

/-- Two rows change places if the column that numbers them has their cells the other way
round. -/
theorem ordered_pair (hdistinct : t.names.Pairwise fun a b => sameName a b = false)
    (hn : n ∈ t.names) (hnumbers : numbers n = true) {a b : List Cell} (hrows : t.rows = [a, b])
    (hgt : (t.slot a n).2.order (t.slot b n).2 = .gt) : t.ordered = [b, a] := by
  rw [ordered, orderColumn?_eq_some hdistinct hn hnumbers, hrows]
  dsimp only
  rw [mergeSort_pair, hgt]
  rfl

/-- What a renaming gives where no column has the new name. -/
theorem names_afterRenaming (old : String) (hnew : new ∉ t.names) :
    (t.renamed (Equiv.swap old new)).names = t.names.map (afterRenaming old new) := by
  rw [names_renamed]
  refine List.map_congr_left fun n hn => ?_
  have hne : n ≠ new := ne_of_mem_of_not_mem hn hnew
  by_cases h : n = old
  · rw [h, Equiv.swap_apply_left, afterRenaming, if_pos rfl]
  · rw [Equiv.swap_apply_of_ne_of_ne h hne, afterRenaming, if_neg h]

theorem map_swap_names (hnew : new ∉ t.names) :
    t.names.map (Equiv.swap old new) = t.names.map (afterRenaming old new) := by
  rw [← names_renamed, names_afterRenaming _ hnew]

/-- Only the renamed column can begin or cease to number the rows. -/
theorem numbers_swap (hnew : new ∉ t.names) (h : numbers old = numbers new) :
    ∀ n ∈ t.names, numbers (Equiv.swap old new n) = numbers n := by
  intro n hn
  have hne : n ≠ new := ne_of_mem_of_not_mem hn hnew
  by_cases hold : n = old
  · rw [hold, Equiv.swap_apply_left, h]
  · rw [Equiv.swap_apply_of_ne_of_ne hold hne]

theorem slot_renamed_new (cells : List Cell) :
    (t.renamed (Equiv.swap old new)).slot cells new = t.slot cells old := by
  have hslot := t.slot_renamed (Equiv.injective (Equiv.swap old new)) cells old
  rwa [Equiv.swap_apply_left] at hslot

/-- When the column that numbers the rows takes another name, no column does. -/
theorem numbers_renamed_eq_false (hdistinct : t.names.Pairwise fun a b => sameName a b = false)
    (hold : old ∈ t.names) (hnew : new ∉ t.names) (hnumbers : numbers old = true)
    (hnot : numbers new = false) :
    ∀ n ∈ (t.renamed (Equiv.swap old new)).names, numbers n = false := by
  rw [names_afterRenaming _ hnew]
  intro n hn
  obtain ⟨m, hm, rfl⟩ := List.mem_map.mp hn
  rw [afterRenaming]
  split
  · exact hnot
  · next hne =>
    exact Bool.eq_false_iff.mpr fun hother => hne (eq_of_numbers hdistinct hm hold hother hnumbers)

/-- Where a column can take the name that numbers rows, no other column has it. -/
theorem numbers_eq_false_of_free (hfree : ∀ n ∈ t.names, n ≠ old → sameName n new = false)
    (hold : numbers old = false) (hnumbers : numbers new = true) :
    ∀ n ∈ t.names, numbers n = false := by
  intro n hn
  by_cases hne : n = old
  · rwa [hne]
  · exact Bool.eq_false_iff.mpr fun h =>
      Bool.eq_false_iff.mp (hfree n hn hne) (sameName_of_numbers h hnumbers)

end Table

namespace Store

variable {s s' : Store} {id : Int64} {t : Table} {columns : List Column} {old new : String}

/-- All rows, read in all columns. -/
theorem rows_none (ht : s.find? id = some t) {ns : List String} (hne : ns ≠ [])
    (hns : ∀ n ∈ ns, n ∈ t.names) :
    s.rows id none ns = .ok (t.ordered.map (t.project ns)) := by
  have hall : t.selected none = t.ordered := List.filter_eq_self.mpr fun _ _ => rfl
  rw [rows_of_compileFilter ht (p := none) rfl hne hns, hall]

theorem columnNames_eq (ht : s.find? id = some t) : s.columnNames id = .ok t.names := by
  rw [columnNames, table_eq_ok_iff.mpr ht]
  rfl

/-- Whether a column may be renamed is a matter of the names alone. -/
theorem renameColumn_of_names {u : Store} {t' : Table} (ht : s.find? id = some t)
    (h : s.renameColumn id old new = .ok s') (hu : u.find? id = some t')
    (hnames : t'.names = t.names) :
    u.renameColumn id old new = .ok (u.put id (t'.renamed (Equiv.swap old new))) := by
  obtain ⟨t₀, ht₀, -, hnew, -⟩ := renameColumn_eq_ok h
  cases (table_eq_ok_iff.mp ht₀).symm.trans ht
  rw [renameColumn_eq, ht] at h
  rw [renameColumn_eq, hu, ← t'.renameColumn_eq_renamed (hnames ▸ hnew)]
  simp only [checkColumns, hnames] at h ⊢
  split at h
  · cases h
  · split at h
    · cases h
    · next hfree =>
      split at h
      · cases h
      · split at h
        · cases h
        · next hother => rw [if_neg hfree, if_neg hother]

/-- After a renaming the same rows are read under the new names, in the same order if the name
that numbers rows is neither given nor taken away. -/
theorem rows_of_renameColumn (h : s.renameColumn id old new = .ok s') :
    ∃ names read read', s.columnNames id = .ok names ∧
      s'.columnNames id = .ok (names.map (afterRenaming old new)) ∧
      s.rows id none names = .ok read ∧
      s'.rows id none (names.map (afterRenaming old new)) = .ok read' ∧
      read'.Perm read ∧ (Table.numbers old = Table.numbers new → read' = read) := by
  obtain ⟨t, ht, hold, hnew, rfl⟩ := renameColumn_eq_ok h
  have ht := table_eq_ok_iff.mp ht
  have hinj : Function.Injective (Equiv.swap old new) := Equiv.injective _
  have hne : t.names ≠ [] := List.ne_nil_of_mem hold
  have hfound := find?_put s id (t.renamed (Equiv.swap old new))
  have hnames := t.names_afterRenaming old hnew
  have hproject : (t.renamed (Equiv.swap old new)).project (t.names.map (afterRenaming old new))
      = t.project t.names := by
    rw [← t.map_swap_names hnew]
    exact funext (t.project_renamed hinj t.names)
  refine ⟨t.names, _, _, columnNames_eq ht, ?_, rows_none ht hne fun n hn => hn,
    rows_none hfound (by simpa using hne) (by simp [hnames]), ?_, fun hsame => ?_⟩
  · rw [columnNames_eq hfound, hnames]
  · rw [hproject]
    exact ((t.renamed _).ordered_perm.trans t.ordered_perm.symm).map _
  · rw [hproject, t.ordered_renamed hinj (t.numbers_swap hnew hsame)]

-- ---------------------------------------------------------------------------
-- Rows in another order
-- ---------------------------------------------------------------------------

/-- Two rows with the values one and zero in a column. -/
def oneZero (columns : List Column) (d : Column) : Table where
  columns := columns
  rows := [Table.cellsWith columns d.name (.int 1), Table.cellsWith columns d.name (.int 0)]

theorem order_oneZero (d : DataType) :
    ((Cell.ofValue (.int 1)).stored d).order ((Cell.ofValue (.int 0)).stored d) = .gt := by
  cases d <;> decide +kernel

theorem toValue_oneZero (d : DataType) :
    ((Cell.ofValue (.int 1)).stored d).toValue d
      ≠ ((Cell.ofValue (.int 0)).stored d).toValue d := by
  cases d <;> decide +kernel

section

variable {d : Column} (hcolumns : Table.Lawful { columns }) (hd : d ∈ columns)
include hcolumns hd

theorem insert_oneZero (hs : s.find? id = some { columns }) :
    s.insert id ([.int 1, .int 0].map (Table.rowWith columns d.name))
      = .ok (s.put id (oneZero columns d)) := by
  refine insert_rowWith hcolumns hd ?_ hs
  simp [Table.StoredApart, order_oneZero]

theorem slot_oneZero (v : Value) :
    (oneZero columns d).slot (Table.cellsWith columns d.name v) d.name
      = (d.dataType, (Cell.ofValue v).stored d.dataType) :=
  Table.slot_cellsWith_self rfl hcolumns.nodup hd v

theorem lawful_oneZero : (oneZero columns d).Lawful := by
  have hapart : Table.StoredApart d.dataType [.int 1, .int 0] := by
    simp [Table.StoredApart, order_oneZero]
  exact Table.lawful_cellsWith hcolumns hd hapart

/-- The column puts the two rows in the order of their values if it numbers them. -/
theorem ordered_oneZero (hnumbers : Table.numbers d.name = true) :
    (oneZero columns d).ordered
      = [Table.cellsWith columns d.name (.int 0), Table.cellsWith columns d.name (.int 1)] := by
  refine Table.ordered_pair (lawful_oneZero hcolumns hd).distinct
    (List.mem_map_of_mem (f := Column.name) hd) hnumbers rfl ?_
  rw [slot_oneZero hcolumns hd, slot_oneZero hcolumns hd]
  exact order_oneZero d.dataType

/-- Read one after the other, the two rows are not what they are in the other order. -/
theorem map_project_oneZero {ns : List String} (hns : d.name ∈ ns) :
    [Table.cellsWith columns d.name (.int 0), Table.cellsWith columns d.name (.int 1)].map
        ((oneZero columns d).project ns)
      ≠ (oneZero columns d).rows.map ((oneZero columns d).project ns) := by
  intro heq
  obtain ⟨heq, -⟩ := List.cons_eq_cons.mp heq
  have hcell := List.map_inj_left.mp heq d.name hns
  rw [slot_oneZero hcolumns hd, slot_oneZero hcolumns hd] at hcell
  exact toValue_oneZero d.dataType hcell.symm

/-- The two rows change places when the column begins or ceases to number rows. -/
theorem ordered_renamed_oneZero (hnew : new ∉ columns.map (·.name))
    (hfree : ∀ n ∈ columns.map (·.name), n ≠ d.name → Table.sameName n new = false)
    (hchange : Table.numbers d.name ≠ Table.numbers new) :
    ((oneZero columns d).renamed (Equiv.swap d.name new)).ordered.map
        ((oneZero columns d).project (columns.map (·.name)))
      ≠ (oneZero columns d).ordered.map ((oneZero columns d).project (columns.map (·.name))) := by
  have hname : d.name ∈ (oneZero columns d).names := List.mem_map_of_mem hd
  have hlawful := lawful_oneZero hcolumns hd
  cases hold : Table.numbers d.name with
  | true =>
    have hnot : Table.numbers new = false :=
      Bool.eq_false_iff.mpr fun hnumbers => hchange (hold.trans hnumbers.symm)
    rw [Table.ordered_eq_rows _ (Table.numbers_renamed_eq_false hlawful.distinct hname hnew hold
      hnot), ordered_oneZero hcolumns hd hold]
    exact (map_project_oneZero hcolumns hd hname).symm
  | false =>
    have hnumbers : Table.numbers new = true :=
      Bool.eq_true_of_not_eq_false fun h => hchange (hold.trans h.symm)
    have hmem : new ∈ ((oneZero columns d).renamed (Equiv.swap d.name new)).names := by
      rw [Table.names_renamed]
      exact List.mem_map.mpr ⟨d.name, hname, Equiv.swap_apply_left ..⟩
    have hgt := order_oneZero d.dataType
    have hpair := Table.ordered_pair (hlawful.renamed hnew hfree).distinct hmem hnumbers rfl
      (by rwa [Table.slot_renamed_new, Table.slot_renamed_new, slot_oneZero hcolumns hd,
        slot_oneZero hcolumns hd])
    have hnone := Table.numbers_eq_false_of_free (t := oneZero columns d) hfree hold hnumbers
    rw [Table.ordered_eq_rows _ hnone, hpair]
    exact map_project_oneZero hcolumns hd hname

end

/-- The rows put in stand behind the former ones, as they are read where no column numbers
rows. -/
theorem rows_of_insert {rows : List Row} (hs : s.find? id = some t)
    (hnone : ∀ n ∈ t.names, Table.numbers n = false) (h : s.insert id rows = .ok s')
    {ns : List String} (hne : ns ≠ []) (hns : ∀ n ∈ ns, n ∈ t.names) :
    ∃ former, s.rows id none ns = .ok former ∧
      s'.rows id none ns = .ok (former ++ rows.map fun row => t.project ns (t.storedRow row)) := by
  obtain ⟨t', ht', rfl⟩ := insert_eq_ok h
  cases ht'.symm.trans hs
  let filled : Table := { t with rows := t.rows ++ rows.map t.storedRow }
  have hordered : filled.ordered = t.rows ++ rows.map t.storedRow := filled.ordered_eq_rows hnone
  refine ⟨_, rows_none hs hne hns, ?_⟩
  rw [rows_none (find?_put s id filled) hne hns, hordered, t.ordered_eq_rows hnone,
    List.map_append, List.map_map]
  rfl

/-- A column that is given the name that numbers rows, or loses it, puts rows in another
order. -/
theorem exists_rows_of_renameColumn {made : Store} (hmade : s.create id columns = .ok made)
    (h : made.renameColumn id old new = .ok s')
    (hchange : Table.numbers old ≠ Table.numbers new) :
    ∃ rows filled after read read', made.insert id rows = .ok filled ∧
      filled.renameColumn id old new = .ok after ∧
      filled.rows id none (columns.map (·.name)) = .ok read ∧
      after.rows id none ((columns.map (·.name)).map (afterRenaming old new)) = .ok read' ∧
      read' ≠ read := by
  obtain ⟨rfl, hne, hdistinct⟩ := create_eq_ok hmade
  have hlawful := Table.lawful_of_distinct hne (pairwise_of_checkDistinct hdistinct)
  have hmade := find?_put s id { columns }
  have hfree := sameName_of_renameColumn hmade h
  obtain ⟨t, ht, hold, hnew, -⟩ := renameColumn_eq_ok h
  cases (table_eq_ok_iff.mp ht).symm.trans hmade
  obtain ⟨d, hd, rfl⟩ := List.mem_map.mp hold
  have hinsert := insert_oneZero hlawful hd hmade
  have hfilled := find?_put (s.put id { columns }) id (oneZero columns d)
  have hafter := renameColumn_of_names hmade h hfilled rfl
  have hfound := find?_put ((s.put id { columns }).put id (oneZero columns d)) id
    ((oneZero columns d).renamed (Equiv.swap d.name new))
  have hnames := (oneZero columns d).names_afterRenaming d.name hnew
  have hproject := funext ((oneZero columns d).project_renamed
    (Equiv.injective (Equiv.swap d.name new)) (oneZero columns d).names)
  rw [(oneZero columns d).map_swap_names hnew] at hproject
  have hread := rows_none hfilled (List.ne_nil_of_mem hold) fun n hn => hn
  have hne' : (columns.map (·.name)).map (afterRenaming d.name new) ≠ [] := by simpa using hne
  have hread' := rows_none hfound hne' fun n hn => hnames ▸ hn
  refine ⟨_, _, _, _, _, hinsert, hafter, hread, hread', ?_⟩
  exact fun heq => ordered_renamed_oneZero hlawful hd hnew hfree hchange (hproject ▸ heq)

/-- A renaming changes nothing but the name, save that the rows may come in another order. They
keep their order if neither or both of the names are the one that numbers rows; else rows whose
order changes can be put into a table with the columns. Rows are read in the order in which they
were put in, whatever they are, exactly if no column has that name. -/
theorem rows_keep_order (columns : List Column) (old new : String) :
    (∀ (s s' : Store) (id : Int64), s.renameColumn id old new = .ok s' →
      ∃ names read read', s.columnNames id = .ok names ∧
        s'.columnNames id = .ok (names.map (afterRenaming old new)) ∧
        s.rows id none names = .ok read ∧
        s'.rows id none (names.map (afterRenaming old new)) = .ok read' ∧
        read'.Perm read ∧ (Table.numbers old = Table.numbers new → read' = read)) ∧
    (∀ (s made s' : Store) (id : Int64), s.create id columns = .ok made →
      made.renameColumn id old new = .ok s' → Table.numbers old ≠ Table.numbers new →
      ∃ rows filled after read read', made.insert id rows = .ok filled ∧
        filled.renameColumn id old new = .ok after ∧
        filled.rows id none (columns.map (·.name)) = .ok read ∧
        after.rows id none ((columns.map (·.name)).map (afterRenaming old new)) = .ok read' ∧
        read' ≠ read) ∧
    (Table.Lawful { columns } →
      ((∀ c ∈ columns, Table.numbers c.name = false) ↔
        ∀ (s s' : Store) (id : Int64) (t : Table) (rows : List Row) (ns : List String),
          s.find? id = some t → t.columns = columns → s.insert id rows = .ok s' → ns ≠ [] →
          (∀ n ∈ ns, n ∈ t.names) →
          ∃ former, s.rows id none ns = .ok former ∧ s'.rows id none ns
            = .ok (former ++ rows.map fun row => t.project ns (t.storedRow row)))) := by
  refine ⟨fun s s' id h => rows_of_renameColumn h,
    fun s made s' id hmade h hchange => exists_rows_of_renameColumn hmade h hchange,
    fun hcolumns => ⟨?_, ?_⟩⟩
  · rintro hnone s s' id t rows ns hs rfl h hne hns
    exact rows_of_insert hs (List.forall_mem_map.mpr hnone) h hne hns
  · intro h d hd
    by_contra hnumbers
    have hnumbers := Bool.not_eq_false _ ▸ hnumbers
    have hname : d.name ∈ (oneZero columns d).names := List.mem_map_of_mem hd
    have hempty := find?_put empty 1 { columns }
    have hne : (oneZero columns d).names ≠ [] := List.ne_nil_of_mem hname
    obtain ⟨former, hformer, hread⟩ := h _ _ 1 _ _ (oneZero columns d).names hempty rfl
      (insert_oneZero hcolumns hd hempty) hne fun n hn => hn
    have hnil : former = [] := by
      have hordered : ({ columns } : Table).ordered = [] := (Table.ordered_perm _).eq_nil
      rw [rows_none hempty hne fun n hn => hn, hordered] at hformer
      exact (Except.ok.inj hformer).symm
    rw [hnil, rows_none (find?_put _ 1 (oneZero columns d)) hne fun n hn => hn,
      ordered_oneZero hcolumns hd hnumbers] at hread
    exact map_project_oneZero hcolumns hd hname (Except.ok.inj hread)

/-- The place and the mark of each row, and two rows. -/
def placeColumns : List Column := [⟨"place", .integer, false⟩, ⟨"mark", .string, false⟩]

def placeTable : Table where
  columns := placeColumns
  rows := [[.int 2, .text "b"], [.int 1, .text "a"]]

theorem lawful_placeColumns : Table.Lawful { columns := placeColumns } :=
  Table.lawful_of_distinct (by decide) (by decide +kernel)

theorem rows_keep_order_place :
    (∃ s', (empty.put 1 placeTable).renameColumn 1 "place" "seat" = .ok s' ∧
      s'.columnNames 1 = .ok ["seat", "mark"] ∧
      s'.rows 1 none ["seat", "mark"] = .ok [[.int 2, .text "b"], [.int 1, .text "a"]]) ∧
    (∃ s' made, empty.create 1 placeColumns = .ok made ∧
      made.renameColumn 1 "place" "RowID" = .ok s' ∧
      ∃ rows filled after read read', made.insert 1 rows = .ok filled ∧
        filled.renameColumn 1 "place" "RowID" = .ok after ∧
        filled.rows 1 none ["place", "mark"] = .ok read ∧
        after.rows 1 none ["RowID", "mark"] = .ok read' ∧ read' ≠ read) ∧
    ∃ s', (empty.put 1 placeTable).insert 1 [[.int 0, .null]] = .ok s' ∧
      s'.rows 1 none ["place"] = .ok [[.int 2], [.int 1], [.int 0]] := by
  obtain ⟨hrename, -, -⟩ := rows_keep_order placeColumns "place" "seat"
  obtain ⟨-, hchange, hinsert⟩ := rows_keep_order placeColumns "place" "RowID"
  have hseat : (empty.put 1 placeTable).renameColumn 1 "place" "seat"
      = .ok ((empty.put 1 placeTable).put 1 (placeTable.renameColumn "place" "seat")) := by
    decide +kernel
  have hmade : empty.create 1 placeColumns = .ok (empty.put 1 { columns := placeColumns }) := by
    decide +kernel
  have hrowid : (empty.put 1 { columns := placeColumns }).renameColumn 1 "place" "RowID"
      = .ok ((empty.put 1 { columns := placeColumns }).put 1
          (({ columns := placeColumns } : Table).renameColumn "place" "RowID")) := by
    decide +kernel
  have hfilled : (empty.put 1 placeTable).insert 1 [[.int 0, .null]]
      = .ok ((empty.put 1 placeTable).put 1
          { placeTable with rows := placeTable.rows ++ [[.int 0, .null]] }) := by
    decide +kernel
  refine ⟨⟨_, hseat, ?_⟩, ⟨_, _, hmade, hrowid, hchange _ _ _ 1 hmade hrowid (by decide)⟩,
    ⟨_, hfilled, ?_⟩⟩
  · obtain ⟨names, read, read', hnames, hnames', hread, hread', -, hsame⟩ := hrename _ _ 1 hseat
    have hconcrete : (empty.put 1 placeTable).columnNames 1 = .ok ["place", "mark"] := by
      decide +kernel
    cases hnames.symm.trans hconcrete
    have hconcrete : (empty.put 1 placeTable).rows 1 none ["place", "mark"]
        = .ok [[.int 2, .text "b"], [.int 1, .text "a"]] := by decide +kernel
    cases hread.symm.trans hconcrete
    rw [hsame (by decide)] at hread'
    exact ⟨hnames', hread'⟩
  · obtain ⟨former, hformer, hread⟩ := (hinsert lawful_placeColumns).mp
      (by decide +kernel) _ _ 1 placeTable _ ["place"] (find?_put ..) rfl hfilled (by decide)
      (by decide)
    have hconcrete : (empty.put 1 placeTable).rows 1 none ["place"]
        = .ok [[.int 2], [.int 1]] := by decide +kernel
    rw [hread, Except.ok.inj (hformer.symm.trans hconcrete)]
    decide +kernel

/-- Two rows change places when the column that they are told by is called "rowid". -/
theorem rows_change_places_marks :
    ∃ filled after, (empty.put 1 { columns := [⟨"a", .integer, false⟩] }).insert 1
        [[.int 2], [.int 1]] = .ok filled ∧
      filled.renameColumn 1 "a" "rowid" = .ok after ∧
      filled.columnNames 1 = .ok ["a"] ∧ after.columnNames 1 = .ok ["rowid"] ∧
      filled.rows 1 none ["a"] = .ok [[.int 2], [.int 1]] ∧
      after.rows 1 none ["rowid"] = .ok [[.int 1], [.int 2]] := by
  let before : Table := { columns := [⟨"a", .integer, false⟩], rows := [[.int 2], [.int 1]] }
  let after : Table := { columns := [⟨"rowid", .integer, false⟩], rows := [[.int 2], [.int 1]] }
  refine ⟨empty.put 1 before, (empty.put 1 before).put 1 after, by decide +kernel,
    by decide +kernel, by decide +kernel, by decide +kernel, by decide +kernel, ?_⟩
  have hordered : after.ordered = [[.int 1], [.int 2]] :=
    Table.ordered_pair (n := "rowid") (List.pairwise_singleton ..) (by decide) (by decide) rfl
      (by decide +kernel)
  rw [rows_none (find?_put _ 1 after) (by decide) (by decide), hordered]
  decide +kernel

end Store

end MailMerge
