import MailMerge.Proofs.Predicate.Agreement
import MailMerge.Proofs.Store.Reachable

/-!
# What reading a table has in common

All reads of a table see the same rows. Counting gives how many there are, a number picks the
row at its place, a key the first row that has it, and each list of columns shows its part of
the same full rows in the same order.
-/

namespace MailMerge

/-- The part of a full row that some columns show. -/
def Row.pick (names columns : List String) (row : Row) : Row :=
  columns.map fun n => ((row.toContext names).get? n).getD .null

namespace Predicate

/-- A test that is added to a predicate is asked of the rows that the predicate selects. -/
theorem selects_combine (p : Option Predicate) (q : Predicate) (row : String → Slot) :
    selects (combine? .and [p, some q]) row = (selects (some q) row && selects p row) := by
  have hone : Verdict.and (q.truth row) (some true) = q.truth row := by
    rcases q.truth row with _ | _ | _ <;> rfl
  cases p with
  | none =>
    change ((q.truth row).and (some true) == some true) = (q.truth row == some true && true)
    rw [hone, Bool.and_true]
  | some p =>
    change ((p.truth row).and ((q.truth row).and (some true)) == some true)
      = (q.truth row == some true && p.truth row == some true)
    rw [hone, Bool.eq_iff_iff, beq_iff_eq, Bool.and_eq_true, beq_iff_eq, beq_iff_eq, and_comm]
    exact Verdict.and_eq_some_true

end Predicate

namespace Table

variable {t : Table}

theorem mem_rows_of_selected {p : Option Predicate} {cells : List Cell}
    (h : cells ∈ t.selected p) : cells ∈ t.rows :=
  t.ordered_perm.mem_iff.mp (List.mem_filter.mp h).1

theorem pick_project {columns : List String} (h : ∀ n ∈ columns, n ∈ t.names) (cells : List Cell) :
    Row.pick t.names columns (t.project t.names cells) = t.project columns cells := by
  refine List.map_congr_left fun n hn => ?_
  have hget := get?_context t cells (h n hn)
  rw [context] at hget
  rw [hget, Option.getD_some]

/-- A row is selected by a key when the key is what its column shows. -/
theorem selects_key (ht : t.Typed) {cells : List Cell} (hcells : cells ∈ t.rows) {c : Column}
    (hc : c ∈ t.columns) (hdouble : c.dataType ≠ .double) {v : Value}
    (htype : v.dataType? = some c.dataType) (hclock : v.OnClock) (hexact : v.Exact) :
    Predicate.selects (some (.test (.compare c.name .eq v))) (t.slot cells)
      = (t.project [c.name] cells == [v]) := by
  obtain ⟨cell, hslot, w, hw, rfl⟩ := exists_slot ht.distinct (ht.suits cells hcells) hc
  rw [Bool.eq_iff_iff, Predicate.selects, Predicate.truth, Test.truth, hslot, beq_iff_eq,
    Slot.compare_stored_iff hdouble hw htype hclock hexact, beq_iff_eq, project, List.map_singleton,
    hslot, List.singleton_inj]

/-- No row is selected by the key null. -/
theorem selects_null_key (n : String) (cells : List Cell) :
    Predicate.selects (some (.test (.compare n .eq .null))) (t.slot cells) = false := by
  have hnone : Slot.compare (t.slot cells n) .eq .null = none := Slot.compare_null_right ..
  rw [Predicate.selects, Predicate.truth, Test.truth, Cell.ofValue, hnone]
  rfl

end Table

namespace Store

variable {s : Store} {id : Int64} {filter : Option Formula} {t : Table} {p : Option Predicate}
  {columns : List String}

-- ---------------------------------------------------------------------------
-- Each way of reading
-- ---------------------------------------------------------------------------

theorem mem_names_of_checkColumns (h : checkColumns t columns = .ok ()) :
    ∀ n ∈ columns, n ∈ t.names := by
  rw [checkColumns] at h
  split at h
  · cases h
  · next hnone => simpa using hnone

section

variable (ht : s.find? id = some t) (hp : compileFilter t filter = .ok p)
include ht hp

theorem countRows_of_compileFilter : s.countRows id filter = .ok (t.selected p).length := by
  simp only [countRows, table, ht, hp, bind, Except.bind, pure, Except.pure]

variable (hne : columns ≠ []) (hcolumns : ∀ n ∈ columns, n ∈ t.names)
include hne hcolumns

theorem rowAt_of_compileFilter {i : Nat} (hpos : 1 ≤ i) (hlimit : i ≤ 2 ^ 63) :
    s.rowAt id filter i columns = .ok ((t.selected p).map (t.project columns))[i - 1]? := by
  have hzero : ¬(i == 0) = true := by simp; omega
  have hempty : ¬columns.isEmpty = true := mt List.isEmpty_iff.mp hne
  have hlarge : ¬2 ^ 63 < i := Nat.not_lt.mpr hlimit
  simp only [rowAt, if_neg hzero, table, ht, checkColumns_eq_ok hcolumns, hp, readRows,
    if_neg hempty, if_neg hlarge, bind, Except.bind, pure, Except.pure, window,
    List.head?_take, List.head?_drop]
  rfl

theorem rowByKey_of_compileFilter {key : String} (hkey : key ∈ t.names) (v : Value) :
    s.rowByKey id filter key v columns
      = .ok (((t.selected p).find? fun cells =>
          Predicate.selects (some (.test (.compare key .eq v))) (t.slot cells)).map
            (t.project columns)) := by
  have hempty : ¬columns.isEmpty = true := mt List.isEmpty_iff.mp hne
  have hkey : ∀ n ∈ [key], n ∈ t.names := List.forall_mem_singleton.mpr hkey
  simp only [rowByKey, table, ht, checkColumns_eq_ok hcolumns, checkColumns_eq_ok hkey, hp,
    readRows, if_neg hempty, bind, Except.bind, pure, Except.pure, window, Table.selected,
    Predicate.selects_combine, ← List.filter_filter, List.head?_take, List.head?_map,
    List.head?_filter, List.drop_zero]
  rfl

end

/-- As many rows are counted as are read. -/
theorem countRows_of_rows {rows : List Row} (h : s.rows id filter columns = .ok rows) :
    s.countRows id filter = .ok rows.length := by
  obtain ⟨t, p, ht, -, hp, -, rfl⟩ := rows_eq_ok h
  rw [countRows_of_compileFilter (table_eq_ok_iff.mp ht) hp, List.length_map]

/-- A number picks the row at its place among those that are read. -/
theorem rowAt_of_rows {rows : List Row} (h : s.rows id filter columns = .ok rows) {i : Nat}
    (hpos : 1 ≤ i) (hlimit : i ≤ 2 ^ 63) : s.rowAt id filter i columns = .ok rows[i - 1]? := by
  obtain ⟨t, p, ht, hcolumns, hp, hempty, rfl⟩ := rows_eq_ok h
  exact rowAt_of_compileFilter (table_eq_ok_iff.mp ht) hp (by simpa using hempty)
    (mem_names_of_checkColumns hcolumns) hpos hlimit

-- ---------------------------------------------------------------------------
-- All of them
-- ---------------------------------------------------------------------------

/-- Where rows can be read, counting, picking by number, picking by key and reading other columns
all see the same full rows in the same order. A key of doubles is left out, for its column does
not tell the zeros apart. -/
theorem reads_agree (hs : s.Reachable) {rows : List Row}
    (h : s.rows id filter columns = .ok rows) :
    s.countRows id filter = .ok rows.length ∧
    (∀ i, 1 ≤ i → i ≤ 2 ^ 63 → s.rowAt id filter i columns = .ok rows[i - 1]?) ∧
    ∃ t full, s.find? id = some t ∧ s.rows id filter t.names = .ok full ∧
      rows = full.map (Row.pick t.names columns) ∧
      (∀ others, others ≠ [] → (∀ n ∈ others, n ∈ t.names) →
        s.rows id filter others = .ok (full.map (Row.pick t.names others))) ∧
      (∀ c ∈ t.columns, c.dataType ≠ .double → ∀ v : Value, v.dataType? = some c.dataType →
        v.OnClock → v.Exact →
        s.rowByKey id filter c.name v columns
          = .ok ((full.find? fun row => row.pick t.names [c.name] == [v]).map
              (Row.pick t.names columns))) ∧
      ∀ c ∈ t.columns, s.rowByKey id filter c.name .null columns = .ok none := by
  refine ⟨countRows_of_rows h, fun i hpos hlimit => rowAt_of_rows h hpos hlimit, ?_⟩
  obtain ⟨t, p, ht, hcolumns, hp, hempty, rfl⟩ := rows_eq_ok h
  have ht := table_eq_ok_iff.mp ht
  have hcolumns := mem_names_of_checkColumns hcolumns
  have hne : columns ≠ [] := by simpa using hempty
  have htyped := hs.typed id t ht
  have hnames : t.names ≠ [] := by
    intro hnil
    obtain ⟨n, hn⟩ := List.exists_mem_of_ne_nil columns hne
    exact List.not_mem_nil (hnil ▸ hcolumns n hn)
  -- Each list of columns is a part of the full rows, so all reads are compared with those.
  have hpick : ∀ others, (∀ n ∈ others, n ∈ t.names) →
      Row.pick t.names others ∘ t.project t.names = t.project others :=
    fun others hothers => funext (Table.pick_project hothers)
  refine ⟨t, (t.selected p).map (t.project t.names), ht,
    rows_of_compileFilter ht hp hnames fun n hn => hn, ?_, fun others hne' hothers => ?_,
    fun c hc hdouble v htype hclock hexact => ?_, fun c hc => ?_⟩
  · rw [List.map_map, hpick columns hcolumns]
  · rw [rows_of_compileFilter ht hp hne' hothers, List.map_map, hpick others hothers]
  · have hname : c.name ∈ t.names := List.mem_map_of_mem hc
    have hkey : ∀ cells ∈ t.selected p,
        Predicate.selects (some (.test (.compare c.name .eq v))) (t.slot cells)
          = (Row.pick t.names [c.name] (t.project t.names cells) == [v]) := by
      intro cells hcells
      rw [Table.selects_key htyped (Table.mem_rows_of_selected hcells) hc hdouble htype hclock
        hexact, Table.pick_project (List.forall_mem_singleton.mpr hname)]
    rw [rowByKey_of_compileFilter ht hp hne hcolumns hname, List.find?_congr hkey, List.find?_map,
      Option.map_map, hpick columns hcolumns]
    rfl
  · rw [rowByKey_of_compileFilter ht hp hne hcolumns (List.mem_map_of_mem hc),
      List.find?_eq_none.mpr fun cells _ => by simp [Table.selects_null_key]]
    rfl

/-- Guests whose name starts otherwise or who are of age; two filters, joined by "or". -/
def eitherFilter : Formula :=
  .or [.leaf ⟨"name", .beginsWith, .string, .single (.text "B")⟩,
    .leaf ⟨"age", .greater, .integer, .single (.int 18)⟩]

theorem reads_agree_guests :
    (guestStore.Reachable ∧ guestStore.rows 1 (some eitherFilter) ["age", "name"]
      = .ok [[.int 36, .text "Ada"], [.null, .text "Bob"]]) ∧
    guestStore.countRows 1 (some eitherFilter) = .ok 2 ∧
    guestStore.rowAt 1 (some eitherFilter) 2 ["age", "name"] = .ok (some [.null, .text "Bob"]) ∧
    guestStore.rowAt 1 (some eitherFilter) (2 ^ 63) ["age", "name"] = .ok none ∧
    guestStore.rowByKey 1 (some eitherFilter) "joined" (.time ⟨1709283600, 0⟩) ["age", "name"]
      = .ok (some [.int 36, .text "Ada"]) ∧
    guestStore.rowByKey 1 (some eitherFilter) "joined" .null ["age", "name"] = .ok none := by
  have hcreated : empty.create 1 guestColumns = .ok (empty.put 1 { columns := guestColumns }) := by
    decide +kernel
  have hrows : ∀ row ∈ guestRows, Table.SuitsRow guestColumns row := by decide +kernel
  have hinserted : (empty.put 1 { columns := guestColumns }).insert 1 guestRows
      = .ok guestStore := by decide +kernel
  have hreachable : guestStore.Reachable :=
    .changed (.changed .empty (.created hcreated)) (.inserted (find?_put ..) hrows hinserted)
  have hread : guestStore.rows 1 (some eitherFilter) ["age", "name"]
      = .ok [[.int 36, .text "Ada"], [.null, .text "Bob"]] := by decide +kernel
  obtain ⟨hcount, hat, t, full, ht, hfull, -, -, hkey, hnull⟩ := reads_agree hreachable hread
  cases ht
  have hjoined : (⟨"joined", .datetime, false⟩ : Column) ∈ guestTable.columns := by decide +kernel
  have hall : guestStore.rows 1 (some eitherFilter) guestTable.names
      = .ok [[.text "Ada", .int 36, .double (.ofInt 60), .bool true, .time ⟨1709283600, 0⟩],
          [.text "Bob", .null, .null, .bool false, .null]] := by decide +kernel
  cases hfull.symm.trans hall
  refine ⟨⟨hreachable, hread⟩, hcount, hat 2 (by decide) (by decide),
    hat (2 ^ 63) (by decide) (by decide), ?_, hnull _ hjoined⟩
  refine (hkey _ hjoined (by decide) (.time ⟨1709283600, 0⟩) rfl (by decide) (by decide)).trans ?_
  decide +kernel

end Store

end MailMerge
