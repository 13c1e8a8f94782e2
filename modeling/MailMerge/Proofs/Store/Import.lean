import MailMerge.Proofs.Formula.RuleBuilder.Accepted
import MailMerge.Proofs.Predicate.Agreement
import MailMerge.Proofs.Store.Reachable
import MailMerge.Proofs.Traversal

/-!
# What an import leaves to be read

A text that is imported into a new table is read back record by record: null where a record has
nothing for a column, else the record's value as it is read for the column, as far as a column
keeps values.
-/

namespace MailMerge

theorem Value.Timeless.onClock {v : Value} (h : v.Timeless) : v.OnClock := by
  cases v with
  | time t => exact absurd rfl (h t)
  | _ => exact trivial

namespace Context

/-- What a record has for a column: null where it has nothing, else its value read as one of the
column's type. -/
def Gives (record : Context) (c : Column) (v : Value) : Prop :=
  match record.get? c.name with
  | none | some .null => v = .null
  | some raw => c.dataType.coerce? raw = some v

/-- A value that is found was put in. -/
theorem mem_of_get?_insertAll {entries : List (String × Value)} {c : Context} {m : String}
    {v : Value} (h : (c.insertAll entries).get? m = some v) :
    c.get? m = some v ∨ v ∈ entries.map (·.2) := by
  induction entries generalizing c with
  | nil => exact .inl h
  | cons e entries ih =>
    have hstep : c.insertAll (e :: entries) = (Context.insert e.1 e.2 c).insertAll entries := rfl
    rw [hstep] at h
    rcases ih h with h | h
    · rw [get?_insert] at h
      split at h
      · exact .inr (List.mem_cons.mpr (.inl (Option.some.inj h).symm))
      · exact .inl h
    · exact .inr (List.mem_cons_of_mem _ h)

end Context

namespace Store

variable {s s' : Store} {id : Int64} {columns : List Column} {record : Context}

-- ---------------------------------------------------------------------------
-- Records
-- ---------------------------------------------------------------------------

/-- Records hold no instants: these stand in them as texts. -/
theorem timeless_of_recordOf? {d : Document} (h : recordOf? d = some record) {n : String}
    {v : Value} (hv : record.get? n = some v) : v.Timeless := by
  obtain ⟨fields, -, h⟩ := Option.bind_eq_some_iff.mp h
  obtain ⟨entries, hentries, h⟩ := Option.bind_eq_some_iff.mp h
  cases h
  rcases Context.mem_of_get?_insertAll hv with h | h
  · cases h
  · obtain ⟨e, he, rfl⟩ := List.mem_map.mp h
    obtain ⟨field, -, hfield⟩ := exists_mem_of_forall₂ (mapM_eq_some_iff.mp hentries) he
    obtain ⟨w, hw, heq⟩ := Option.bind_eq_some_iff.mp hfield
    cases heq
    exact Document.timeless_of_value? hw

theorem timeless_of_records? {d : Document} {records : List Context}
    (h : records? d = some records) (hrecord : record ∈ records) {n : String} {v : Value}
    (hv : record.get? n = some v) : v.Timeless := by
  cases d with
  | list items =>
    obtain ⟨item, -, hitem⟩ := exists_mem_of_forall₂ (mapM_eq_some_iff.mp h) hrecord
    exact timeless_of_recordOf? hitem hv
  | _ => cases h

-- ---------------------------------------------------------------------------
-- Rows of records
-- ---------------------------------------------------------------------------

/-- A value is taken over as the record gives it. -/
theorem gives_of_importedValue {position : Nat} {c : Column} {v : Value}
    (h : importedValue position record c = .ok v) : record.Gives c v := by
  rw [importedValue] at h
  rw [Context.Gives]
  cases hget : record.get? c.name with
  | none =>
    rw [hget] at h
    cases h
    rfl
  | some raw =>
    rw [hget, Option.getD_some] at h
    cases raw with
    | null =>
      cases h
      rfl
    | _ =>
      dsimp only at h ⊢
      split at h
      · next w hw =>
        cases h
        exact hw
      · cases h

theorem gives_of_importedRows {position : Nat} {records : List Context} {rows : List Row}
    (h : importedRows columns position records = .ok rows) :
    List.Forall₂ (fun record row => List.Forall₂ record.Gives columns row) records rows := by
  induction records generalizing position rows with
  | nil =>
    cases h
    exact .nil
  | cons record records ih =>
    simp only [importedRows, bind, Except.bind] at h
    cases hrow : columns.mapM (importedValue position record) with
    | error e => rw [hrow] at h; cases h
    | ok row =>
      cases hrest : importedRows columns (position + 1) records with
      | error e => rw [hrow, hrest] at h; cases h
      | ok rest =>
        rw [hrow, hrest] at h
        cases h
        exact .cons ((mapM_eq_ok_iff.mp hrow).imp fun c v => gives_of_importedValue) (ih hrest)

/-- What a record gives is read back from where it is stored. -/
theorem toValue_stored_of_gives {c : Column} {v : Value} (h : record.Gives c v)
    (htimeless : ∀ raw, record.get? c.name = some raw → raw.Timeless) (hretained : v.Retained) :
    ((Cell.ofValue v).stored c.dataType).toValue c.dataType = v.truncated := by
  rw [Context.Gives] at h
  split at h
  · subst h
    rw [Cell.ofValue, Cell.stored_null]
    rfl
  · subst h
    rw [Cell.ofValue, Cell.stored_null]
    rfl
  · next raw _ hget =>
    exact Cell.toValue_stored (Value.dataType?_of_coerce? h)
      (Value.onClock_of_coerce? (htimeless raw hget).onClock h) hretained

-- ---------------------------------------------------------------------------
-- Imports
-- ---------------------------------------------------------------------------

theorem importText_eq_ok {text : String} {n : Nat}
    (h : s.importText id columns text = (s', .ok n)) :
    ∃ d, Json.read? text = some d ∧ s.importRecords id columns d = (s', .ok n) := by
  rw [importText] at h
  split at h
  · cases h
  · next d hd => exact ⟨d, hd, h⟩

/-- A row of a record is read back cell by cell, as far as its column keeps values. -/
theorem project_storedRow_of_gives {t : Table} (hnames : t.names.Nodup) {row : Row}
    (hgives : List.Forall₂ record.Gives t.columns row)
    (htimeless : ∀ n v, record.get? n = some v → v.Timeless) :
    List.Forall₂ (fun c cell => ∃ v, record.Gives c v ∧ (v.Retained → cell = v.truncated))
      t.columns (t.project t.names (t.storedRow row)) := by
  refine List.Forall₂.imp ?_ (Table.forall₂_project hnames (Table.forall₂_storedRow hgives))
  rintro c cell ⟨_, ⟨v, hv, rfl⟩, rfl⟩
  exact ⟨v, hv, toValue_stored_of_gives hv (htimeless c.name)⟩

/-- All rows of a table are read in the order in which they were put in. -/
theorem rows_of_unnumbered {t : Table} (ht : s.find? id = some t) (hne : t.columns ≠ [])
    (hnumbers : ∀ c ∈ t.columns, Table.numbers c.name = false) :
    s.rows id none t.names = .ok (t.rows.map (t.project t.names)) := by
  have hselected : t.selected none = t.rows := by
    have hall : t.selected none = t.ordered := List.filter_eq_self.mpr fun _ _ => rfl
    exact hall.trans (t.ordered_eq_rows (List.forall_mem_map.mpr hnumbers))
  have hnames : t.names ≠ [] := mt List.map_eq_nil_iff.mp hne
  rw [rows_of_compileFilter ht (p := none) rfl hnames fun _ hn => hn, hselected]

/-- Records that are imported into a new table are read back in their order, each cell as the
record gives it for its column. Columns do not keep what is no number and the sign of zero, and
show instants to the second, in years of four digits. -/
theorem rows_of_importText {text : String} {n : Nat}
    (h : s.importText id columns text = (s', .ok n)) (hnew : s.find? id = none)
    (hnumbers : ∀ c ∈ columns, Table.numbers c.name = false) :
    ∃ records rows, (Json.read? text).bind records? = some records ∧ n = records.length ∧
      s'.rows id none (columns.map (·.name)) = .ok rows ∧
      List.Forall₂ (fun record row =>
        List.Forall₂ (fun c cell => ∃ v, record.Gives c v ∧ (v.Retained → cell = v.truncated))
          columns row) records rows := by
  obtain ⟨d, hread, himport⟩ := importText_eq_ok h
  obtain ⟨given, made, hrows, rfl, hmade, hinsert⟩ := importRecords_eq_ok himport
  obtain ⟨records, hrecords, hgiven⟩ : ∃ records, records? d = some records ∧
      importedRows columns 1 records = .ok given := by
    rw [rowsOf] at hrows
    split at hrows
    · cases hrows
    · next records hrecords => exact ⟨records, hrecords, hrows⟩
  have hgives := gives_of_importedRows hgiven
  obtain ⟨hne, hdistinct, hmade⟩ : columns ≠ [] ∧ (columns.map (·.name)).Nodup ∧
      made = s.put id { columns } := by
    rcases hmade with ⟨-, hsome⟩ | ⟨-, hcreate⟩
    · rw [hnew] at hsome
      cases hsome
    · obtain ⟨rfl, hne, hdistinct⟩ := create_eq_ok hcreate
      exact ⟨hne, nodup_of_checkDistinct hdistinct, rfl⟩
  -- The table was made for the records: it has their columns and no rows before them.
  obtain ⟨t, ht, rfl⟩ := insert_eq_ok hinsert
  have hfilled := find?_put made id { t with rows := t.rows ++ given.map t.storedRow }
  rw [hmade, find?_put] at ht
  cases ht
  have hall := rows_of_unnumbered hfilled hne hnumbers
  refine ⟨records, _, ?_, hgives.length_eq.symm, hall, ?_⟩
  · rw [hread]
    exact hrecords
  · have htimeless : ∀ record ∈ records, ∀ n v, record.get? n = some v → v.Timeless :=
      fun record hrecord n v => timeless_of_records? hrecords hrecord
    rw [List.nil_append, List.map_map, List.forall₂_map_right_iff]
    refine List.Forall₂.imp ?_ ((List.forall₂_and_left _ _).mpr ⟨htimeless, hgives⟩)
    exact fun record row ⟨htimeless, hrow⟩ =>
      project_storedRow_of_gives (t := { columns }) hdistinct hrow htimeless

/-- Guests as a form sends them: some values as texts, some missing, one that is no column. -/
def guestText : String :=
  "[\x7b\"name\":\"Ada\",\"age\":\"36\",\"weight\":60,\"member\":1," ++
  "\"joined\":\"2024-03-01T09:00:00.5Z\"\x7d," ++
  "\x7b\"room\":7,\"member\":\"false\",\"weight\":null,\"name\":\"Bob\"\x7d]"

theorem rows_of_importText_guests :
    (empty.importText 1 guestColumns guestText = (guestStore, .ok 2) ∧ empty.find? 1 = none ∧
      ∀ c ∈ guestColumns, Table.numbers c.name = false) ∧
    ∃ records, (Json.read? guestText).bind records? = some records ∧ 2 = records.length ∧
      List.Forall₂ (fun record row =>
        List.Forall₂ (fun c cell => ∃ v, record.Gives c v ∧ (v.Retained → cell = v.truncated))
          guestColumns row) records
        [[.text "Ada", .int 36, .double (.ofInt 60), .bool true, .time ⟨1709283600, 0⟩],
         [.text "Bob", .null, .null, .bool false, .null]] := by
  have himport : empty.importText 1 guestColumns guestText = (guestStore, .ok 2) := by
    decide +kernel
  have hnew : empty.find? 1 = none := rfl
  have hnumbers : ∀ c ∈ guestColumns, Table.numbers c.name = false := by decide +kernel
  have hread : guestStore.rows 1 none (guestColumns.map (·.name))
      = .ok [[.text "Ada", .int 36, .double (.ofInt 60), .bool true, .time ⟨1709283600, 0⟩],
          [.text "Bob", .null, .null, .bool false, .null]] := by decide +kernel
  obtain ⟨records, rows, hrecords, hlength, hrows, hall⟩ :=
    rows_of_importText himport hnew hnumbers
  cases hrows.symm.trans hread
  exact ⟨⟨himport, hnew, hnumbers⟩, records, hrecords, hlength, hall⟩

end Store

end MailMerge
