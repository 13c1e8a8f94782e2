import MailMerge.Proofs.Store.Placement
import MailMerge.Proofs.Value.Truth

/-!
# Imported truth values

A record with a value that its column does not take stops an import before the store is touched.
Into a column of truth values so come only values that say a truth value, as what they say, and
numbers other than zero and one, as false.
-/

namespace MailMerge

/-- A record has a value for a column that the column does not take. -/
def Context.Misfits (record : Context) (c : Column) (v : Value) : Prop :=
  record.get? c.name = some v ∧ v ≠ .null ∧ c.dataType.coerce? v = none

instance (record : Context) (c : Column) (v : Value) : Decidable (record.Misfits c v) :=
  inferInstanceAs (Decidable (_ ∧ _))

/-- A value that is given is no misfit. -/
theorem Context.Gives.not_misfits {record : Context} {c : Column} {v w : Value}
    (h : record.Gives c v) : ¬record.Misfits c w := by
  rintro ⟨hget, hne, hnone⟩
  rw [Gives, hget] at h
  split at h
  · next heq => cases heq
  · next heq => exact hne (Option.some.inj heq)
  · next heq =>
    cases heq
    cases h.symm.trans hnone

/-- What is given of a value that is there is what the column takes it for. -/
theorem Context.Gives.coerce?_eq {record : Context} {c : Column} {v raw : Value}
    (h : record.Gives c v) (hget : record.get? c.name = some raw) (hne : raw ≠ .null) :
    c.dataType.coerce? raw = some v := by
  rw [Gives, hget] at h
  split at h
  · next heq => cases heq
  · next heq => exact absurd (Option.some.inj heq) hne
  · next heq =>
    cases heq
    exact h

namespace Store

variable {s s' : Store} {id : Int64} {columns : List Column} {record : Context}
  {records : List Context} {e : StoreError}

-- ---------------------------------------------------------------------------
-- Records that are refused
-- ---------------------------------------------------------------------------

theorem importedValue_eq_error {position : Nat} {c : Column}
    (h : importedValue position record c = .error e) :
    ∃ v, record.Misfits c v ∧ e = .badValue position v.display c.dataType c.name := by
  rw [importedValue] at h
  split at h
  · cases h
  · next hne =>
    cases hget : record.get? c.name with
    | none =>
      rw [hget] at hne
      exact absurd rfl hne
    | some v =>
      rw [hget, Option.getD_some] at h hne
      split at h
      · cases h
      · next hnone =>
        cases h
        exact ⟨v, ⟨hget, hne, hnone⟩, rfl⟩

/-- The failure to read records names a record and a column that do not fit together. -/
theorem importedRows_eq_error {position : Nat}
    (h : importedRows columns position records = .error e) :
    ∃ i record c v, records[i]? = some record ∧ c ∈ columns ∧ record.Misfits c v ∧
      e = .badValue (position + i) v.display c.dataType c.name := by
  induction records generalizing position with
  | nil => cases h
  | cons record records ih =>
    rw [importedRows] at h
    rcases error_of_bind_eq_error h with hrow | ⟨row, -, hrest⟩
    · obtain ⟨c, hc, hvalue⟩ := exists_of_mapM_eq_error hrow
      obtain ⟨v, hmisfits, rfl⟩ := importedValue_eq_error hvalue
      exact ⟨0, record, c, v, rfl, hc, hmisfits, rfl⟩
    · rcases error_of_bind_eq_error hrest with hrows | ⟨rows, -, hok⟩
      · obtain ⟨i, record', c, v, hget, hc, hmisfits, rfl⟩ := ih hrows
        refine ⟨i + 1, record', c, v, hget, hc, hmisfits, ?_⟩
        rw [Nat.add_right_comm, Nat.add_assoc]
      · cases hok

/-- A value that does not fit its column stops the import, and the store stays as it is. -/
theorem importText_misfit {text : String}
    (hrecords : (Json.read? text).bind records? = some records)
    (h : ∃ record ∈ records, ∃ c ∈ columns, ∃ v, record.Misfits c v) :
    ∃ i record c v, records[i]? = some record ∧ c ∈ columns ∧ record.Misfits c v ∧
      s.importText id columns text
        = (s, .error (.badValue (i + 1) v.display c.dataType c.name)) := by
  obtain ⟨d, hread, hlist⟩ := Option.bind_eq_some_iff.mp hrecords
  have hrows : rowsOf columns d = importedRows columns 1 records := by rw [rowsOf, hlist]
  cases himported : importedRows columns 1 records with
  | ok rows =>
    obtain ⟨record, hrecord, c, hc, v, hmisfits⟩ := h
    obtain ⟨row, -, hgives⟩ :=
      exists_result_of_forall₂ (gives_of_importedRows himported) hrecord
    obtain ⟨w, -, hw⟩ := exists_result_of_forall₂ hgives hc
    exact absurd hmisfits hw.not_misfits
  | error e =>
    obtain ⟨i, record, c, v, hget, hc, hmisfits, rfl⟩ := importedRows_eq_error himported
    refine ⟨i, record, c, v, hget, hc, hmisfits, ?_⟩
    rw [importText, hread]
    simp only [importRecords, hrows, himported, Nat.add_comm 1 i]

-- ---------------------------------------------------------------------------
-- Columns of truth values
-- ---------------------------------------------------------------------------

/-- Exactly which values a column of truth values takes, what an import does about a value that
any column does not take, and which truth values an import puts into the table. -/
theorem truths_of_importText {text : String}
    (hrecords : (Json.read? text).bind records? = some records) :
    (∀ v w, DataType.boolean.coerce? v = some w ↔ ∃ b, w = .bool b ∧ v.TakenFor b) ∧
    ((∃ record ∈ records, ∃ c ∈ columns, ∃ v, record.Misfits c v) →
      ∃ i record c v, records[i]? = some record ∧ c ∈ columns ∧ record.Misfits c v ∧
        s.importText id columns text
          = (s, .error (.badValue (i + 1) v.display c.dataType c.name))) ∧
    ∀ s' n, s.importText id columns text = (s', .ok n) →
      ∃ t rows, (s.find? id = some t ∨ s.find? id = none ∧ t = { columns }) ∧
        s'.find? id = some { t with rows := t.rows ++ rows.map t.storedRow } ∧
        List.Forall₂ (fun record row => List.Forall₂ (fun c v => record.Gives c v ∧
          (c.dataType = .boolean → ∀ raw, record.get? c.name = some raw → raw ≠ .null →
            ∃ b, v = .bool b ∧ raw.TakenFor b)) columns row) records rows := by
  refine ⟨fun v w => DataType.boolean_eq_some_iff, importText_misfit hrecords, fun s' n h => ?_⟩
  obtain ⟨t, ht, records', rows, hrecords', hgives, hfind⟩ := exists_placed_of_importText h
  cases hrecords.symm.trans hrecords'
  refine ⟨t, rows, ht, hfind, hgives.imp fun record row hrow => hrow.imp fun c v hv => ⟨hv, ?_⟩⟩
  intro htype raw hget hne
  have hcoerced := hv.coerce?_eq hget hne
  rw [htype] at hcoerced
  exact DataType.boolean_eq_some_iff.mp hcoerced

def passedColumns : List Column := [⟨"passed", .boolean, false⟩]

/-- One record with a value, as it is written, for the column. -/
def passedText (value : String) : String := "[\x7b\"passed\":" ++ value ++ "\x7d]"

/-- The store with the one truth value. -/
def passedStore (b : Bool) : Store :=
  empty.put 1 { columns := passedColumns, rows := [[.int (if b then 1 else 0)]] }

theorem truths_of_importText_passed :
    ((Json.read? (passedText "\"yes\"")).bind records? = some [[("passed", .text "yes")]] ∧
      (Json.read? (passedText "\" TRUE\"")).bind records? = some [[("passed", .text " TRUE")]]) ∧
    (∃ e, empty.importText 1 passedColumns (passedText "\"yes\"") = (empty, .error e)) ∧
    ∃ (t : Table) (b : Bool), (passedStore true).find? 1
        = some { t with rows := t.rows ++ [t.storedRow [.bool b]] } ∧
      (Value.text " TRUE").TakenFor b := by
  have hyes : (Json.read? (passedText "\"yes\"")).bind records?
      = some [[("passed", .text "yes")]] := by decide +kernel
  have htrue : (Json.read? (passedText "\" TRUE\"")).bind records?
      = some [[("passed", .text " TRUE")]] := by decide +kernel
  have himport : empty.importText 1 passedColumns (passedText "\" TRUE\"")
      = (passedStore true, .ok 1) := by decide +kernel
  refine ⟨⟨hyes, htrue⟩, ?_, ?_⟩
  · obtain ⟨i, record, c, v, -, -, -, hrefused⟩ :=
      (@truths_of_importText empty 1 passedColumns _ _ hyes).2.1
        ⟨_, List.mem_cons_self, _, List.mem_cons_self, .text "yes", rfl, Value.noConfusion,
          by decide⟩
    exact ⟨_, hrefused⟩
  · obtain ⟨t, rows, -, hfind, hrows⟩ :=
      (@truths_of_importText empty 1 passedColumns _ _ htrue).2.2 _ _ himport
    obtain ⟨row, _, hrow, hnil, rfl⟩ := List.forall₂_cons_left_iff.mp hrows
    cases hnil
    obtain ⟨v, _, ⟨-, hv⟩, hnil, rfl⟩ := List.forall₂_cons_left_iff.mp hrow
    cases hnil
    obtain ⟨b, rfl, htaken⟩ := hv rfl _ rfl Value.noConfusion
    exact ⟨t, b, hfind, htaken⟩

/-- Two says no truth value, and yet it is imported, as false. -/
theorem imports_two_as_false :
    (∀ b, ¬(Value.int 2).Says b) ∧
      DataType.boolean.coerce? (.int 2) = some (.bool false) ∧
      (Json.read? (passedText "2")).bind records? = some [[("passed", .int 2)]] ∧
      empty.importText 1 passedColumns (passedText "2") = (passedStore false, .ok 1) ∧
      (passedStore false).rows 1 none ["passed"] = .ok [[.bool false]] := by
  refine ⟨?_, by decide +kernel, by decide +kernel, by decide +kernel, by decide +kernel⟩
  intro b hsays
  rw [Value.says_number_iff (.inl rfl), Value.counts_int_iff] at hsays
  cases b <;> exact absurd hsays (by decide)

end Store

end MailMerge
