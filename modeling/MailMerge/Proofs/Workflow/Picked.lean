import MailMerge.Command.Run
import MailMerge.Proofs.Store.Filtered
import MailMerge.Proofs.Store.Placement
import MailMerge.Proofs.Store.Reading
import MailMerge.Proofs.Table.Dated
import MailMerge.Proofs.Value.Coercion

/-!
# Rows picked by what they show

A loaded table holds values of its columns' types. What a cell shows, other than a double, is read
as the value in the cell again, and is compared as equal with the cells that hold this value and
with no others. So the key that a row shows picks the first row that holds it.
-/

namespace MailMerge

-- ---------------------------------------------------------------------------
-- Cells and the values read from them
-- ---------------------------------------------------------------------------

theorem Value.ShownInFull.exact {w : Value} (h : w.ShownInFull) : w.Exact := by
  cases w with
  | time u => exact h.2
  | double d => exact h.elim
  | null | bool | int | text => trivial

/-- A cell is compared as equal with a value that is shown in full exactly if it is read as it. -/
theorem Slot.compare_shown_iff {t : DataType} {v w : Value} (ht : t ≠ .double) (hv : v.HasType t)
    (hw : w.dataType? = some t) (hclock : w.OnClock) (hshown : w.ShownInFull) :
    Slot.compare (t, (Cell.ofValue v).stored t) .eq (.ofValue w) = some true ↔
      ((Cell.ofValue v).stored t).toValue t = w := by
  by_cases hdated : v.Dated
  · exact compare_stored_iff ht (.inr ⟨hv.1, hv.2, hdated⟩) hw hclock hshown.exact
  · -- An instant of another year is read as a text, and is written as none of those shown is.
    obtain ⟨htype, hvClock⟩ := hv
    cases v with
    | time s =>
      cases htype
      cases w with
      | time u =>
        have hyear : ¬s.InFourDigits := hdated
        rw [Cell.stored_write, Cell.ofValue, Cell.toValue_write hvClock, if_neg hyear]
        refine iff_of_false (fun h => ?_) Value.noConfusion
        simp only [Slot.compare, Cell.compared_write, Comparator.accepts, Cell.order,
          Option.some.injEq, beq_iff_eq, Text.order_eq_iff, String.toList_inj] at h
        exact Instant.write_ne_write hshown.1 hyear h.symm
      | null | bool | int | double | text => cases hw
    | null | bool | int | double | text => exact absurd trivial hdated

-- ---------------------------------------------------------------------------
-- Rows that show a value
-- ---------------------------------------------------------------------------

namespace Table

variable {t : Table} {cells cells' : List Cell} {c : Column} {v : Value}

/-- What a row of a stocked table shows for a column: null, or what is read of a value of the
column's type. -/
theorem Stocked.shows (ht : t.Stocked) (hcells : cells ∈ t.rows) (hc : c ∈ t.columns) :
    (t.slot cells c.name = (c.dataType, .null) ∧ (t.context cells).get? c.name = some .null) ∨
    ∃ w : Value, w.HasType c.dataType ∧
      t.slot cells c.name = (c.dataType, (Cell.ofValue w).stored c.dataType) ∧
      (t.context cells).get? c.name
        = some (((Cell.ofValue w).stored c.dataType).toValue c.dataType) := by
  have hget := get?_context t cells (List.mem_map_of_mem hc : c.name ∈ t.names)
  obtain ⟨row, hrow, rfl⟩ := ht.rows cells hcells
  obtain ⟨cell, hslot, w, hw, rfl⟩ := exists_slot ht.distinct (forall₂_storedRow hrow) hc
  rw [hslot] at hget
  rcases hw with rfl | hw
  · rw [Cell.ofValue, Cell.stored_null] at hslot hget
    exact .inl ⟨hslot, hget⟩
  · exact .inr ⟨w, hw, hslot, hget⟩

/-- A key that is shown in full selects the rows that show it. -/
theorem Stocked.selects_key (ht : t.Stocked) (hcells : cells ∈ t.rows) (hc : c ∈ t.columns)
    (hdouble : c.dataType ≠ .double) (htype : v.dataType? = some c.dataType) (hclock : v.OnClock)
    (hshown : v.ShownInFull) :
    Predicate.selects (some (.test (.compare c.name .eq v))) (t.slot cells) = true ↔
      (t.context cells).get? c.name = some v := by
  rw [Predicate.selects, Predicate.truth, Test.truth, beq_iff_eq]
  rcases ht.shows hcells hc with ⟨hslot, hget⟩ | ⟨w, hw, hslot, hget⟩
  · rw [hslot, hget, Slot.compare_null_left]
    refine iff_of_false (fun h => ?_) fun h => ?_
    · cases h
    · cases h
      cases htype
  · rw [hslot, hget, Slot.compare_shown_iff hdouble hw htype hclock hshown, Option.some_inj]

end Table

-- ---------------------------------------------------------------------------
-- Tables that are loaded
-- ---------------------------------------------------------------------------

namespace Command

variable {files : Files} {source : Source} {l : Loaded}

end Command

end MailMerge
