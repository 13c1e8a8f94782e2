import MailMerge.Predicate.Truth
import MailMerge.Proofs.Double.Whole
import MailMerge.Proofs.Table.Stored

/-!
# Values that are retained

A column of a value's type gives the value back, an instant to the second. Lost are only what
is no number, the sign of zero, and instants in years without four digits. The cell of a
column that is compared for equality with a value of the type is equal to it exactly when it
is read back as that value.
-/

namespace MailMerge

namespace Instant

theorem order_eq_iff {a b : Instant} : a.order b = .eq ↔ a = b := by
  rw [order, Ordering.then_eq_eq, compare_eq_iff_eq, compare_eq_iff_eq, Instant.mk.injEq]

/-- Years without four digits have a sign in front. -/
theorem write_ne_write {a b : Instant} (ha : a.InFourDigits) (hb : ¬b.InFourDigits) :
    a.write ≠ b.write := by
  intro heq
  have horder := order_write_of_not ha hb
  rw [heq, Text.order_eq_iff.mpr rfl] at horder
  cases horder

end Instant

namespace Value

/-- A value whose instant, if it is one, is in a year of four digits. -/
def Dated : Value → Prop
  | .time t => t.InFourDigits
  | _ => True

/-- A value that a column of a type may hold. -/
def Suits (t : DataType) (v : Value) : Prop :=
  v = .null ∨ v.dataType? = some t ∧ v.OnClock ∧ v.Dated

/-- A value that a column of its type gives back. -/
def Retained : Value → Prop
  | .double d => d.isNaN = false ∧ d ≠ .ofSign true 0
  | .time t => t.InFourDigits
  | _ => True

/-- The value at the start of its second. -/
def truncated : Value → Value
  | .time t => .time t.truncated
  | v => v

instance : DecidablePred Dated
  | .time t => inferInstanceAs (Decidable t.InFourDigits)
  | .null | .bool _ | .int _ | .double _ | .text _ => .isTrue trivial

instance (t : DataType) (v : Value) : Decidable (v.Suits t) :=
  inferInstanceAs (Decidable (_ ∨ _))

instance : DecidablePred Retained
  | .double d => inferInstanceAs (Decidable (d.isNaN = false ∧ d ≠ .ofSign true 0))
  | .time t => inferInstanceAs (Decidable t.InFourDigits)
  | .null | .bool _ | .int _ | .text _ => .isTrue trivial

end Value

namespace Cell

variable {t : DataType} {v w : Value}

theorem stored_null (t : DataType) : Cell.null.stored t = .null := by
  cases t <;> rfl

/-- A column of doubles gives back what is a number, but for the sign of zero. -/
theorem stored_double {d : Double} (hd : d ≠ .ofSign true 0) :
    (Cell.real d).stored .double = .real d := by
  rcases stored_real d with h | ⟨i, hi, h⟩
  · exact h
  · rw [h, Double.ofInt_of_toInt? hi hd]

/-- What a column of its type stores for a value is read back as the value. -/
theorem toValue_stored (htype : v.dataType? = some t) (hclock : v.OnClock)
    (hretained : v.Retained) :
    ((Cell.ofValue v).stored t).toValue t = v.truncated := by
  cases v with
  | null => cases htype
  | bool b =>
    cases htype
    cases b <;> rfl
  | int i =>
    cases htype
    rfl
  | double d =>
    cases htype
    obtain ⟨hnan, hzero⟩ := hretained
    rw [ofValue, if_neg (Bool.eq_false_iff.mp hnan), stored_double hzero]
    rfl
  | text s =>
    cases htype
    rfl
  | time s =>
    cases htype
    rw [stored_write, toValue, Instant.read?_write hclock hretained]
    rfl

end Cell

namespace Slot

-- ---------------------------------------------------------------------------
-- Equality with a value
-- ---------------------------------------------------------------------------

variable {t : DataType} {v w : Value}

theorem compare_null_left (t : DataType) (o : Comparator) (c : Cell) :
    Slot.compare (t, .null) o c = none := rfl

theorem compare_null_right (t : DataType) (cell : Cell) (o : Comparator) :
    Slot.compare (t, cell) o .null = none := by
  cases t <;> cases cell <;> rfl

/-- The text of an instant is that of another on a whole second only if that is the instant it
is read back as. -/
theorem compare_time_iff {a b : Instant} (haClock : a.OnClock) (ha : a.InFourDigits)
    (hbClock : b.OnClock) (hwhole : b.nanos % Instant.nanosPerSecond = 0) :
    Slot.compare (.datetime, .text a.write) .eq (.text b.write) = some true ↔ a.truncated = b := by
  have hconverted := Cell.compared_write b .datetime
  by_cases hb : b.InFourDigits
  · have horder := Instant.order_write haClock hbClock ha hb
    rw [Instant.truncated_eq_self hwhole] at horder
    simp only [Slot.compare, hconverted, Comparator.accepts, Cell.order, horder,
      Option.some.injEq, beq_iff_eq, Instant.order_eq_iff]
  · have hne : a.truncated ≠ b := by
      rintro rfl
      exact hb ha
    refine iff_of_false (fun h => ?_) hne
    simp only [Slot.compare, hconverted, Comparator.accepts, Cell.order, Option.some.injEq,
      beq_iff_eq, Text.order_eq_iff, String.toList_inj] at h
    exact Instant.write_ne_write ha hb h

theorem compare_truth_iff (b b' : Bool) :
    Slot.compare (.boolean, .int (if b then 1 else 0)) .eq (.ofValue (.bool b')) = some true ↔
      b = b' := by
  -- Exact values are huge multiples of a unit, so they are not computed but compared.
  change some (Comparator.accepts .eq ((Cell.int (if b then 1 else 0)).order
    (.int (if b' then 1 else 0)))) = some true ↔ b = b'
  rw [Cell.order_int_int]
  cases b <;> cases b' <;> decide

theorem compare_int_iff (i j : Int64) :
    Slot.compare (.integer, .int i) .eq (.ofValue (.int j)) = some true ↔ i = j := by
  change some (Comparator.accepts .eq ((Cell.int i).order (.int j))) = some true ↔ i = j
  rw [Cell.order_int_int, Comparator.accepts, Option.some.injEq, beq_iff_eq, compare_eq_iff_eq,
    Int64.toInt_inj]

theorem compare_text_iff (s s' : String) :
    Slot.compare (.string, .text s) .eq (.ofValue (.text s')) = some true ↔ s = s' := by
  change some (Comparator.accepts .eq (Text.order s.toList s'.toList)) = some true ↔ s = s'
  rw [Comparator.accepts, Option.some.injEq, beq_iff_eq, Text.order_eq_iff, String.toList_inj]

/-- A stored cell is equal to a value of the column's type exactly when it is read back as the
value. Doubles apart: their column has one cell for both zeros. -/
theorem compare_stored_iff (ht : t ≠ .double) (hv : v.Suits t) (hw : w.dataType? = some t)
    (hclock : w.OnClock) (hexact : w.Exact) :
    Slot.compare (t, (Cell.ofValue v).stored t) .eq (.ofValue w) = some true ↔
      ((Cell.ofValue v).stored t).toValue t = w := by
  rcases hv with rfl | ⟨htype, hvClock, hdated⟩
  · have hnull : Value.null ≠ w := by
      rintro rfl
      cases hw
    rw [Cell.ofValue, Cell.stored_null, compare_null_left]
    exact iff_of_false (by simp) hnull
  · cases v with
    | null => cases htype
    | bool b =>
      cases htype
      cases w <;> cases hw
      next b' =>
      have hread : ((Cell.ofValue (.bool b)).stored .boolean).toValue .boolean = .bool b := by
        cases b <;> rfl
      rw [hread, Value.bool.injEq]
      exact compare_truth_iff b b'
    | int i =>
      cases htype
      cases w <;> cases hw
      next j => exact (compare_int_iff i j).trans (Value.int.injEq i j).symm.to_iff
    | double d =>
      cases htype
      exact absurd rfl ht
    | text s =>
      cases htype
      cases w <;> cases hw
      next s' => exact (compare_text_iff s s').trans (Value.text.injEq s s').symm.to_iff
    | time s =>
      cases htype
      cases w <;> cases hw
      next s' =>
      rw [Cell.stored_write, Cell.ofValue,
        compare_time_iff hvClock hdated hclock hexact, Cell.toValue,
        Instant.read?_write hvClock hdated]
      simp

end Slot

end MailMerge
