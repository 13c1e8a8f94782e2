import MailMerge.Proofs.Document.Json.Scalar
import MailMerge.Proofs.Value.Numeral

/-!
# Coerced values

What a value is read as belongs to the type and is read as itself from then on. A whole number, a
truth value, a text, and an instant on a whole second of a year of four digits are read again from
the form in which they are shown.
-/

namespace MailMerge

/-- A value all of which is shown. Of an instant the parts of a second are not, and outside the
years of four digits it is shown as a text that denotes none. -/
def Value.ShownInFull : Value → Prop
  | .bool _ | .int _ | .text _ => True
  | .time t => t.InFourDigits ∧ t.nanos % Instant.nanosPerSecond = 0
  | .null | .double _ => False

instance : DecidablePred Value.ShownInFull
  | .bool _ | .int _ | .text _ => .isTrue trivial
  | .time t => inferInstanceAs (Decidable (t.InFourDigits ∧ t.nanos % Instant.nanosPerSecond = 0))
  | .null | .double _ => .isFalse id

/-- A whole number is shown as a numeral. -/
theorem numeral_toString (i : Int) : Numeral (toString i).toList i := by
  have hdigits := Json.isDigit_toDigits i.natAbs
  have hvalue : Nat.ofDigitChars 10 (Nat.toDigits 10 i.natAbs) 0 = i.natAbs :=
    Nat.ofDigitChars_toDigits (by decide) (by decide)
  by_cases hi : i < 0
  · have hnumeral := @Numeral.intro [] ['-'] _ [] (-1) (by simp) .minus Nat.toDigits_ne_nil hdigits
      (by simp)
    have hneg : -1 * (i.natAbs : Int) = i := by omega
    rw [hvalue, hneg] at hnumeral
    rw [Json.toList_toString_of_neg hi]
    simpa using hnumeral
  · have hnumeral := @Numeral.intro [] [] _ [] 1 (by simp) .none Nat.toDigits_ne_nil hdigits
      (by simp)
    have hpos : 1 * (i.natAbs : Int) = i := by omega
    rw [hvalue, hpos] at hnumeral
    rw [Json.toList_toString_of_nonneg (Int.not_lt.mp hi)]
    simpa using hnumeral

namespace DataType

/-- A value of the type is read as itself. -/
theorem coerce?_eq_self {t : DataType} {w : Value} (h : w.dataType? = some t) :
    t.coerce? w = some w := by
  cases w <;> cases h <;> rfl

/-- What is shown in full is read again, as a value of the type it has. -/
theorem coerce?_display {t : DataType} {w : Value} (htype : w.dataType? = some t)
    (hclock : w.OnClock) (hfull : w.ShownInFull) : t.coerce? (.text w.display) = some w := by
  cases w with
  | null => cases htype
  | bool b =>
    cases htype
    cases b <;> decide
  | int i =>
    cases htype
    have hread := integerOfText?_of_fits (s := toString i.toInt) (numeral_toString i.toInt)
      i.le_toInt i.toInt_lt
    rw [Value.display, coerce?, hread, Int64.ofInt_toInt, Option.map_some]
  | double d => exact hfull.elim
  | text s =>
    cases htype
    rfl
  | time u =>
    cases htype
    rw [Value.display, coerce?, Instant.read?_write hclock hfull.1,
      Instant.truncated_eq_self hfull.2, Option.map_some]

/-- Reading a value as one of a type gives a value of the type, reading it once more changes
nothing, and if it is shown in full it can be read from there. -/
theorem coerced_reads_back {t : DataType} {v w : Value} (hclock : v.OnClock)
    (h : t.coerce? v = some w) :
    w.dataType? = some t ∧ t.coerce? w = some w ∧
      (w.ShownInFull → t.coerce? (.text w.display) = some w) := by
  have htype := Value.dataType?_of_coerce? h
  exact ⟨htype, coerce?_eq_self htype,
    coerce?_display htype (Value.onClock_of_coerce? hclock h)⟩

theorem coerced_reads_back_due :
    (Value.time ⟨1709283600, 0⟩).OnClock ∧
      DataType.integer.coerce? (.text " -9223372036854775808")
        = some (.int (-9223372036854775808)) ∧
      DataType.integer.coerce? (.text "-9223372036854775808")
        = some (.int (-9223372036854775808)) ∧
      DataType.datetime.coerce? (.text (Value.time ⟨1709283600, 0⟩).display)
        = some (.time ⟨1709283600, 0⟩) := by
  have hclock : (Value.time ⟨1709283600, 0⟩).OnClock := by decide
  have hleast : DataType.integer.coerce? (.text " -9223372036854775808")
      = some (.int (-9223372036854775808)) := by decide +kernel
  exact ⟨hclock, hleast, (coerced_reads_back (v := .text _) trivial hleast).2.2 trivial,
    (coerced_reads_back hclock rfl).2.2 (by decide)⟩

end DataType

end MailMerge
