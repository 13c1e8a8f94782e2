import MailMerge.Proofs.Instant.Years
import MailMerge.Proofs.Table.Retained
import MailMerge.Proofs.Text.Bytes

/-!
# Written instants as values

A written instant, of whatever year, is read as no number and no truth value. A column of instants
gives it back as the instant, to the second, or as the text. In years of four digits the texts in
such a column stand, byte by byte, in the order of time.
-/

namespace MailMerge

open Double (splitSign)

namespace Instant

variable (t : Instant)

theorem ofList_map_ne {cs : List Char} {s : String} (h : '-' ∈ cs) (hs : '-' ∉ s.toList) :
    String.ofList (cs.map Char.toLower) ≠ s := by
  rintro rfl
  rw [String.toList_ofList] at hs
  exact hs (List.mem_map.mpr ⟨'-', h, rfl⟩)

/-- A written instant is no double. -/
theorem read?_double_write : Double.read? t.write = none := by
  have hdigits := t.readDigits?_write
  obtain ⟨negative, ds, hsplit, -, -⟩ := t.splitSign_write
  have hdash : '-' ∈ (splitSign t.write.toList).2 := by simp [hsplit]
  have hword : ∀ s : String, '-' ∉ s.toList →
      (String.ofList ((splitSign t.write.toList).2.map Char.toLower) == s) = false :=
    fun s hs => beq_eq_false_iff_ne.mpr (ofList_map_ne hdash hs)
  rw [Double.read?]
  simp [hword, hdigits]

theorem integerOfText?_write : DataType.integerOfText? t.write = none := by
  rw [DataType.integerOfText?]
  simp [t.trim_write, t.readInt?_write, t.read?_double_write]

theorem booleanOfText?_write : DataType.booleanOfText? t.write = none := by
  obtain ⟨sign, ds, hwrite, -⟩ := t.exists_write
  have hdash : '-' ∈ t.write.toList := by
    rw [hwrite]
    simp
  have hword : ∀ s : String, '-' ∉ s.toList →
      (String.ofList (t.write.toList.map Char.toLower) == s) = false :=
    fun s hs => beq_eq_false_iff_ne.mpr (ofList_map_ne hdash hs)
  rw [DataType.booleanOfText?]
  simp [t.trim_write, hword]

end Instant

namespace Cell

/-- A column of instants gives back the instant to the second, or its text. -/
theorem toValue_write {t : Instant} (hclock : t.OnClock) :
    (Cell.text t.write).toValue .datetime
      = if t.InFourDigits then .time t.truncated else .text t.write := by
  have hread := Instant.read?_write_eq hclock
  by_cases hyear : t.InFourDigits
  · rw [if_pos hyear] at hread ⊢
    rw [toValue, hread]
    rfl
  · rw [if_neg hyear] at hread ⊢
    rw [toValue, hread]
    rfl

theorem order_stored_time (a b : Instant) :
    ((ofValue (.time a)).stored .datetime).order ((ofValue (.time b)).stored .datetime)
      = compare (Text.bytes a.write) (Text.bytes b.write) := by
  rw [stored_write, stored_write, order, Text.compare_bytes]

end Cell

-- ---------------------------------------------------------------------------
-- Order
-- ---------------------------------------------------------------------------

namespace Instant

/-- A leap second comes behind the last second of a minute and before the next minute. -/
theorem order_leap {t : Instant} (hclock : t.OnClock) (hleap : nanosPerSecond ≤ t.nanos) :
    t.seconds % 60 = 59 ∧ order ⟨t.seconds, 0⟩ t.truncated = .lt ∧
      t.truncated.order ⟨t.seconds + 1, 0⟩ = .lt := by
  have hminute : t.seconds % 60 = 59 := by
    unfold OnClock at hclock
    omega
  have hnanos : 0 < t.truncated.nanos := by
    simp only [truncated, nanosPerSecond] at hleap ⊢
    omega
  have hnext : t.truncated.seconds < t.seconds + 1 := Int.lt_add_one_of_le (Int.le_refl _)
  have hsame : compare t.seconds t.truncated.seconds = .eq := compare_eq_iff_eq.mpr rfl
  refine ⟨hminute, ?_, ?_⟩
  · rw [order, hsame, compare_lt_iff_lt.mpr hnanos]
    rfl
  · rw [order, compare_lt_iff_lt.mpr hnext]
    rfl

/-- Instants in years of four digits stand, whole seconds apart, in the order of the bytes they
are written with, and so do the cells that hold them. A leap second has its place between the
last second of a minute and the next minute. -/
theorem bytes_sort_like_time {a b : Instant} (ha : a.OnClock) (hb : b.OnClock)
    (hay : a.InFourDigits) (hby : b.InFourDigits) :
    Value.compare? (.time a.truncated) (.time b.truncated)
      = some (compare (Text.bytes a.write) (Text.bytes b.write)) ∧
    ((Cell.ofValue (.time a)).stored .datetime).order ((Cell.ofValue (.time b)).stored .datetime)
      = compare (Text.bytes a.write) (Text.bytes b.write) ∧
    (nanosPerSecond ≤ a.nanos → a.seconds % 60 = 59 ∧
      Value.compare? (.time ⟨a.seconds, 0⟩) (.time a.truncated) = some .lt ∧
      Value.compare? (.time a.truncated) (.time ⟨a.seconds + 1, 0⟩) = some .lt) := by
  refine ⟨?_, Cell.order_stored_time a b, fun hleap => ?_⟩
  · rw [Value.compare?, Text.compare_bytes, order_write ha hb hay hby]
  · obtain ⟨hminute, hbehind, hbefore⟩ := order_leap ha hleap
    exact ⟨hminute, congrArg some hbehind, congrArg some hbefore⟩

/-- A quarter into the leap second of 2016, and half a second into the next minute. -/
theorem bytes_sort_like_time_leap :
    (OnClock ⟨1483228799, 1250000000⟩ ∧ OnClock ⟨1483228800, 500000000⟩ ∧
      InFourDigits ⟨1483228799, 1250000000⟩ ∧ InFourDigits ⟨1483228800, 500000000⟩ ∧
      nanosPerSecond ≤ 1250000000) ∧
    write ⟨1483228799, 1250000000⟩ = "2016-12-31T23:59:60Z" ∧
    write ⟨1483228800, 500000000⟩ = "2017-01-01T00:00:00Z" ∧
    compare (Text.bytes "2016-12-31T23:59:60Z") (Text.bytes "2017-01-01T00:00:00Z") = .lt ∧
    Value.compare? (.time ⟨1483228799, 0⟩) (.time ⟨1483228799, 1000000000⟩) = some .lt := by
  have ha : OnClock ⟨1483228799, 1250000000⟩ := by decide
  have hb : OnClock ⟨1483228800, 500000000⟩ := by decide
  have hay : InFourDigits ⟨1483228799, 1250000000⟩ := by decide
  have hby : InFourDigits ⟨1483228800, 500000000⟩ := by decide
  have hleap : nanosPerSecond ≤ 1250000000 := by decide
  have hwrite : write ⟨1483228799, 1250000000⟩ = "2016-12-31T23:59:60Z" := by decide +kernel
  have hwrite' : write ⟨1483228800, 500000000⟩ = "2017-01-01T00:00:00Z" := by decide +kernel
  obtain ⟨htime, -, hbetween⟩ := bytes_sort_like_time ha hb hay hby
  refine ⟨⟨ha, hb, hay, hby, hleap⟩, hwrite, hwrite', ?_, (hbetween hleap).2.1⟩
  rw [hwrite, hwrite'] at htime
  exact (Option.some.inj htime).symm.trans (by decide)

end Instant

end MailMerge
