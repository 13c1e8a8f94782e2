import MailMerge.Proofs.Double.Whole
import MailMerge.Value.DataType
import Mathlib.Tactic.Ring
import Mathlib.Tactic.Zify

/-!
# Rounding whole numbers

The double nearest to a whole number is the number itself up to 2⁵³. Beyond, it stays within the
powers of two around the number, so integers never round to a double outside their range.
-/

namespace MailMerge

namespace Double

/-- A quotient is rounded to the whole number below or above it. -/
theorem roundQuotient_bounds (n d : Nat) :
    n / d ≤ roundQuotient n d ∧ roundQuotient n d ≤ n / d + 1 := by
  simp only [roundQuotient]
  split <;> omega

/-- A pattern of an exponent and a significand, which may have grown by one. -/
theorem unitsOf_scaled (s : Nat) {q : Nat} (hlow : 2 ^ 52 ≤ q) (hhigh : q ≤ 2 ^ 53) :
    unitsOf (s * 2 ^ 52 + q) = q * 2 ^ s := by
  rcases Nat.lt_or_eq_of_le hhigh with hlt | rfl
  · obtain ⟨r, rfl⟩ := Nat.exists_eq_add_of_le hlow
    have hpattern : s * 2 ^ 52 + (2 ^ 52 + r) = 2 ^ 52 * (s + 1) + r := by ring
    rw [hpattern, unitsOf_normal s (by omega)]
  · have hpattern : s * 2 ^ 52 + 2 ^ 53 = 2 ^ 52 * (s + 1 + 1) + 0 := by ring
    rw [hpattern, unitsOf_normal (s + 1) (by decide), Nat.add_zero, Nat.pow_succ 2 s]
    ring

theorem log2_scaled {n : Nat} (hn : n ≠ 0) (e : Nat) : Nat.log2 (n * 2 ^ e) = Nat.log2 n + e := by
  have hne : n * 2 ^ e ≠ 0 := Nat.mul_ne_zero hn (Nat.ne_of_gt (Nat.two_pow_pos e))
  obtain ⟨hlow, hhigh⟩ := (Nat.log2_eq_iff hn).mp rfl
  rw [Nat.log2_eq_iff hne, Nat.add_right_comm, Nat.pow_add, Nat.pow_add]
  exact ⟨Nat.mul_le_mul_right _ hlow, Nat.mul_lt_mul_of_pos_right hhigh (Nat.two_pow_pos e)⟩

/-- A significand is below its least value only where the exponent is the least. -/
theorem quotient_bounds (n : Nat) :
    n / 2 ^ (Nat.log2 n - 52) < 2 ^ 53 ∧
      (0 < Nat.log2 n - 52 → 2 ^ 52 ≤ n / 2 ^ (Nat.log2 n - 52)) := by
  by_cases hn : n = 0
  · subst hn
    decide
  · obtain ⟨hlow, hhigh⟩ := (Nat.log2_eq_iff hn).mp rfl
    rw [Nat.div_lt_iff_lt_mul (Nat.two_pow_pos _), Nat.le_div_iff_mul_le (Nat.two_pow_pos _),
      ← Nat.pow_add, ← Nat.pow_add]
    refine ⟨hhigh.trans_le (Nat.pow_le_pow_right (by decide) (by omega)), fun hs => ?_⟩
    exact (Nat.pow_le_pow_right (by decide) (by omega)).trans hlow

/-- The exponent of a whole number, in units. -/
theorem exponent_eq {n s : Nat} (hn : n ≠ 0) (hs : s = Nat.log2 n + 1022) :
    Nat.log2 (n * unitsPerOne) - 52 = s := by
  obtain ⟨e, he, hunits⟩ : ∃ e, e = 1074 ∧ unitsPerOne = 2 ^ e := ⟨_, rfl, rfl⟩
  rw [hunits, log2_scaled hn, he, hs]
  exact Nat.sub_eq_of_eq_add (by ring)

/-- The exponent of a whole number leaves it the digits of a significand, or one more after
rounding. -/
theorem roundQuotient_scaled {n s : Nat} (hn : n ≠ 0) (hs : s = Nat.log2 n + 1022) :
    2 ^ 52 ≤ roundQuotient (n * unitsPerOne) (2 ^ s) ∧
      roundQuotient (n * unitsPerOne) (2 ^ s) ≤ 2 ^ 53 := by
  obtain ⟨hhigh, hlow⟩ := quotient_bounds (n * unitsPerOne)
  rw [exponent_eq hn hs] at hhigh hlow
  have hlow := hlow (by omega)
  have hround := roundQuotient_bounds (n * unitsPerOne) (2 ^ s)
  generalize n * unitsPerOne / 2 ^ s = q at hhigh hlow hround
  omega

/-- The pattern of a rounded whole number: its exponent, and its significand behind it. -/
theorem roundMagnitude_eq {n s : Nat} (hn : n ≠ 0) (hs : s = Nat.log2 n + 1022) :
    roundMagnitude n 1
      = min (s * 2 ^ 52 + roundQuotient (n * unitsPerOne) (2 ^ s)) infinityBits := by
  rw [roundMagnitude_one, patternOf, exponent_eq hn hs]

/-- Which significand and exponent a whole number is rounded to. -/
theorem unitsOf_roundMagnitude {n s : Nat} (hn : n ≠ 0) (hlimit : n < 2 ^ 64)
    (hs : s = Nat.log2 n + 1022) :
    unitsOf (roundMagnitude n 1) = roundQuotient (n * unitsPerOne) (2 ^ s) * 2 ^ s := by
  have hlog : Nat.log2 n < 64 := (Nat.log2_lt hn).mpr hlimit
  obtain ⟨hlow, hhigh⟩ := roundQuotient_scaled hn hs
  have hinfinity : s * 2 ^ 52 + roundQuotient (n * unitsPerOne) (2 ^ s) ≤ infinityBits := by
    have hbits : infinityBits = 2047 * 2 ^ 52 := rfl
    rw [hbits]
    omega
  rw [roundMagnitude_eq hn hs, Nat.min_eq_left hinfinity]
  exact unitsOf_scaled s hlow hhigh

/-- Nothing is rounded where the exponent divides the number. -/
theorem unitsOf_roundMagnitude_of_dvd {n s : Nat} (hn : n ≠ 0) (hlimit : n < 2 ^ 64)
    (hs : s = Nat.log2 n + 1022) (hdvd : 2 ^ s ∣ n * unitsPerOne) :
    unitsOf (roundMagnitude n 1) = n * unitsPerOne := by
  rw [unitsOf_roundMagnitude hn hlimit hs]
  obtain ⟨m, hm⟩ := hdvd
  rw [hm, Nat.mul_comm _ m, roundQuotient_mul m (Nat.two_pow_pos s)]

/-- Up to 2⁵³ nothing is rounded, for such a number has no more digits than a significand. -/
theorem unitsOf_roundMagnitude_small {n : Nat} (hn : n ≤ 2 ^ 53) :
    unitsOf (roundMagnitude n 1) = n * unitsPerOne := by
  by_cases hzero : n = 0
  · have hround : roundMagnitude 0 1 = 0 := by decide +kernel
    rw [hzero, hround, unitsOf_zero, Nat.zero_mul]
  · obtain ⟨e, he, hunits⟩ : ∃ e, e = 1074 ∧ unitsPerOne = 2 ^ e := ⟨_, rfl, rfl⟩
    obtain ⟨s, hs⟩ : ∃ s, s = Nat.log2 n + 1022 := ⟨_, rfl⟩
    apply unitsOf_roundMagnitude_of_dvd hzero (by omega) hs
    rw [hunits]
    rcases Nat.lt_or_eq_of_le hn with hlt | rfl
    · have hlog : Nat.log2 n < 53 := (Nat.log2_lt hzero).mpr hlt
      exact Nat.dvd_mul_left_of_dvd (Nat.pow_dvd_pow 2 (by omega)) n
    · rw [Nat.log2_two_pow] at hs
      rw [← Nat.pow_add]
      exact Nat.pow_dvd_pow 2 (by omega)

/-- A larger number stays between its powers of two. -/
theorem unitsOf_roundMagnitude_bounds {n : Nat} (hlow : 2 ^ 53 ≤ n) (hhigh : n ≤ 2 ^ 63) :
    2 ^ 53 * unitsPerOne ≤ unitsOf (roundMagnitude n 1) ∧
      unitsOf (roundMagnitude n 1) ≤ 2 ^ 63 * unitsPerOne := by
  rcases Nat.lt_or_eq_of_le hhigh with hlt | rfl
  · have hne : n ≠ 0 := by omega
    have hlogLow : 53 ≤ Nat.log2 n := (Nat.le_log2 hne).mpr hlow
    have hlogHigh : Nat.log2 n < 63 := (Nat.log2_lt hne).mpr hlt
    obtain ⟨s, hs⟩ : ∃ s, s = Nat.log2 n + 1022 := ⟨_, rfl⟩
    obtain ⟨hq, hq'⟩ := roundQuotient_scaled hne hs
    have hvalue := unitsOf_roundMagnitude hne (by omega) hs
    generalize roundQuotient (n * unitsPerOne) (2 ^ s) = q at hq hq' hvalue
    obtain ⟨e, he, hunits⟩ : ∃ e, e = 1074 ∧ unitsPerOne = 2 ^ e := ⟨_, rfl, rfl⟩
    have hexponents : 53 + e ≤ 52 + s ∧ 53 + s ≤ 63 + e := by
      clear hunits hvalue
      omega
    have hpowers : 2 ^ 53 * 2 ^ e ≤ 2 ^ 52 * 2 ^ s ∧ 2 ^ 53 * 2 ^ s ≤ 2 ^ 63 * 2 ^ e := by
      simp only [← Nat.pow_add]
      exact ⟨Nat.pow_le_pow_right (by decide) hexponents.1,
        Nat.pow_le_pow_right (by decide) hexponents.2⟩
    rw [hvalue, hunits]
    exact ⟨hpowers.1.trans (Nat.mul_le_mul_right _ hq),
      (Nat.mul_le_mul_right _ hq').trans hpowers.2⟩
  · decide +kernel

-- ---------------------------------------------------------------------------
-- Integers and doubles
-- ---------------------------------------------------------------------------

theorem isNegative_ofSign (negative : Bool) {m : Nat} (h : m < 2 ^ 63) :
    (ofSign negative m).isNegative = negative := by
  have hbits : (if negative then 2 ^ 63 + m else m) < 2 ^ 64 := by
    split <;> omega
  rw [isNegative, ofSign, UInt64.toNat_ofNat', Nat.mod_eq_of_lt hbits]
  cases negative with
  | false => exact decide_eq_false (by simpa using h)
  | true => exact decide_eq_true (Nat.le_add_right ..)

theorem isNegative_ofRatio (negative : Bool) (num den : Nat) :
    (ofRatio negative num den).isNegative = negative :=
  isNegative_ofSign negative (roundMagnitude_lt num den)

theorem signedUnits_ofInt (i : Int) : (ofInt i).signedUnits
    = if i < 0 then -(unitsOf (roundMagnitude i.natAbs 1) : Int)
      else unitsOf (roundMagnitude i.natAbs 1) := by
  rw [signedUnits, units_eq, ofInt, magnitude_ofRatio, isNegative_ofRatio]
  simp only [decide_eq_true_eq]

theorem natAbs_mul_unitsPerOne (i : Int) :
    i * (unitsPerOne : Int) = if i < 0 then -((i.natAbs * unitsPerOne : Nat) : Int)
      else (i.natAbs * unitsPerOne : Nat) := by
  push_cast
  split
  · next hneg => rw [← Int.neg_mul, abs_of_neg hneg, Int.neg_neg]
  · next hpos => rw [abs_of_nonneg (Int.not_lt.mp hpos)]

/-- What is no multiple of one has digits behind the point, so there are few before it. -/
theorem unitsOf_lt_of_not_dvd {m : Nat} (h : ¬unitsPerOne ∣ unitsOf m) :
    unitsOf m < 2 ^ 53 * unitsPerOne := by
  obtain ⟨e, he, hunits⟩ : ∃ e, e = 1074 ∧ unitsPerOne = 2 ^ e := ⟨_, rfl, rfl⟩
  obtain ⟨q, r, hr, rfl⟩ : ∃ q r, r < 2 ^ 52 ∧ m = 2 ^ 52 * q + r :=
    ⟨m / 2 ^ 52, m % 2 ^ 52, Nat.mod_lt _ (by decide), (Nat.div_add_mod m (2 ^ 52)).symm⟩
  cases q with
  | zero =>
    rw [Nat.mul_zero, Nat.zero_add, unitsOf_subnormal hr]
    exact Nat.lt_of_lt_of_le (by omega : r < 2 ^ 53) (Nat.le_mul_of_pos_right _ unitsPerOne_pos)
  | succ x =>
    rw [unitsOf_normal x hr, hunits] at h ⊢
    have hx : x < e := by
      by_contra hge
      exact h (Nat.dvd_mul_left_of_dvd (Nat.pow_dvd_pow 2 (Nat.not_lt.mp hge)) _)
    calc (2 ^ 52 + r) * 2 ^ x < 2 ^ 53 * 2 ^ x :=
          Nat.mul_lt_mul_of_pos_right (by omega) (Nat.two_pow_pos x)
      _ ≤ 2 ^ 53 * 2 ^ e :=
          Nat.mul_le_mul_left _ (Nat.pow_le_pow_right (by decide) (Nat.le_of_lt hx))

theorem le_unitsOf_infinity : 2 ^ 63 * unitsPerOne < unitsOf infinityBits := by
  decide +kernel

/-- A double that is no integer is small, or outside the range of integers. -/
theorem signedUnits_of_not_integer {d : Double} (hd : d.isNaN = false)
    (h : d.toInt?.bind int64? = none) :
    d.units < 2 ^ 53 * unitsPerOne ∨ 2 ^ 63 * (unitsPerOne : Int) ≤ d.signedUnits ∨
      d.signedUnits < -(2 ^ 63 * (unitsPerOne : Int)) := by
  cases hint : d.toInt? with
  | some i =>
    rw [hint, Option.bind_some, int64?] at h
    have hrange : ¬(-2 ^ 63 ≤ i ∧ i < 2 ^ 63) := fun hrange => by
      rw [if_pos hrange] at h
      cases h
    rw [signedUnits_of_toInt? hint]
    rcases not_and_or.mp hrange with hlow | hhigh
    · refine .inr (.inr ?_)
      rw [← Int.neg_mul]
      exact Int.mul_lt_mul_of_pos_right (by omega) (Int.natCast_pos.mpr unitsPerOne_pos)
    · exact .inr (.inl (Int.mul_le_mul_of_nonneg_right (by omega) (Int.natCast_nonneg _)))
  | none =>
    rw [toInt?] at hint
    split at hint
    · cases hint
    · next hnot =>
      rw [Bool.and_eq_true, not_and_or, isFinite, decide_eq_true_eq, beq_iff_eq] at hnot
      rcases hnot with hinfinite | hpart
      · have hbits : d.magnitude = infinityBits :=
          Nat.le_antisymm (magnitude_le hd) (Nat.not_lt.mp hinfinite)
        have hlarge : (2 ^ 63 * unitsPerOne : Nat) < (d.units : Int) := by
          rw [units_eq, hbits]
          exact Int.ofNat_lt.mpr le_unitsOf_infinity
        rw [signedUnits]
        push_cast at hlarge
        split
        · exact .inr (.inr (by omega))
        · exact .inr (.inl (by omega))
      · rw [units_eq] at hpart ⊢
        exact .inl (unitsOf_lt_of_not_dvd fun hdvd => hpart (Nat.mod_eq_zero_of_dvd hdvd))

/-- A double that is no integer is less than an integer exactly if it is less than the double the
integer is rounded to. -/
theorem lt_ofInt_iff {d : Double} (hd : d.isNaN = false) (h : d.toInt?.bind int64? = none)
    (k : Int64) :
    d.orderKey < (ofInt k.toInt).orderKey ↔ d.signedUnits < k.toInt * unitsPerOne := by
  have hkey : d.orderKey < (ofInt k.toInt).orderKey ↔
      d.signedUnits < (ofInt k.toInt).signedUnits := by
    rw [← compare_lt_iff_lt, ← compare_signedUnits, compare_lt_iff_lt]
  have hrange : k.toInt.natAbs ≤ 2 ^ 63 := by
    have hlow := k.le_toInt
    have hhigh := k.toInt_lt
    omega
  rw [hkey, signedUnits_ofInt, natAbs_mul_unitsPerOne]
  by_cases hsmall : k.toInt.natAbs ≤ 2 ^ 53
  · rw [unitsOf_roundMagnitude_small hsmall]
  · -- Beyond 2⁵³ both are so large that a small double is before them by their sign alone.
    obtain ⟨hlow, hhigh⟩ := unitsOf_roundMagnitude_bounds (Nat.le_of_not_le hsmall) hrange
    have hlow' : 2 ^ 53 * unitsPerOne ≤ k.toInt.natAbs * unitsPerOne :=
      Nat.mul_le_mul_right _ (Nat.le_of_not_le hsmall)
    have hhigh' : k.toInt.natAbs * unitsPerOne ≤ 2 ^ 63 * unitsPerOne :=
      Nat.mul_le_mul_right _ hrange
    have hsigned : d.signedUnits = if d.isNegative then -(d.units : Int) else d.units := rfl
    have houtside := signedUnits_of_not_integer hd h
    generalize k.toInt.natAbs * unitsPerOne = n at *
    generalize unitsOf (roundMagnitude k.toInt.natAbs 1) = m at *
    have hone : (0 : Int) < 2 ^ 53 * (unitsPerOne : Int) := by
      have hpos : (0 : Int) < unitsPerOne := Int.natCast_pos.mpr unitsPerOne_pos
      omega
    have hunits : (0 : Int) ≤ d.units := Int.natCast_nonneg _
    zify at hlow hhigh hlow' hhigh' houtside
    generalize (unitsPerOne : Int) = one at *
    generalize (d.units : Int) = units at *
    rw [hsigned] at houtside ⊢
    split <;> split at houtside <;> omega

end Double

end MailMerge
