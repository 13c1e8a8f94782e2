import MailMerge.Proofs.Double.Rounding

/-!
# Digits beyond the range of integers

Digits that denote too much for an integer are read as a double, which is rounded. From 2⁶³ on
doubles lie 2¹¹ apart, so that what is at most 2¹⁰ beyond 2⁶³ is rounded to 2⁶³ itself: as a
negative number an integer again. Whatever is larger stays outside.
-/

namespace MailMerge

namespace Double

-- ---------------------------------------------------------------------------
-- Rounding from 2⁶³ on
-- ---------------------------------------------------------------------------

theorem roundQuotient_mul_mul (n d : Nat) {m : Nat} (hm : 0 < m) :
    roundQuotient (n * m) (d * m) = roundQuotient n d := by
  have hrest : 2 * (n % d * m) = 2 * (n % d) * m := (Nat.mul_assoc ..).symm
  have hless : d * m < 2 * (n % d) * m ↔ d < 2 * (n % d) := Nat.mul_lt_mul_right hm
  have htie : 2 * (n % d) * m = d * m ↔ 2 * (n % d) = d :=
    ⟨Nat.eq_of_mul_eq_mul_right hm, congrArg (· * m)⟩
  simp only [roundQuotient, Nat.mul_div_mul_right n d hm, Nat.mul_mod_mul_right, hrest, hless,
    beq_eq_decide, htie]

/-- Which numbers are rounded to 2⁶³: a tie goes to it, for its significand is even. -/
theorem roundQuotient_eq_iff {n : Nat} (h : 2 ^ 63 ≤ n) :
    roundQuotient n (2 ^ 11) = 2 ^ 52 ↔ n ≤ 2 ^ 63 + 2 ^ 10 := by
  simp only [roundQuotient, Bool.or_eq_true, Bool.and_eq_true, decide_eq_true_eq, beq_iff_eq]
  split <;> omega

/-- The absolute value of a number between 2⁶³ and 2⁶⁴ after rounding. -/
theorem unitsOf_roundMagnitude_large {n : Nat} (hlow : 2 ^ 63 ≤ n) (hhigh : n < 2 ^ 64) :
    unitsOf (roundMagnitude n 1) = roundQuotient n (2 ^ 11) * 2 ^ 11 * unitsPerOne := by
  have hne : n ≠ 0 := by omega
  have hlog : Nat.log2 n = 63 := (Nat.log2_eq_iff hne).mpr ⟨hlow, hhigh⟩
  obtain ⟨e, he, hunits⟩ : ∃ e, e = 1074 ∧ unitsPerOne = 2 ^ e := ⟨_, rfl, rfl⟩
  have hs : 11 + e = Nat.log2 n + 1022 := by omega
  rw [unitsOf_roundMagnitude hne hhigh hs, hunits, Nat.pow_add,
    roundQuotient_mul_mul _ _ (Nat.two_pow_pos e), Nat.mul_assoc]

/-- From 2⁶⁴ on nothing is rounded below 2⁶⁴. -/
theorem le_unitsOf_roundMagnitude {n : Nat} (h : 2 ^ 64 ≤ n) :
    2 ^ 64 * unitsPerOne ≤ unitsOf (roundMagnitude n 1) := by
  have hne : n ≠ 0 := by omega
  have hlog : 64 ≤ Nat.log2 n := (Nat.le_log2 hne).mpr h
  obtain ⟨s, hs⟩ : ∃ s, s = Nat.log2 n + 1022 := ⟨_, rfl⟩
  have hquotient := (roundQuotient_scaled hne hs).1
  have hpattern : 1087 * 2 ^ 52 ≤ roundMagnitude n 1 := by
    have hinfinity : infinityBits = 2047 * 2 ^ 52 := rfl
    rw [roundMagnitude_eq hne hs, hinfinity]
    omega
  have hunits : unitsOf (1087 * 2 ^ 52) = 2 ^ 64 * unitsPerOne := by decide +kernel
  rw [← hunits]
  exact unitsOf_strictMono.monotone hpattern

-- ---------------------------------------------------------------------------
-- Whole numbers that doubles are
-- ---------------------------------------------------------------------------

/-- Numbers below 2⁶⁴ are far from infinity. -/
theorem isFinite_ofRatio {n : Nat} (hn : n ≠ 0) (h : n < 2 ^ 64) (negative : Bool) :
    (ofRatio negative n 1).isFinite = true := by
  have hlog : Nat.log2 n < 64 := (Nat.log2_lt hn).mpr h
  obtain ⟨s, hs⟩ : ∃ s, s = Nat.log2 n + 1022 := ⟨_, rfl⟩
  have hquotient := (roundQuotient_scaled hn hs).2
  have hinfinity : infinityBits = 2047 * 2 ^ 52 := rfl
  apply decide_eq_true
  rw [magnitude_ofRatio, roundMagnitude_eq hn hs, hinfinity]
  omega

/-- A finite double of whole ones is their number. -/
theorem toInt?_of_units {d : Double} {k : Nat} (hfinite : d.isFinite = true)
    (h : d.units = k * unitsPerOne) :
    d.toInt? = some (if d.isNegative then -(k : Int) else k) := by
  have hwhole : d.units % unitsPerOne = 0 := by rw [h, Nat.mul_mod_left]
  have hdiv : (d.units : Int) / (unitsPerOne : Int) = k := by
    rw [← Int.natCast_div, h, Nat.mul_div_cancel _ unitsPerOne_pos]
  simp only [toInt?, hfinite, hwhole, hdiv, beq_self_eq_true, Bool.and_true, if_true]

theorem toInt?_ofRatio {n : Nat} (hlow : 2 ^ 63 ≤ n) (hhigh : n < 2 ^ 64) (negative : Bool) :
    (ofRatio negative n 1).toInt?
      = some (if negative then -((roundQuotient n (2 ^ 11) * 2 ^ 11 : Nat) : Int)
          else (roundQuotient n (2 ^ 11) * 2 ^ 11 : Nat)) := by
  have hunits : (ofRatio negative n 1).units = roundQuotient n (2 ^ 11) * 2 ^ 11 * unitsPerOne := by
    rw [units_eq, magnitude_ofRatio, unitsOf_roundMagnitude_large hlow hhigh]
  rw [toInt?_of_units (isFinite_ofRatio (by omega) hhigh negative) hunits, isNegative_ofRatio]

/-- What is rounded from 2⁶⁴ on is no integer. -/
theorem int64?_ofRatio_eq_none {n : Nat} (h : 2 ^ 64 ≤ n) (negative : Bool) :
    (ofRatio negative n 1).toInt?.bind int64? = none := by
  cases hint : (ofRatio negative n 1).toInt? with
  | none => rfl
  | some i =>
    have hunits : 2 ^ 64 * unitsPerOne ≤ (ofRatio negative n 1).units := by
      rw [units_eq, magnitude_ofRatio]
      exact le_unitsOf_roundMagnitude h
    rw [units_of_toInt? hint] at hunits
    have hlarge : 2 ^ 64 ≤ i.natAbs := Nat.le_of_mul_le_mul_right hunits unitsPerOne_pos
    rw [Option.bind_some, int64?]
    exact if_neg (by omega)

/-- From 2⁶³ on a number is rounded to an integer only as the least one. -/
theorem int64?_ofRatio {n : Nat} (h : 2 ^ 63 ≤ n) (negative : Bool) :
    (ofRatio negative n 1).toInt?.bind int64?
      = if negative = true ∧ n ≤ 2 ^ 63 + 2 ^ 10 then some (.ofInt (-2 ^ 63)) else none := by
  rcases Nat.lt_or_ge n (2 ^ 64) with hhigh | hlarge
  · have hquotient := roundQuotient_eq_iff h
    have hleast : 2 ^ 52 ≤ roundQuotient n (2 ^ 11) :=
      (by omega : 2 ^ 52 ≤ n / 2 ^ 11).trans (roundQuotient_bounds n _).1
    rw [toInt?_ofRatio h hhigh, Option.bind_some]
    generalize roundQuotient n (2 ^ 11) = q at hquotient hleast
    cases negative with
    | false =>
      rw [if_neg Bool.false_ne_true, int64?, if_neg (by omega),
        if_neg fun hboth => Bool.false_ne_true hboth.1]
    | true =>
      rw [if_pos rfl]
      by_cases hnear : n ≤ 2 ^ 63 + 2 ^ 10
      · rw [if_pos ⟨rfl, hnear⟩, hquotient.mpr hnear]
        decide
      · have hfar : q ≠ 2 ^ 52 := fun hq => hnear (hquotient.mp hq)
        rw [if_neg fun hboth => hnear hboth.2, int64?]
        exact if_neg (by omega)
  · rw [int64?_ofRatio_eq_none hlarge, if_neg (by omega)]

-- ---------------------------------------------------------------------------
-- Digits
-- ---------------------------------------------------------------------------

theorem toInt?_infinity (negative : Bool) : (infinity negative).toInt? = none := by
  cases negative <;> decide +kernel

/-- Digits beyond the integers denote an integer only where rounding takes them back to the
least one. -/
theorem int64?_ofDecimal {n : Nat} (h : 2 ^ 63 ≤ n) (negative : Bool) :
    (ofDecimal negative n 0).toInt?.bind int64?
      = if negative = true ∧ n ≤ 2 ^ 63 + 2 ^ 10 then some (.ofInt (-2 ^ 63)) else none := by
  have hne : (n == 0) = false := beq_false_of_ne (by omega)
  have hlength : 0 ≤ ((Nat.toDigits 10 n).length : Int) := Int.natCast_nonneg _
  have hsmall : decide (((Nat.toDigits 10 n).length : Int) + 0 < -400) = false :=
    decide_eq_false (by omega)
  rw [ofDecimal]
  simp only [hne, hsmall, Bool.or_self, Bool.false_eq_true, if_false, Int.le_refl, if_true,
    Int.toNat_zero, Nat.pow_zero, Nat.mul_one]
  by_cases hlong : 400 < ((Nat.toDigits 10 n).length : Int) + 0
  · -- More digits than any double has are infinity.
    have hlarge : ¬n ≤ 2 ^ 63 + 2 ^ 10 := fun hle => by
      have hfew : (Nat.toDigits 10 n).length ≤ 400 :=
        (Nat.length_toDigits_le_iff (by decide) (by decide)).mpr
          (Nat.lt_of_le_of_lt hle (by decide +kernel))
      omega
    rw [if_pos hlong, toInt?_infinity, if_neg fun hboth => hlarge hboth.2]
    rfl
  · rw [if_neg hlong, int64?_ofRatio h]

end Double

end MailMerge
