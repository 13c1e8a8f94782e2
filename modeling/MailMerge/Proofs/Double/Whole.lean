import MailMerge.Proofs.Double.Order

/-!
# Whole numbers as doubles

A whole number that a double holds is rounded to no other double: where the value is a multiple
of the last place nothing is rounded. Only the sign of zero is lost.
-/

namespace MailMerge

namespace Double

theorem roundQuotient_mul (q : Nat) {d : Nat} (hd : 0 < d) : roundQuotient (q * d) d = q := by
  have hzero : (d < 2 * 0 || (2 * 0 == d && q % 2 == 1)) = false := by
    have hne : ¬0 = d := Nat.ne_of_lt hd
    simp [hne]
  simp only [roundQuotient, Nat.mul_div_cancel q hd, Nat.mul_mod_left, hzero]
  rfl

/-- The pattern that a number of units is rounded to, if there is no largest one. -/
def patternOf (n : Nat) : Nat :=
  (Nat.log2 n - 52) * 2 ^ 52 + roundQuotient n (2 ^ (Nat.log2 n - 52))

theorem roundMagnitude_one (n : Nat) :
    roundMagnitude n 1 = min (patternOf (n * unitsPerOne)) infinityBits := by
  rw [roundMagnitude, Nat.div_one, Nat.one_mul, patternOf]

/-- What a pattern stands for is rounded to the pattern. -/
theorem patternOf_unitsOf (m : Nat) : patternOf (unitsOf m) = m := by
  obtain ⟨q, r, hr, rfl⟩ : ∃ q r, r < 2 ^ 52 ∧ m = 2 ^ 52 * q + r :=
    ⟨m / 2 ^ 52, m % 2 ^ 52, Nat.mod_lt _ (by decide), (Nat.div_add_mod m (2 ^ 52)).symm⟩
  rw [patternOf]
  -- A subnormal pattern is its number of units; of a normal one the logarithm tells the exponent.
  cases q with
  | zero =>
    rw [Nat.mul_zero, Nat.zero_add, unitsOf_subnormal hr]
    have hlog : Nat.log2 r - 52 = 0 := by
      by_cases hzero : r = 0
      · rw [hzero]
        rfl
      · have hlt := (Nat.log2_lt hzero).mpr hr
        omega
    rw [hlog, Nat.zero_mul, Nat.zero_add]
    have hone := roundQuotient_mul r (d := 1) Nat.one_pos
    rwa [Nat.mul_one] at hone
  | succ e =>
    rw [unitsOf_normal e hr]
    have hlog : Nat.log2 ((2 ^ 52 + r) * 2 ^ e) = 52 + e := by
      have hpow : 0 < 2 ^ e := Nat.two_pow_pos e
      have hne : (2 ^ 52 + r) * 2 ^ e ≠ 0 := Nat.mul_ne_zero (by omega) (by omega)
      have hupper : 2 ^ (52 + e + 1) = 2 ^ 53 * 2 ^ e := by rw [Nat.add_right_comm, Nat.pow_add]
      rw [Nat.log2_eq_iff hne, hupper, Nat.pow_add]
      exact ⟨Nat.mul_le_mul_right _ (by omega), Nat.mul_lt_mul_of_pos_right (by omega) hpow⟩
    rw [hlog, Nat.add_sub_cancel_left, roundQuotient_mul _ (Nat.two_pow_pos e)]
    omega

theorem roundMagnitude_of_units {num m : Nat} (hm : m ≤ infinityBits)
    (h : num * unitsPerOne = unitsOf m) : roundMagnitude num 1 = m := by
  rw [roundMagnitude_one, h, patternOf_unitsOf]
  exact Nat.min_eq_left hm

theorem ofSign_magnitude (d : Double) : ofSign d.isNegative d.magnitude = d := by
  have hlt : d.bits.toNat < 2 ^ 64 := d.bits.toNat_lt
  have hbits : (if d.isNegative then 2 ^ 63 + d.magnitude else d.magnitude) = d.bits.toNat := by
    rw [isNegative, magnitude]
    by_cases h : 2 ^ 63 ≤ d.bits.toNat
    · rw [decide_eq_true h, if_pos rfl]
      omega
    · rw [decide_eq_false h, if_neg Bool.false_ne_true]
      omega
  rw [ofSign, hbits, UInt64.ofNat_toNat]

/-- A whole number keeps its double, unless that is the zero with a sign. -/
theorem ofInt_of_toInt? {d : Double} {i : Int} (h : d.toInt? = some i)
    (hd : d ≠ ofSign true 0) : ofInt i = d := by
  have hfinite : d.magnitude ≤ infinityBits := by
    rw [toInt?] at h
    split at h
    · next hwhole =>
      exact Nat.le_of_lt (of_decide_eq_true (Bool.and_eq_true_iff.mp hwhole).1)
    · cases h
  have hsigned := signedUnits_of_toInt? h
  have hunits : i.natAbs * unitsPerOne = unitsOf d.magnitude := (units_of_toInt? h).symm
  have hnegative : decide (i < 0) = d.isNegative := by
    have hone : 0 < (unitsPerOne : Int) := Int.natCast_pos.mpr unitsPerOne_pos
    rw [signedUnits] at hsigned
    cases hsign : d.isNegative with
    | false =>
      rw [hsign, if_neg Bool.false_ne_true] at hsigned
      have hnonneg : 0 ≤ i * (unitsPerOne : Int) := hsigned ▸ Int.natCast_nonneg _
      exact decide_eq_false (Int.not_lt.mpr (Int.nonneg_of_mul_nonneg_left hnonneg hone))
    | true =>
      -- The zero with a sign is left out, so there are units that the sign makes negative.
      have hmagnitude : d.magnitude ≠ 0 := by
        intro hzero
        apply hd
        rw [← ofSign_magnitude d, hsign, hzero]
      have hpos : 0 < d.units := by
        rw [units_eq, ← unitsOf_zero]
        exact unitsOf_strictMono (Nat.pos_of_ne_zero hmagnitude)
      rw [hsign, if_pos rfl] at hsigned
      have hneg : i * (unitsPerOne : Int) < 0 := by omega
      apply decide_eq_true
      by_contra hnonneg
      have hmul := Int.mul_nonneg (Int.not_lt.mp hnonneg) (Int.le_of_lt hone)
      exact absurd hneg (Int.not_lt.mpr hmul)
  rw [ofInt, ofRatio, roundMagnitude_of_units hfinite hunits, hnegative, ofSign_magnitude]

end Double

end MailMerge
