import MailMerge.Proofs.Double.Rounding
import Mathlib.Data.Nat.Log

/-!
# Rounding and order

Rounding keeps the order of numbers. So an integer that is compared with a double after it has been
rounded is put on the wrong side of none: where the outcome is not the order of the two numbers,
the double is the one the integer is rounded to.
-/

namespace MailMerge

namespace Double

-- ---------------------------------------------------------------------------
-- Rounding keeps the order
-- ---------------------------------------------------------------------------

theorem roundQuotient_mono {a b : Nat} (d : Nat) (h : a ≤ b) :
    roundQuotient a d ≤ roundQuotient b d := by
  have ha := roundQuotient_bounds a d
  have hb := roundQuotient_bounds b d
  rcases Nat.lt_or_eq_of_le (Nat.div_le_div_right (c := d) h) with hlt | heq
  · omega
  · -- With the same whole part the larger number leaves the larger rest.
    have hrest : a % d ≤ b % d := by
      have hma := Nat.div_add_mod a d
      have hmb := Nat.div_add_mod b d
      rw [heq] at hma
      omega
    simp only [roundQuotient, heq, Bool.or_eq_true, Bool.and_eq_true, decide_eq_true_eq,
      beq_iff_eq]
    split <;> split <;> omega

theorem patternOf_mono : Monotone patternOf := by
  intro a b h
  have hlog : Nat.log2 a ≤ Nat.log2 b := by
    rw [Nat.log2_eq_log_two, Nat.log2_eq_log_two]
    exact Nat.log_mono_right h
  simp only [patternOf]
  rcases Nat.lt_or_eq_of_le (Nat.sub_le_sub_right hlog 52) with hlt | heq
  · -- A lower exponent leaves the pattern below, however large the significand is.
    have hqa := roundQuotient_bounds a (2 ^ (Nat.log2 a - 52))
    have hqb := roundQuotient_bounds b (2 ^ (Nat.log2 b - 52))
    have hsa := (quotient_bounds a).1
    have hsb := (quotient_bounds b).2 (Nat.lt_of_le_of_lt (Nat.zero_le _) hlt)
    omega
  · rw [heq]
    exact Nat.add_le_add_left (roundQuotient_mono _ h) _

/-- No double stands between a whole number and the double it is rounded to. -/
theorem roundMagnitude_between {m n : Nat} (hm : m ≤ infinityBits) :
    (unitsOf m ≤ n * unitsPerOne → m ≤ roundMagnitude n 1) ∧
      (n * unitsPerOne ≤ unitsOf m → roundMagnitude n 1 ≤ m) := by
  rw [roundMagnitude_one]
  constructor <;> intro h <;> have hmono := patternOf_mono h <;> rw [patternOf_unitsOf] at hmono
  · exact Nat.le_min.mpr ⟨hmono, hm⟩
  · exact (Nat.min_le_left _ _).trans hmono

-- ---------------------------------------------------------------------------
-- Integers among doubles
-- ---------------------------------------------------------------------------

theorem orderKey_ofInt (i : Int) : (ofInt i).orderKey
    = if i < 0 then -(roundMagnitude i.natAbs 1 : Int) else roundMagnitude i.natAbs 1 := by
  rw [orderKey, ofInt, magnitude_ofRatio, isNegative_ofRatio]
  simp only [decide_eq_true_eq]

/-- A double on one side of an integer is on the same side of the double the integer is rounded to,
or is that double. -/
theorem orderKey_between {d : Double} (hd : d.isNaN = false) (i : Int) :
    (d.signedUnits ≤ i * unitsPerOne → d.orderKey ≤ (ofInt i).orderKey) ∧
      (i * unitsPerOne ≤ d.signedUnits → (ofInt i).orderKey ≤ d.orderKey) := by
  have hzero := (roundMagnitude_between (n := i.natAbs) (Nat.zero_le infinityBits)).2
  rw [unitsOf_zero] at hzero
  obtain ⟨hup, hdown⟩ := roundMagnitude_between (n := i.natAbs) (magnitude_le hd)
  rw [natAbs_mul_unitsPerOne, orderKey_ofInt, signedUnits, units_eq, orderKey]
  generalize i.natAbs * unitsPerOne = n at *
  generalize unitsOf d.magnitude = u at *
  generalize roundMagnitude i.natAbs 1 = r at *
  constructor <;> split <;> split <;> omega

/-- So a double and an integer compare as the double and the rounded integer do, unless these two
are one. -/
theorem compare_orderKey_ofInt {d : Double} (hd : d.isNaN = false) {i : Int}
    (h : (ofInt i).orderKey = d.orderKey → i * unitsPerOne = d.signedUnits) :
    compare (ofInt i).orderKey d.orderKey = compare (i * (unitsPerOne : Int)) d.signedUnits := by
  obtain ⟨hup, hdown⟩ := orderKey_between hd i
  rcases lt_trichotomy (i * (unitsPerOne : Int)) d.signedUnits with hlt | heq | hgt
  · rw [compare_lt_iff_lt.mpr hlt, compare_lt_iff_lt]
    exact lt_of_le_of_ne (hdown hlt.le) fun hkey => hlt.ne (h hkey)
  · rw [compare_eq_iff_eq.mpr heq, compare_eq_iff_eq]
    exact le_antisymm (hdown heq.le) (hup heq.ge)
  · rw [compare_gt_iff_gt.mpr hgt, compare_gt_iff_gt]
    exact lt_of_le_of_ne (hup hgt.le) fun hkey => hgt.ne (h hkey.symm).symm

theorem orderKey_ofInt_le {i k : Int} (h : i ≤ k) : (ofInt i).orderKey ≤ (ofInt k).orderKey := by
  have hmono : ∀ {m n : Nat}, m ≤ n → roundMagnitude m 1 ≤ roundMagnitude n 1 := by
    intro m n h
    rw [roundMagnitude_one, roundMagnitude_one]
    exact min_le_min_right _ (patternOf_mono (Nat.mul_le_mul_right _ h))
  simp only [orderKey_ofInt]
  split <;> split
  · have habs := hmono (show k.natAbs ≤ i.natAbs by omega)
    omega
  · omega
  · omega
  · have habs := hmono (show i.natAbs ≤ k.natAbs by omega)
    omega

end Double

end MailMerge
