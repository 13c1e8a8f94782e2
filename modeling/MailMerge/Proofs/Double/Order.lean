import MailMerge.Double.Arithmetic
import MailMerge.Table.Cell
import Mathlib.Algebra.Order.Ring.Int
import Mathlib.Data.Nat.Cast.Order.Ring
import Mathlib.Order.Monotone.Basic

/-!
# The order of doubles

Doubles are put in order by their patterns, cells by their exact values. Both orders are
the same, for the value grows with the pattern.
-/

namespace MailMerge

namespace Double

-- ---------------------------------------------------------------------------
-- Values and patterns
-- ---------------------------------------------------------------------------

/-- The absolute value, in units, that a magnitude stands for. -/
def unitsOf (magnitude : Nat) : Nat :=
  (if magnitude / 2 ^ 52 = 0 then magnitude else 2 ^ 52 + magnitude % 2 ^ 52) *
    2 ^ (magnitude / 2 ^ 52 - 1)

theorem units_eq (d : Double) : d.units = unitsOf d.magnitude := rfl

theorem unitsOf_subnormal {r : Nat} (hr : r < 2 ^ 52) : unitsOf r = r := by
  rw [unitsOf, Nat.div_eq_of_lt hr, if_pos rfl, Nat.zero_sub, Nat.pow_zero, Nat.mul_one]

theorem unitsOf_normal (e : Nat) {r : Nat} (hr : r < 2 ^ 52) :
    unitsOf (2 ^ 52 * (e + 1) + r) = (2 ^ 52 + r) * 2 ^ e := by
  have hdiv : (2 ^ 52 * (e + 1) + r) / 2 ^ 52 = e + 1 := by omega
  have hmod : (2 ^ 52 * (e + 1) + r) % 2 ^ 52 = r := by omega
  rw [unitsOf, hdiv, hmod, if_neg (Nat.succ_ne_zero e), Nat.add_sub_cancel]

/-- The next pattern stands for more, also where the exponent grows. -/
theorem unitsOf_lt_succ (m : Nat) : unitsOf m < unitsOf (m + 1) := by
  obtain ⟨q, r, hr, rfl⟩ : ∃ q r, r < 2 ^ 52 ∧ m = 2 ^ 52 * q + r :=
    ⟨m / 2 ^ 52, m % 2 ^ 52, Nat.mod_lt _ (by decide), (Nat.div_add_mod m (2 ^ 52)).symm⟩
  have hnext : r + 1 < 2 ^ 52 ∨ 2 ^ 52 * q + r + 1 = 2 ^ 52 * (q + 1) + 0 := by omega
  cases q with
  | zero =>
    rcases hnext with hlt | heq
    · rw [Nat.mul_zero, Nat.zero_add, unitsOf_subnormal hr, unitsOf_subnormal hlt]
      exact Nat.lt_succ_self r
    · rw [heq, unitsOf_normal 0 (by decide), Nat.mul_zero, Nat.zero_add, unitsOf_subnormal hr]
      exact hr
  | succ e =>
    have hpow : 0 < 2 ^ e := Nat.two_pow_pos e
    rcases hnext with hlt | heq
    · rw [Nat.add_assoc, unitsOf_normal e hr, unitsOf_normal e hlt]
      exact Nat.mul_lt_mul_of_pos_right (by omega) hpow
    · rw [heq, unitsOf_normal (e + 1) (by decide), unitsOf_normal e hr, Nat.pow_succ 2 e]
      calc (2 ^ 52 + r) * 2 ^ e < (2 ^ 52 * 2) * 2 ^ e :=
            Nat.mul_lt_mul_of_pos_right (by omega) hpow
        _ = (2 ^ 52 + 0) * (2 ^ e * 2) := by rw [Nat.add_zero, Nat.mul_assoc, Nat.mul_comm 2]

theorem unitsOf_strictMono : StrictMono unitsOf := strictMono_nat_of_lt_succ unitsOf_lt_succ

theorem unitsOf_zero : unitsOf 0 = 0 := unitsOf_subnormal (by decide)

/-- The value, in units, at a position on the number line. -/
def unitsAt (key : Int) : Int := if key < 0 then -(unitsOf key.natAbs : Int) else unitsOf key.natAbs

theorem unitsAt_lt_unitsAt {x y : Int} (hxy : x < y) : unitsAt x < unitsAt y := by
  have hlt : ∀ {m n : Nat}, m < n → (unitsOf m : Int) < unitsOf n := fun h =>
    Int.ofNat_lt.mpr (unitsOf_strictMono h)
  unfold unitsAt
  by_cases hx : x < 0
  · by_cases hy : y < 0
    · rw [if_pos hx, if_pos hy]
      exact neg_lt_neg (hlt (by omega))
    · rw [if_pos hx, if_neg hy]
      have hpos : 0 < unitsOf x.natAbs := by
        rw [← unitsOf_zero]
        exact unitsOf_strictMono (by omega)
      omega
  · rw [if_neg hx, if_neg (by omega)]
    exact hlt (by omega)

theorem compare_unitsAt (x y : Int) : compare (unitsAt x) (unitsAt y) = compare x y := by
  have hmono : StrictMono unitsAt := fun _ _ => unitsAt_lt_unitsAt
  rw [← cmp_eq_compare, ← cmp_eq_compare]
  exact hmono.cmp_map_eq x y

theorem signedUnits_eq (d : Double) : d.signedUnits = unitsAt d.orderKey := by
  rw [signedUnits, orderKey, unitsAt, units_eq]
  cases d.isNegative with
  | false => simp
  | true =>
    by_cases h : d.magnitude = 0
    · simp [h, unitsOf_zero]
    · have hneg : -(d.magnitude : Int) < 0 := by omega
      simp only [if_true, if_pos hneg, Int.natAbs_neg, Int.natAbs_natCast]

/-- Doubles stand in the order of their values. -/
theorem compare_signedUnits (a b : Double) :
    compare a.signedUnits b.signedUnits = compare a.orderKey b.orderKey := by
  rw [signedUnits_eq, signedUnits_eq, compare_unitsAt]

-- ---------------------------------------------------------------------------
-- Whole numbers
-- ---------------------------------------------------------------------------

theorem signedUnits_of_toInt? {d : Double} {i : Int} (h : d.toInt? = some i) :
    d.signedUnits = i * unitsPerOne := by
  rw [toInt?] at h
  split at h
  · next hwhole =>
    obtain ⟨-, hmod⟩ := Bool.and_eq_true_iff.mp hwhole
    have hunits : d.units = d.units / unitsPerOne * unitsPerOne :=
      (Nat.div_mul_cancel (Nat.dvd_of_mod_eq_zero (beq_iff_eq.mp hmod))).symm
    have hcast : (d.units : Int) = (d.units / unitsPerOne : Nat) * (unitsPerOne : Nat) := by
      exact_mod_cast hunits
    cases h
    rw [signedUnits]
    cases d.isNegative with
    | false => exact hcast
    | true => exact (congrArg Neg.neg hcast).trans (Int.neg_mul _ _).symm
  · cases h

theorem natAbs_signedUnits (d : Double) : d.signedUnits.natAbs = d.units := by
  rw [signedUnits]
  split
  · rw [Int.natAbs_neg, Int.natAbs_natCast]
  · rw [Int.natAbs_natCast]

theorem units_of_toInt? {d : Double} {i : Int} (h : d.toInt? = some i) :
    d.units = i.natAbs * unitsPerOne := by
  rw [← natAbs_signedUnits, signedUnits_of_toInt? h, Int.natAbs_mul, Int.natAbs_natCast]

theorem unitsPerOne_pos : 0 < unitsPerOne := by
  unfold unitsPerOne
  apply Nat.two_pow_pos

theorem magnitude_ofSign (negative : Bool) {m : Nat} (h : m < 2 ^ 63) :
    (ofSign negative m).magnitude = m := by
  have hbits : (if negative then 2 ^ 63 + m else m) < 2 ^ 64 := by
    split <;> omega
  rw [magnitude, ofSign, UInt64.toNat_ofNat', Nat.mod_eq_of_lt hbits]
  split <;> omega

/-- Rounding never leaves the numbers: what is too large becomes infinite. -/
theorem roundMagnitude_le (num den : Nat) : roundMagnitude num den ≤ infinityBits :=
  Nat.min_le_right _ _

theorem roundMagnitude_lt (num den : Nat) : roundMagnitude num den < 2 ^ 63 :=
  Nat.lt_of_le_of_lt (roundMagnitude_le num den) (by decide)

theorem magnitude_ofRatio (negative : Bool) (num den : Nat) :
    (ofRatio negative num den).magnitude = roundMagnitude num den :=
  magnitude_ofSign negative (roundMagnitude_lt num den)

theorem magnitude_le {d : Double} (hd : d.isNaN = false) : d.magnitude ≤ infinityBits :=
  Nat.not_lt.mp (of_decide_eq_false hd)

theorem isNaN_ofInt (i : Int) : (ofInt i).isNaN = false := by
  rw [isNaN, ofInt, magnitude_ofRatio]
  exact decide_eq_false (Nat.not_lt.mpr (roundMagnitude_le _ _))

end Double

-- ---------------------------------------------------------------------------
-- Cells
-- ---------------------------------------------------------------------------

namespace Cell

theorem units_real (d : Double) : (Cell.real d).units = d.signedUnits := rfl

/-- A double is stored as itself or as the whole number it is. -/
theorem ofDouble_cases (d : Double) :
    ofDouble d = .real d ∨ ∃ i : Int64, d.toInt? = some i.toInt ∧ ofDouble d = .int i := by
  rw [ofDouble]
  split
  · next i hi =>
    split
    · next hrange =>
      have hint : (Int64.ofInt i).toInt = i := by
        rw [Int64.toInt_ofInt_of_le (by omega) (by omega)]
      exact .inr ⟨_, by rw [hi, hint], rfl⟩
    · exact .inl rfl
  · exact .inl rfl

/-- A number keeps its value when it is stored as a whole number. -/
theorem units_ofDouble (d : Double) : (ofDouble d).units = d.signedUnits := by
  rcases ofDouble_cases d with h | ⟨i, hi, h⟩
  · rw [h, units_real]
  · rw [h, units, Double.signedUnits_of_toInt? hi]

theorem order_real_ofDouble (a b : Double) :
    (Cell.real a).order (ofDouble b) = compare a.orderKey b.orderKey := by
  rw [← Double.compare_signedUnits, ← units_ofDouble b, ← units_real a]
  rcases ofDouble_cases b with h | ⟨i, -, h⟩ <;> rw [h] <;> rfl

theorem order_int_int (i j : Int64) : (Cell.int i).order (.int j) = compare i.toInt j.toInt := by
  have hmono : StrictMono fun n : Int => n * Double.unitsPerOne :=
    fun m n h => Int.mul_lt_mul_of_pos_right h (Int.natCast_pos.mpr Double.unitsPerOne_pos)
  change compare (i.toInt * Double.unitsPerOne) (j.toInt * Double.unitsPerOne) = _
  rw [← cmp_eq_compare, ← cmp_eq_compare]
  exact hmono.cmp_map_eq _ _

end Cell

end MailMerge
