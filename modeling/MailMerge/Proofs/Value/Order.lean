import MailMerge.Proofs.Double.Nearest
import Mathlib.Data.EReal.Basic

/-!
# Integers compared with doubles

Integers and doubles stand for numbers of the extended number line. An integer is rounded before it
is compared with a double, so the two are put in the order of their numbers unless rounding takes
the integer to that very double and is not exact. Then they compare as equal, and equality carries
from one integer over such a double to another integer.
-/

namespace MailMerge

-- ---------------------------------------------------------------------------
-- Numbers
-- ---------------------------------------------------------------------------

namespace Double

/-- The number a double stands for, if it stands for one. -/
noncomputable def toEReal (d : Double) : EReal :=
  if d.isInfinite then (if d.isNegative then ⊥ else ⊤)
  else ((d.signedUnits / unitsPerOne : ℝ) : EReal)

/-- Where the numbers of doubles end, in units. -/
def endUnits : Nat := unitsOf infinityBits

/-- The number that is so many units, up to the two infinite ones. -/
noncomputable def ofUnits (n : Int) : EReal :=
  if n ≤ -endUnits then ⊥ else if endUnits ≤ n then ⊤ else ((n / unitsPerOne : ℝ) : EReal)

section

variable {m n : Int} (hm : m.natAbs ≤ endUnits) (hn : n.natAbs ≤ endUnits)
include hm hn

theorem ofUnits_lt_ofUnits (h : m < n) : ofUnits m < ofUnits n := by
  have hone : (0 : ℝ) < unitsPerOne := Nat.cast_pos.mpr unitsPerOne_pos
  have hdiv : (m : ℝ) / unitsPerOne < n / unitsPerOne :=
    div_lt_div_of_pos_right (Int.cast_lt.mpr h) hone
  have hm' : ¬(endUnits : Int) ≤ m := by omega
  have hn' : ¬n ≤ -(endUnits : Int) := by omega
  rw [ofUnits, ofUnits, if_neg hm', if_neg hn']
  split <;> split
  · exact bot_lt_top
  · exact EReal.bot_lt_coe _
  · exact EReal.coe_lt_top _
  · exact EReal.coe_lt_coe_iff.mpr hdiv

theorem compare_ofUnits : compare (ofUnits m) (ofUnits n) = compare m n := by
  have hmono : StrictMonoOn ofUnits {k | k.natAbs ≤ endUnits} := fun _ hi _ hk =>
    ofUnits_lt_ofUnits hi hk
  rw [← cmp_eq_compare, ← cmp_eq_compare]
  exact hmono.cmp_map_eq hm hn

theorem ofUnits_inj : ofUnits m = ofUnits n ↔ m = n := by
  rw [← compare_eq_iff_eq, compare_ofUnits hm hn, compare_eq_iff_eq]

end

theorem toEReal_eq {d : Double} (hd : d.isNaN = false) :
    d.signedUnits.natAbs ≤ endUnits ∧ d.toEReal = ofUnits d.signedUnits := by
  have hm := magnitude_le hd
  rw [natAbs_signedUnits, units_eq]
  refine ⟨unitsOf_strictMono.monotone hm, ?_⟩
  rw [toEReal, ofUnits]
  by_cases hinf : d.magnitude = infinityBits
  · have hpos : 0 < endUnits := (Nat.zero_le _).trans_lt le_unitsOf_infinity
    have hunits : d.units = endUnits := congrArg unitsOf hinf
    rw [isInfinite, if_pos (beq_iff_eq.mpr hinf), signedUnits, hunits]
    cases d.isNegative with
    | true => rw [if_pos rfl, if_pos rfl, if_pos le_rfl]
    | false =>
      rw [if_neg Bool.false_ne_true, if_neg Bool.false_ne_true, if_neg (by omega), if_pos le_rfl]
  · have hlt : d.units < endUnits := unitsOf_strictMono (Nat.lt_of_le_of_ne hm hinf)
    have habs := natAbs_signedUnits d
    rw [isInfinite, if_neg (mt beq_iff_eq.mp hinf), if_neg (by omega), if_neg (by omega)]

/-- Only zero is written in two ways, and the two are not told apart. -/
theorem toEReal_inj {d e : Double} (hd : d.isNaN = false) (he : e.isNaN = false) :
    d.toEReal = e.toEReal ↔ d.orderKey = e.orderKey := by
  obtain ⟨hend, hvalue⟩ := toEReal_eq hd
  obtain ⟨hend', hvalue'⟩ := toEReal_eq he
  rw [hvalue, hvalue', ofUnits_inj hend hend', ← compare_eq_iff_eq, compare_signedUnits,
    compare_eq_iff_eq]

theorem ofUnits_int (i : Int64) :
    (i.toInt * (unitsPerOne : Int)).natAbs ≤ endUnits ∧
      ((i.toInt : ℝ) : EReal) = ofUnits (i.toInt * unitsPerOne) := by
  have hlow := i.le_toInt
  have hhigh := i.toInt_lt
  have hend : (i.toInt * (unitsPerOne : Int)).natAbs < endUnits := by
    rw [Int.natAbs_mul, Int.natAbs_natCast]
    exact (Nat.mul_le_mul_right _ (by omega)).trans_lt le_unitsOf_infinity
  have hone : (unitsPerOne : ℝ) ≠ 0 := Nat.cast_ne_zero.mpr unitsPerOne_pos.ne'
  refine ⟨hend.le, ?_⟩
  rw [ofUnits, if_neg (by omega), if_neg (by omega), Int.cast_mul, Int.cast_natCast,
    mul_div_cancel_right₀ _ hone]

end Double

namespace Value

/-- The position at which a number is compared with a double. -/
def place : Value → Int
  | .int i => (Double.ofInt i.toInt).orderKey
  | .double d => d.orderKey
  | _ => 0

/-- The number an integer or a double stands for. -/
noncomputable def toEReal? : Value → Option EReal
  | .int i => some ((i.toInt : ℝ) : EReal)
  | .double d => if d.isNaN then none else some d.toEReal
  | _ => none

/-- A double that an integer is rounded to, together with the integer if it is another number. -/
def Blurred : Value → Value → Prop
  | .int i, .double d | .double d, .int i =>
    (Double.ofInt i.toInt).toEReal = d.toEReal ∧ d.toEReal ≠ ((i.toInt : ℝ) : EReal)
  | _, _ => False

/-- Two integers with a double between them that both are rounded to. -/
def Bridged : Value → Value → Value → Prop
  | .int i, .double d, .int k => i ≠ k ∧
    (Double.ofInt i.toInt).toEReal = d.toEReal ∧ (Double.ofInt k.toInt).toEReal = d.toEReal
  | _, _, _ => False

theorem toEReal?_eq_some {v : Value} {x : EReal} (h : v.toEReal? = some x) :
    (∃ i, v = .int i ∧ x = ((i.toInt : ℝ) : EReal)) ∨
      ∃ d, v = .double d ∧ d.isNaN = false ∧ x = d.toEReal := by
  cases v with
  | int i => exact .inl ⟨i, rfl, (Option.some.inj h).symm⟩
  | double d =>
    rw [toEReal?] at h
    split at h
    · cases h
    · next hd => exact .inr ⟨d, rfl, eq_false_of_ne_true hd, (Option.some.inj h).symm⟩
  | null | bool | text | time => cases h

theorem ofValue_double {d : Double} (hd : d.isNaN = false) :
    Cell.ofValue (.double d) = .real d := by
  rw [Cell.ofValue, hd]
  rfl

/-- The store puts numbers in their order. -/
theorem order_ofValue {a b : Value} {x y : EReal} (ha : a.toEReal? = some x)
    (hb : b.toEReal? = some y) : (Cell.ofValue a).order (Cell.ofValue b) = compare x y := by
  have hunits : ∀ {v : Value} {z : EReal}, v.toEReal? = some z →
      (Cell.ofValue v).units.natAbs ≤ Double.endUnits ∧ z = Double.ofUnits (Cell.ofValue v).units ∧
        ((∃ i, Cell.ofValue v = .int i) ∨ ∃ d, Cell.ofValue v = .real d) := by
    intro v z h
    obtain ⟨i, rfl, rfl⟩ | ⟨d, rfl, hd, rfl⟩ := toEReal?_eq_some h
    · obtain ⟨hend, heq⟩ := Double.ofUnits_int i
      exact ⟨hend, heq, .inl ⟨i, rfl⟩⟩
    · obtain ⟨hend, heq⟩ := Double.toEReal_eq hd
      rw [ofValue_double hd]
      exact ⟨hend, heq, .inr ⟨d, rfl⟩⟩
  obtain ⟨hendA, hx, hkindA⟩ := hunits ha
  obtain ⟨hendB, hy, hkindB⟩ := hunits hb
  rw [hx, hy, Double.compare_ofUnits hendA hendB]
  obtain ⟨i, hi⟩ | ⟨d, hd⟩ := hkindA <;> obtain ⟨k, hk⟩ | ⟨e, he⟩ := hkindB <;> simp_all [Cell.order]

-- ---------------------------------------------------------------------------
-- Comparison
-- ---------------------------------------------------------------------------

variable {d e : Double}

theorem compare?_double_double (hd : d.isNaN = false) (he : e.isNaN = false) :
    (Value.double d).compare? (.double e) = some (compare d.orderKey e.orderKey) := by
  rw [compare?, Double.compare?, hd, he]
  rfl

theorem compare?_int_double (i : Int64) (hd : d.isNaN = false) :
    (Value.int i).compare? (.double d)
      = some (compare (Double.ofInt i.toInt).orderKey d.orderKey) := by
  rw [compare?, Double.compare?, Double.isNaN_ofInt, hd]
  rfl

theorem compare?_double_int (hd : d.isNaN = false) (i : Int64) :
    (Value.double d).compare? (.int i)
      = some (compare d.orderKey (Double.ofInt i.toInt).orderKey) := by
  rw [compare?, Double.compare?, Double.isNaN_ofInt, hd]
  rfl

theorem blurred_int_double_iff (hd : d.isNaN = false) {i : Int64} :
    Blurred (.int i) (.double d) ↔ (Double.ofInt i.toInt).orderKey = d.orderKey ∧
      i.toInt * Double.unitsPerOne ≠ d.signedUnits := by
  obtain ⟨hend, hvalue⟩ := Double.toEReal_eq hd
  obtain ⟨hendI, hvalueI⟩ := Double.ofUnits_int i
  rw [Blurred, Double.toEReal_inj (Double.isNaN_ofInt _) hd, hvalue, hvalueI,
    ne_eq, ne_eq, Double.ofUnits_inj hend hendI, eq_comm (b := d.signedUnits)]

theorem Blurred.symm {a b : Value} (h : Blurred a b) : Blurred b a := by
  cases a <;> cases b <;> exact h

section Numbers

variable {a b c : Value} {x y z : EReal}

theorem compare?_swap (ha : a.toEReal? = some x) (hb : b.toEReal? = some y) :
    b.compare? a = (a.compare? b).map Ordering.swap := by
  obtain ⟨i, rfl, -⟩ | ⟨d, rfl, hd, -⟩ := toEReal?_eq_some ha <;>
    obtain ⟨k, rfl, -⟩ | ⟨e, rfl, he, -⟩ := toEReal?_eq_some hb
  · exact congrArg some Std.OrientedOrd.eq_swap
  · rw [compare?_int_double i he, compare?_double_int he i]
    exact congrArg some Std.OrientedOrd.eq_swap
  · rw [compare?_int_double k hd, compare?_double_int hd k]
    exact congrArg some Std.OrientedOrd.eq_swap
  · rw [compare?_double_double hd he, compare?_double_double he hd]
    exact congrArg some Std.OrientedOrd.eq_swap

/-- An integer that a double does not blur is put in its place among the doubles. -/
theorem compare?_of_not_blurred (ha : a.toEReal? = some x) (hb : b.toEReal? = some y)
    (h : ¬Blurred a b) : a.compare? b = some (compare x y) := by
  have hmixed : ∀ {i : Int64} {d : Double} {x y : EReal}, (Value.int i).toEReal? = some x →
      d.isNaN = false → (Value.double d).toEReal? = some y → ¬Blurred (.int i) (.double d) →
        (Value.int i).compare? (.double d) = some (compare x y) := by
    intro i d x y hi hd hy h
    rw [blurred_int_double_iff hd, not_and, not_not] at h
    rw [compare?_int_double i hd, Double.compare_orderKey_ofInt hd h, ← order_ofValue hi hy,
      ofValue_double hd]
    rfl
  obtain ⟨i, rfl, -⟩ | ⟨d, rfl, hd, -⟩ := toEReal?_eq_some ha <;>
    obtain ⟨k, rfl, -⟩ | ⟨e, rfl, he, -⟩ := toEReal?_eq_some hb
  · rw [← order_ofValue ha hb]
    exact congrArg some (Cell.order_int_int i k).symm
  · exact hmixed ha he hb h
  · rw [compare?_swap hb ha, hmixed hb hd ha (mt Blurred.symm h)]
    exact congrArg some Std.OrientedOrd.eq_swap.symm
  · rw [compare?_double_double hd he, ← order_ofValue ha hb, ofValue_double hd, ofValue_double he,
      ← Double.compare_signedUnits]
    rfl

theorem compare?_of_blurred (ha : a.toEReal? = some x) (hb : b.toEReal? = some y)
    (h : Blurred a b) : a.compare? b = some .eq ∧ x ≠ y := by
  obtain ⟨i, rfl, rfl⟩ | ⟨d, rfl, hd, rfl⟩ := toEReal?_eq_some ha <;>
    obtain ⟨k, rfl, rfl⟩ | ⟨e, rfl, he, rfl⟩ := toEReal?_eq_some hb
  · cases h
  · obtain ⟨hkey, hne⟩ := (blurred_int_double_iff he).mp h
    rw [compare?_int_double i he, compare_eq_iff_eq.mpr hkey]
    exact ⟨rfl, h.2.symm⟩
  · obtain ⟨hkey, hne⟩ := (blurred_int_double_iff hd).mp h.symm
    rw [compare?_double_int hd k, compare_eq_iff_eq.mpr hkey.symm]
    exact ⟨rfl, h.2⟩
  · cases h

-- ---------------------------------------------------------------------------
-- Transitivity
-- ---------------------------------------------------------------------------

/-- Numbers are put in the order of their places, and only integers at one place are told apart. -/
theorem compare?_eq_lt_iff (ha : a.toEReal? = some x) (hb : b.toEReal? = some y) :
    a.compare? b = some .lt ↔
      a.place < b.place ∨ ∃ i k : Int64, a = .int i ∧ b = .int k ∧ i.toInt < k.toInt := by
  obtain ⟨i, rfl, -⟩ | ⟨d, rfl, hd, -⟩ := toEReal?_eq_some ha <;>
    obtain ⟨k, rfl, -⟩ | ⟨e, rfl, he, -⟩ := toEReal?_eq_some hb
  · have hmono : k.toInt ≤ i.toInt → (Value.int k).place ≤ (Value.int i).place := fun h =>
      Double.orderKey_ofInt_le h
    have hints : (∃ i' k' : Int64, Value.int i = .int i' ∧ Value.int k = .int k' ∧
        i'.toInt < k'.toInt) ↔ i.toInt < k.toInt := by simp
    rw [compare?, Option.some.injEq, Int.compare_eq_lt, hints]
    omega
  · simp [compare?_int_double i he, place, Int.compare_eq_lt]
  · simp [compare?_double_int hd k, place, Int.compare_eq_lt]
  · simp [compare?_double_double hd he, place, Int.compare_eq_lt]

theorem compare?_eq_gt_iff (ha : a.toEReal? = some x) (hb : b.toEReal? = some y) :
    a.compare? b = some .gt ↔ b.compare? a = some .lt := by
  rw [compare?_swap ha hb]
  cases a.compare? b with
  | none => simp
  | some o => cases o <;> simp

theorem alike_iff (ha : a.toEReal? = some x) (hb : b.toEReal? = some y) :
    a.alike b = true ↔ a.compare? b ≠ some .lt ∧ b.compare? a ≠ some .lt := by
  have hsome : ∃ o, a.compare? b = some o := by
    by_cases h : Blurred a b
    · exact ⟨_, (compare?_of_blurred ha hb h).1⟩
    · exact ⟨_, compare?_of_not_blurred ha hb h⟩
  obtain ⟨o, ho⟩ := hsome
  rw [alike, compare?_swap ha hb, ho]
  cases o <;> simp

theorem compare?_lt_trans (ha : a.toEReal? = some x) (hb : b.toEReal? = some y)
    (hc : c.toEReal? = some z) (h : a.compare? b = some .lt) (h' : b.compare? c = some .lt) :
    a.compare? c = some .lt := by
  have hmono : ∀ i k : Int64, i.toInt < k.toInt → (Value.int i).place ≤ (Value.int k).place :=
    fun i k h => Double.orderKey_ofInt_le h.le
  rw [compare?_eq_lt_iff ha hb] at h
  rw [compare?_eq_lt_iff hb hc] at h'
  rw [compare?_eq_lt_iff ha hc]
  rcases h with h | ⟨i, k, rfl, rfl, h⟩ <;> rcases h' with h' | ⟨k', l, hk, rfl, h'⟩
  · exact .inl (h.trans h')
  · exact .inl (h.trans_le (hk ▸ hmono k' l h'))
  · exact .inl ((hmono i k h).trans_lt h')
  · cases hk
    exact .inr ⟨i, l, rfl, rfl, h.trans h'⟩

/-- Going on from what is not less to what is not less leads down only between two integers at one
place, over a double. -/
theorem bridged_of_lt (ha : a.toEReal? = some x) (hb : b.toEReal? = some y)
    (hc : c.toEReal? = some z) (h : b.compare? a ≠ some .lt) (h' : c.compare? b ≠ some .lt)
    (hlt : c.compare? a = some .lt) : Bridged a b c := by
  rw [Ne, compare?_eq_lt_iff hb ha, not_or, not_lt] at h
  rw [Ne, compare?_eq_lt_iff hc hb, not_or, not_lt] at h'
  rw [compare?_eq_lt_iff hc ha] at hlt
  rcases hlt with hlt | ⟨k, i, rfl, rfl, hlt⟩
  · exact absurd hlt (not_lt.mpr (h.1.trans h'.1))
  · have hplace : (Value.int k).place ≤ (Value.int i).place := Double.orderKey_ofInt_le hlt.le
    obtain ⟨j, rfl, -⟩ | ⟨d, rfl, hd, -⟩ := toEReal?_eq_some hb
    · have hij : ¬j.toInt < i.toInt := fun hlt => h.2 ⟨j, i, rfl, rfl, hlt⟩
      have hjk : ¬k.toInt < j.toInt := fun hlt => h'.2 ⟨k, j, rfl, rfl, hlt⟩
      omega
    · refine ⟨?_, ?_, ?_⟩
      · rintro rfl
        exact hlt.false
      · rw [Double.toEReal_inj (Double.isNaN_ofInt _) hd]
        exact le_antisymm h.1 (h'.1.trans hplace)
      · rw [Double.toEReal_inj (Double.isNaN_ofInt _) hd]
        exact le_antisymm (hplace.trans h.1) h'.1

theorem alike_of_bridged (hb : b.toEReal? = some y) (h : Bridged a b c) :
    a.alike b = true ∧ b.alike c = true ∧ a.alike c = false := by
  obtain ⟨j, rfl, -⟩ | ⟨d, rfl, hd, -⟩ := toEReal?_eq_some hb
  · cases a <;> cases h
  cases a with
  | int i =>
    cases c with
    | int k =>
      obtain ⟨hne, hi, hk⟩ := h
      rw [Double.toEReal_inj (Double.isNaN_ofInt _) hd] at hi hk
      rw [alike, alike, alike, compare?_int_double i hd, compare?_double_int hd k, hi, hk, compare?]
      have hints : compare i.toInt k.toInt ≠ .eq := by
        rwa [Ne, Int.compare_eq_eq, Int64.toInt_inj]
      exact ⟨by simp, by simp, by simpa using hints⟩
    | null | bool | double | text | time => cases h
  | null | bool | double | text | time => cases h

theorem Bridged.symm (h : Bridged a b c) : Bridged c b a := by
  unfold Bridged at h
  split at h
  · exact ⟨h.1.symm, h.2.2, h.2.1⟩
  · cases h

/-- Only a double stands between, so the two at the ends are compared as they are. -/
theorem Bridged.not_blurred (h : Bridged a b c) : ¬Blurred c a := by
  unfold Bridged at h
  split at h
  · exact id
  · cases h

theorem Bridged.blurred (h : Bridged a b c) : Blurred a b ∨ Blurred b c := by
  unfold Bridged at h
  split at h
  · next i d k =>
    obtain ⟨hne, hi, hk⟩ := h
    by_cases hvalue : d.toEReal = ((i.toInt : ℝ) : EReal)
    · refine .inr ⟨hk, fun hk' => hne (Int64.toInt_inj.mp ?_)⟩
      exact_mod_cast hvalue.symm.trans hk'
    · exact .inl ⟨hi, hvalue⟩
  · cases h

/-- An integer of up to 53 binary digits is a double, so nothing blurs it. -/
theorem not_blurred_of_small {i : Int64} (h : i.toInt.natAbs ≤ 2 ^ 53) (v : Value) :
    ¬Blurred (.int i) v := by
  intro hblurred
  cases v with
  | double d =>
    have hunits : (Double.ofInt i.toInt).signedUnits = i.toInt * Double.unitsPerOne := by
      rw [Double.signedUnits_ofInt, Double.unitsOf_roundMagnitude_small h,
        Double.natAbs_mul_unitsPerOne]
    have hvalue : (Double.ofInt i.toInt).toEReal = ((i.toInt : ℝ) : EReal) := by
      rw [(Double.toEReal_eq (Double.isNaN_ofInt _)).2, hunits, ← (Double.ofUnits_int i).2]
    exact hblurred.2 (hblurred.1.symm.trans hvalue)
  | null | bool | int | text | time => cases hblurred

-- ---------------------------------------------------------------------------
-- All numbers
-- ---------------------------------------------------------------------------

/-- Numbers are put in their order unless they are blurred, and the two sides may change places.
What is less stays less over several steps. What is not greater, or is alike, stays so unless the
steps lead over a double from one integer to another. -/
theorem compares_unless_blurred (ha : a.toEReal? = some x) (hb : b.toEReal? = some y)
    (hc : c.toEReal? = some z) :
    (¬Blurred a b → a.compare? b = some (compare x y)) ∧
    (Blurred a b → a.compare? b = some .eq ∧ x ≠ y) ∧
    (∀ i : Int64, i.toInt.natAbs ≤ 2 ^ 53 → ¬Blurred (.int i) b ∧ ¬Blurred b (.int i)) ∧
    b.compare? a = (a.compare? b).map Ordering.swap ∧
    b.alike a = a.alike b ∧
    (a.compare? b = some .lt → b.compare? c = some .lt → a.compare? c = some .lt) ∧
    (a.compare? b ≠ some .gt ∧ b.compare? c ≠ some .gt ∧ a.compare? c = some .gt ↔
      Bridged a b c ∧ z < x) ∧
    (a.alike b = true ∧ b.alike c = true ∧ a.alike c = false ↔ Bridged a b c) ∧
    (Bridged a b c → Blurred a b ∨ Blurred b c) := by
  refine ⟨compare?_of_not_blurred ha hb, compare?_of_blurred ha hb,
    fun i hi => ⟨not_blurred_of_small hi b, mt Blurred.symm (not_blurred_of_small hi b)⟩,
    compare?_swap ha hb, ?_, compare?_lt_trans ha hb hc, ?_, ?_, Bridged.blurred⟩
  · rw [Bool.eq_iff_iff, alike_iff ha hb, alike_iff hb ha, and_comm]
  · rw [Ne, Ne, compare?_eq_gt_iff ha hb, compare?_eq_gt_iff hb hc, compare?_eq_gt_iff ha hc]
    have hends (h : Bridged a b c) : c.compare? a = some .lt ↔ z < x := by
      rw [compare?_of_not_blurred hc ha h.not_blurred, Option.some.injEq, compare_lt_iff_lt]
    constructor
    · rintro ⟨hab, hbc, hlt⟩
      have hbridged := bridged_of_lt ha hb hc hab hbc hlt
      exact ⟨hbridged, (hends hbridged).mp hlt⟩
    · rintro ⟨hbridged, hlt⟩
      obtain ⟨hab, hbc, -⟩ := alike_of_bridged hb hbridged
      exact ⟨((alike_iff ha hb).mp hab).2, ((alike_iff hb hc).mp hbc).2, (hends hbridged).mpr hlt⟩
  · constructor
    · rintro ⟨hab, hbc, hac⟩
      obtain ⟨hlt, hgt⟩ := (alike_iff ha hb).mp hab
      obtain ⟨hlt', hgt'⟩ := (alike_iff hb hc).mp hbc
      rw [Bool.eq_false_iff, Ne, alike_iff ha hc, not_and_or, not_not, not_not] at hac
      rcases hac with hac | hca
      · exact (bridged_of_lt hc hb ha hlt' hlt hac).symm
      · exact bridged_of_lt ha hb hc hgt hgt' hca
    · exact alike_of_bridged hb

end Numbers

/-- The double 2⁵³ is like the integer after 2⁵³ and like the integer 2⁵³. -/
theorem compares_unless_blurred_near :
    (Value.double ⟨0x4340000000000000⟩).toEReal? = some (Double.toEReal ⟨0x4340000000000000⟩) ∧
    (Value.double ⟨0x4340000000000000⟩).compare? (.int 9007199254740993) = some .eq ∧
    Bridged (.int 9007199254740993) (.double ⟨0x4340000000000000⟩) (.int 9007199254740992) ∧
    Blurred (.int 9007199254740993) (.double ⟨0x4340000000000000⟩) := by
  have hd : (Value.double ⟨0x4340000000000000⟩).toEReal?
      = some (Double.toEReal ⟨0x4340000000000000⟩) := by
    rw [toEReal?, if_neg (by decide +kernel)]
  obtain ⟨-, -, hsmall, hswap, -, -, -, halike, hblurred⟩ :=
    compares_unless_blurred (a := .int 9007199254740993) (c := .int 9007199254740992) rfl hd rfl
  have hbridged := halike.mp (by decide +kernel)
  have hexact := (hsmall 9007199254740992 (by decide)).2
  refine ⟨hd, ?_, hbridged, (hblurred hbridged).resolve_right hexact⟩
  rw [hswap]
  decide +kernel

/-- Rounding hides that an integer is larger than a double, and makes two integers like a double
that are not like each other. -/
theorem not_exact_near :
    Double.toEReal ⟨0x4340000000000000⟩ < (((9007199254740993 : Int64).toInt : ℝ) : EReal) ∧
    (Value.int 9007199254740993).compare? (.double ⟨0x4340000000000000⟩) ≠ some .gt ∧
    (Value.int 9007199254740993).alike (.double ⟨0x4340000000000000⟩) = true ∧
    (Value.double ⟨0x4340000000000000⟩).alike (.int 9007199254740992) = true ∧
    (Value.int 9007199254740993).alike (.int 9007199254740992) = false := by
  refine ⟨?_, by decide +kernel, by decide +kernel, by decide +kernel, by decide +kernel⟩
  obtain ⟨hend, hvalue⟩ := Double.toEReal_eq (d := ⟨0x4340000000000000⟩) (by decide +kernel)
  obtain ⟨hend', hvalue'⟩ := Double.ofUnits_int 9007199254740993
  rw [hvalue, hvalue']
  exact Double.ofUnits_lt_ofUnits hend hend' (by decide +kernel)

end Value

end MailMerge
