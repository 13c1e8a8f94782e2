import MailMerge.Instant.Reading
import MailMerge.Instant.Writing
import MailMerge.Value.Basic
import Mathlib.Data.List.TakeDrop
import Mathlib.Data.List.TakeWhile
import Mathlib.Order.Lattice

/-!
# Numbers of a fixed width

A number written with a fixed number of digits is read back as itself whatever follows, and
such texts stand in the order of their numbers.
-/

namespace MailMerge

-- ---------------------------------------------------------------------------
-- Orders one after the other
-- ---------------------------------------------------------------------------

section

variable {α β : Type} [LinearOrder α] [LinearOrder β] {a b : α} {x y : β}

/-- Two things are compared by a first key, and where that is the same by something else. -/
theorem compare_eq_then {o : Ordering} (hlt : x < y → a < b) (hgt : y < x → b < a)
    (heq : x = y → compare a b = o) : compare a b = (compare x y).then o := by
  rcases lt_trichotomy x y with h | h | h
  · rw [compare_lt_iff_lt.mpr h, compare_lt_iff_lt.mpr (hlt h)]
    rfl
  · rw [compare_eq_iff_eq.mpr h, heq h]
    rfl
  · rw [compare_gt_iff_gt.mpr h, compare_gt_iff_gt.mpr (hgt h)]
    rfl

theorem compare_eq_compare (hlt : x < y → a < b) (hgt : y < x → b < a) (heq : x = y → a = b) :
    compare a b = compare x y := by
  have hthen : compare a b = (compare x y).then .eq :=
    compare_eq_then hlt hgt fun h => compare_eq_iff_eq.mpr (heq h)
  rw [hthen]
  cases compare x y <;> rfl

end

/-- Numbers are compared without their last digits, to any base, and by these where the rest is
the same. -/
theorem compare_div_mod (k a b : Nat) :
    compare a b = (compare (a / k) (b / k)).then (compare (a % k) (b % k)) := by
  have ha := Nat.div_add_mod a k
  have hb := Nat.div_add_mod b k
  refine compare_eq_then Nat.lt_of_div_lt_div Nat.lt_of_div_lt_div fun h => ?_
  rw [h] at ha
  exact compare_eq_compare (by omega) (by omega) (by omega)

-- ---------------------------------------------------------------------------
-- Leading digits
-- ---------------------------------------------------------------------------

theorem spanDigits_append {ds rest : List Char} (hds : ∀ c ∈ ds, c.isDigit = true)
    (hrest : ∀ c ∈ rest.head?, c.isDigit = false) : spanDigits (ds ++ rest) = (ds, rest) := by
  have hnone : rest.takeWhile Char.isDigit = [] ∧ rest.dropWhile Char.isDigit = rest := by
    cases rest with
    | nil => exact ⟨rfl, rfl⟩
    | cons c rest =>
      have hc : ¬ c.isDigit = true := by simp [hrest c rfl]
      exact ⟨List.takeWhile_cons_of_neg hc, List.dropWhile_cons_of_neg hc⟩
  rw [spanDigits, List.span_eq_takeWhile_dropWhile, List.takeWhile_append_of_pos hds,
    List.dropWhile_append_of_pos hds, hnone.1, hnone.2, List.append_nil]

namespace Text

-- ---------------------------------------------------------------------------
-- Digits
-- ---------------------------------------------------------------------------

theorem isDigit_digitChar : ∀ d < 10, (Nat.digitChar d).isDigit = true := by decide

theorem digitValue_digitChar : ∀ d < 10, digitValue (Nat.digitChar d) = d := by decide

theorem toNat_digitChar : ∀ d < 10, (Nat.digitChar d).toNat = '0'.toNat + d := by decide

/-- The last digits of a number, as many as asked for. -/
def lastDigits : Nat → Nat → List Char
  | 0, _ => []
  | w + 1, n => lastDigits w (n / 10) ++ [Nat.digitChar (n % 10)]

theorem length_lastDigits (w n : Nat) : (lastDigits w n).length = w := by
  induction w generalizing n with
  | zero => rfl
  | succ w ih => rw [lastDigits, List.length_append, ih, List.length_singleton]

theorem isDigit_lastDigits (w n : Nat) : ∀ c ∈ lastDigits w n, c.isDigit = true := by
  induction w generalizing n with
  | zero => exact fun c hc => absurd hc List.not_mem_nil
  | succ w ih =>
    intro c hc
    rcases List.mem_append.mp hc with hc | hc
    · exact ih (n / 10) c hc
    · rw [List.mem_singleton.mp hc]
      exact isDigit_digitChar _ (Nat.mod_lt _ (by decide))

theorem lastDigits_succ_eq_cons (w n : Nat) :
    ∃ c cs, lastDigits (w + 1) n = c :: cs ∧ c.isDigit = true := by
  cases h : lastDigits (w + 1) n with
  | nil =>
    have hlength := length_lastDigits (w + 1) n
    rw [h] at hlength
    cases hlength
  | cons c cs => exact ⟨c, cs, rfl, isDigit_lastDigits (w + 1) n c (h ▸ List.mem_cons_self)⟩

theorem digitsValue_lastDigits {w n : Nat} (h : n < 10 ^ w) : digitsValue (lastDigits w n) = n := by
  induction w generalizing n with
  | zero =>
    rw [Nat.lt_one_iff.mp h]
    rfl
  | succ w ih =>
    have hvalue : digitValue (Nat.digitChar (n % 10)) = n % 10 :=
      digitValue_digitChar _ (Nat.mod_lt _ (by decide))
    have hhigh : n / 10 < 10 ^ w := by
      rw [Nat.pow_succ] at h
      exact Nat.div_lt_of_lt_mul (by omega)
    have hih := ih hhigh
    rw [digitsValue] at hih
    rw [lastDigits, digitsValue, List.foldl_append, hih, List.foldl_cons, List.foldl_nil, hvalue]
    exact Nat.div_add_mod n 10

theorem lastDigits_zero (w : Nat) : lastDigits w 0 = List.replicate w '0' := by
  induction w with
  | zero => rfl
  | succ w ih =>
    rw [lastDigits, Nat.zero_div, ih, List.replicate_succ']
    rfl

/-- Padding with zeros and cutting off the last digits is the same for a number that fits. -/
theorem paddedDigits_eq_lastDigits {w n : Nat} (h : n < 10 ^ (w + 1)) :
    paddedDigits (w + 1) n = lastDigits (w + 1) n := by
  induction w generalizing n with
  | zero =>
    rw [Nat.zero_add, Nat.pow_one] at h
    rw [paddedDigits, Nat.toDigits_eq_if (by decide), if_pos h, lastDigits, Nat.mod_eq_of_lt h]
    rfl
  | succ w ih =>
    rw [lastDigits]
    by_cases hn : n < 10
    · rw [paddedDigits, Nat.toDigits_eq_if (by decide), if_pos hn, Nat.mod_eq_of_lt hn,
        Nat.div_eq_of_lt hn, lastDigits_zero]
      rfl
    · have hhigh : n / 10 < 10 ^ (w + 1) := by
        rw [Nat.pow_succ] at h
        exact Nat.div_lt_of_lt_mul (by omega)
      rw [← ih hhigh, paddedDigits, Nat.toDigits_eq_if (by decide), if_neg hn, paddedDigits,
        List.length_append, List.length_singleton, Nat.add_sub_add_right, List.append_assoc]

/-- Texts that start with numbers of one width stand in the order of these numbers. -/
theorem order_lastDigits_append {w a b : Nat} (ha : a < 10 ^ w) (hb : b < 10 ^ w)
    (xs ys : List Char) :
    order (lastDigits w a ++ xs) (lastDigits w b ++ ys) = (compare a b).then (order xs ys) := by
  induction w generalizing a b xs ys with
  | zero =>
    rw [Nat.lt_one_iff.mp ha, Nat.lt_one_iff.mp hb]
    rfl
  | succ w ih =>
    have hhigh : ∀ {n}, n < 10 ^ (w + 1) → n / 10 < 10 ^ w := by
      intro n hn
      rw [Nat.pow_succ] at hn
      exact Nat.div_lt_of_lt_mul (by omega)
    have hlow : compare (Nat.digitChar (a % 10)).toNat (Nat.digitChar (b % 10)).toNat
        = compare (a % 10) (b % 10) := by
      rw [toNat_digitChar _ (Nat.mod_lt _ (by decide)),
        toNat_digitChar _ (Nat.mod_lt _ (by decide))]
      exact compare_eq_compare (by omega) (by omega) (by omega)
    rw [lastDigits, lastDigits, List.append_assoc, List.append_assoc, ih (hhigh ha) (hhigh hb),
      List.singleton_append, List.singleton_append, order, hlow, compare_div_mod 10 a b,
      Ordering.then_assoc]

theorem order_cons (c : Char) (xs ys : List Char) : order (c :: xs) (c :: ys) = order xs ys := by
  rw [order, Nat.compare_eq_eq.mpr rfl]
  rfl

theorem order_eq_iff {as bs : List Char} : order as bs = .eq ↔ as = bs := by
  induction as generalizing bs with
  | nil => cases bs <;> simp [order]
  | cons a as ih =>
    cases bs with
    | nil => simp [order]
    | cons b bs =>
      rw [order, Ordering.then_eq_eq, compare_eq_iff_eq, ih, Char.toNat_inj, List.cons.injEq]

end Text

namespace Instant

/-- A number of a fixed width is read back whatever follows. -/
theorem number?_lastDigits_append {w n : Nat} (h : n < 10 ^ w) (rest : List Char) :
    number? w w (Text.lastDigits w n ++ rest) = some (n, rest) := by
  have hlength := Text.length_lastDigits w n
  have htake : (Text.lastDigits w n ++ rest).take w = Text.lastDigits w n := by
    rw [List.take_append_of_le_length (Nat.le_of_eq hlength.symm), List.take_of_length_le
      (Nat.le_of_eq hlength)]
  have hdigits : (Text.lastDigits w n).takeWhile Char.isDigit = Text.lastDigits w n :=
    List.takeWhile_eq_self_iff.mpr (Text.isDigit_lastDigits w n)
  have hdrop : (Text.lastDigits w n ++ rest).drop w = rest := List.drop_left' hlength
  simp only [number?, htake, hdigits, hlength, Nat.lt_irrefl, if_false,
    Text.digitsValue_lastDigits h, hdrop]

end Instant

end MailMerge
