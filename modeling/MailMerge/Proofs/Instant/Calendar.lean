import MailMerge.Instant.Basic
import MailMerge.Proofs.Text.Digits
import Mathlib.Tactic.IntervalCases

/-!
# The calendar

Every number is that of one day, a day that the calendar has; and the days stand in the
order of their numbers. Years that start in March make both plain: a day is then the start
of its year and of its month, and a day in the month.
-/

namespace MailMerge

namespace Day

-- ---------------------------------------------------------------------------
-- Years from March on
-- ---------------------------------------------------------------------------

/-- The days before the March of a year, from the March of year 0 on. -/
def beforeYear (y : Int) : Int := 365 * y + y / 4 - y / 100 + y / 400

/-- The days before a month, counted from March. -/
def beforeMonth (m : Int) : Int := (153 * m + 2) / 5

/-- The days before a month of a year, from the March of year 0 on. -/
def daysBefore (y : Int) (m : Nat) : Int :=
  if m ≤ 2 then beforeYear (y - 1) + beforeMonth (m + 9) else beforeYear y + beforeMonth (m - 3)

/-- Of what the number of a day is made. -/
theorem toDayNumber_eq (d : Day) : d.toDayNumber = daysBefore d.year d.month + d.day - 719469 := by
  have hcycle : ∀ y : Int, y / 400 * 146097 + (y % 400 * 365 + y % 400 / 4 - y % 400 / 100)
      = beforeYear y := by
    intro y
    unfold beforeYear
    omega
  rw [toDayNumber, daysBefore]
  split
  · rw [← hcycle (d.year - 1), beforeMonth]
    omega
  · rw [← hcycle d.year, beforeMonth]
    omega

theorem isLeapYear_iff (y : Int) :
    isLeapYear y = true ↔ y % 4 = 0 ∧ (y % 100 ≠ 0 ∨ y % 400 = 0) := by
  simp [isLeapYear]

/-- A leap year is one day longer, in the year that started with the March before. -/
theorem beforeYear_eq (y : Int) :
    beforeYear y = beforeYear (y - 1) + 365 + if isLeapYear y then 1 else 0 := by
  unfold beforeYear
  split
  · next h =>
    rw [isLeapYear_iff] at h
    omega
  · next h =>
    rw [isLeapYear_iff] at h
    omega

theorem beforeYear_mono {x y : Int} (h : x ≤ y) : beforeYear x ≤ beforeYear y := by
  unfold beforeYear
  omega

-- ---------------------------------------------------------------------------
-- The days of a cycle
-- ---------------------------------------------------------------------------

/-- The year of a cycle of 400 years to which a day of the cycle belongs. -/
def cycleYear (d : Int) : Int := (d - d / 1460 + d / 36524 - d / 146096) / 365

section

variable {d : Int} (h₀ : 0 ≤ d) (h₁ : d ≤ 146096)
include h₀ h₁

theorem cycleYear_bounds : 0 ≤ cycleYear d ∧ cycleYear d ≤ 399 := by
  unfold cycleYear
  omega

/-- Leap days and centuries passed are nearly those of the year; the last day of a cycle is
one of its own. -/
theorem cycleYear_quarters : cycleYear d / 4 ≤ d / 1460 ∧ d / 1460 ≤ cycleYear d / 4 + 1 ∧
    (d = 146096 ∨ d / 146096 = 0 ∧ cycleYear d / 100 = d / 36524) := by
  have hcentury : d / 36524 = 0 ∨ d / 36524 = 1 ∨ d / 36524 = 2 ∨ d / 36524 = 3 ∨ d / 36524 = 4 := by
    omega
  unfold cycleYear
  rcases hcentury with hc | hc | hc | hc | hc <;> rw [hc] <;> refine ⟨?_, ?_, ?_⟩ <;> omega

theorem beforeYear_cycleYear :
    beforeYear (cycleYear d) ≤ d ∧ d ≤ beforeYear (cycleYear d) + 365 := by
  obtain ⟨hlow, hhigh⟩ := cycleYear_bounds h₀ h₁
  obtain ⟨hquarters, hquarters', hlast | ⟨hcycle, hcentury⟩⟩ := cycleYear_quarters h₀ h₁
  · rw [hlast]
    decide
  · have hyear : cycleYear d = (d - d / 1460 + d / 36524 - d / 146096) / 365 := rfl
    rw [hcycle] at hyear
    unfold beforeYear
    omega

/-- Only a leap year has a day behind its 365th. -/
theorem isLeapYear_of_eq_beforeYear (h : d = beforeYear (cycleYear d) + 365) :
    isLeapYear (cycleYear d + 1) = true := by
  obtain ⟨hlow, hhigh⟩ := cycleYear_bounds h₀ h₁
  obtain ⟨hquarters, hquarters', hlast | ⟨hcycle, hcentury⟩⟩ := cycleYear_quarters h₀ h₁
  · rw [hlast]
    decide
  · have hyear : cycleYear d = (d - d / 1460 + d / 36524 - d / 146096) / 365 := rfl
    rw [hcycle] at hyear
    unfold beforeYear at h
    have hleap : d / 1460 = cycleYear d / 4 + 1 := by omega
    have hfourth : cycleYear d % 4 = 3 := by omega
    have hnoCentury : cycleYear d % 100 ≠ 99 := by omega
    rw [isLeapYear_iff]
    omega

end

-- ---------------------------------------------------------------------------
-- The months of a year
-- ---------------------------------------------------------------------------

/-- The month, counted from March, to which a day of the year belongs. -/
def yearMonth (d : Int) : Int := (5 * d + 2) / 153

theorem yearMonth_bounds {d : Int} (h₀ : 0 ≤ d) (h₁ : d ≤ 365) :
    0 ≤ yearMonth d ∧ yearMonth d ≤ 11 ∧ beforeMonth (yearMonth d) ≤ d ∧
      d < beforeMonth (yearMonth d + 1) := by
  unfold yearMonth beforeMonth
  omega

/-- From March on a month is as long as it takes to the next; the last one is cut short. -/
theorem daysInMonth_of_march {m : Nat} (hlow : 3 ≤ m) (hhigh : m ≤ 12) (y : Int) :
    (daysInMonth y m : Int) = beforeMonth (m - 2) - beforeMonth (m - 3) := by
  interval_cases m <;> rfl

theorem daysInMonth_january (y : Int) : daysInMonth y 1 = 31 := rfl

theorem daysInMonth_february (y : Int) :
    daysInMonth y 2 = if isLeapYear y then 29 else 28 := rfl

-- ---------------------------------------------------------------------------
-- Days of numbers
-- ---------------------------------------------------------------------------

/-- A month of the year and a day of that month. -/
structure InCalendar (d : Day) : Prop where
  month : 1 ≤ d.month ∧ d.month ≤ 12
  day : 1 ≤ d.day ∧ d.day ≤ daysInMonth d.year d.month

/-- The day with a number: in a year, counted from March on, a month and a day of it. -/
theorem ofDayNumber_eq (n : Int) :
    ∃ y m d : Int, 0 ≤ m ∧ m ≤ 11 ∧ 0 ≤ d ∧ d < beforeMonth (m + 1) - beforeMonth m ∧
      beforeMonth m + d ≤ 365 ∧ (beforeMonth m + d = 365 → isLeapYear (y + 1) = true) ∧
      n + 719468 = beforeYear y + beforeMonth m + d ∧
      ofDayNumber n = ⟨y + if m < 10 then 0 else 1, (if m < 10 then m + 3 else m - 9).toNat,
        (d + 1).toNat⟩ := by
  have h₀ : 0 ≤ (n + 719468) % 146097 := Int.emod_nonneg _ (by decide)
  have h₁ : (n + 719468) % 146097 ≤ 146096 := by omega
  obtain ⟨c, r, hr, hc, hn⟩ : ∃ c r : Int, r = (n + 719468) % 146097 ∧
      c = (n + 719468) / 146097 ∧ n + 719468 = c * 146097 + r :=
    ⟨_, _, rfl, rfl, by omega⟩
  rw [← hr] at h₀ h₁
  obtain ⟨hylow, hyhigh⟩ := cycleYear_bounds h₀ h₁
  obtain ⟨hstart, hend⟩ := beforeYear_cycleYear h₀ h₁
  have hleap := isLeapYear_of_eq_beforeYear h₀ h₁
  obtain ⟨hmlow, hmhigh, hbegin, hnext⟩ :=
    yearMonth_bounds (Int.sub_nonneg_of_le hstart) (by omega : r - beforeYear (cycleYear r) ≤ 365)
  refine ⟨cycleYear r + c * 400, yearMonth (r - beforeYear (cycleYear r)),
    r - beforeYear (cycleYear r) - beforeMonth (yearMonth (r - beforeYear (cycleYear r))), hmlow,
    hmhigh, by omega, by omega, by omega, ?_, ?_, ?_⟩
  · intro heq
    have hyear := hleap (by omega)
    rw [isLeapYear_iff] at hyear ⊢
    omega
  · unfold beforeYear
    unfold beforeYear at hstart
    omega
  · have hdays : 365 * cycleYear r + cycleYear r / 4 - cycleYear r / 100
        = beforeYear (cycleYear r) := by
      unfold beforeYear
      omega
    have hyear : (r - r / 1460 + r / 36524 - r / 146096) / 365 = cycleYear r := rfl
    have hmonth : ∀ d : Int, (5 * d + 2) / 153 = yearMonth d := fun d => rfl
    have hbefore : ∀ m : Int, (153 * m + 2) / 5 = beforeMonth m := fun m => rfl
    rw [ofDayNumber]
    simp only [← hr, ← hc, hyear, hdays, hmonth, hbefore]
    by_cases h : yearMonth (r - beforeYear (cycleYear r)) < 10
    · simp only [if_pos h]
      rw [if_neg (by omega)]
    · simp only [if_neg h]
      rw [if_pos (by omega)]

/-- The day with a number is one that the calendar has. -/
theorem inCalendar_ofDayNumber (n : Int) : (ofDayNumber n).InCalendar := by
  obtain ⟨y, m, d, hm₀, hm₁, hd₀, hd, hlast, hleap, -, hday⟩ := ofDayNumber_eq n
  rw [hday]
  by_cases h : m < 10
  · obtain ⟨k, rfl⟩ := Int.eq_ofNat_of_zero_le hm₀
    have hmonth : ((k : Int) + 3).toNat = k + 3 := by omega
    have hlength := daysInMonth_of_march (m := k + 3) (by omega) (by omega) (y + 0)
    have hnext : ((k + 3 : Nat) : Int) - 2 = k + 1 := by omega
    have hthis : ((k + 3 : Nat) : Int) - 3 = k := by omega
    rw [hnext, hthis] at hlength
    simp only [if_pos h, hmonth]
    have hmonths : 1 ≤ k + 3 ∧ k + 3 ≤ 12 := by omega
    have hdays : 1 ≤ (d + 1).toNat ∧ (d + 1).toNat ≤ daysInMonth (y + 0) (k + 3) := by omega
    exact ⟨hmonths, hdays⟩
  · obtain rfl | rfl : m = 10 ∨ m = 11 := by omega
    · have hlength : beforeMonth (10 + 1) - beforeMonth 10 = 31 := by decide
      have hmonths : 1 ≤ 1 ∧ 1 ≤ 12 := by decide
      have hdays : 1 ≤ (d + 1).toNat ∧ (d + 1).toNat ≤ 31 := by omega
      exact ⟨hmonths, hdays⟩
    · have hbefore : beforeMonth 11 = 337 := by decide
      have hlength : (d + 1).toNat ≤ if isLeapYear (y + 1) then 29 else 28 := by
        split
        · omega
        · next hnot =>
          have hne : beforeMonth 11 + d ≠ 365 := fun heq => hnot (hleap heq)
          omega
      have hmonths : 1 ≤ 2 ∧ 2 ≤ 12 := by decide
      have hfirst : 1 ≤ (d + 1).toNat := by omega
      exact ⟨hmonths, hfirst, hlength⟩

theorem toDayNumber_ofDayNumber (n : Int) : (ofDayNumber n).toDayNumber = n := by
  obtain ⟨y, m, d, hm₀, hm₁, hd₀, hd, hlast, hleap, hn, hday⟩ := ofDayNumber_eq n
  rw [toDayNumber_eq, hday, daysBefore]
  by_cases h : m < 10
  · have hmonth : ¬ (m + 3).toNat ≤ 2 := by omega
    have hm : ((m + 3).toNat : Int) - 3 = m := by omega
    simp only [if_pos h, if_neg hmonth, hm, Int.add_zero]
    omega
  · have hmonth : (m - 9).toNat ≤ 2 := by omega
    have hm : ((m - 9).toNat : Int) + 9 = m := by omega
    simp only [if_neg h, if_pos hmonth, hm, Int.add_sub_cancel]
    omega

-- ---------------------------------------------------------------------------
-- Order
-- ---------------------------------------------------------------------------

theorem daysBefore_succ {m : Nat} (hlow : 1 ≤ m) (hhigh : m < 12) (y : Int) :
    daysBefore y (m + 1) = daysBefore y m + daysInMonth y m := by
  rcases Nat.lt_or_ge 2 m with hm | hm
  · have hlength := daysInMonth_of_march (m := m) (by omega) (by omega) y
    rw [daysBefore, if_neg (by omega), daysBefore, if_neg (by omega), hlength]
    have hnext : ((m + 1 : Nat) : Int) - 3 = m - 2 := by omega
    rw [hnext]
    omega
  · obtain rfl | rfl : m = 1 ∨ m = 2 := by omega
    · rw [daysBefore, if_pos (by decide), daysBefore, if_pos (by decide), daysInMonth_january]
      have hlength : beforeMonth ((1 + 1 : Nat) + 9) = beforeMonth ((1 : Nat) + 9) + 31 := by decide
      omega
    · rw [daysBefore, if_neg (by decide), daysBefore, if_pos (by decide), daysInMonth_february,
        beforeYear_eq y]
      have hlength : beforeMonth ((2 + 1 : Nat) - 3) + 365 = beforeMonth ((2 : Nat) + 9) + 28 := by
        decide
      split <;> omega

theorem daysBefore_mono (y : Int) {m m' : Nat} (hlow : 1 ≤ m) (h : m ≤ m') (hhigh : m' ≤ 12) :
    daysBefore y m ≤ daysBefore y m' := by
  induction m', h using Nat.le_induction with
  | base => exact Int.le_refl _
  | succ k hk ih =>
    rw [daysBefore_succ (by omega) (by omega)]
    have hbefore := ih (by omega)
    omega

/-- A later month begins after the end of an earlier one. -/
theorem daysBefore_month (y : Int) {m m' : Nat} (hlow : 1 ≤ m) (h : m < m') (hhigh : m' ≤ 12) :
    daysBefore y m + daysInMonth y m ≤ daysBefore y m' := by
  rw [← daysBefore_succ hlow (by omega)]
  exact daysBefore_mono y (by omega) h hhigh

/-- A later year begins after the end of an earlier one. -/
theorem daysBefore_year {y y' : Int} (h : y < y') {m m' : Nat} (hm : 1 ≤ m ∧ m ≤ 12)
    (hm' : 1 ≤ m' ∧ m' ≤ 12) : daysBefore y m + daysInMonth y m ≤ daysBefore y' m' := by
  have hdecember : daysBefore y m + daysInMonth y m ≤ daysBefore y 12 + 31 := by
    rcases Nat.lt_or_ge m 12 with hlt | hge
    · have hmonth := daysBefore_month y hm.1 hlt (Nat.le_refl 12)
      omega
    · obtain rfl : m = 12 := by omega
      exact Int.le_refl _
  have hjanuary : daysBefore y' 1 ≤ daysBefore y' m' :=
    daysBefore_mono y' (Nat.le_refl 1) hm'.1 hm'.2
  have hyears := beforeYear_mono (by omega : y ≤ y' - 1)
  have hlast : daysBefore y 12 = beforeYear y + beforeMonth 9 := rfl
  have hfirst : daysBefore y' 1 = beforeYear (y' - 1) + beforeMonth 10 := rfl
  have hlength : beforeMonth 10 = beforeMonth 9 + 31 := by decide
  omega

/-- The order of days: by year, month and day. -/
def order (a b : Day) : Ordering :=
  (compare a.year b.year).then ((compare a.month b.month).then (compare a.day b.day))

/-- The days of the calendar are numbered in their order. -/
theorem compare_toDayNumber {a b : Day} (ha : a.InCalendar) (hb : b.InCalendar) :
    compare a.toDayNumber b.toDayNumber = a.order b := by
  obtain ⟨ham, had⟩ := ha
  obtain ⟨hbm, hbd⟩ := hb
  rw [toDayNumber_eq, toDayNumber_eq, order]
  refine compare_eq_then (fun h => ?_) (fun h => ?_) fun hyear => ?_
  · have hyears := daysBefore_year h ham hbm
    omega
  · have hyears := daysBefore_year h hbm ham
    omega
  rw [hyear] at had ⊢
  refine compare_eq_then (fun h => ?_) (fun h => ?_) fun hmonth => ?_
  · have hmonths := daysBefore_month b.year ham.1 h hbm.2
    omega
  · have hmonths := daysBefore_month b.year hbm.1 h ham.2
    omega
  rw [hmonth]
  exact compare_eq_compare (by omega) (by omega) (by omega)

/-- Numbers of days and the days stand in one order. -/
theorem order_ofDayNumber (m n : Int) : (ofDayNumber m).order (ofDayNumber n) = compare m n := by
  rw [← compare_toDayNumber (inCalendar_ofDayNumber m) (inCalendar_ofDayNumber n),
    toDayNumber_ofDayNumber, toDayNumber_ofDayNumber]

/-- A year begins with the first of January. -/
theorem year_ofDayNumber_lt_iff (n y : Int) :
    (ofDayNumber n).year < y ↔ n < toDayNumber ⟨y, 1, 1⟩ := by
  have hday := inCalendar_ofDayNumber n
  have hjanuary : 1 ≤ 1 ∧ 1 ≤ 12 := by decide
  have hfirst : InCalendar ⟨y, 1, 1⟩ := ⟨hjanuary, Nat.le_refl 1, Nat.le_of_ble_eq_true rfl⟩
  have hmonth : compare (ofDayNumber n).month 1 ≠ .lt := by
    rw [Ne, compare_lt_iff_lt]
    exact Nat.not_lt.mpr hday.month.1
  have hbegin : compare (ofDayNumber n).day 1 ≠ .lt := by
    rw [Ne, compare_lt_iff_lt]
    exact Nat.not_lt.mpr hday.day.1
  have hnumbers := compare_toDayNumber hday hfirst
  rw [toDayNumber_ofDayNumber, order] at hnumbers
  rw [← compare_lt_iff_lt (a := n), hnumbers, Ordering.then_eq_lt, Ordering.then_eq_lt,
    compare_lt_iff_lt]
  simp [hmonth, hbegin]

end Day

end MailMerge
