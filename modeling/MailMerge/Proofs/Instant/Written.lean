import MailMerge.Proofs.Instant.Calendar

/-!
# Written instants

An instant is written to the second. In years of four digits the text is read back as the
instant without its fraction of a second, and texts stand in the order of time.
-/

namespace MailMerge

/-- A text that neither starts nor ends with a character of a kind loses none at its ends. -/
theorem Text.dropEnds_eq_self {p : Char → Bool} {cs : List Char}
    (hfirst : ∀ c ∈ cs.head?, p c = false) (hlast : ∀ c ∈ cs.getLast?, p c = false) :
    ((cs.dropWhile p).reverse.dropWhile p).reverse = cs := by
  have hdrop : ∀ ds : List Char, (∀ c ∈ ds.head?, p c = false) → ds.dropWhile p = ds := by
    intro ds h
    cases ds with
    | nil => rfl
    | cons d ds => rw [List.dropWhile_cons_of_neg (by simp [h d rfl])]
  rw [hdrop cs hfirst, hdrop cs.reverse (by rwa [List.head?_reverse]), List.reverse_reverse]

namespace Instant

/-- An instant as clocks show it: only the last second of a minute can be a leap second. -/
def OnClock (t : Instant) : Prop :=
  t.nanos < nanosPerSecond ∨ t.nanos < 2 * nanosPerSecond ∧ t.seconds % 60 = 59

/-- An instant in a year of four digits. -/
def InFourDigits (t : Instant) : Prop := 0 ≤ t.day.year ∧ t.day.year ≤ 9999

instance (t : Instant) : Decidable t.OnClock := inferInstanceAs (Decidable (_ ∨ _))

instance (t : Instant) : Decidable t.InFourDigits := inferInstanceAs (Decidable (_ ∧ _))

/-- The instant at the start of its second. -/
def truncated (t : Instant) : Instant := ⟨t.seconds, t.nanos / nanosPerSecond * nanosPerSecond⟩

/-- An instant on a whole second is its own start. -/
theorem truncated_eq_self {t : Instant} (h : t.nanos % nanosPerSecond = 0) : t.truncated = t := by
  rw [truncated, Nat.div_mul_cancel (Nat.dvd_of_mod_eq_zero h)]

/-- The digits of an instant, with what stands between them. -/
def digits (y mo d h mi s : Nat) : List Char :=
  Text.lastDigits 4 y ++ '-' :: (Text.lastDigits 2 mo ++ '-' :: (Text.lastDigits 2 d ++
    'T' :: (Text.lastDigits 2 h ++ ':' :: (Text.lastDigits 2 mi ++ ':' ::
      (Text.lastDigits 2 s ++ ['Z'])))))

/-- The digits of a date and a time, with what divides the two and what stands behind them. -/
def stamp (divider : Char) (zone : List Char) (y mo d h mi s : Nat) : List Char :=
  Text.lastDigits 4 y ++ '-' :: (Text.lastDigits 2 mo ++ '-' :: (Text.lastDigits 2 d ++
    divider :: (Text.lastDigits 2 h ++ ':' :: (Text.lastDigits 2 mi ++ ':' ::
      (Text.lastDigits 2 s ++ zone)))))

theorem digits_eq_stamp (y mo d h mi s : Nat) : digits y mo d h mi s = stamp 'T' ['Z'] y mo d h mi s :=
  rfl

-- ---------------------------------------------------------------------------
-- Times of day
-- ---------------------------------------------------------------------------

/-- Seconds from midnight on. -/
def clock (t : Instant) : Nat := (t.seconds % secondsPerDay).toNat

/-- One in a leap second, else nothing. -/
def leap (t : Instant) : Nat := t.nanos / nanosPerSecond

theorem timeOfDay_eq (t : Instant) :
    t.timeOfDay = (t.clock / 3600, t.clock / 60 % 60, t.clock % 60 + t.leap) := rfl

theorem clock_lt (t : Instant) : t.clock < 86400 := by
  have hday : (secondsPerDay : Int) = 86400 := rfl
  rw [clock, hday]
  omega

theorem seconds_eq (t : Instant) :
    t.seconds = t.seconds / secondsPerDay * secondsPerDay + t.clock := by
  have hnonneg : 0 ≤ t.seconds % secondsPerDay := Int.emod_nonneg _ (by decide)
  rw [clock, Int.toNat_of_nonneg hnonneg]
  exact (Int.ediv_mul_add_emod t.seconds secondsPerDay).symm

/-- A second that is counted twice is the last of a minute. -/
theorem leap_le {t : Instant} (h : t.OnClock) :
    t.leap ≤ 1 ∧ (t.leap = 1 → t.clock % 60 = 59) := by
  have hday : (secondsPerDay : Int) = 86400 := rfl
  rw [leap, clock, hday]
  unfold OnClock nanosPerSecond at *
  omega

theorem month_lt (t : Instant) : t.day.month < 100 := by
  have hmonth := (Day.inCalendar_ofDayNumber (t.seconds / secondsPerDay)).month
  rw [day]
  omega

theorem day_lt (t : Instant) : t.day.day < 100 := by
  have hday := (Day.inCalendar_ofDayNumber (t.seconds / secondsPerDay)).day
  have hlength : ∀ y m, Day.daysInMonth y m ≤ 31 := by
    intro y m
    unfold Day.daysInMonth
    split
    · split <;> decide
    · split <;> decide
  have hmonth := hlength t.day.year t.day.month
  rw [day] at hmonth ⊢
  omega

theorem paddedDigits_pair {n : Nat} (h : n < 100) : paddedDigits 2 n = Text.lastDigits 2 n :=
  Text.paddedDigits_eq_lastDigits (w := 1) h

/-- The padded numbers of a date and a time of day, and what stands between and behind them. -/
theorem stamp_eq {t : Instant} (hclock : t.OnClock) (hyear : t.InFourDigits) (divider : Char)
    (zone : List Char) :
    yearText t.day.year ++ '-' :: paddedDigits 2 t.day.month ++ '-' :: paddedDigits 2 t.day.day ++
        divider :: paddedDigits 2 t.timeOfDay.1 ++ ':' :: paddedDigits 2 t.timeOfDay.2.1 ++
        ':' :: paddedDigits 2 t.timeOfDay.2.2 ++ zone
      = stamp divider zone t.day.year.natAbs t.day.month t.day.day (t.clock / 3600)
          (t.clock / 60 % 60) (t.clock % 60 + t.leap) := by
  have hfour : paddedDigits 4 t.day.year.natAbs = Text.lastDigits 4 t.day.year.natAbs :=
    Text.paddedDigits_eq_lastDigits (w := 3) (by unfold InFourDigits at hyear; omega)
  have hrange : 0 ≤ t.day.year ∧ t.day.year ≤ 9999 := hyear
  have hclockLt := t.clock_lt
  have hsecond := (leap_le hclock).1
  rw [timeOfDay_eq, yearText, if_pos hrange, hfour, paddedDigits_pair t.month_lt,
    paddedDigits_pair t.day_lt]
  dsimp only
  rw [paddedDigits_pair (by omega), paddedDigits_pair (by omega), paddedDigits_pair (by omega)]
  simp [stamp]

/-- The characters of a written instant. -/
theorem toList_write {t : Instant} (hclock : t.OnClock) (hyear : t.InFourDigits) :
    t.write.toList = digits t.day.year.natAbs t.day.month t.day.day (t.clock / 3600)
      (t.clock / 60 % 60) (t.clock % 60 + t.leap) := by
  rw [digits_eq_stamp, ← stamp_eq hclock hyear, write, String.toList_ofList]

-- ---------------------------------------------------------------------------
-- Reading
-- ---------------------------------------------------------------------------

theorem isBlank_of_isDigit {c : Char} (h : c.isDigit = true) : isBlank c = false := by
  have hblank : ∀ b ∈ blanks, b.isDigit = false := by decide
  rw [isBlank, List.contains_eq_mem, decide_eq_false_iff_not]
  intro hmem
  rw [hblank c hmem] at h
  cases h

/-- At its ends a date with a time has a digit and the end of its zone, no blanks. -/
theorem trim_stamp {zone : List Char} {last : Char} (hlast : zone.getLast? = some last)
    (hblank : isBlank last = false) (divider : Char) (y mo d h mi s : Nat) :
    Text.trim (stamp divider zone y mo d h mi s) = stamp divider zone y mo d h mi s := by
  refine Text.dropEnds_eq_self (fun c hc => ?_) fun c hc => ?_
  · obtain ⟨x, xs, hx, hx'⟩ := Text.lastDigits_succ_eq_cons 3 y
    rw [stamp, hx, List.cons_append, List.head?_cons, Option.mem_some_iff] at hc
    exact isBlank_of_isDigit (hc ▸ hx')
  · have hend : (stamp divider zone y mo d h mi s).getLast? = some last := by
      simp [stamp, List.getLast?_append, List.getLast?_cons, hlast]
    rw [hend, Option.mem_some_iff] at hc
    exact hc ▸ hblank

/-- A date with a time is read if they are divided by a letter or a blank, and what stands behind
them is an offset. -/
theorem readInternet?_stamp {divider : Char} (hdivider : divider = 'T' ∨ divider = ' ')
    {zone : List Char} {offset : Int} (hfraction : optionalFraction? zone = some (0, zone))
    (hzone : zone? zone = some (offset, [])) {y mo d h mi s : Nat} (hy : y < 10 ^ 4)
    (hmo : mo < 10 ^ 2) (hd : d < 10 ^ 2) (hh : h < 10 ^ 2) (hmi : mi < 10 ^ 2) (hs : s < 10 ^ 2) :
    readInternet? (stamp divider zone y mo d h mi s)
      = Fields.toInstant? ⟨y, mo, d, h, mi, s, 0, offset⟩ := by
  have hpair : ∀ {n}, n < 10 ^ 2 → ∀ rest,
      number? 2 2 (Text.lastDigits 2 n ++ rest) = some (n, rest) :=
    fun hn rest => number?_lastDigits_append hn rest
  have hchar : ∀ c cs, char? c (c :: cs) = some cs := by
    intro c cs
    rw [char?, if_pos (beq_self_eq_true c)]
  have hdivides : (divider == 'T' || divider == 't' || divider == ' ') = true := by
    rcases hdivider with rfl | rfl <;> rfl
  rw [readInternet?, stamp, number?_lastDigits_append hy]
  dsimp only [Option.bind_eq_bind, Option.bind_some]
  rw [hchar, Option.bind_some, hpair hmo, Option.bind_some, hchar, Option.bind_some, hpair hd,
    Option.bind_some]
  dsimp only
  rw [if_pos hdivides, hpair hh, Option.bind_some, hchar, Option.bind_some, hpair hmi, Option.bind_some,
    hchar, Option.bind_some, hpair hs, Option.bind_some, hfraction, Option.bind_some, hzone,
    Option.bind_some]
  rfl

theorem isValid_of_inCalendar {d : Day} (h : d.InCalendar) (hlow : 0 ≤ d.year)
    (hhigh : d.year ≤ 9999) : d.isValid = true := by
  obtain ⟨hmonth, hday⟩ := h
  have hfirst : Day.yearRange.1 ≤ d.year := Int.le_trans (by decide) hlow
  have hlast : d.year ≤ Day.yearRange.2 := Int.le_trans hhigh (by decide)
  simp [Day.isValid, hfirst, hlast, hmonth, hday]

/-- Date and time of day make up the instant a clock shows; an offset moves it. -/
theorem toInstant?_shown {t : Instant} (hclock : t.OnClock) (hyear : t.InFourDigits) {offset : Int}
    (hoffset : offset.natAbs < secondsPerDay) {u : Instant}
    (hu : u = ⟨t.seconds - offset, t.truncated.nanos⟩)
    (hreached : Day.yearRange.1 ≤ u.day.year ∧ u.day.year ≤ Day.yearRange.2) :
    Fields.toInstant? ⟨t.day.year.natAbs, t.day.month, t.day.day, t.clock / 3600,
      t.clock / 60 % 60, t.clock % 60 + t.leap, 0, offset⟩ = some u := by
  obtain ⟨hlow, hhigh⟩ := hyear
  obtain ⟨hle, hleap⟩ := leap_le hclock
  have hlt := t.clock_lt
  have hday : (⟨t.day.year.natAbs, t.day.month, t.day.day⟩ : Day) = t.day := by
    rw [Int.natAbs_of_nonneg hlow]
  have hvalid : t.day.isValid = true :=
    isValid_of_inCalendar (Day.inCalendar_ofDayNumber _) hlow hhigh
  have hnumber : t.day.toDayNumber = t.seconds / secondsPerDay := Day.toDayNumber_ofDayNumber _
  have hsixty : (if t.clock % 60 + t.leap = 60 then 1 else 0 : Nat)
      = t.leap := by
    split <;> omega
  have htime : t.clock / 3600 * 3600 + t.clock / 60 % 60 * 60 +
      (t.clock % 60 + t.leap) - t.leap = t.clock := by omega
  have hseconds : t.seconds / secondsPerDay * secondsPerDay + (t.clock : Int) = t.seconds :=
    t.seconds_eq.symm
  have hbounds : (t.day.isValid && t.clock / 3600 ≤ 23 && t.clock / 60 % 60 ≤ 59 &&
      t.clock % 60 + t.leap ≤ 60 && offset.natAbs < secondsPerDay) = true := by
    simp only [hvalid, Bool.true_and, Bool.and_eq_true, decide_eq_true_eq]
    exact ⟨⟨⟨by omega, by omega⟩, by omega⟩, hoffset⟩
  rw [hu] at hreached ⊢
  rw [Fields.toInstant?]
  simp only [hday, hbounds, hsixty, htime, hnumber, hseconds, if_true]
  refine (if_pos hreached).trans ?_
  rw [truncated, Nat.zero_add, leap]

/-- The stamp of an instant, with an offset behind it, is read as the instant moved by the
offset. -/
theorem read?_stamp {t : Instant} (hclock : t.OnClock) (hyear : t.InFourDigits) {divider : Char}
    (hdivider : divider = 'T' ∨ divider = ' ') {zone : List Char} {offset : Int}
    (hfraction : optionalFraction? zone = some (0, zone)) (hzone : zone? zone = some (offset, []))
    {last : Char} (hlast : zone.getLast? = some last) (hblank : isBlank last = false)
    (hoffset : offset.natAbs < secondsPerDay) {u : Instant}
    (hu : u = ⟨t.seconds - offset, t.truncated.nanos⟩)
    (hreached : Day.yearRange.1 ≤ u.day.year ∧ u.day.year ≤ Day.yearRange.2) {s : String}
    (hs : s.toList = stamp divider zone t.day.year.natAbs t.day.month t.day.day (t.clock / 3600)
      (t.clock / 60 % 60) (t.clock % 60 + t.leap)) : read? s = some u := by
  have hrange : 0 ≤ t.day.year ∧ t.day.year ≤ 9999 := hyear
  have hmonth := t.month_lt
  have hday := t.day_lt
  have hlt := t.clock_lt
  have hsecond := (leap_le hclock).1
  have hinternet : readInternet? (Text.trim s.toList) = some u := by
    rw [hs, trim_stamp hlast hblank, readInternet?_stamp hdivider hfraction hzone (by omega)
      (by omega) (by omega) (by omega) (by omega) (by omega),
      toInstant?_shown hclock hyear hoffset hu hreached]
  rw [read?, hinternet]
  rfl

/-- A written instant is read back to the second. -/
theorem read?_write {t : Instant} (hclock : t.OnClock) (hyear : t.InFourDigits) :
    read? t.write = some t.truncated := by
  have hu : t.truncated = ⟨t.seconds - 0, t.truncated.nanos⟩ := by
    rw [Int.sub_zero]
    rfl
  have hreached : Day.yearRange.1 ≤ t.day.year ∧ t.day.year ≤ Day.yearRange.2 :=
    ⟨Int.le_trans (by decide) hyear.1, Int.le_trans hyear.2 (by decide)⟩
  have hzone : zone? ['Z'] = some (0, []) := rfl
  exact read?_stamp hclock hyear (.inl rfl) rfl hzone rfl (by decide) (by decide) hu hreached
    (toList_write hclock hyear)

-- ---------------------------------------------------------------------------
-- Order
-- ---------------------------------------------------------------------------

/-- Digits stand in the order of the numbers, the first that differs deciding. -/
theorem order_digits {y mo d h mi s y' mo' d' h' mi' s' : Nat} (hy : y < 10 ^ 4) (hy' : y' < 10 ^ 4)
    (hmo : mo < 10 ^ 2) (hmo' : mo' < 10 ^ 2) (hd : d < 10 ^ 2) (hd' : d' < 10 ^ 2)
    (hh : h < 10 ^ 2) (hh' : h' < 10 ^ 2) (hmi : mi < 10 ^ 2) (hmi' : mi' < 10 ^ 2)
    (hs : s < 10 ^ 2) (hs' : s' < 10 ^ 2) :
    Text.order (digits y mo d h mi s) (digits y' mo' d' h' mi' s')
      = (compare y y').then ((compare mo mo').then ((compare d d').then ((compare h h').then
          ((compare mi mi').then (compare s s'))))) := by
  have hend : Text.order ['Z'] ['Z'] = .eq := rfl
  rw [digits, digits, Text.order_lastDigits_append hy hy', Text.order_cons,
    Text.order_lastDigits_append hmo hmo', Text.order_cons, Text.order_lastDigits_append hd hd',
    Text.order_cons, Text.order_lastDigits_append hh hh', Text.order_cons,
    Text.order_lastDigits_append hmi hmi', Text.order_cons, Text.order_lastDigits_append hs hs',
    hend, Ordering.then_eq]

/-- Twice the seconds, and one more in a leap second: whole seconds on one line. -/
def beat (t : Instant) : Int := 2 * t.seconds + t.leap

theorem order_truncated {a b : Instant} (ha : a.OnClock) (hb : b.OnClock) :
    a.truncated.order b.truncated = compare a.beat b.beat := by
  have hale := (leap_le ha).1
  have hble := (leap_le hb).1
  have hnanos : compare (a.leap * nanosPerSecond) (b.leap * nanosPerSecond)
      = compare a.leap b.leap := by
    unfold nanosPerSecond
    exact compare_eq_compare (by omega) (by omega) (by omega)
  symm
  rw [order, beat, beat]
  refine compare_eq_then (fun h => ?_) (fun h => ?_) fun h => ?_
  · change a.seconds < b.seconds at h
    omega
  · change b.seconds < a.seconds at h
    omega
  · change a.seconds = b.seconds at h
    refine Eq.trans ?_ hnanos.symm
    exact compare_eq_compare (by omega) (by omega) (by omega)

/-- Written instants stand in the order of time. -/
theorem order_write {a b : Instant} (ha : a.OnClock) (hb : b.OnClock) (hay : a.InFourDigits)
    (hby : b.InFourDigits) :
    Text.order a.write.toList b.write.toList = a.truncated.order b.truncated := by
  obtain ⟨hayLow, hayHigh⟩ := hay
  obtain ⟨hbyLow, hbyHigh⟩ := hby
  obtain ⟨hale, hal⟩ := leap_le ha
  obtain ⟨hble, hbl⟩ := leap_le hb
  have halt := a.clock_lt
  have hblt := b.clock_lt
  have hyears : compare a.day.year.natAbs b.day.year.natAbs = compare a.day.year b.day.year :=
    compare_eq_compare (by omega) (by omega) (by omega)
  have hdays : compare (a.seconds / secondsPerDay) (b.seconds / secondsPerDay)
      = (compare a.day.year b.day.year).then
          ((compare a.day.month b.day.month).then (compare a.day.day b.day.day)) :=
    (Day.order_ofDayNumber _ _).symm
  have haseconds := a.seconds_eq
  have hbseconds := b.seconds_eq
  have hday : (secondsPerDay : Int) = 86400 := rfl
  rw [hday] at haseconds hbseconds hdays
  rw [toList_write ha ⟨hayLow, hayHigh⟩, toList_write hb ⟨hbyLow, hbyHigh⟩,
    order_digits (by omega) (by omega) a.month_lt b.month_lt a.day_lt b.day_lt (by omega)
      (by omega) (by omega) (by omega) (by omega) (by omega), hyears, order_truncated ha hb]
  symm
  rw [← Ordering.then_assoc, ← Ordering.then_assoc, Ordering.then_assoc (compare _ _) (compare _ _),
    ← hdays, beat, beat]
  refine compare_eq_then (by omega) (by omega) fun hday => ?_
  refine compare_eq_then (by omega) (by omega) fun hhour => ?_
  refine compare_eq_then (by omega) (by omega) fun hminute => ?_
  exact compare_eq_compare (by omega) (by omega) (by omega)

end Instant

end MailMerge
