import MailMerge.Proofs.Instant.Written

/-!
# Instants written at an offset

The clocks of a place show an instant at an offset from UTC. What they show, with the offset
behind it, is read as the instant, wherever the clocks stand and however far the date is moved.
-/

namespace MailMerge

namespace Instant

-- ---------------------------------------------------------------------------
-- Clocks of a place
-- ---------------------------------------------------------------------------

/-- What clocks show that are a number of minutes ahead. -/
def ahead (minutes : Int) (t : Instant) : Instant := ⟨t.seconds + minutes * 60, t.nanos⟩

/-- Hours and minutes with two digits each. -/
def hourMinute (minutes : Nat) : List Char :=
  paddedDigits 2 (minutes / 60) ++ ':' :: paddedDigits 2 (minutes % 60)

/-- The ways to write an offset in minutes: hours and minutes ahead of UTC or behind it, and a
letter for UTC itself. -/
inductive Zone : Int → List Char → Prop
  | ahead (minutes : Nat) : Zone minutes ('+' :: hourMinute minutes)
  | behind (minutes : Nat) : Zone (-minutes) ('-' :: hourMinute minutes)
  | utc : Zone 0 ['Z']

/-- Date, a divider, time of day and offset, as clocks show them that are a number of minutes
ahead. -/
def writeAt (minutes : Int) (divider : Char) (zone : List Char) (t : Instant) : String :=
  let d := (t.ahead minutes).day
  let (h, m, s) := (t.ahead minutes).timeOfDay
  String.ofList (yearText d.year ++ '-' :: paddedDigits 2 d.month ++ '-' :: paddedDigits 2 d.day ++
    divider :: paddedDigits 2 h ++ ':' :: paddedDigits 2 m ++ ':' :: paddedDigits 2 s ++ zone)

theorem ahead_zero (t : Instant) : t.ahead 0 = t := by
  rw [ahead, Int.zero_mul, Int.add_zero]

/-- An instant is written as clocks show it that are neither ahead nor behind. -/
theorem writeAt_utc (t : Instant) : t.writeAt 0 'T' ['Z'] = t.write := by
  rw [writeAt, ahead_zero]
  rfl

/-- Whole minutes leave the second as it is. -/
theorem OnClock.ahead {t : Instant} (h : t.OnClock) (minutes : Int) : (t.ahead minutes).OnClock := by
  unfold OnClock at *
  rw [Instant.ahead]
  dsimp only
  omega

/-- Less than a day ahead or behind, it is at most a year later or earlier. -/
theorem inFourDigits_ahead {t : Instant} (hlow : 1 ≤ t.day.year) (hhigh : t.day.year ≤ 9998)
    {minutes : Int} (h : minutes.natAbs < 24 * 60) : (t.ahead minutes).InFourDigits := by
  have hfirst := (Day.year_ofDayNumber_lt_iff (t.seconds / secondsPerDay) 1).not
  have hlast := Day.year_ofDayNumber_lt_iff (t.seconds / secondsPerDay) 9999
  have hfirst' := (Day.year_ofDayNumber_lt_iff ((t.ahead minutes).seconds / secondsPerDay) 0).not
  have hlast' := Day.year_ofDayNumber_lt_iff ((t.ahead minutes).seconds / secondsPerDay) 10000
  have hstarts : Day.toDayNumber ⟨0, 1, 1⟩ = -719528 ∧ Day.toDayNumber ⟨1, 1, 1⟩ = -719162 ∧
      Day.toDayNumber ⟨9999, 1, 1⟩ = 2932532 ∧ Day.toDayNumber ⟨10000, 1, 1⟩ = 2932897 := by
    decide
  rw [hstarts.2.1] at hfirst
  rw [hstarts.2.2.1] at hlast
  rw [hstarts.1] at hfirst'
  rw [hstarts.2.2.2] at hlast'
  unfold InFourDigits
  unfold day ahead secondsPerDay at *
  dsimp only at *
  omega

-- ---------------------------------------------------------------------------
-- Offsets that are read
-- ---------------------------------------------------------------------------

/-- Hours and minutes behind a sign are read as the minutes they make up. -/
theorem offset?_hourMinute {minutes : Nat} (h : minutes < 24 * 60) :
    offset? (char? ':') ('+' :: hourMinute minutes) = some ((minutes * 60 : Int), []) ∧
      offset? (char? ':') ('-' :: hourMinute minutes) = some (-(minutes * 60 : Int), []) := by
  have hhours : number? 2 2 (hourMinute minutes)
      = some (minutes / 60, ':' :: paddedDigits 2 (minutes % 60)) := by
    rw [hourMinute, paddedDigits_pair (n := minutes / 60) (by omega),
      number?_lastDigits_append (by omega)]
  have hcolon : char? ':' (':' :: paddedDigits 2 (minutes % 60))
      = some (paddedDigits 2 (minutes % 60)) := rfl
  have hminutes : number? 2 2 (paddedDigits 2 (minutes % 60)) = some (minutes % 60, []) := by
    rw [paddedDigits_pair (by omega), ← List.append_nil (Text.lastDigits _ _),
      number?_lastDigits_append (by omega)]
  have hlast : ¬ 59 < minutes % 60 := by omega
  have htotal : ((minutes / 60 : Nat) : Int) * 3600 + ((minutes % 60 : Nat) : Int) * 60
      = minutes * 60 := by omega
  constructor
  · simp only [offset?, hhours, hcolon, hminutes, if_neg hlast, htotal, beq_self_eq_true, if_true,
      Option.bind_eq_bind, Option.bind_some]
    rfl
  · have hminus : ¬ ('-' == '+') = true := by decide
    simp only [offset?, if_neg hminus, hhours, hcolon, hminutes, if_neg hlast, htotal, beq_self_eq_true,
      Bool.true_or, if_true, Option.bind_eq_bind, Option.bind_some]

/-- An offset is read in full, whatever its sign, and is not taken for a fraction of a second. It
ends with a digit or a letter. -/
theorem Zone.reads {minutes : Int} {zone : List Char} (hzone : Zone minutes zone)
    (h : minutes.natAbs < 24 * 60) :
    optionalFraction? zone = some (0, zone) ∧ zone? zone = some (minutes * 60, []) ∧
      ∃ last, zone.getLast? = some last ∧ isBlank last = false := by
  have hend : ∀ (sign : Char) (n : Nat), n < 24 * 60 →
      ∃ last, (sign :: hourMinute n).getLast? = some last ∧ isBlank last = false := by
    intro sign n hn
    refine ⟨Nat.digitChar (n % 60 % 10), ?_, ?_⟩
    · rw [hourMinute, paddedDigits_pair (n := n % 60) (by omega)]
      simp [Text.lastDigits, List.getLast?_cons, List.getLast?_append]
    · exact isBlank_of_isDigit (Text.isDigit_digitChar _ (Nat.mod_lt _ (by decide)))
  cases hzone with
  | ahead n =>
    have hn : n < 24 * 60 := by omega
    exact ⟨rfl, (offset?_hourMinute hn).1, hend '+' n hn⟩
  | behind n =>
    have hn : n < 24 * 60 := by omega
    rw [Int.neg_mul]
    exact ⟨rfl, (offset?_hourMinute hn).2, hend '-' n hn⟩
  | utc => exact ⟨rfl, rfl, 'Z', rfl, by decide⟩

-- ---------------------------------------------------------------------------
-- Instants that are read
-- ---------------------------------------------------------------------------

theorem read?_writeAt {t : Instant} (hclock : t.OnClock) (hwhole : t.nanos % nanosPerSecond = 0)
    (hlow : 1 ≤ t.day.year) (hhigh : t.day.year ≤ 9998) {minutes : Int}
    (h : minutes.natAbs < 24 * 60) {zone : List Char} (hzone : Zone minutes zone) {divider : Char}
    (hdivider : divider = 'T' ∨ divider = ' ') :
    read? (t.writeAt minutes divider zone) = some t := by
  obtain ⟨hfraction, hread, last, hlast, hblank⟩ := hzone.reads h
  have hyear := inFourDigits_ahead hlow hhigh h
  have hoffset : (minutes * 60).natAbs < secondsPerDay := by
    have hday : secondsPerDay = 86400 := rfl
    omega
  have ht : t = ⟨(t.ahead minutes).seconds - minutes * 60, (t.ahead minutes).truncated.nanos⟩ := by
    have hnanos : (t.ahead minutes).truncated.nanos = t.nanos :=
      Nat.div_mul_cancel (Nat.dvd_of_mod_eq_zero hwhole)
    have hseconds : (t.ahead minutes).seconds - minutes * 60 = t.seconds := Int.add_sub_cancel ..
    rw [hnanos, hseconds]
  have hreached : Day.yearRange.1 ≤ t.day.year ∧ t.day.year ≤ Day.yearRange.2 :=
    ⟨Int.le_trans (by decide) hlow, Int.le_trans hhigh (by decide)⟩
  refine read?_stamp (hclock.ahead minutes) hyear hdivider hfraction hread hlast hblank hoffset ht
    hreached ?_
  rw [← stamp_eq (hclock.ahead minutes) hyear, writeAt, String.toList_ofList]

/-- A written instant is read back to the second, and a leap second as one. On a whole second it is
read back from what the clocks of any place show, with a letter or a blank between date and
time. -/
theorem read?_written_anywhere {t : Instant} (hclock : t.OnClock) :
    (t.InFourDigits → read? t.write = some t.truncated ∧
      (nanosPerSecond ≤ t.truncated.nanos ↔ nanosPerSecond ≤ t.nanos)) ∧
    (t.nanos % nanosPerSecond = 0 → 1 ≤ t.day.year → t.day.year ≤ 9998 →
      ∀ minutes : Int, minutes.natAbs < 24 * 60 → ∀ zone, Zone minutes zone →
        ∀ divider ∈ ['T', ' '], read? (t.writeAt minutes divider zone) = some t) := by
  refine ⟨fun hyear => ⟨read?_write hclock hyear, ?_⟩,
    fun hwhole hlow hhigh minutes h zone hzone divider hdivider => ?_⟩
  · simp only [truncated, nanosPerSecond]
    omega
  · refine read?_writeAt hclock hwhole hlow hhigh h hzone ?_
    simpa using hdivider

/-- The last second of 2016, counted a second time. -/
def leapOf2016 : Instant := ⟨1483228799, 1000000000⟩

theorem read?_written_anywhere_leap :
    (leapOf2016.OnClock ∧ leapOf2016.InFourDigits ∧ leapOf2016.nanos % nanosPerSecond = 0 ∧
      1 ≤ leapOf2016.day.year ∧ leapOf2016.day.year ≤ 9998 ∧ (330 : Int).natAbs < 24 * 60 ∧
      Zone 330 ('+' :: hourMinute 330) ∧ ' ' ∈ ['T', ' ']) ∧
    leapOf2016.write = "2016-12-31T23:59:60Z" ∧
    read? "2016-12-31T23:59:60Z" = some leapOf2016.truncated ∧
    leapOf2016.writeAt 330 ' ' ('+' :: hourMinute 330) = "2017-01-01 05:29:60+05:30" ∧
    read? "2017-01-01 05:29:60+05:30" = some leapOf2016 := by
  have hclock : leapOf2016.OnClock := by decide
  have hyear : leapOf2016.InFourDigits := by decide
  have hwhole : leapOf2016.nanos % nanosPerSecond = 0 := by decide
  have hlow : 1 ≤ leapOf2016.day.year := by decide
  have hhigh : leapOf2016.day.year ≤ 9998 := by decide
  have hminutes : (330 : Int).natAbs < 24 * 60 := by decide
  have hzone : Zone 330 ('+' :: hourMinute 330) := .ahead 330
  have hdivider : ' ' ∈ ['T', ' '] := by decide
  have hutc : leapOf2016.write = "2016-12-31T23:59:60Z" := by decide +kernel
  have hahead : leapOf2016.writeAt 330 ' ' ('+' :: hourMinute 330) = "2017-01-01 05:29:60+05:30" := by
    decide +kernel
  obtain ⟨hwritten, hanywhere⟩ := read?_written_anywhere hclock
  refine ⟨⟨hclock, hyear, hwhole, hlow, hhigh, hminutes, hzone, hdivider⟩, hutc, ?_, hahead, ?_⟩
  · rw [← hutc]
    exact (hwritten hyear).1
  · rw [← hahead]
    exact hanywhere hwhole hlow hhigh 330 hminutes _ hzone ' ' hdivider

end Instant

end MailMerge
