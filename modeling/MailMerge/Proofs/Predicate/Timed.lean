import MailMerge.Proofs.Store.Filtered
import MailMerge.Proofs.Table.Dated

/-!
# Comparing instants as texts

A table compares a stored instant with a constant by their texts, which have no parts of a second
and begin with a sign where the year has not four digits. A formula compares the instants
themselves. The two agree on all instants of four-digit years for some constants only; which ones
these are depends on the side of the constant that the operator asks about.
-/

namespace MailMerge

namespace Instant

/-- The order of a stored instant and a constant as texts. -/
def asWritten (u b : Instant) : Ordering := Text.order u.write.toList b.write.toList

/-- The order of a stored instant, as it is read back, and a constant in time. -/
def asRead (u b : Instant) : Ordering := u.truncated.order b

/-- What is before the instant in time is before it as a text, and the other way round. -/
def KeepsBefore (b : Instant) : Prop :=
  b.day.year < 0 ∨ b.InFourDigits ∧ b.nanos % nanosPerSecond = 0

/-- What is behind the instant in time is behind it as a text, and the other way round. -/
def KeepsBehind (b : Instant) : Prop := b.day.year ≤ 9999

/-- What is read back as the instant has its text, and the other way round. -/
def KeepsSame (b : Instant) : Prop := b.InFourDigits → b.nanos % nanosPerSecond = 0

/-- An instant of a four-digit year that clocks show; a column of instants gives it back. -/
def Shown (u : Instant) : Prop := u.OnClock ∧ u.InFourDigits

instance (b : Instant) : Decidable b.KeepsBefore := inferInstanceAs (Decidable (_ ∨ _))

instance (b : Instant) : Decidable b.KeepsBehind := inferInstanceAs (Decidable (_ ≤ _))

instance (b : Instant) : Decidable b.KeepsSame := inferInstanceAs (Decidable (_ → _))

instance (u : Instant) : Decidable u.Shown := inferInstanceAs (Decidable (_ ∧ _))

variable {u b : Instant}

-- ---------------------------------------------------------------------------
-- One constant
-- ---------------------------------------------------------------------------

theorem asWritten_eq (hu : u.Shown) (hb : b.OnClock) :
    u.asWritten b = if b.InFourDigits then u.truncated.order b.truncated else .gt := by
  split
  · next hyear => exact order_write hu.1 hb hu.2 hyear
  · next hyear => exact order_write_of_not hu.2 hyear

/-- In time the years that have a sign as texts stand on both sides of the others. -/
theorem asRead_of_not (hu : u.Shown) (hb : ¬b.InFourDigits) :
    u.asRead b = if b.day.year < 0 then .gt else .lt := by
  obtain ⟨hlow, hhigh⟩ := hu.2
  have hday : u.truncated.day = u.day := rfl
  rw [InFourDigits, not_and_or] at hb
  split
  · exact order_eq_gt_of_year (by rw [hday]; omega)
  · exact order_eq_lt_of_year (by rw [hday]; omega)

theorem asWritten_eq_lt_iff (hu : u.Shown) (hb : b.OnClock) (hkeeps : b.KeepsBefore) :
    u.asWritten b = .lt ↔ u.asRead b = .lt := by
  by_cases hyear : b.InFourDigits
  · have hwhole : b.nanos % nanosPerSecond = 0 :=
      (hkeeps.resolve_left (Int.not_lt.mpr hyear.1)).2
    rw [asWritten_eq hu hb, if_pos hyear, truncated_eq_self hwhole, asRead]
  · have hnegative : b.day.year < 0 := hkeeps.resolve_right fun h => hyear h.1
    rw [asWritten_eq hu hb, if_neg hyear, asRead_of_not hu hyear, if_pos hnegative]

theorem asWritten_eq_gt_iff (hu : u.Shown) (hb : b.OnClock) (hkeeps : b.KeepsBehind) :
    u.asWritten b = .gt ↔ u.asRead b = .gt := by
  by_cases hyear : b.InFourDigits
  · rw [asWritten_eq hu hb, if_pos hyear]
    exact (order_truncated_gt_iff u b).symm
  · have hnegative : b.day.year < 0 := by
      by_contra h
      exact hyear ⟨Int.not_lt.mp h, hkeeps⟩
    rw [asWritten_eq hu hb, if_neg hyear, asRead_of_not hu hyear, if_pos hnegative]

theorem asWritten_eq_eq_iff (hu : u.Shown) (hb : b.OnClock) (hkeeps : b.KeepsSame) :
    u.asWritten b = .eq ↔ u.asRead b = .eq := by
  by_cases hyear : b.InFourDigits
  · rw [asWritten_eq hu hb, if_pos hyear, truncated_eq_self (hkeeps hyear), asRead]
  · rw [asWritten_eq hu hb, if_neg hyear, asRead_of_not hu hyear]
    split <;> decide

/-- The text of an instant with a part of a second is that of the start of its second, which is
before it. -/
theorem asWritten_self (hpart : b.nanos % nanosPerSecond ≠ 0) :
    b.asWritten b = .eq ∧ b.asRead b = .lt :=
  ⟨Text.order_eq_iff.mpr rfl, (order_truncated_lt_iff b b).mpr (.inr ⟨rfl, hpart⟩)⟩

/-- Late years are behind all others in time and before them as texts. -/
theorem asWritten_of_late (hu : u.Shown) (hb : b.OnClock) (hlate : 9999 < b.day.year) :
    u.asWritten b = .gt ∧ u.asRead b = .lt := by
  have hyear : ¬b.InFourDigits := fun h => Int.not_lt.mpr h.2 hlate
  have hnot : ¬b.day.year < 0 := by omega
  rw [asWritten_eq hu hb, if_neg hyear, asRead_of_not hu hyear, if_neg hnot]
  exact ⟨rfl, rfl⟩

section

variable (hb : b.OnClock)
include hb

theorem forall_lt_iff : (∀ u : Instant, u.Shown → (u.asWritten b = .lt ↔ u.asRead b = .lt)) ↔
    b.KeepsBefore := by
  refine ⟨fun h => ?_, fun hkeeps u hu => asWritten_eq_lt_iff hu hb hkeeps⟩
  by_contra hkeeps
  obtain ⟨hyear, hpart⟩ := not_or.mp hkeeps
  by_cases hlate : 9999 < b.day.year
  · have hshown : Shown ⟨0, 0⟩ := by decide
    obtain ⟨hwritten, hread⟩ := asWritten_of_late hshown hb hlate
    have hlt := (h _ hshown).mpr hread
    rw [hwritten] at hlt
    cases hlt
  · have hfour : b.InFourDigits := ⟨Int.not_lt.mp hyear, Int.not_lt.mp hlate⟩
    obtain ⟨hwritten, hread⟩ := asWritten_self fun hwhole => hpart ⟨hfour, hwhole⟩
    have hlt := (h b ⟨hb, hfour⟩).mpr hread
    rw [hwritten] at hlt
    cases hlt

theorem forall_gt_iff : (∀ u : Instant, u.Shown → (u.asWritten b = .gt ↔ u.asRead b = .gt)) ↔
    b.KeepsBehind := by
  refine ⟨fun h => ?_, fun hkeeps u hu => asWritten_eq_gt_iff hu hb hkeeps⟩
  by_contra hlate
  have hshown : Shown ⟨0, 0⟩ := by decide
  obtain ⟨hwritten, hread⟩ := asWritten_of_late hshown hb (Int.not_le.mp hlate)
  have hgt := (h _ hshown).mp hwritten
  rw [hread] at hgt
  cases hgt

theorem forall_eq_iff : (∀ u : Instant, u.Shown → (u.asWritten b = .eq ↔ u.asRead b = .eq)) ↔
    b.KeepsSame := by
  refine ⟨fun h hfour => ?_, fun hkeeps u hu => asWritten_eq_eq_iff hu hb hkeeps⟩
  by_contra hpart
  obtain ⟨hwritten, hread⟩ := asWritten_self hpart
  have heq := (h b ⟨hb, hfour⟩).mp hwritten
  rw [hread] at heq
  cases heq

end

-- ---------------------------------------------------------------------------
-- Two constants
-- ---------------------------------------------------------------------------

/-- Between two instants, both included, by some orders beside them. -/
def isBetween (x y : Ordering) : Bool := x != .lt && y != .gt

/-- Whether no instant is between two constants, neither in time nor as a text. -/
def KeepsApart (low high : Instant) : Prop :=
  ∀ u : Instant, u.Shown → isBetween (u.asWritten low) (u.asWritten high) = false ∧
    isBetween (u.asRead low) (u.asRead high) = false

variable {low high : Instant}

theorem isBetween_iff {x y : Ordering} : isBetween x y = true ↔ x ≠ .lt ∧ y ≠ .gt := by
  rw [isBetween, Bool.and_eq_true, bne_iff_ne, bne_iff_ne]

/-- An instant between two constants, in time and as a text, if the first does not keep its side:
then the start of its second is between them as a text only. -/
theorem isBetween_low (hlow : low.OnClock) (hhigh : high.OnClock) (hu : u.Shown)
    (hwritten : isBetween (u.asWritten low) (u.asWritten high) = true)
    (hread : isBetween (u.asRead low) (u.asRead high) = true) (hkeeps : ¬low.KeepsBefore) :
    low.Shown ∧ isBetween (low.asWritten low) (low.asWritten high) = true ∧
      isBetween (low.asRead low) (low.asRead high) = false := by
  obtain ⟨hyear, hpart⟩ := not_or.mp hkeeps
  rw [isBetween_iff] at hwritten hread
  have hearly : ¬9999 < low.day.year := fun hlate => hread.1 (asWritten_of_late hu hlow hlate).2
  have hfour : low.InFourDigits := ⟨Int.not_lt.mp hyear, Int.not_lt.mp hearly⟩
  have hhighYear : high.InFourDigits := by
    by_contra hnot
    rw [asWritten_eq hu hhigh, if_neg hnot] at hwritten
    exact hwritten.2 rfl
  have hshown : low.Shown := ⟨hlow, hfour⟩
  obtain ⟨hself, hself'⟩ := asWritten_self fun hwhole => hpart ⟨hfour, hwhole⟩
  rw [asWritten_eq hu hlow, if_pos hfour, order_truncated hu.1 hlow, ne_eq, compare_lt_iff_lt,
    asWritten_eq hu hhigh, if_pos hhighYear, order_truncated hu.1 hhigh, ne_eq,
    compare_gt_iff_gt] at hwritten
  refine ⟨hshown, isBetween_iff.mpr ⟨by rw [hself]; decide, ?_⟩, by rw [hself']; rfl⟩
  rw [asWritten_eq hshown hhigh, if_pos hhighYear, order_truncated hlow hhigh, ne_eq,
    compare_gt_iff_gt]
  omega

/-- What is between two constants as a text is between them in time, and the other way round, if
each constant keeps its side, or if nothing is between them at all. -/
theorem forall_isBetween_iff (hlow : low.OnClock) (hhigh : high.OnClock) :
    (∀ u : Instant, u.Shown → isBetween (u.asWritten low) (u.asWritten high)
      = isBetween (u.asRead low) (u.asRead high)) ↔
      low.KeepsBefore ∧ high.KeepsBehind ∨ KeepsApart low high := by
  constructor
  · intro h
    by_cases hbefore : low.KeepsBefore
    · by_cases hbehind : high.KeepsBehind
      · exact .inl ⟨hbefore, hbehind⟩
      · -- A late year is before all texts, so nothing is between the constants as a text.
        refine .inr fun u hu => ?_
        have hwritten := (asWritten_of_late hu hhigh (Int.not_le.mp hbehind)).1
        have hnone : isBetween (u.asWritten low) (u.asWritten high) = false := by
          rw [hwritten, isBetween]
          simp
        exact ⟨hnone, h u hu ▸ hnone⟩
    · refine .inr fun u hu => ?_
      cases hwritten : isBetween (u.asWritten low) (u.asWritten high) with
      | false => exact ⟨rfl, (h u hu).symm.trans hwritten⟩
      | true =>
        obtain ⟨hshown, htrue, hfalse⟩ :=
          isBetween_low hlow hhigh hu hwritten ((h u hu).symm.trans hwritten) hbefore
        rw [h low hshown, hfalse] at htrue
        cases htrue
  · rintro (⟨hbefore, hbehind⟩ | hapart) u hu
    · rw [Bool.eq_iff_iff, isBetween_iff, isBetween_iff, ne_eq, ne_eq,
        asWritten_eq_lt_iff hu hlow hbefore, asWritten_eq_gt_iff hu hhigh hbehind]
    · rw [(hapart u hu).1, (hapart u hu).2]

end Instant

-- ---------------------------------------------------------------------------
-- Leaves
-- ---------------------------------------------------------------------------

/-- The constants for which an operator makes of all texts of shown instants what it makes of the
instants. -/
def Operator.KeepsTimes (o : Operator) (low high : Instant) : Prop :=
  match o with
  | .equal | .notEqual => low.KeepsSame
  | .less | .greaterOrEqual => low.KeepsBefore
  | .lessOrEqual | .greater => low.KeepsBehind
  | .between | .notBetween => low.KeepsBefore ∧ high.KeepsBehind ∨ Instant.KeepsApart low high
  | _ => True

theorem Operator.forall_holds_iff (o : Operator) {low high : Instant} (hlow : low.OnClock)
    (hhigh : high.OnClock) :
    (∀ u : Instant, u.Shown → o.holds (u.asWritten low) (u.asWritten high)
      = o.holds (u.asRead low) (u.asRead high)) ↔ o.KeepsTimes low high := by
  have hbeq : ∀ x y z : Ordering, (x == z) = (y == z) ↔ (x = z ↔ y = z) := by decide
  have hbne : ∀ x y z : Ordering, (x != z) = (y != z) ↔ (x = z ↔ y = z) := by decide
  cases o with
  | equal => simpa only [holds, hbeq, KeepsTimes] using Instant.forall_eq_iff hlow
  | notEqual => simpa only [holds, hbne, KeepsTimes] using Instant.forall_eq_iff hlow
  | less => simpa only [holds, hbeq, KeepsTimes] using Instant.forall_lt_iff hlow
  | greaterOrEqual => simpa only [holds, hbne, KeepsTimes] using Instant.forall_lt_iff hlow
  | greater => simpa only [holds, hbeq, KeepsTimes] using Instant.forall_gt_iff hlow
  | lessOrEqual => simpa only [holds, hbne, KeepsTimes] using Instant.forall_gt_iff hlow
  | between => exact Instant.forall_isBetween_iff hlow hhigh
  | notBetween =>
    simp only [holds, Bool.not_inj_iff, KeepsTimes]
    exact Instant.forall_isBetween_iff hlow hhigh
  | _ => simp only [holds, KeepsTimes, implies_true]

namespace Comparison

variable {c : Comparison} {low high u : Instant}

/-- The constants of a leaf of declared type instant are instants that clocks show. -/
theorem Given.bounds_time (h : c.Given) (hdeclared : c.dataType = .datetime)
    (hcomparison : c.operator.isComparison = true) :
    ∃ low high : Instant, c.Bounds (.time low) (.time high) ∧ low.OnClock ∧ high.OnClock := by
  obtain ⟨low, high, hbounds⟩ := h.bounds (Operator.arity_ne_zero_of_isComparison hcomparison)
  have htime : ∀ v ∈ c.operand.values, ∀ w, c.dataType.coerce? v = some w →
      ∃ b : Instant, w = .time b ∧ b.OnClock := by
    intro v hv w hw
    have htype := Value.dataType?_of_coerce? hw
    have hclock := Value.onClock_of_coerce? (h.onClock v hv) hw
    rw [hdeclared] at htype
    cases w <;> cases htype
    exact ⟨_, rfl, hclock⟩
  obtain ⟨⟨low, rfl, hlow⟩, high, rfl, hhigh⟩ := hbounds.forall htime
  exact ⟨low, high, hbounds, hlow, hhigh⟩

theorem Bounds.selects_time (h : c.Bounds (.time low) (.time high))
    (hcomparison : c.operator.isComparison = true) (u : Instant) :
    c.selects (.datetime, .text u.write)
      = c.operator.holds (u.asWritten low) (u.asWritten high) := by
  have hcompare : ∀ (b : Instant) (o : Comparator),
      Slot.compare (.datetime, .text u.write) o (.ofValue (.time b))
        = some (o.accepts (u.asWritten b)) := by
    intro b o
    have hb : (Cell.ofValue (.time b)).compared .datetime = .text b.write :=
      Cell.compared_write b .datetime
    rw [Slot.compare_eq Cell.noConfusion (by rw [hb]; exact Cell.noConfusion), hb]
    rfl
  exact h.selects_eq hcomparison rfl (hcompare low) (hcompare high)

theorem accepts_datetime {o : Operator} (h : o.isComparison = true) :
    o.accepts .datetime = true := by
  revert h
  cases o <;> decide

theorem Bounds.answer?_time (h : c.Bounds (.time low) (.time high))
    (hdeclared : c.dataType = .datetime) (hcomparison : c.operator.isComparison = true)
    (u : Instant) :
    c.answer? (.time u.truncated) = some (c.operator.holds (u.asRead low) (u.asRead high)) := by
  have hvalue : c.asDeclared (.time u.truncated) = .time u.truncated := by
    rw [asDeclared, hdeclared]
    rfl
  refine h.answer?_eq hcomparison ?_ Value.noConfusion ?_ ?_
  · rw [hdeclared]
    exact accepts_datetime hcomparison
  · rw [hvalue]
    rfl
  · rw [hvalue]
    rfl

/-- An instant of another year is read back as a text, which is compared with no instant. -/
theorem Bounds.answer?_written (h : c.Bounds (.time low) (.time high))
    (hdeclared : c.dataType = .datetime) (hcomparison : c.operator.isComparison = true)
    (hyear : ¬u.InFourDigits) :
    c.answer? (.text u.write)
      = if c.operator.isOrdering then none else some (c.operator == .notEqual) := by
  have hread := Instant.read?_write_of_not hyear
  have hvalue : c.asDeclared (.text u.write) = .text u.write := by
    rw [asDeclared, hdeclared, DataType.coerce?, hread]
    rfl
  refine h.answer?_of_incomparable hcomparison ?_ Value.noConfusion ?_
  · rw [hdeclared]
    exact accepts_datetime hcomparison
  · rw [hvalue, Value.compare?, hread]
    rfl

end Comparison

theorem Value.HasType.time {v : Value} (h : v.HasType .datetime) :
    ∃ u : Instant, v = .time u ∧ u.OnClock := by
  obtain ⟨htype, hclock⟩ := h
  cases v <;> cases htype
  exact ⟨_, rfl, hclock⟩

namespace Comparison

variable {c : Comparison} {low high : Instant}

/-- On a column of instants a leaf keeps the rows of which it is true, for all instants that are
read back as such, exactly if the operator keeps the times of the constants. -/
theorem Bounds.forall_times_iff (h : c.Bounds (.time low) (.time high))
    (hdeclared : c.dataType = .datetime) (hcomparison : c.operator.isComparison = true)
    (hlow : low.OnClock) (hhigh : high.OnClock) :
    (∀ v : Value, v.HasType .datetime →
      ∀ u, ((Cell.ofValue v).stored .datetime).toValue .datetime = .time u →
        (c.selects (.datetime, (Cell.ofValue v).stored .datetime) = true ↔
          c.answer? (.time u) = some true)) ↔ c.operator.KeepsTimes low high := by
  rw [← c.operator.forall_holds_iff hlow hhigh]
  constructor
  · intro hkeep u hu
    have hread := Cell.toValue_write hu.1
    rw [if_pos hu.2] at hread
    have hrow := hkeep (.time u) ⟨rfl, hu.1⟩ u.truncated (by rw [Cell.stored_write, hread])
    rw [Cell.stored_write, h.selects_time hcomparison, h.answer?_time hdeclared hcomparison,
      Option.some_inj] at hrow
    exact Bool.eq_iff_iff.mpr hrow
  · intro hholds v hv u' hu'
    obtain ⟨u, rfl, hclock⟩ := hv.time
    rw [Cell.stored_write, Cell.toValue_write hclock] at hu'
    split at hu'
    · next hyear =>
      cases hu'
      rw [Cell.stored_write, h.selects_time hcomparison, h.answer?_time hdeclared hcomparison,
        hholds u ⟨hclock, hyear⟩, Option.some_inj]
    · cases hu'

/-- An instant of another year is read back as a text, of which a leaf is true only if it asks for
what is not equal, and as a text it is before all constants of four-digit years. -/
theorem Bounds.written (h : c.Bounds (.time low) (.time high)) (hdeclared : c.dataType = .datetime)
    (hcomparison : c.operator.isComparison = true) (hlow : low.InFourDigits)
    (hhigh : high.InFourDigits) {v : Value} (hv : v.HasType .datetime) {s : String}
    (hs : ((Cell.ofValue v).stored .datetime).toValue .datetime = .text s) :
    (c.selects (.datetime, (Cell.ofValue v).stored .datetime) = true ↔
      c.operator ∈ [.notEqual, .less, .lessOrEqual, .notBetween]) ∧
    (c.answer? (.text s) = some true ↔ c.operator = .notEqual) := by
  obtain ⟨u, rfl, hclock⟩ := hv.time
  rw [Cell.stored_write, Cell.toValue_write hclock] at hs
  split at hs
  · cases hs
  · next hyear =>
    cases hs
    have hbefore : ∀ b : Instant, b.InFourDigits → u.asWritten b = .lt := fun b hb => by
      rw [Instant.asWritten, ← Text.order_swap, Instant.order_write_of_not hb hyear]
      rfl
    rw [Cell.stored_write, h.selects_time hcomparison,
      h.answer?_written hdeclared hcomparison hyear, hbefore low hlow, hbefore high hhigh]
    revert hcomparison
    cases c.operator <;> decide

end Comparison

namespace Store

/-- Rows whose instants are of four-digit years are kept exactly if the leaf is true of them, in
all tables, if and only if the operator keeps its constants' times. Of instants of other years a
leaf is true only if it asks for what is not equal; their rows are kept as if they were before
all constants of four-digit years. -/
theorem keeps_times {s made : Store} {id : Int64} {columns : List Column}
    (hmade : s.create id columns = .ok made) {d : Column} (hd : d ∈ columns)
    (htype : d.dataType = .datetime) {c : Comparison} (hfield : c.field = d.name)
    (hdeclared : c.dataType = .datetime) (hcomparison : c.operator.isComparison = true)
    (hgiven : c.Given) :
    ∃ low high : Instant, c.Bounds (.time low) (.time high) ∧
      ((∀ (s : Store) (id : Int64), s.Stocked id columns →
        ∃ t keep, s.find? id = some t ∧ s.Keeps id (.leaf c) t keep ∧
          ∀ cells ∈ t.rows, ∀ u, t.Shows cells d.name (.time u) →
            (keep cells = true ↔
              (Formula.leaf c).isTrue (some (t.context cells)) = .ok true)) ↔
        c.operator.KeepsTimes low high) ∧
      (low.InFourDigits → high.InFourDigits → ∀ (s : Store) (id : Int64), s.Stocked id columns →
        ∃ t keep, s.find? id = some t ∧ s.Keeps id (.leaf c) t keep ∧
          ∀ cells ∈ t.rows, ∀ text, t.Shows cells d.name (.text text) →
            (keep cells = true ↔ c.operator ∈ [.notEqual, .less, .lessOrEqual, .notBetween]) ∧
            ((Formula.leaf c).isTrue (some (t.context cells)) = .ok true ↔
              c.operator = .notEqual)) := by
  obtain ⟨low, high, hbounds, hlow, hhigh⟩ := hgiven.bounds_time hdeclared hcomparison
  refine ⟨low, high, hbounds, ?_, fun hlowYear hhighYear s' id' hs' => ?_⟩
  · rw [← hbounds.forall_times_iff hdeclared hcomparison hlow hhigh]
    have hrows := Comparison.forall_rows_iff hmade hd hfield hgiven
      (R := fun v keep answer => ∀ u, v = .time u → (keep = true ↔ answer = some true))
    rw [htype] at hrows
    constructor
    · intro h v hv u hu
      refine hu ▸ hrows.mp (fun s id hs => ?_) v hv (hu ▸ Value.noConfusion) u hu
      obtain ⟨t, keep, ht, hkeep, hcells⟩ := h s id hs
      refine ⟨t, keep, ht, hkeep, ?_⟩
      rintro cells hmem _ hshows u rfl
      rw [toOption_eq_some_iff]
      exact hcells cells hmem u hshows
    · intro h s id hs
      obtain ⟨t, keep, ht, hkeep, hcells⟩ := hrows.mpr (fun v hv _ u hu => hu ▸ h v hv u hu) s id hs
      refine ⟨t, keep, ht, hkeep, fun cells hmem u hshows => ?_⟩
      rw [← toOption_eq_some_iff]
      exact hcells cells hmem _ hshows u rfl
  · have hrows := (Comparison.forall_rows_iff hmade hd hfield hgiven
      (R := fun v keep answer => ∀ s, v = .text s →
        (keep = true ↔ c.operator ∈ [.notEqual, .less, .lessOrEqual, .notBetween]) ∧
        (answer = some true ↔ c.operator = .notEqual))).mpr ?_
    · obtain ⟨t, keep, ht, hkeep, hcells⟩ := hrows s' id' hs'
      refine ⟨t, keep, ht, hkeep, fun cells hmem text hshows => ?_⟩
      have hrow := hcells cells hmem _ hshows text rfl
      rwa [toOption_eq_some_iff] at hrow
    · rw [htype]
      rintro v hv - s hs
      rw [hs]
      exact hbounds.written hdeclared hcomparison hlowYear hhighYear hv hs

def dueColumns : List Column := [⟨"due", .datetime, false⟩]

def dueTable : Table where
  columns := dueColumns
  rows := [[.text "2024-03-01T09:00:00Z"]]

/-- Half a second past nine, compared with what is due. -/
def dueLeaf (o : Operator) : Comparison :=
  ⟨"due", o, .datetime, .single (.text "2024-03-01T09:00:00.5Z")⟩

theorem keeps_times_due :
    (empty.create 1 dueColumns = .ok (empty.put 1 { columns := dueColumns }) ∧
      (dueLeaf .greater).Given) ∧
    (∀ (s : Store) (id : Int64), s.Stocked id dueColumns →
      ∃ t keep, s.find? id = some t ∧ s.Keeps id (.leaf (dueLeaf .greater)) t keep ∧
        ∀ cells ∈ t.rows, ∀ u, t.Shows cells "due" (.time u) →
          (keep cells = true ↔
            (Formula.leaf (dueLeaf .greater)).isTrue (some (t.context cells)) = .ok true)) ∧
    ¬∀ (s : Store) (id : Int64), s.Stocked id dueColumns →
      ∃ t keep, s.find? id = some t ∧ s.Keeps id (.leaf (dueLeaf .less)) t keep ∧
        ∀ cells ∈ t.rows, ∀ u, t.Shows cells "due" (.time u) →
          (keep cells = true ↔
            (Formula.leaf (dueLeaf .less)).isTrue (some (t.context cells)) = .ok true) := by
  have hmade : empty.create 1 dueColumns = .ok (empty.put 1 { columns := dueColumns }) := by
    decide +kernel
  have hgreater : (dueLeaf .greater).Given := by decide +kernel
  have hless : (dueLeaf .less).Given := by decide +kernel
  have hbounds : ∀ {o : Operator} {low high : Instant},
      (dueLeaf o).Bounds (.time low) (.time high) → low = ⟨1709283600, 500000000⟩ := by
    intro o low high h
    have hread : DataType.coerce? .datetime (.text "2024-03-01T09:00:00.5Z")
        = some (.time ⟨1709283600, 500000000⟩) := by decide +kernel
    cases h with
    | single _ hoperand hw =>
      cases hoperand
      cases hread.symm.trans hw
      rfl
    | range _ hoperand => cases hoperand
  have hd : (⟨"due", .datetime, false⟩ : Column) ∈ dueColumns := List.mem_singleton_self _
  refine ⟨⟨hmade, hgreater⟩, ?_, ?_⟩
  · obtain ⟨low, high, h, hiff, -⟩ :=
      keeps_times hmade hd rfl (c := dueLeaf .greater) rfl rfl rfl hgreater
    refine hiff.mpr ?_
    rw [hbounds h]
    change Instant.KeepsBehind ⟨1709283600, 500000000⟩
    decide +kernel
  · obtain ⟨low, high, h, hiff, -⟩ :=
      keeps_times hmade hd rfl (c := dueLeaf .less) rfl rfl rfl hless
    refine fun hkeeps => absurd (hiff.mp hkeeps) ?_
    rw [hbounds h]
    change ¬Instant.KeepsBefore ⟨1709283600, 500000000⟩
    decide +kernel

/-- What is due at nine is found, and it is not due half a second later. -/
theorem keeps_due_not_equal :
    (empty.put 1 { columns := dueColumns }).insert 1 [[.time ⟨1709283600, 0⟩]]
      = .ok ((empty.put 1 { columns := dueColumns }).put 1 dueTable) ∧
    ((empty.put 1 { columns := dueColumns }).put 1 dueTable).rows 1
      (some (.leaf (dueLeaf .equal))) ["due"] = .ok [[.time ⟨1709283600, 0⟩]] ∧
    (Formula.leaf (dueLeaf .equal)).isTrue
      (some (dueTable.context [.text "2024-03-01T09:00:00Z"])) = .ok false := by
  decide +kernel

end Store

end MailMerge
