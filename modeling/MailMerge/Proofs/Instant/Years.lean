import MailMerge.Proofs.Instant.Clock

/-!
# Years without four digits

A written instant begins with its year. One of four digits stands alone, all others have a sign
in front, and then the text is that of no instant: what would read such a year leaves the letter
at the end of the text. Signs stand before digits, so these instants come first as texts, whatever
their years are.
-/

namespace MailMerge

theorem Text.order_swap (as bs : List Char) : (order as bs).swap = order bs as := by
  induction as generalizing bs with
  | nil => cases bs <;> rfl
  | cons a as ih =>
    cases bs with
    | nil => rfl
    | cons b bs => rw [order, order, Ordering.swap_then, Nat.compare_swap, ih]

namespace Instant

variable {a b t : Instant}

-- ---------------------------------------------------------------------------
-- Characters
-- ---------------------------------------------------------------------------

theorem isDigit_paddedDigits (width n : Nat) : ∀ c ∈ paddedDigits width n, c.isDigit = true := by
  intro c hc
  rcases List.mem_append.mp hc with hc | hc
  · rw [List.eq_of_mem_replicate hc]
    rfl
  · exact Nat.isDigit_of_mem_toDigits (by decide) (by decide) hc

theorem paddedDigits_ne_nil (width n : Nat) : paddedDigits width n ≠ [] :=
  List.append_ne_nil_of_right_ne_nil _ Nat.toDigits_ne_nil

/-- What is written between the year with its dash and the letter at the end. -/
def behindYear (t : Instant) : List Char :=
  paddedDigits 2 t.day.month ++ '-' :: paddedDigits 2 t.day.day ++
    'T' :: paddedDigits 2 t.timeOfDay.1 ++ ':' :: paddedDigits 2 t.timeOfDay.2.1 ++
    ':' :: paddedDigits 2 t.timeOfDay.2.2

theorem toList_write_eq (t : Instant) :
    t.write.toList = yearText t.day.year ++ '-' :: (t.behindYear ++ ['Z']) := by
  rw [write, String.toList_ofList, behindYear]
  simp

/-- A written instant is a sign or none, digits, a dash, and a letter at its end. -/
theorem exists_write (t : Instant) :
    ∃ sign ds, t.write.toList = sign ++ (ds ++ '-' :: (t.behindYear ++ ['Z'])) ∧
      (if t.InFourDigits then sign = [] else sign = ['-'] ∨ sign = ['+']) ∧
      ds ≠ [] ∧ ∀ c ∈ ds, c.isDigit = true := by
  have hdigits := isDigit_paddedDigits 4 t.day.year.natAbs
  have hne := paddedDigits_ne_nil 4 t.day.year.natAbs
  rw [toList_write_eq, yearText]
  by_cases hyear : t.InFourDigits
  · have hrange : 0 ≤ t.day.year ∧ t.day.year ≤ 9999 := hyear
    exact ⟨[], _, by rw [if_pos hrange, List.nil_append], by rw [if_pos hyear], hne, hdigits⟩
  · have hrange : ¬(0 ≤ t.day.year ∧ t.day.year ≤ 9999) := hyear
    refine ⟨[if t.day.year < 0 then '-' else '+'], _, by rw [if_neg hrange]; rfl, ?_, hne, hdigits⟩
    rw [if_neg hyear]
    split
    · exact .inl rfl
    · exact .inr rfl

theorem write_ne_empty (t : Instant) : t.write ≠ "" := by
  obtain ⟨sign, ds, hwrite, -⟩ := t.exists_write
  intro hempty
  rw [hempty] at hwrite
  simp at hwrite

/-- A written instant has no NUL. -/
theorem nul_not_mem_write (t : Instant) : '\x00' ∉ t.write.toList := by
  obtain ⟨sign, ds, hwrite, hsign, -, hds⟩ := t.exists_write
  have hpadded : ∀ width n, '\x00' ∉ paddedDigits width n := fun width n hmem =>
    absurd (isDigit_paddedDigits width n _ hmem) (by decide)
  have hyear : '\x00' ∉ ds := fun hmem => absurd (hds _ hmem) (by decide)
  have hsigned : '\x00' ∉ sign := by
    split at hsign
    · rw [hsign]
      exact List.not_mem_nil
    · rcases hsign with rfl | rfl <;> decide
  rw [hwrite]
  simp [hsigned, hyear, behindYear, hpadded]

/-- A written instant keeps its ends where neither signs nor digits nor its last letter are taken
off. -/
theorem dropEnds_write {p : Char → Bool} (hdigit : ∀ c : Char, c.isDigit = true → p c = false)
    (hsigns : p '-' = false ∧ p '+' = false) (hletter : p 'Z' = false) (t : Instant) :
    ((t.write.toList.dropWhile p).reverse.dropWhile p).reverse = t.write.toList := by
  obtain ⟨sign, ds, hwrite, hsign, hne, hds⟩ := t.exists_write
  rw [hwrite]
  refine Text.dropEnds_eq_self (fun c hc => ?_) fun c hc => ?_
  · split at hsign
    · subst hsign
      obtain ⟨d, ds, rfl⟩ := List.exists_cons_of_ne_nil hne
      cases hc
      exact hdigit _ (hds _ List.mem_cons_self)
    · rcases hsign with rfl | rfl
      · cases hc
        exact hsigns.1
      · cases hc
        exact hsigns.2
  · have hlast : (sign ++ (ds ++ '-' :: (t.behindYear ++ ['Z']))).getLast? = some 'Z' := by
      simp [List.getLast?_append, List.getLast?_cons]
    rw [hlast, Option.mem_some_iff] at hc
    exact hc ▸ hletter

theorem trim_write (t : Instant) : Text.trim t.write.toList = t.write.toList :=
  dropEnds_write (fun _ => isBlank_of_isDigit) (by decide) (by decide) t

-- ---------------------------------------------------------------------------
-- Reading
-- ---------------------------------------------------------------------------

/-- What is read off a text has no `Z`. -/
def Passes (cs rest : List Char) : Prop := ∃ ds, cs = ds ++ rest ∧ 'Z' ∉ ds

variable {cs rest rest' : List Char}

theorem Passes.refl (cs : List Char) : Passes cs cs := ⟨[], rfl, List.not_mem_nil⟩

theorem Passes.trans (h : Passes cs rest) (h' : Passes rest rest') : Passes cs rest' := by
  obtain ⟨ds, rfl, hds⟩ := h
  obtain ⟨ds', rfl, hds'⟩ := h'
  exact ⟨ds ++ ds', (List.append_assoc ..).symm, by simp [hds, hds']⟩

theorem Passes.cons {c : Char} (hc : c ≠ 'Z') (h : Passes cs rest) : Passes (c :: cs) rest :=
  .trans ⟨[c], rfl, by simpa using hc.symm⟩ h

theorem passes_dropWhile {p : Char → Bool} (hp : p 'Z' = false) (cs : List Char) :
    Passes cs (cs.dropWhile p) := by
  refine ⟨cs.takeWhile p, (List.takeWhile_append_dropWhile ..).symm, fun hmem => ?_⟩
  have hletter := List.mem_takeWhile_imp hmem
  rw [hp] at hletter
  cases hletter

theorem passes_trimStart (cs : List Char) : Passes cs (Text.trimStart cs) :=
  passes_dropWhile (by decide) cs

theorem passes_number? {least most n : Nat} (h : number? least most cs = some (n, rest)) :
    Passes cs rest := by
  rw [number?] at h
  split at h
  · cases h
  · cases h
    have hprefix : (cs.take most).takeWhile Char.isDigit <+: cs :=
      (List.takeWhile_prefix _).trans (List.take_prefix ..)
    refine ⟨_, List.prefix_iff_eq_append.mp hprefix |>.symm, fun hmem => ?_⟩
    exact absurd (List.mem_takeWhile_imp hmem) (by decide)

theorem passes_char? {c : Char} (hc : c ≠ 'Z') (h : char? c cs = some rest) : Passes cs rest := by
  cases cs with
  | nil => cases h
  | cons d ds =>
    rw [char?] at h
    split at h
    · next heq =>
      cases h
      exact .cons (beq_iff_eq.mp heq ▸ hc) (.refl _)
    · cases h

theorem passes_fraction? {n : Nat} (h : fraction? cs = some (n, rest)) : Passes cs rest := by
  obtain ⟨-, rfl⟩ := fraction?_eq_some h
  exact passes_dropWhile (by decide) cs

theorem passes_optionalFraction? {n : Nat} (h : optionalFraction? cs = some (n, rest)) :
    Passes cs rest := by
  rw [optionalFraction?.eq_def] at h
  split at h
  · exact .cons (by decide) (passes_fraction? h)
  · cases h
    exact .refl _

theorem passes_offset? {n : Int} (h : offset? (some ∘ dropDividers) cs = some (n, rest)) :
    Passes cs rest := by
  obtain ⟨sign, hsign, _, _, cs₁, cs₂, _, rfl, hhours, hdivide, hminutes, -⟩ := offset?_eq_some h
  cases hdivide
  have hletter : sign ≠ 'Z' := by
    rintro rfl
    exact absurd hsign (by decide)
  exact .cons hletter ((passes_number? hhours).trans
    ((passes_dropWhile (by decide) cs₂).trans (passes_number? hminutes)))

theorem passes_year? {n : Int} (h : year? cs = some (n, rest)) : Passes cs rest := by
  refine (passes_trimStart cs).trans ?_
  rw [year?] at h
  split at h
  · next ds heq =>
    obtain ⟨r, hr, heq'⟩ := Option.map_eq_some_iff.mp h
    cases heq'
    rw [heq]
    exact .cons (by decide) (passes_number? hr)
  · next ds heq =>
    obtain ⟨r, hr, heq'⟩ := Option.map_eq_some_iff.mp h
    cases heq'
    rw [heq]
    exact .cons (by decide) (passes_number? hr)
  · obtain ⟨r, hr, heq⟩ := Option.map_eq_some_iff.mp h
    cases heq
    exact passes_number? hr

theorem passes_short? {n : Nat} (h : short? cs = some (n, rest)) : Passes cs rest :=
  (passes_trimStart cs).trans (passes_number? h)

/-- No part of a layout reads a `Z`. -/
theorem Part.passes {p : Part} (hp : p ≠ .mark 'Z') {f f' : Fields}
    (h : p.read? f cs = some (f', rest)) : Passes cs rest := by
  cases p with
  | blanks =>
    cases h
    exact passes_trimStart cs
  | year =>
    obtain ⟨r, hr, heq⟩ := Option.map_eq_some_iff.mp h
    cases heq
    exact passes_year? hr
  | month | day | hour | minute | second =>
    obtain ⟨r, hr, heq⟩ := Option.map_eq_some_iff.mp h
    cases heq
    exact passes_short? hr
  | fraction =>
    obtain ⟨r, hr, heq⟩ := Option.map_eq_some_iff.mp h
    cases heq
    exact passes_optionalFraction? hr
  | offset =>
    obtain ⟨r, hr, heq⟩ := Option.map_eq_some_iff.mp h
    cases heq
    exact (passes_trimStart cs).trans (passes_offset? hr)
  | mark c =>
    obtain ⟨r, hr, heq⟩ := Option.map_eq_some_iff.mp h
    cases heq
    exact passes_char? (fun heq => hp (heq ▸ rfl)) hr

/-- A text with a `Z` fits no layout whose parts read none. -/
theorem readParts?_eq_none {ps : List Part} (hps : Part.mark 'Z' ∉ ps) (hcs : 'Z' ∈ cs)
    (f : Fields) : readParts? ps f cs = none := by
  induction ps generalizing f cs with
  | nil =>
    rw [readParts?, if_neg]
    rw [List.isEmpty_iff]
    exact List.ne_nil_of_mem hcs
  | cons p ps ih =>
    rw [List.mem_cons, not_or] at hps
    rw [readParts?]
    cases hread : p.read? f cs with
    | none => rfl
    | some r =>
      obtain ⟨ds, rfl, hds⟩ := Part.passes (Ne.symm hps.1) hread
      exact ih hps.2 ((List.mem_append.mp hcs).resolve_left hds) r.1

/-- A written instant of another year is not read at all. -/
theorem read?_write_of_not (hyear : ¬t.InFourDigits) : read? t.write = none := by
  obtain ⟨sign, ds, hwrite, hsign, -, -⟩ := t.exists_write
  rw [if_neg hyear] at hsign
  have hsigned : ∀ c cs, c.isDigit = false → readInternet? (c :: cs) = none := by
    intro c cs hc
    have hnumber : number? 4 4 (c :: cs) = none := by simp [number?, hc]
    rw [readInternet?, hnumber]
    rfl
  have hinternet : readInternet? t.write.toList = none := by
    rw [hwrite]
    rcases hsign with rfl | rfl
    · exact hsigned '-' _ rfl
    · exact hsigned '+' _ rfl
  have hletter : 'Z' ∈ t.write.toList := by
    rw [hwrite]
    simp
  have hlayouts : layouts.findSome? (fun parts =>
      (readParts? parts {} t.write.toList).bind Fields.toInstant?) = none := by
    rw [List.findSome?_eq_none_iff]
    intro parts hparts
    have hpart : ∀ parts ∈ layouts, Part.mark 'Z' ∉ parts := by decide
    rw [readParts?_eq_none (hpart parts hparts) hletter, Option.bind_none]
  rw [read?, trim_write, hinternet, hlayouts]
  rfl

/-- A written instant is read back to the second, or not at all. -/
theorem read?_write_eq (hclock : t.OnClock) :
    read? t.write = if t.InFourDigits then some t.truncated else none := by
  split
  · next hyear => exact read?_write hclock hyear
  · next hyear => exact read?_write_of_not hyear

-- ---------------------------------------------------------------------------
-- Order
-- ---------------------------------------------------------------------------

theorem order_eq_lt_of_year (h : a.day.year < b.day.year) : a.order b = .lt := by
  have hdays : compare (a.seconds / secondsPerDay) (b.seconds / secondsPerDay) = .lt := by
    rw [← Day.order_ofDayNumber, Day.order]
    change (compare a.day.year b.day.year).then _ = _
    rw [compare_lt_iff_lt.mpr h]
    rfl
  have hseconds : a.seconds < b.seconds := by
    have hday : (secondsPerDay : Int) = 86400 := rfl
    rw [hday, compare_lt_iff_lt] at hdays
    omega
  rw [order, compare_lt_iff_lt.mpr hseconds]
  rfl

theorem order_eq_gt_of_year (h : b.day.year < a.day.year) : a.order b = .gt := by
  have hdays : compare (a.seconds / secondsPerDay) (b.seconds / secondsPerDay) = .gt := by
    rw [← Day.order_ofDayNumber, Day.order]
    change (compare a.day.year b.day.year).then _ = _
    rw [compare_gt_iff_gt.mpr h]
    rfl
  have hseconds : b.seconds < a.seconds := by
    have hday : (secondsPerDay : Int) = 86400 := rfl
    rw [hday, compare_gt_iff_gt] at hdays
    omega
  rw [order, compare_gt_iff_gt.mpr hseconds]
  rfl

/-- Instants of other years stand before those of four digits as texts. -/
theorem order_write_of_not (ha : a.InFourDigits) (hb : ¬b.InFourDigits) :
    Text.order a.write.toList b.write.toList = .gt := by
  obtain ⟨sign, ds, hwrite, hsign, hne, hds⟩ := a.exists_write
  obtain ⟨sign', ds', hwrite', hsign', -, -⟩ := b.exists_write
  rw [if_pos ha] at hsign
  rw [if_neg hb] at hsign'
  obtain ⟨d, ds, rfl⟩ := List.exists_cons_of_ne_nil hne
  have hdigit : 48 ≤ d.toNat := by
    have hd := hds d List.mem_cons_self
    rw [Char.isDigit, Bool.and_eq_true, decide_eq_true_eq] at hd
    exact UInt32.le_iff_toNat_le.mp hd.1
  have hfirst : ∀ c : Char, c.toNat < 48 → ∀ xs ys, Text.order (d :: xs) (c :: ys) = .gt := by
    intro c hc xs ys
    rw [Text.order, compare_gt_iff_gt.mpr (Nat.lt_of_lt_of_le hc hdigit)]
    rfl
  rw [hwrite, hwrite', hsign]
  rcases hsign' with rfl | rfl
  · exact hfirst '-' (by decide) _ _
  · exact hfirst '+' (by decide) _ _

theorem write_truncated (t : Instant) : t.truncated.write = t.write := by
  have hleap : t.truncated.nanos / nanosPerSecond = t.nanos / nanosPerSecond :=
    Nat.mul_div_cancel _ (by decide)
  have htime : t.truncated.timeOfDay = t.timeOfDay := by
    rw [timeOfDay, timeOfDay, hleap]
    rfl
  rw [write, write, htime]
  rfl

/-- Behind an instant is on a whole second what is behind its start. -/
theorem order_truncated_gt_iff (a b : Instant) :
    a.truncated.order b = .gt ↔ a.truncated.order b.truncated = .gt := by
  have hnanos : b.nanos < a.truncated.nanos ↔ b.truncated.nanos < a.truncated.nanos := by
    simp only [truncated, nanosPerSecond]
    omega
  simp only [order, Ordering.then_eq_gt, compare_gt_iff_gt, hnanos]
  rfl

/-- Before an instant is on a whole second its start, and what is before that. -/
theorem order_truncated_lt_iff (a b : Instant) :
    a.truncated.order b = .lt ↔ a.truncated.order b.truncated = .lt ∨
      a.truncated = b.truncated ∧ b.nanos % nanosPerSecond ≠ 0 := by
  have hnanos : a.truncated.nanos < b.nanos ↔ a.truncated.nanos < b.truncated.nanos ∨
      a.truncated.nanos = b.truncated.nanos ∧ b.nanos % nanosPerSecond ≠ 0 := by
    simp only [truncated, nanosPerSecond]
    omega
  have hsame : a.truncated = b.truncated ↔
      a.seconds = b.seconds ∧ a.truncated.nanos = b.truncated.nanos := by
    simp [truncated]
  have hseconds : a.truncated.seconds = a.seconds ∧ b.truncated.seconds = b.seconds := ⟨rfl, rfl⟩
  simp only [order, Ordering.then_eq_lt, compare_lt_iff_lt, compare_eq_iff_eq, hnanos, hsame,
    hseconds]
  constructor
  · rintro (h | ⟨h, h' | ⟨h', hpart⟩⟩)
    · exact .inl (.inl h)
    · exact .inl (.inr ⟨h, h'⟩)
    · exact .inr ⟨⟨h, h'⟩, hpart⟩
  · rintro ((h | ⟨h, h'⟩) | ⟨⟨h, h'⟩, hpart⟩)
    · exact .inl h
    · exact .inr ⟨h, .inl h'⟩
    · exact .inr ⟨h, .inr ⟨h', hpart⟩⟩

end Instant

end MailMerge
