import MailMerge.Proofs.Double.Decimal
import MailMerge.Proofs.Table.Stored

/-!
# Digits read as integers

A text of digits, with a sign and blanks around it, denotes a whole number. Within the range of
integers it is read as that number. Outside it the double of the digits is tried, which rounding
can take back to the least integer; everything else is refused.
-/

namespace MailMerge

-- ---------------------------------------------------------------------------
-- Blanks around a text
-- ---------------------------------------------------------------------------

/-- Blanks around a text are removed, and nothing else. -/
theorem Text.trim_surrounded {before cs after : List Char}
    (hbefore : ∀ c ∈ before, isBlank c = true) (hafter : ∀ c ∈ after, isBlank c = true)
    (hne : cs ≠ []) (hfirst : ∀ c ∈ cs.head?, isBlank c = false)
    (hlast : ∀ c ∈ cs.getLast?, isBlank c = false) : trim (before ++ cs ++ after) = cs := by
  obtain ⟨c, cs, rfl⟩ := List.exists_cons_of_ne_nil hne
  have hkept : ∀ ds, (c :: ds).dropWhile isBlank = c :: ds := fun ds =>
    List.dropWhile_cons_of_neg (by simp [hfirst c rfl])
  have hself := dropEnds_eq_self hfirst hlast
  rw [hkept] at hself
  rw [trim, trimEnd, trimStart, List.append_assoc, List.dropWhile_append_of_pos hbefore,
    List.cons_append, hkept, ← List.cons_append, List.reverse_append,
    List.dropWhile_append_of_pos fun d hd => hafter d (List.mem_reverse.mp hd), hself]

-- ---------------------------------------------------------------------------
-- Numerals
-- ---------------------------------------------------------------------------

/-- A sign, which may be left out, and the unit it stands for. -/
inductive Sign : List Char → Int → Prop
  | none : Sign [] 1
  | plus : Sign ['+'] 1
  | minus : Sign ['-'] (-1)

/-- A text of decimal digits with an optional sign, blanks around it, and the whole number it
denotes. -/
inductive Numeral : List Char → Int → Prop
  | intro {before sign ds after : List Char} {unit : Int}
    (hbefore : ∀ c ∈ before, isBlank c = true) (hsign : Sign sign unit) (hne : ds ≠ [])
    (hds : ∀ c ∈ ds, c.isDigit = true) (hafter : ∀ c ∈ after, isBlank c = true) :
    Numeral (before ++ (sign ++ ds) ++ after) (unit * Nat.ofDigitChars 10 ds 0)

namespace Sign

variable {sign ds : List Char} {unit : Int}

theorem splitSign_append (h : Sign sign unit) (hne : ds ≠ []) (hds : ∀ c ∈ ds, c.isDigit = true) :
    ∃ negative, Double.splitSign (sign ++ ds) = (negative, ds) ∧
      unit = if negative then -1 else 1 := by
  cases h with
  | none =>
    obtain ⟨d, ds, rfl⟩ := List.exists_cons_of_ne_nil hne
    exact ⟨false, Double.splitSign_of_isDigit (hds d List.mem_cons_self) ds, rfl⟩
  | plus => exact ⟨false, rfl, rfl⟩
  | minus => exact ⟨true, rfl, rfl⟩

theorem trim_append (h : Sign sign unit) (hne : ds ≠ []) (hds : ∀ c ∈ ds, c.isDigit = true)
    {before after : List Char} (hbefore : ∀ c ∈ before, isBlank c = true)
    (hafter : ∀ c ∈ after, isBlank c = true) :
    Text.trim (before ++ (sign ++ ds) ++ after) = sign ++ ds := by
  have hblank : ∀ c ∈ sign ++ ds, isBlank c = false := by
    intro c hc
    rcases List.mem_append.mp hc with hc | hc
    · have hsigns : ∀ c ∈ sign, c = '+' ∨ c = '-' := by
        cases h <;> simp
      rcases hsigns c hc with rfl | rfl <;> decide
    · exact Instant.isBlank_of_isDigit (hds c hc)
  refine Text.trim_surrounded hbefore hafter (List.append_ne_nil_of_right_ne_nil _ hne)
    (fun c hc => hblank c (List.mem_of_mem_head? hc))
    fun c hc => hblank c (List.mem_of_mem_getLast? hc)

end Sign

-- ---------------------------------------------------------------------------
-- Digits as whole numbers and as doubles
-- ---------------------------------------------------------------------------

theorem toLower_of_isDigit {c : Char} (h : c.isDigit = true) : c.toLower = c := by
  rw [Char.isDigit, Bool.and_eq_true, decide_eq_true_eq, decide_eq_true_eq] at h
  have hupper : ¬(c.val ≥ 'A'.val ∧ c.val ≤ 'Z'.val) := fun hupper =>
    absurd (UInt32.le_trans hupper.1 h.2) (by decide)
  exact dif_neg hupper

theorem digitsValue_eq (ds : List Char) : digitsValue ds = Nat.ofDigitChars 10 ds 0 := rfl

section

variable {cs ds : List Char} {negative : Bool} (hsplit : Double.splitSign cs = (negative, ds))
  (hne : ds ≠ []) (hds : ∀ c ∈ ds, c.isDigit = true)

include hsplit hne hds

theorem readInt?_digits :
    readInt? cs = some ((if negative then -1 else 1) * (digitsValue ds : Int)) := by
  have hempty : ds.isEmpty = false := List.isEmpty_eq_false_iff.mpr hne
  have hall : ds.all Char.isDigit = true := List.all_eq_true.mpr hds
  rw [readInt?, hsplit]
  simp only [hempty, hall, Bool.not_true, Bool.or_self, Bool.false_eq_true, if_false]
  split <;> simp

theorem Double.read?_digits :
    Double.read? (String.ofList cs) = some (ofDecimal negative (digitsValue ds) 0) := by
  have hempty : ds.isEmpty = false := List.isEmpty_eq_false_iff.mpr hne
  have hspan : spanDigits ds = (ds, []) := by
    have happend : spanDigits (ds ++ []) = (ds, []) := spanDigits_append hds (by simp)
    rwa [List.append_nil] at happend
  -- None of the words for infinity and for no number starts with a digit.
  have hword : ∀ s : String, (∀ c ∈ s.toList.head?, c.isDigit = false) →
      (String.ofList (ds.map Char.toLower) == s) = false := by
    intro s hfirst
    rw [beq_eq_false_iff_ne]
    rintro rfl
    obtain ⟨d, ds, rfl⟩ := List.exists_cons_of_ne_nil hne
    have hdigit : d.isDigit = true := hds d List.mem_cons_self
    rw [String.toList_ofList, List.map_cons, toLower_of_isDigit hdigit] at hfirst
    rw [hfirst d rfl] at hdigit
    cases hdigit
  have hreal : readDigits? negative ds = some (ofDecimal negative (digitsValue ds) 0) := by
    rw [readDigits?, hspan]
    simp only [hempty, Bool.false_and, Bool.false_eq_true, if_false, readExponent?, Option.map_some,
      List.append_nil]
    rfl
  have hinfinity := hword "infinity" (by decide)
  have hinf := hword "inf" (by decide)
  have hnan := hword "nan" (by decide)
  rw [Double.read?, String.toList_ofList, hsplit]
  simp only [hinf, hinfinity, hnan, Bool.or_self, Bool.false_eq_true, if_false, hreal]

end

namespace DataType

/-- Digits within the range of integers are read as their integer. -/
theorem integerOfText?_of_fits {s : String} {n : Int} (h : Numeral s.toList n)
    (hlow : -2 ^ 63 ≤ n) (hhigh : n < 2 ^ 63) : integerOfText? s = some (.ofInt n) := by
  generalize hcs : s.toList = cs at h
  obtain ⟨hbefore, hsign, hne, hds, hafter⟩ := h
  obtain ⟨negative, hsplit, rfl⟩ := hsign.splitSign_append hne hds
  have hread := readInt?_digits hsplit hne hds
  rw [digitsValue_eq] at hread
  rw [integerOfText?, hcs, hsign.trim_append hne hds hbefore hafter]
  simp only [hread, Option.bind_some, int64?, if_pos (And.intro hlow hhigh)]

/-- Digits outside the range are refused, but those that are rounded to the least integer. -/
theorem integerOfText?_of_not_fits {s : String} {n : Int} (h : Numeral s.toList n)
    (hfits : ¬(-2 ^ 63 ≤ n ∧ n < 2 ^ 63)) :
    integerOfText? s
      = if -2 ^ 63 - 2 ^ 10 ≤ n ∧ n < -2 ^ 63 then some (.ofInt (-2 ^ 63)) else none := by
  generalize hcs : s.toList = cs at h
  obtain @⟨_, _, ds, _, _, hbefore, hsign, hne, hds, hafter⟩ := h
  obtain ⟨negative, hsplit, rfl⟩ := hsign.splitSign_append hne hds
  have hread := readInt?_digits hsplit hne hds
  have hreal := Double.read?_digits hsplit hne hds
  rw [digitsValue_eq] at hread hreal
  generalize Nat.ofDigitChars 10 ds 0 = k at *
  obtain ⟨hlarge, hnear⟩ : 2 ^ 63 ≤ k ∧
      ((-2 ^ 63 - 2 ^ 10 ≤ (if negative then -1 else 1) * (k : Int) ∧
        (if negative then -1 else 1) * (k : Int) < -2 ^ 63) ↔
          negative = true ∧ k ≤ 2 ^ 63 + 2 ^ 10) := by
    cases negative with
    | false =>
      simp only [Bool.false_eq_true, if_false, false_and, iff_false] at hfits ⊢
      omega
    | true =>
      simp only [if_true, true_and] at hfits ⊢
      omega
  rw [integerOfText?, hcs, hsign.trim_append hne hds hbefore hafter]
  simp only [hread, hreal, Option.bind_some, int64?, if_neg hfits]
  rw [Double.int64?_ofDecimal hlarge, if_congr hnear rfl rfl]

/-- Which integer digits are read as: their own within the range of integers, and the least one
where rounding takes them back to it. -/
theorem integer_of_numeral {s : String} {n : Int} (h : Numeral s.toList n) :
    DataType.integer.coerce? (.text s)
      = if -2 ^ 63 ≤ n ∧ n < 2 ^ 63 then some (.int (.ofInt n))
        else if -2 ^ 63 - 2 ^ 10 ≤ n ∧ n < -2 ^ 63 then some (.int (.ofInt (-2 ^ 63)))
        else none := by
  rw [coerce?]
  split
  · next hfits => rw [integerOfText?_of_fits h hfits.1 hfits.2, Option.map_some]
  · next hfits =>
    rw [integerOfText?_of_not_fits h hfits]
    split <;> rfl

theorem integer_of_numeral_near :
    (Numeral " +0042\n".toList 42 ∧
      Numeral "-9223372036854776832".toList (-2 ^ 63 - 2 ^ 10) ∧
      Numeral "-9223372036854776833".toList (-2 ^ 63 - 2 ^ 10 - 1)) ∧
    DataType.integer.coerce? (.text " +0042\n") = some (.int 42) ∧
    DataType.integer.coerce? (.text "-9223372036854776832")
      = some (.int (-9223372036854775808)) ∧
    DataType.integer.coerce? (.text "-9223372036854776833") = none := by
  have hplus : Numeral " +0042\n".toList 42 :=
    @Numeral.intro [' '] ['+'] "0042".toList ['\n'] 1 (by decide) .plus (by decide) (by decide)
      (by decide)
  have hnear : Numeral "-9223372036854776832".toList (-2 ^ 63 - 2 ^ 10) :=
    @Numeral.intro [] ['-'] "9223372036854776832".toList [] (-1) (by decide) .minus (by decide)
      (by decide) (by decide)
  have hfar : Numeral "-9223372036854776833".toList (-2 ^ 63 - 2 ^ 10 - 1) :=
    @Numeral.intro [] ['-'] "9223372036854776833".toList [] (-1) (by decide) .minus (by decide)
      (by decide) (by decide)
  refine ⟨⟨hplus, hnear, hfar⟩, ?_⟩
  rw [integer_of_numeral hplus, integer_of_numeral hnear, integer_of_numeral hfar]
  decide

/-- Digits that denote one less than the least integer are not refused. -/
theorem accepts_below_least : Numeral "-9223372036854775809".toList (-2 ^ 63 - 1) ∧
    DataType.integer.coerce? (.text "-9223372036854775809")
      = some (.int (-9223372036854775808)) := by
  refine ⟨?_, by decide +kernel⟩
  exact @Numeral.intro [] ['-'] "9223372036854775809".toList [] (-1) (by decide) .minus (by decide)
    (by decide) (by decide)

end DataType

end MailMerge
