import MailMerge.Document.Json.Reader
import MailMerge.Document.Json.Writer
import MailMerge.Proofs.Text.Digits

/-!
# Written scalars

A string and a whole number are read back from the text they are written as, whatever stands
behind a string, and whatever does not go on with the number.
-/

namespace MailMerge

namespace Json

-- ---------------------------------------------------------------------------
-- Strings
-- ---------------------------------------------------------------------------

theorem hex4?_control : ∀ n < 0x20,
    hex4? '0' '0' (Nat.digitChar (n / 16)) (Nat.digitChar (n % 16)) = some n := by decide

theorem stringRest?_control {n : Nat} (hn : n < 0x20) (rest : List Char) :
    stringRest? ('\\' :: 'u' :: '0' :: '0' :: Nat.digitChar (n / 16) :: Nat.digitChar (n % 16)
      :: rest) = (stringRest? rest).map fun r => (Char.ofNat n :: r.1, r.2) := by
  have hlow : isLowSurrogate n = false := by simp [isLowSurrogate]; omega
  have hhigh : isHighSurrogate n = false := by simp [isHighSurrogate]; omega
  rw [stringRest?, hex4?_control n hn]
  simp only [hlow, hhigh, Bool.false_eq_true, if_false]

/-- A character that stands for itself. -/
theorem stringRest?_cons {c : Char} (hquote : c ≠ '"') (hslash : c ≠ '\\') (hc : 0x20 ≤ c.toNat)
    (rest : List Char) :
    stringRest? (c :: rest) = (stringRest? rest).map fun r => (c :: r.1, r.2) := by
  rw [stringRest?]
  · simp [hslash, Nat.not_lt.mpr hc]
  · exact hquote
  · exact fun _ _ _ _ _ heq => absurd heq hslash
  · exact fun _ _ heq => absurd heq hslash

/-- The characters that are escaped by one other character. -/
def shortEscapes : List Char := ['"', '\\', '\n', '\r', '\t', '\x08', '\x0c']

theorem escapeChar_of_not_mem {c : Char} (h : c ∉ shortEscapes) :
    escapeChar c = if c.toNat < 0x20 then
      ['\\', 'u', '0', '0', Nat.digitChar (c.toNat / 16), Nat.digitChar (c.toNat % 16)]
    else [c] := by
  simp only [shortEscapes, List.mem_cons, List.not_mem_nil, or_false, not_or] at h
  simp [escapeChar, h]

/-- A character is read back from what it is written as. -/
theorem stringRest?_escapeChar_append (c : Char) (rest : List Char) :
    stringRest? (escapeChar c ++ rest) = (stringRest? rest).map fun r => (c :: r.1, r.2) := by
  by_cases hshort : c ∈ shortEscapes
  · simp only [shortEscapes, List.mem_cons, List.not_mem_nil, or_false] at hshort
    rcases hshort with rfl | rfl | rfl | rfl | rfl | rfl | rfl <;> rfl
  · rw [escapeChar_of_not_mem hshort]
    split
    · next hc =>
      have hcontrol := stringRest?_control hc rest
      rwa [Char.ofNat_toNat] at hcontrol
    · next hc =>
      have hquote : c ≠ '"' := fun heq => hshort (by rw [heq]; decide)
      have hslash : c ≠ '\\' := fun heq => hshort (by rw [heq]; decide)
      exact stringRest?_cons hquote hslash (Nat.not_lt.mp hc) rest

theorem stringRest?_written (cs rest : List Char) :
    stringRest? (cs.flatMap escapeChar ++ '"' :: rest) = some (cs, rest) := by
  induction cs with
  | nil => rw [List.flatMap_nil, List.nil_append, stringRest?]
  | cons c cs ih =>
    rw [List.flatMap_cons, List.append_assoc, stringRest?_escapeChar_append, ih]
    rfl

-- ---------------------------------------------------------------------------
-- Whole numbers
-- ---------------------------------------------------------------------------

/-- Whether a number does not go on with a text that stands behind it. -/
def EndsNumber (rest : List Char) : Prop :=
  ∀ c ∈ rest.head?, c.isDigit = false ∧ c ∉ ['.', 'e', 'E']

theorem le_ofDigitChars (m : Nat) (cs : List Char) : m ≤ Nat.ofDigitChars 10 cs m := by
  induction cs generalizing m with
  | nil => exact Nat.le_refl m
  | cons c cs ih =>
    have hstep : m ≤ 10 * m + (c.toNat - '0'.toNat) := by omega
    exact hstep.trans (ih _)

/-- Digits of a number of 64 bits are all used. -/
theorem appendDigits_eq {m : Nat} {cs : List Char} (h : Nat.ofDigitChars 10 cs m < 2 ^ 64) :
    appendDigits m cs = (Nat.ofDigitChars 10 cs m, cs.length, 0) := by
  induction cs generalizing m with
  | nil => rfl
  | cons c cs ih =>
    have hstep : 10 * m + digitValue c < 2 ^ 64 := (le_ofDigitChars _ cs).trans_lt h
    have hrest := ih (m := 10 * m + digitValue c) h
    rw [appendDigits]
    simp only [hstep, if_true, hrest]
    rfl

/-- Digits of a number start with a zero only where there is no other digit. -/
theorem toDigits_eq_zero_cons {n : Nat} {cs : List Char} (h : Nat.toDigits 10 n = '0' :: cs) :
    cs = [] := by
  induction n using Nat.strongRecOn generalizing cs with
  | ind n ih =>
    rw [Nat.toDigits_eq_if (by decide)] at h
    split at h
    · exact (List.cons.inj h).2.symm
    · next hn =>
      obtain ⟨d, ds, hds⟩ := List.exists_cons_of_ne_nil
        (Nat.toDigits_ne_nil (n := n / 10) (b := 10))
      rw [hds, List.cons_append] at h
      obtain ⟨rfl, -⟩ := List.cons.inj h
      have hzero : Nat.toDigits 10 (n / 10) = ['0'] := by
        rw [hds, ih (n / 10) (by omega) hds]
      have hvalue := Nat.ofDigitChars_toDigits (b := 10) (n := n / 10) (by decide) (by decide)
      rw [hzero] at hvalue
      have hsmall : n / 10 = 0 := hvalue.symm
      omega

theorem isDigit_toDigits (n : Nat) : ∀ c ∈ Nat.toDigits 10 n, c.isDigit = true := fun _ hc =>
  Nat.isDigit_of_mem_toDigits (by decide) (by decide) hc

theorem wholeDigits?_toDigits (n : Nat) {rest : List Char} (hrest : EndsNumber rest) :
    wholeDigits? (Nat.toDigits 10 n ++ rest) = some (Nat.toDigits 10 n, rest) := by
  rw [wholeDigits?, spanDigits_append (isDigit_toDigits n) fun c hc => (hrest c hc).1]
  match hds : Nat.toDigits 10 n with
  | [] => exact absurd hds Nat.toDigits_ne_nil
  | d :: ds =>
    by_cases hd : d = '0'
    · rw [hd] at hds ⊢
      rw [toDigits_eq_zero_cons hds]
      rfl
    · simp [hd]

theorem fractionDigits?_of_ends {rest : List Char} (hrest : EndsNumber rest) :
    fractionDigits? rest = some (none, rest) := by
  match rest with
  | [] => rfl
  | c :: cs =>
    have hc : c ≠ '.' := fun heq => (hrest c rfl).2 (by simp [heq])
    rw [fractionDigits?]
    rintro _ ⟨rfl, -⟩
    exact hc rfl

theorem optionalExponent?_of_ends {rest : List Char} (hrest : EndsNumber rest) :
    optionalExponent? rest = some (none, rest) := by
  match rest with
  | [] => rfl
  | c :: cs =>
    have hc : (c == 'e' || c == 'E') = false := by
      have hnot := (hrest c rfl).2
      simp only [List.mem_cons, List.not_mem_nil, or_false, not_or] at hnot
      simp [hnot.2.1, hnot.2.2]
    rw [optionalExponent?, hc]
    rfl

theorem unsigned?_toDigits {n : Nat} (hn : n < 2 ^ 64) (negative : Bool) {rest : List Char}
    (hrest : EndsNumber rest) :
    unsigned? negative (Nat.toDigits 10 n ++ rest) = some (wholeScalar negative n, rest) := by
  have hvalue : Nat.ofDigitChars 10 (Nat.toDigits 10 n) 0 = n :=
    Nat.ofDigitChars_toDigits (by decide) (by decide)
  have hbound : Nat.ofDigitChars 10 (Nat.toDigits 10 n) 0 < 2 ^ 64 := by rwa [hvalue]
  have happend := appendDigits_eq hbound
  rw [hvalue] at happend
  simp [unsigned?, wholeDigits?_toDigits n hrest, happend, fractionDigits?_of_ends hrest,
    optionalExponent?_of_ends hrest]

theorem toList_toString_of_nonneg {i : Int} (h : 0 ≤ i) :
    (toString i).toList = Nat.toDigits 10 i.natAbs := by
  have hrepr : (toString i) = i.repr := rfl
  rw [hrepr, Int.repr_eq_if, if_pos h, Nat.repr_eq_ofList_toDigits, String.toList_ofList,
    ← Int.natAbs_of_nonneg h]
  rfl

theorem toList_toString_of_neg {i : Int} (h : i < 0) :
    (toString i).toList = '-' :: Nat.toDigits 10 i.natAbs := by
  have hrepr : (toString i) = i.repr := rfl
  have habs : (-i).toNat = i.natAbs := by omega
  rw [hrepr, Int.repr_eq_if, if_neg (Int.not_le.mpr h), Nat.repr_eq_ofList_toDigits, habs]
  simp only [String.toList_append, String.toList_ofList]
  rfl

theorem wholeScalar_natAbs {i : Int} (hlow : -2 ^ 63 ≤ i) :
    wholeScalar (decide (i < 0)) i.natAbs = .int i := by
  rw [wholeScalar]
  by_cases hi : i < 0
  · have hzero : (i.natAbs == 0) = false := by
      rw [beq_eq_false_iff_ne]
      omega
    have hfits : i.natAbs ≤ 2 ^ 63 := by omega
    have hneg : -(i.natAbs : Int) = i := by omega
    simp only [hi, hzero, hfits, decide_true, Bool.not_true, Bool.false_eq_true, if_false,
      if_true, hneg]
  · have habs : (i.natAbs : Int) = i := by omega
    simp only [hi, decide_false, Bool.not_false, if_true, habs]

/-- A whole number of 64 bits, with or without a sign, is read back. -/
theorem number?_written {i : Int} (hlow : -2 ^ 63 ≤ i) (hhigh : i < 2 ^ 64) {rest : List Char}
    (hrest : EndsNumber rest) :
    number? ((toString i).toList ++ rest) = some (.int i, rest) := by
  have habs : i.natAbs < 2 ^ 64 := by omega
  have hread := unsigned?_toDigits habs (decide (i < 0)) hrest
  rw [wholeScalar_natAbs hlow] at hread
  by_cases hi : i < 0
  · rw [toList_toString_of_neg hi, List.cons_append, number?]
    simpa [hi] using hread
  · have hnonneg : 0 ≤ i := Int.not_lt.mp hi
    obtain ⟨d, ds, hds⟩ := List.exists_cons_of_ne_nil
      (Nat.toDigits_ne_nil (n := i.natAbs) (b := 10))
    have hdash : d ≠ '-' := by
      rintro rfl
      exact absurd (isDigit_toDigits i.natAbs '-' (hds ▸ List.mem_cons_self)) (by decide)
    rw [hds, List.cons_append, decide_eq_false hi] at hread
    rw [toList_toString_of_nonneg hnonneg, hds, List.cons_append, number?]
    · exact hread
    · rintro _ ⟨rfl, -⟩
      exact hdash rfl

end Json

end MailMerge
