import MailMerge.Proofs.Instant.Written
import Mathlib.Data.List.Induction

/-!
# Instants that are read

Every instant a text denotes is one that clocks show: a fraction of a second has nine digits
at most, offsets are whole minutes, and only second 60 runs the nanoseconds on.
-/

namespace MailMerge

theorem digitValue_lt {c : Char} (h : c.isDigit = true) : digitValue c < 10 := by
  rw [Char.isDigit, Bool.and_eq_true, decide_eq_true_eq, decide_eq_true_eq] at h
  have hnine : c.toNat ≤ 57 := UInt32.le_iff_toNat_le.mp h.2
  have hzero : '0'.toNat = 48 := rfl
  rw [digitValue, hzero]
  omega

/-- Digits denote a number with as many digits. -/
theorem digitsValue_lt {cs : List Char} (h : ∀ c ∈ cs, c.isDigit = true) :
    digitsValue cs < 10 ^ cs.length := by
  induction cs using List.reverseRecOn with
  | nil => decide
  | append_singleton cs c ih =>
    have hlast : digitsValue (cs ++ [c]) = 10 * digitsValue cs + digitValue c := by
      rw [digitsValue, List.foldl_append]
      rfl
    have hcs := ih fun d hd => h d (List.mem_append_left _ hd)
    have hc := digitValue_lt (h c (List.mem_append_right _ (List.mem_singleton_self c)))
    rw [hlast, List.length_append, List.length_singleton, Nat.pow_succ]
    omega

namespace Instant

/-- Fields with a part of a second and an offset of whole minutes. -/
structure Fields.Timed (f : Fields) : Prop where
  nanos : f.nanos < nanosPerSecond
  offset : f.offset % 60 = 0

theorem onClock_of_toInstant? {f : Fields} (hf : f.Timed) {t : Instant}
    (h : f.toInstant? = some t) : t.OnClock := by
  obtain ⟨hnanos, hoffset⟩ := hf
  have hday : (secondsPerDay : Int) = 86400 := rfl
  rw [Fields.toInstant?] at h
  dsimp only at h
  obtain ⟨-, h⟩ := Option.ite_none_right_eq_some.mp h
  obtain ⟨-, h⟩ := Option.ite_none_right_eq_some.mp h
  cases h
  unfold OnClock
  dsimp only
  by_cases hleap : f.second = 60
  · right
    rw [if_pos hleap, hday]
    omega
  · left
    rw [if_neg hleap]
    omega

-- ---------------------------------------------------------------------------
-- Parts
-- ---------------------------------------------------------------------------

/-- A fraction has all digits there are, and nine of them count. -/
theorem fraction?_eq_some {cs rest : List Char} {n : Nat} (h : fraction? cs = some (n, rest)) :
    n = digitsValue ((cs.takeWhile Char.isDigit).take 9)
        * 10 ^ (9 - ((cs.takeWhile Char.isDigit).take 9).length) ∧
      rest = cs.dropWhile Char.isDigit := by
  rw [fraction?, spanDigits, List.span_eq_takeWhile_dropWhile] at h
  dsimp only at h
  split at h
  · cases h
  · cases h
    exact ⟨rfl, rfl⟩

theorem fraction?_lt {cs rest : List Char} {n : Nat} (h : fraction? cs = some (n, rest)) :
    n < nanosPerSecond := by
  obtain ⟨rfl, -⟩ := fraction?_eq_some h
  have hdigits : ∀ c ∈ (cs.takeWhile Char.isDigit).take 9, c.isDigit = true :=
    fun c hc => List.mem_takeWhile_imp (List.mem_of_mem_take hc)
  have hlt := digitsValue_lt hdigits
  have hlength : ((cs.takeWhile Char.isDigit).take 9).length ≤ 9 := List.length_take_le ..
  have hnine : nanosPerSecond = 10 ^ 9 := rfl
  rw [hnine]
  calc digitsValue ((cs.takeWhile Char.isDigit).take 9)
        * 10 ^ (9 - ((cs.takeWhile Char.isDigit).take 9).length)
      < 10 ^ ((cs.takeWhile Char.isDigit).take 9).length
        * 10 ^ (9 - ((cs.takeWhile Char.isDigit).take 9).length) :=
        Nat.mul_lt_mul_of_pos_right hlt (Nat.pow_pos (by decide))
    _ = 10 ^ 9 := by rw [← Nat.pow_add, Nat.add_sub_cancel' hlength]

theorem optionalFraction?_lt {cs rest : List Char} {n : Nat}
    (h : optionalFraction? cs = some (n, rest)) : n < nanosPerSecond := by
  rw [optionalFraction?.eq_def] at h
  split at h
  · exact fraction?_lt h
  · cases h
    decide

/-- An offset behind its sign. -/
theorem signed_eq_some {divide : List Char → Option (List Char)} {negative : Bool}
    {cs rest : List Char} {n : Int}
    (h : (do
      let (hours, cs) ← number? 2 2 cs
      let cs ← divide cs
      let (minutes, cs) ← number? 2 2 cs
      if 59 < minutes then none
      else
        let n : Int := hours * 3600 + minutes * 60
        some (if negative then -n else n, cs)) = some (n, rest)) :
    ∃ hours minutes cs₁ cs₂, number? 2 2 cs = some (hours, cs₁) ∧ divide cs₁ = some cs₂ ∧
      number? 2 2 cs₂ = some (minutes, rest) ∧ n.natAbs = hours * 3600 + minutes * 60 := by
  obtain ⟨⟨hours, cs₁⟩, hhours, h⟩ := Option.bind_eq_some_iff.mp h
  obtain ⟨cs₂, hdivide, h⟩ := Option.bind_eq_some_iff.mp h
  obtain ⟨⟨minutes, cs₃⟩, hminutes, h⟩ := Option.bind_eq_some_iff.mp h
  obtain ⟨-, h⟩ := Option.ite_none_left_eq_some.mp h
  cases h
  refine ⟨hours, minutes, cs₁, cs₂, hhours, hdivide, hminutes, ?_⟩
  split <;> omega

/-- An offset has a sign, hours, what stands between, and minutes. -/
theorem offset?_eq_some {divide : List Char → Option (List Char)} {cs rest : List Char} {n : Int}
    (h : offset? divide cs = some (n, rest)) :
    ∃ sign ∈ ['+', '-', '\u2212'], ∃ hours minutes cs₁ cs₂ cs₃, cs = sign :: cs₁ ∧
      number? 2 2 cs₁ = some (hours, cs₂) ∧ divide cs₂ = some cs₃ ∧
      number? 2 2 cs₃ = some (minutes, rest) ∧ n.natAbs = hours * 3600 + minutes * 60 := by
  cases cs with
  | nil => cases h
  | cons c cs =>
    rw [offset?] at h
    split at h
    · next hsign =>
      obtain ⟨hours, minutes, cs₁, cs₂, hparts⟩ := signed_eq_some h
      exact ⟨c, by simp [beq_iff_eq.mp hsign], hours, minutes, cs, cs₁, cs₂, rfl, hparts⟩
    · split at h
      · next hsign =>
        obtain ⟨hours, minutes, cs₁, cs₂, hparts⟩ := signed_eq_some h
        exact ⟨c, List.mem_cons_of_mem _ (by simpa using hsign), hours, minutes, cs, cs₁, cs₂, rfl,
          hparts⟩
      · cases h

theorem offset?_mod {divide : List Char → Option (List Char)} {cs rest : List Char} {n : Int}
    (h : offset? divide cs = some (n, rest)) : n % 60 = 0 := by
  obtain ⟨_, -, hours, minutes, _, _, _, -, -, -, -, hn⟩ := offset?_eq_some h
  omega

theorem zone?_mod {cs rest : List Char} {n : Int} (h : zone? cs = some (n, rest)) : n % 60 = 0 := by
  rw [zone?.eq_def] at h
  split at h
  · cases h
    rfl
  · cases h
    rfl
  · exact offset?_mod h

theorem Part.timed_of_read? {p : Part} {f f' : Fields} {cs rest : List Char} (hf : f.Timed)
    (h : p.read? f cs = some (f', rest)) : f'.Timed := by
  obtain ⟨hnanos, hoffset⟩ := hf
  cases p with
  | fraction =>
    obtain ⟨r, hr, heq⟩ := Option.map_eq_some_iff.mp h
    cases heq
    exact ⟨optionalFraction?_lt hr, hoffset⟩
  | offset =>
    obtain ⟨r, hr, heq⟩ := Option.map_eq_some_iff.mp h
    cases heq
    exact ⟨hnanos, offset?_mod hr⟩
  | blanks =>
    cases h
    exact ⟨hnanos, hoffset⟩
  | _ =>
    obtain ⟨r, hr, heq⟩ := Option.map_eq_some_iff.mp h
    cases heq
    exact ⟨hnanos, hoffset⟩

theorem timed_of_readParts? {ps : List Part} {f f' : Fields} {cs : List Char} (hf : f.Timed)
    (h : readParts? ps f cs = some f') : f'.Timed := by
  induction ps generalizing f cs with
  | nil =>
    rw [readParts?] at h
    split at h
    · cases h
      exact hf
    · cases h
  | cons p ps ih =>
    rw [readParts?] at h
    obtain ⟨⟨f₁, rest⟩, hread, h⟩ := Option.bind_eq_some_iff.mp h
    exact ih (Part.timed_of_read? hf hread) h

/-- The internet form from the time of day on. -/
theorem onClock_of_time {year month day : Nat} {cs : List Char} {t : Instant}
    (h : (do
      let (hour, cs) ← number? 2 2 cs
      let (minute, cs) ← number? 2 2 (← char? ':' cs)
      let (second, cs) ← number? 2 2 (← char? ':' cs)
      let (nanos, cs) ← optionalFraction? cs
      let (offset, cs) ← zone? cs
      if cs.isEmpty then
        Fields.toInstant? ⟨year, month, day, hour, minute, second, nanos, offset⟩
      else none) = some t) : t.OnClock := by
  obtain ⟨⟨hour, cs₁⟩, -, h⟩ := Option.bind_eq_some_iff.mp h
  obtain ⟨cs₂, -, h⟩ := Option.bind_eq_some_iff.mp h
  obtain ⟨⟨minute, cs₃⟩, -, h⟩ := Option.bind_eq_some_iff.mp h
  obtain ⟨cs₄, -, h⟩ := Option.bind_eq_some_iff.mp h
  obtain ⟨⟨second, cs₅⟩, -, h⟩ := Option.bind_eq_some_iff.mp h
  obtain ⟨⟨nanos, cs₆⟩, hnanos, h⟩ := Option.bind_eq_some_iff.mp h
  obtain ⟨⟨offset, cs₇⟩, hoffset, h⟩ := Option.bind_eq_some_iff.mp h
  obtain ⟨-, h⟩ := Option.ite_none_right_eq_some.mp h
  exact onClock_of_toInstant? ⟨optionalFraction?_lt hnanos, zone?_mod hoffset⟩ h

theorem onClock_of_readInternet? {cs : List Char} {t : Instant} (h : readInternet? cs = some t) :
    t.OnClock := by
  rw [readInternet?] at h
  obtain ⟨⟨year, cs₁⟩, -, h⟩ := Option.bind_eq_some_iff.mp h
  obtain ⟨cs₂, -, h⟩ := Option.bind_eq_some_iff.mp h
  obtain ⟨⟨month, cs₃⟩, -, h⟩ := Option.bind_eq_some_iff.mp h
  obtain ⟨cs₄, -, h⟩ := Option.bind_eq_some_iff.mp h
  obtain ⟨⟨day, cs₅⟩, -, h⟩ := Option.bind_eq_some_iff.mp h
  dsimp only at h
  split at h
  · split at h
    · exact onClock_of_time h
    · cases h
  · cases h

/-- What is read is an instant that clocks show. -/
theorem onClock_of_read? {s : String} {t : Instant} (h : read? s = some t) : t.OnClock := by
  have hstart : Fields.Timed {} := ⟨by decide, rfl⟩
  rw [read?] at h
  cases hinternet : readInternet? (Text.trim s.toList) with
  | some t' =>
    rw [hinternet] at h
    cases h
    exact onClock_of_readInternet? hinternet
  | none =>
    rw [hinternet] at h
    obtain ⟨parts, -, hparts⟩ := List.exists_of_findSome?_eq_some h
    obtain ⟨f, hf, ht⟩ := Option.bind_eq_some_iff.mp hparts
    exact onClock_of_toInstant? (timed_of_readParts? hstart hf) ht

end Instant

end MailMerge
