import Mathlib.Logic.Function.Basic
import MailMerge.Text.Html
import MailMerge.Text.Quoted

/-!
# Codes of characters

A text whose characters are replaced by words one by one can be read back when no word
is the start of another. Hexadecimal numbers and the entities of HTML are such words.
-/

namespace MailMerge

/-- No word of the code is empty, and one that starts a text tells its character and the
rest of the text. -/
structure PrefixFree (f : Char → List Char) : Prop where
  ne_nil : ∀ a, f a ≠ []
  split : ∀ a b s t, f a ++ s = f b ++ t → a = b ∧ s = t

theorem PrefixFree.flatMap_injective {f : Char → List Char} (h : PrefixFree f) :
    Function.Injective (fun cs : List Char => cs.flatMap f) := by
  intro as
  induction as with
  | nil =>
    intro bs heq
    cases bs with
    | nil => rfl
    | cons b bs => simp [List.flatMap_cons, h.ne_nil] at heq
  | cons a as ih =>
    intro bs heq
    cases bs with
    | nil => simp [List.flatMap_cons, h.ne_nil] at heq
    | cons b bs =>
      simp only [List.flatMap_cons] at heq
      obtain ⟨rfl, hrest⟩ := h.split _ _ _ _ heq
      rw [ih hrest]

/-- Two texts that go on behind the first place of one character agree up to there. -/
theorem eq_of_append_cons_eq {a : Char} {s t : List Char} :
    ∀ {xs ys : List Char}, a ∉ xs → a ∉ ys → xs ++ a :: s = ys ++ a :: t → xs = ys ∧ s = t
  | [], [], _, _, h => ⟨rfl, (List.cons.inj h).2⟩
  | [], y :: ys, _, hy, h => absurd (List.cons.inj h).1 (List.ne_of_not_mem_cons hy)
  | x :: xs, [], hx, _, h => absurd (List.cons.inj h).1.symm (List.ne_of_not_mem_cons hx)
  | x :: xs, y :: ys, hx, hy, h => by
    obtain ⟨rfl, htail⟩ := List.cons.inj h
    obtain ⟨rfl, hrest⟩ := eq_of_append_cons_eq (List.not_mem_of_not_mem_cons hx)
      (List.not_mem_of_not_mem_cons hy) htail
    exact ⟨rfl, hrest⟩

-- ---------------------------------------------------------------------------
-- Hexadecimal digits
-- ---------------------------------------------------------------------------

namespace Text

theorem digitChar_injective : ∀ a < 16, ∀ b < 16, Nat.digitChar a = Nat.digitChar b → a = b := by
  decide

theorem hexDigits_eq (n : Nat) :
    hexDigits n = if n < 16 then [n.digitChar] else hexDigits (n / 16) ++ [(n % 16).digitChar] :=
  Nat.toDigits_eq_if (by decide)

theorem hexDigits_ne_nil (n : Nat) : hexDigits n ≠ [] := Nat.toDigits_ne_nil

theorem hexDigits_injective : Function.Injective hexDigits := by
  intro n
  induction n using Nat.strongRecOn with
  | ind n ih =>
    intro m h
    rw [hexDigits_eq n, hexDigits_eq m] at h
    split at h <;> split at h
    · exact digitChar_injective n ‹_› m ‹_› (by simpa using h)
    · simp [List.cons_eq_append_iff, hexDigits_ne_nil] at h
    · simp [List.append_eq_cons_iff, hexDigits_ne_nil] at h
    · obtain ⟨hhigh, hlow⟩ := List.append_inj' h rfl
      have hquot : n / 16 = m / 16 := ih (n / 16) (by omega) hhigh
      have hrem : n % 16 = m % 16 :=
        digitChar_injective _ (Nat.mod_lt _ (by decide)) _ (Nat.mod_lt _ (by decide))
          (by simpa using hlow)
      omega

/-- An underscore ends a hexadecimal number. -/
theorem underscore_not_mem_hexDigits (n : Nat) : '_' ∉ hexDigits n := by
  have hdigit : ∀ a < 16, '_' ≠ Nat.digitChar a := by decide
  induction n using Nat.strongRecOn with
  | ind n ih =>
    rw [hexDigits_eq n]
    split
    · simp [hdigit n ‹_›]
    · simp [ih (n / 16) (by omega), hdigit (n % 16) (Nat.mod_lt _ (by decide))]

end Text

-- ---------------------------------------------------------------------------
-- Entities
-- ---------------------------------------------------------------------------

namespace Html

theorem storedChar_prefixFree : PrefixFree storedChar where
  ne_nil a := by unfold storedChar; split <;> simp
  split a b s t h := by
    unfold storedChar at h
    split at h <;> split at h <;> simp at h <;> grind

theorem stored_injective : Function.Injective stored := by
  intro a b h
  have hchars : a.toList.flatMap storedChar = b.toList.flatMap storedChar :=
    String.ofList_injective h
  exact String.toList_injective (storedChar_prefixFree.flatMap_injective hchars)

end Html

end MailMerge
