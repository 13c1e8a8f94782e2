import MailMerge.Proofs.Name.Identifier
import MailMerge.Template.Render
import Mathlib.Data.List.Basic

/-!
# Names as editors and engines know them

A name without a character that means something to HTML is stored as it is. No identifier
is one of the reserved names, for in an identifier no capital stands behind an underscore.
-/

namespace MailMerge

-- ---------------------------------------------------------------------------
-- Names in HTML
-- ---------------------------------------------------------------------------

/-- The characters an editor stores as entities. -/
def Html.special : List Char := ['&', '<', '>', '"', '\'']

namespace Name

/-- A name that an editor stores as it is. -/
def Unescaped (n : String) : Prop := ∀ c ∈ n.toList, c ∉ Html.special

instance (n : String) : Decidable (Unescaped n) :=
  inferInstanceAs (Decidable (∀ c ∈ n.toList, c ∉ Html.special))

theorem storedChar_of_not_special {c : Char} (h : c ∉ Html.special) : Html.storedChar c = [c] := by
  unfold Html.storedChar
  split <;> first | exact absurd (by decide) h | rfl

theorem Unescaped.stored {n : String} (h : Unescaped n) : Html.stored n = n := by
  have hchars : n.toList.flatMap Html.storedChar = n.toList.flatMap fun c => [c] :=
    List.flatMap_congr fun c hc => storedChar_of_not_special (h c hc)
  rw [Html.stored, hchars, List.flatMap_singleton', String.ofList_toList]

-- ---------------------------------------------------------------------------
-- Reserved names
-- ---------------------------------------------------------------------------

/-- What a coded text starts with that goes on like plain letters with an underscore and a
capital: nothing, for a code is a small letter or a digit. -/
theorem flatMap_encodeChar_ne {u : Char} (hu : u.isUpper) (rest : List Char) {letters : List Char}
    (hletters : ∀ x ∈ letters, x.isAlphanum) (cs : List Char) :
    cs.flatMap encodeChar ≠ letters ++ '_' :: u :: rest := by
  have hcode : ∀ {c x : Char}, code? c = some x → x.isUpper = false := by
    intro c x h
    unfold code? at h
    split at h <;> first | (obtain rfl := Option.some.inj h; decide) | cases h
  induction letters generalizing cs with
  | nil =>
    intro h
    cases cs with
    | nil => cases h
    | cons c cs =>
      rcases encodeChar_cases c with ⟨hc, he⟩ | ⟨x, hx, he⟩ | he <;> rw [List.flatMap_cons, he] at h
      · exact absurd (List.cons.inj h).1 (ne_underscore_of_isAlphanum hc)
      · obtain ⟨hxu, -⟩ := List.cons.inj (List.cons.inj h).2
        rw [← hxu, hcode hx] at hu
        cases hu
      · obtain ⟨hseven, -⟩ := List.cons.inj (List.cons.inj h).2
        rw [← hseven] at hu
        exact absurd hu (by decide)
  | cons a letters ih =>
    intro h
    have ha : a ≠ '_' := ne_underscore_of_isAlphanum (hletters a List.mem_cons_self)
    cases cs with
    | nil => cases h
    | cons c cs =>
      rcases encodeChar_cases c with ⟨-, he⟩ | ⟨x, -, he⟩ | he <;> rw [List.flatMap_cons, he] at h
      · exact ih (fun x hx => hletters x (List.mem_cons_of_mem _ hx)) cs (List.cons.inj h).2
      · exact ha (List.cons.inj h).1.symm
      · exact ha (List.cons.inj h).1.symm

/-- No identifier is a reserved name. -/
theorem identifier_not_mem_reservedNames (n : String) : identifier n ∉ Render.reservedNames := by
  have hletters : ∀ x ∈ ['O', 'N', 'T', 'A', 'S', 'K'], x.isAlphanum := by decide
  cases hquoted : isQuoted n.toList with
  | true =>
    have hnone : ∀ r ∈ Render.reservedNames, isQuoted r.toList = false := by decide
    intro hmem
    have hself : identifier n = n := by
      rw [identifier, identifierChars_of_quoted hquoted, String.ofList_toList]
    rw [hself] at hmem
    rw [hnone n hmem] at hquoted
    cases hquoted
  | false =>
    intro hmem
    have hchars : (identifier n).toList = (marked n.toList).flatMap encodeChar := by
      rw [identifier, String.toList_ofList, identifierChars_of_not_quoted hquoted]
    simp only [Render.reservedNames, List.mem_cons, List.not_mem_nil, or_false] at hmem
    rcases hmem with h | h <;> rw [h] at hchars
    · exact flatMap_encodeChar_ne (by decide) _ hletters _ hchars.symm
    · exact flatMap_encodeChar_ne (by decide) _ hletters _ hchars.symm

end Name

end MailMerge
