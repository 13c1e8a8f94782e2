import MailMerge.Proofs.Letter.Basic
import MailMerge.Proofs.Name.Reserved

/-!
# Names as an editor stores them

An editor spells out five characters of a name. A name stays as it is only if it has none of
them, and one that can be told from the markup around it can still be told when it is stored.
-/

namespace MailMerge

namespace Html

/-- A character is stored as itself, or as an entity. -/
theorem storedChar_cases (c : Char) :
    (c ∉ special ∧ storedChar c = [c]) ∨
      (c ∈ special ∧ ∃ more, storedChar c = '&' :: more ∧ more.getLast? = some ';' ∧
        ∀ x ∈ more, x ∉ Name.separators) := by
  by_cases h : c ∈ special
  · refine .inr ⟨h, ?_⟩
    simp only [special, List.mem_cons, List.not_mem_nil, or_false] at h
    rcases h with rfl | rfl | rfl | rfl | rfl <;> exact ⟨_, rfl, by decide, by decide⟩
  · exact .inl ⟨h, Name.storedChar_of_not_special h⟩

theorem length_le_length_stored (cs : List Char) :
    cs.length ≤ (cs.flatMap storedChar).length := by
  induction cs with
  | nil => exact Nat.le_refl _
  | cons c cs ih =>
    rw [List.flatMap_cons, List.length_append, List.length_cons]
    have hpos := List.length_pos_of_ne_nil (storedChar_prefixFree.ne_nil c)
    omega

/-- What is stored as it is has no character that is spelled out. -/
theorem not_special_of_flatMap_eq {cs : List Char} (h : cs.flatMap storedChar = cs) :
    ∀ c ∈ cs, c ∉ special := by
  induction cs with
  | nil => exact fun c hc => absurd hc List.not_mem_nil
  | cons c cs ih =>
    rw [List.flatMap_cons] at h
    rcases storedChar_cases c with ⟨hc, heq⟩ | ⟨-, more, heq, hlast, -⟩
    · rw [heq] at h
      exact List.forall_mem_cons.mpr ⟨hc, ih (List.cons.inj h).2⟩
    · have hmore : more ≠ [] := by
        rintro rfl
        cases hlast
      have hlength := congrArg List.length h
      rw [heq, List.length_append, List.length_cons, List.length_cons] at hlength
      have hle := length_le_length_stored cs
      have hpos := List.length_pos_of_ne_nil hmore
      omega

theorem head?_stored {cs : List Char} {x : Char} (h : (cs.flatMap storedChar).head? = some x) :
    (cs.head? = some x ∧ x ∉ special) ∨ x = '&' := by
  cases cs with
  | nil => cases h
  | cons c cs =>
    rw [List.flatMap_cons] at h
    rcases storedChar_cases c with ⟨hc, heq⟩ | ⟨-, more, heq, -⟩
    · rw [heq] at h
      cases h
      exact .inl ⟨rfl, hc⟩
    · rw [heq] at h
      cases h
      exact .inr rfl

theorem getLast?_stored {cs : List Char} {x : Char}
    (h : (cs.flatMap storedChar).getLast? = some x) : cs.getLast? = some x ∨ x = ';' := by
  cases hcs : cs.getLast? with
  | none =>
    rw [List.getLast?_eq_none_iff.mp hcs] at h
    cases h
  | some c =>
    obtain ⟨before, rfl⟩ := List.getLast?_eq_some_iff.mp hcs
    rw [List.flatMap_append, List.flatMap_singleton, List.getLast?_append] at h
    rcases storedChar_cases c with ⟨-, heq⟩ | ⟨-, more, heq, hlast, -⟩
    · rw [heq] at h
      cases h
      exact .inl rfl
    · have hend : (storedChar c).getLast? = some ';' := by
        rw [heq, List.getLast?_cons, hlast]
        rfl
      rw [hend] at h
      cases h
      exact .inr rfl

/-- A text without an ampersand that a stored text begins with stood there before. -/
theorem prefix_stored {r cs : List Char} (hr : '&' ∉ r)
    (h : r.isPrefixOf (cs.flatMap storedChar) = true) :
    r.isPrefixOf cs = true ∧
      (cs.flatMap storedChar).drop r.length = (cs.drop r.length).flatMap storedChar := by
  induction r generalizing cs with
  | nil => exact ⟨rfl, rfl⟩
  | cons x r ih =>
    obtain ⟨hx, hr⟩ := List.ne_and_not_mem_of_not_mem_cons hr
    cases cs with
    | nil => cases h
    | cons c cs =>
      rw [List.flatMap_cons] at h ⊢
      rcases storedChar_cases c with ⟨-, heq⟩ | ⟨-, more, heq, -⟩
      · rw [heq, List.singleton_append, List.isPrefixOf_cons_cons, Bool.and_eq_true] at h
        obtain ⟨hfound, hdrop⟩ := ih hr h.2
        rw [heq, List.singleton_append, List.isPrefixOf_cons_cons, Bool.and_eq_true]
        exact ⟨⟨h.1, hfound⟩, hdrop⟩
      · rw [heq, List.cons_append, List.isPrefixOf_cons_cons, Bool.and_eq_true, beq_iff_eq] at h
        exact absurd h.1.symm hx

end Html

namespace Name

variable {n : String}

theorem stored_eq_self_iff : Html.stored n = n ↔ Unescaped n := by
  constructor
  · intro h
    refine Html.not_special_of_flatMap_eq ?_
    have hchars := congrArg String.toList h
    rwa [Html.stored, String.toList_ofList] at hchars
  · exact Unescaped.stored

theorem isReserved_of_stored (h : Render.isReserved (Html.stored n) = true) :
    Render.isReserved n = true := by
  have hnames : ∀ r ∈ Render.reservedNames, '&' ∉ r.toList := by decide
  simp only [Render.isReserved, Html.stored, String.toList_ofList, List.any_eq_true,
    Bool.and_eq_true] at h ⊢
  obtain ⟨r, hr, hfound, hnext⟩ := h
  obtain ⟨hfound', hdrop⟩ := Html.prefix_stored (hnames r hr) hfound
  refine ⟨r, hr, hfound', ?_⟩
  rw [hdrop] at hnext
  cases hrest : n.toList.drop r.toList.length with
  | nil => rfl
  | cons d ds =>
    rw [hrest, List.flatMap_cons] at hnext
    rcases Html.storedChar_cases d with ⟨-, heq⟩ | ⟨-, more, heq, -⟩
    · rw [heq] at hnext
      exact hnext
    · rw [heq] at hnext
      cases hnext

/-- A name is never stored between quotes. -/
theorem isQuoted_stored (n : String) : isQuoted (Html.stored n).toList = false := by
  cases hquoted : isQuoted (Html.stored n).toList with
  | false => rfl
  | true =>
    cases hstored : (Html.stored n).toList with
    | nil =>
      rw [hstored] at hquoted
      cases hquoted
    | cons x xs =>
      have hhead : (n.toList.flatMap Html.storedChar).head? = some x := by
        rw [Html.stored, String.toList_ofList] at hstored
        rw [hstored]
        rfl
      rw [hstored] at hquoted
      have hx : x ∈ Html.special ∧ x ≠ '&' := by
        rcases head_of_quoted hquoted with rfl | rfl <;> decide
      rcases Html.head?_stored hhead with ⟨-, hplain⟩ | heq
      · exact absurd hx.1 hplain
      · exact absurd heq hx.2

theorem Inline.stored (h : Inline n) : Inline (Html.stored n) := by
  have hchars : (Html.stored n).toList = n.toList.flatMap Html.storedChar := String.toList_ofList
  constructor <;> rw [hchars]
  · intro hnil
    have hlength := Html.length_le_length_stored n.toList
    rw [hnil] at hlength
    exact h.nonempty (List.eq_nil_of_length_eq_zero (Nat.le_zero.mp hlength))
  · intro x hx
    obtain ⟨c, hc, hxc⟩ := List.mem_flatMap.mp hx
    rcases Html.storedChar_cases c with ⟨-, heq⟩ | ⟨-, more, heq, -, hmore⟩
    · rw [heq, List.mem_singleton] at hxc
      exact hxc ▸ h.inner c hc
    · rw [heq] at hxc
      rcases List.mem_cons.mp hxc with rfl | hxc
      · decide
      · exact hmore x hxc
  · intro x hx
    rcases Html.head?_stored hx with ⟨hx, -⟩ | rfl
    · exact h.first x hx
    · decide
  · intro x hx
    rcases Html.getLast?_stored hx with hx | rfl
    · exact h.last x hx
    · decide

/-- A name that refers to something does so as it is stored. -/
theorem Plain.stored (h : Plain n) : Plain (Html.stored n) := by
  have hinline := h.inline.stored
  refine ⟨?_, hinline.inner, hinline.first, hinline.last, isQuoted_stored n, ?_, ?_⟩
  · have hlength := Html.length_le_length_stored n.toList
    rw [Html.stored, String.toList_ofList]
    exact Nat.le_trans h.long hlength
  · cases hreserved : Render.isReserved (Html.stored n) with
    | false => rfl
    | true => exact (isReserved_of_stored hreserved).symm.trans h.unreserved
  · intro hmem
    have hword : ∀ w ∈ engineWords, Unescaped w := by decide
    have hself := (hword _ hmem).stored
    exact h.unspoken (Html.stored_injective hself ▸ hmem)

end Name

end MailMerge
