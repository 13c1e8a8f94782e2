import MailMerge.Proofs.Name.PrefixCode
import MailMerge.Template.Name
import MailMerge.Template.Token

/-!
# Identifiers tell names apart

The words that stand for the characters of a name are a prefix code, the marker stands
only where no name without it could begin, and a text between quotes keeps a quote at its
start, where no identifier has one. So no two names have one identifier.
-/

namespace MailMerge

namespace Name

-- ---------------------------------------------------------------------------
-- Single characters
-- ---------------------------------------------------------------------------

/-- The character that another stands for behind an underscore. -/
def decode? (x : Char) : Option Char :=
  ((List.range 128).map Char.ofNat).find? fun c => code? c == some x

theorem decode?_of_code? {c x : Char} (h : code? c = some x) : decode? x = some c := by
  unfold code? at h
  split at h <;> first | (obtain rfl := Option.some.inj h; decide) | cases h

theorem code?_ne_seven {c x : Char} (h : code? c = some x) : x ≠ '7' := by
  rintro rfl
  have : decode? '7' = none := by decide
  rw [decode?_of_code? h] at this
  cases this

theorem code?_inj {a b x : Char} (ha : code? a = some x) (hb : code? b = some x) : a = b :=
  Option.some.inj ((decode?_of_code? ha).symm.trans (decode?_of_code? hb))

theorem encodeChar_of_isAlphanum {c : Char} (h : c.isAlphanum) : encodeChar c = [c] := by
  simp [encodeChar, h]

theorem ne_underscore_of_isAlphanum {c : Char} (h : c.isAlphanum) : c ≠ '_' := by
  rintro rfl
  exact absurd h (by decide)

/-- How one character is written: as itself, by a code, or by its number. -/
theorem encodeChar_cases (c : Char) :
    (c.isAlphanum ∧ encodeChar c = [c]) ∨
    (∃ x, code? c = some x ∧ encodeChar c = ['_', x]) ∨
    encodeChar c = '_' :: '7' :: (Text.hexDigits c.toNat ++ ['_', '8']) := by
  unfold encodeChar
  split
  · exact .inl ⟨‹_›, rfl⟩
  · split
    · exact .inr (.inl ⟨_, ‹_›, rfl⟩)
    · exact .inr (.inr rfl)

theorem encodeChar_prefixFree : PrefixFree encodeChar where
  ne_nil a := by
    rcases encodeChar_cases a with ⟨-, h⟩ | ⟨x, -, h⟩ | h <;> simp [h]
  split a b s t h := by
    rcases encodeChar_cases a with ⟨ha, hea⟩ | ⟨x, hx, hea⟩ | hea <;>
      rcases encodeChar_cases b with ⟨hb, heb⟩ | ⟨y, hy, heb⟩ | heb <;>
      rw [hea, heb] at h <;>
      simp only [List.cons_append, List.nil_append, List.append_assoc, List.cons.injEq,
        true_and] at h
    · exact h
    · exact absurd h.1 (ne_underscore_of_isAlphanum ha)
    · exact absurd h.1 (ne_underscore_of_isAlphanum ha)
    · exact absurd h.1.symm (ne_underscore_of_isAlphanum hb)
    · obtain ⟨rfl, rest⟩ := h
      exact ⟨code?_inj hx hy, rest⟩
    · exact absurd h.1 (code?_ne_seven hx)
    · exact absurd h.1.symm (ne_underscore_of_isAlphanum hb)
    · exact absurd h.1.symm (code?_ne_seven hy)
    · -- A number ends at the first underscore behind it.
      obtain ⟨digits, rest⟩ := eq_of_append_cons_eq (Text.underscore_not_mem_hexDigits _)
        (Text.underscore_not_mem_hexDigits _) h
      exact ⟨Char.toNat_inj.mp (Text.hexDigits_injective digits), by simpa using rest⟩

-- ---------------------------------------------------------------------------
-- Whole names
-- ---------------------------------------------------------------------------

/-- A name with the marker before it where it needs one. -/
def marked (cs : List Char) : List Char := if needsMarker cs then marker ++ cs else cs

theorem identifierChars_of_quoted {cs : List Char} (h : isQuoted cs) : identifierChars cs = cs := by
  simp [identifierChars, h]

theorem identifierChars_of_not_quoted {cs : List Char} (h : isQuoted cs = false) :
    identifierChars cs = (marked cs).flatMap encodeChar := by
  simp [identifierChars, h, marked]

theorem marked_injective : Function.Injective marked := by
  have hmarker {as bs : List Char} (hb : ¬needsMarker bs) : marker ++ as ≠ bs := by
    rintro rfl
    simp [needsMarker, List.isPrefixOf_iff_prefix] at hb
  intro as bs h
  unfold marked at h
  split at h <;> split at h
  · exact List.append_cancel_left h
  · exact absurd h (hmarker ‹_›)
  · exact absurd h.symm (hmarker ‹_›)
  · exact h

theorem marked_eq_cons (cs : List Char) : ∃ c rest, marked cs = c :: rest ∧ c.isAlpha := by
  unfold marked
  split
  · exact ⟨'O', 'T' :: '_' :: cs, rfl, rfl⟩
  · cases cs with
    | nil => simp [needsMarker] at *
    | cons c rest => exact ⟨c, rest, rfl, by simp_all [needsMarker]⟩

/-- The identifier of a name that is not quoted starts with a letter. -/
theorem identifierChars_eq_cons {cs : List Char} (h : isQuoted cs = false) :
    ∃ (c : Char) (rest : List Char),
      identifierChars cs = c :: rest.flatMap encodeChar ∧ c.isAlpha := by
  obtain ⟨c, rest, hmarked, hc⟩ := marked_eq_cons cs
  refine ⟨c, rest, ?_, hc⟩
  have halnum : c.isAlphanum := by simp [Char.isAlphanum, hc]
  rw [identifierChars_of_not_quoted h, hmarked, List.flatMap_cons, encodeChar_of_isAlphanum halnum,
    List.singleton_append]

theorem head_of_quoted {c : Char} {cs : List Char} (h : isQuoted (c :: cs)) :
    c = '\'' ∨ c = '"' := by
  simp only [isQuoted, List.head?_cons, Bool.and_eq_true, Bool.or_eq_true, beq_iff_eq,
    Option.some.injEq] at h
  exact h.2.imp And.left And.left

/-- A text between quotes is no identifier. -/
theorem quoted_ne_identifierChars {as bs : List Char} (ha : isQuoted as) (hb : isQuoted bs = false) :
    as ≠ identifierChars bs := by
  obtain ⟨c, rest, heq, hc⟩ := identifierChars_eq_cons hb
  rw [heq]
  rintro rfl
  rcases head_of_quoted ha with rfl | rfl <;> exact absurd hc (by decide)

theorem identifierChars_injective : Function.Injective identifierChars := by
  intro as bs h
  cases ha : isQuoted as <;> cases hb : isQuoted bs
  · rw [identifierChars_of_not_quoted ha, identifierChars_of_not_quoted hb] at h
    exact marked_injective (encodeChar_prefixFree.flatMap_injective h)
  · rw [identifierChars_of_quoted hb] at h
    exact absurd h.symm (quoted_ne_identifierChars hb ha)
  · rw [identifierChars_of_quoted ha] at h
    exact absurd h (quoted_ne_identifierChars ha hb)
  · rwa [identifierChars_of_quoted ha, identifierChars_of_quoted hb] at h

theorem identifier_injective : Function.Injective identifier := fun _ _ h =>
  String.toList_injective (identifierChars_injective (String.ofList_injective h))

theorem storedIdentifier_injective : Function.Injective storedIdentifier := fun _ _ h =>
  Html.stored_injective (identifier_injective h)

end Name

end MailMerge
