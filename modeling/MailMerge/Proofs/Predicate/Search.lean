import MailMerge.Proofs.Predicate.Comparison
import Mathlib.Data.List.Infix

/-!
# Texts searched for by a pattern

What it means that a text matches a pattern is said by five rules, and the matcher, which tries the
ends of the text one by one, finds a match exactly if there is one by these rules. The pattern for a
text that is searched for matches the texts that start with it, end with it or contain it, whatever
signs of the pattern language it holds.
-/

namespace MailMerge

namespace Pattern

-- ---------------------------------------------------------------------------
-- Matches
-- ---------------------------------------------------------------------------

/-- A text matches a pattern. -/
inductive Matches : List Char → List Char → Prop
  | done : Matches [] []
  /-- A percent sign stands for any run of characters. -/
  | run {ps cs : List Char} (skipped : List Char) (h : Matches ps cs) :
    Matches ('%' :: ps) (skipped ++ cs)
  /-- An underscore stands for any one character. -/
  | one {ps cs : List Char} (c : Char) (h : Matches ps cs) : Matches ('_' :: ps) (c :: cs)
  /-- Behind a backslash a character stands for itself. -/
  | escaped {ps cs : List Char} (c : Char) (h : Matches ps cs) :
    Matches ('\\' :: c :: ps) (c :: cs)
  /-- So does every character without a meaning of its own. -/
  | plain {ps cs : List Char} {c : Char} (hc : c ≠ '%' ∧ c ≠ '_' ∧ c ≠ '\\') (h : Matches ps cs) :
    Matches (c :: ps) (c :: cs)

variable {ps cs : List Char}

theorem matches_nil_iff : Matches [] cs ↔ cs = [] := by
  constructor
  · rintro ⟨⟩
    rfl
  · rintro rfl
    exact .done

theorem matches_percent_iff : Matches ('%' :: ps) cs ↔ ∃ t, t <:+ cs ∧ Matches ps t := by
  constructor
  · intro h
    cases h with
    | run skipped h => exact ⟨_, List.suffix_append .., h⟩
    | plain hc h => exact absurd rfl hc.1
  · rintro ⟨t, ⟨skipped, rfl⟩, h⟩
    exact .run skipped h

theorem matches_escaped_iff {p : Char} :
    Matches ('\\' :: p :: ps) cs ↔ ∃ rest, cs = p :: rest ∧ Matches ps rest := by
  constructor
  · intro h
    cases h with
    | escaped c h => exact ⟨_, rfl, h⟩
    | plain hc h => exact absurd rfl hc.2.2
  · rintro ⟨rest, rfl, h⟩
    exact .escaped p h

/-- A backslash at the end of a pattern matches nothing. -/
theorem not_matches_backslash : ¬Matches ['\\'] cs := by
  intro h
  cases h with
  | plain hc h => exact hc.2.2 rfl

theorem matches_cons_iff {p : Char} (hp : p ≠ '%') (hp' : p ≠ '\\') :
    Matches (p :: ps) cs ↔ ∃ c rest, cs = c :: rest ∧ (p = '_' ∨ p = c) ∧ Matches ps rest := by
  constructor
  · intro h
    cases h with
    | run skipped h => exact absurd rfl hp
    | one c h => exact ⟨c, _, rfl, .inl rfl, h⟩
    | escaped c h => exact absurd rfl hp'
    | plain hc h => exact ⟨_, _, rfl, .inr rfl, h⟩
  · rintro ⟨c, rest, rfl, hc, h⟩
    by_cases hline : p = '_'
    · exact hline ▸ .one c h
    · exact hc.resolve_left hline ▸ .plain ⟨hp, hline, hp'⟩ h

theorem matchChars_cons {p : Char} (hp : p ≠ '%') (hp' : p ≠ '\\') :
    matchChars (p :: ps) cs = true ↔
      ∃ c rest, cs = c :: rest ∧ (p = '_' ∨ p = c) ∧ matchChars ps rest = true := by
  cases cs with
  | nil => simp [matchChars, hp, hp']
  | cons c cs =>
    have hstep : matchChars (p :: ps) (c :: cs) = ((p == '_' || p == c) && matchChars ps cs) := by
      simp [matchChars, hp, hp']
    rw [hstep, Bool.and_eq_true, Bool.or_eq_true, beq_iff_eq, beq_iff_eq]
    constructor
    · exact fun h => ⟨c, cs, rfl, h⟩
    · rintro ⟨_, _, heq, h⟩
      cases heq
      exact h

theorem matchChars_backslash {p : Char} :
    matchChars ('\\' :: p :: ps) cs = true ↔
      ∃ rest, cs = p :: rest ∧ matchChars ps rest = true := by
  cases cs with
  | nil => exact iff_of_false (by simp [matchChars]) fun ⟨_, h, _⟩ => nomatch h
  | cons c cs =>
    have hstep : matchChars ('\\' :: p :: ps) (c :: cs) = (p == c && matchChars ps cs) := rfl
    rw [hstep, Bool.and_eq_true, beq_iff_eq]
    constructor
    · rintro ⟨rfl, h⟩
      exact ⟨cs, rfl, h⟩
    · rintro ⟨_, heq, h⟩
      cases heq
      exact ⟨rfl, h⟩

-- By induction on the pattern, one rule for each kind of character that it can begin with.
/-- The matcher finds a match exactly if there is one. -/
theorem matchChars_iff (ps cs : List Char) : matchChars ps cs = true ↔ Matches ps cs := by
  match ps with
  | [] => rw [matchChars_nil, matches_nil_iff, List.isEmpty_iff]
  | p :: ps =>
    by_cases hpercent : p = '%'
    · subst hpercent
      simp only [matchChars_percent, List.any_eq_true, mem_tails, matches_percent_iff,
        matchChars_iff ps]
    · by_cases hslash : p = '\\'
      · subst hslash
        match ps with
        | [] => exact iff_of_false (by simp [matchChars]) not_matches_backslash
        | p :: ps => simp only [matchChars_backslash, matches_escaped_iff, matchChars_iff ps]
      · simp only [matchChars_cons hpercent hslash, matches_cons_iff hpercent hslash,
          matchChars_iff ps]

-- ---------------------------------------------------------------------------
-- Texts that are searched for
-- ---------------------------------------------------------------------------

theorem occursIn_iff (p cs : List Char) : Text.occursIn p cs = true ↔ p <:+: cs := by
  induction cs with
  | nil => rw [Text.occursIn, List.isEmpty_iff, List.infix_nil]
  | cons c cs ih =>
    rw [Text.occursIn, Bool.or_eq_true, List.isPrefixOf_iff_prefix, ih, List.infix_cons_iff]

/-- A pattern and a text without NUL characters are matched as a whole. -/
theorem accepts_iff {p s : String} (hp : '\x00' ∉ p.toList) (hs : '\x00' ∉ s.toList) :
    accepts p s = true ↔ Matches p.toList s.toList := by
  rw [accepts, untilNul_of_not_mem hp, untilNul_of_not_mem hs, matchChars_iff]

end Pattern

namespace Comparison

open Pattern (Matches accepts)

/-- The pattern for a text is matched by what starts with it, ends with it or contains it, as the
pattern is open at its end, its start or both. These are the patterns that a leaf compiles to, and
what they match is a matter of the rules alone. -/
theorem pattern_finds_literally {s t : String} (hs : '\x00' ∉ s.toList) (ht : '\x00' ∉ t.toList) :
    (accepts (String.ofList (escapePattern s.toList ++ ['%'])) t = true ↔ s.toList <+: t.toList) ∧
    (accepts (String.ofList ('%' :: escapePattern s.toList)) t = true ↔ s.toList <:+ t.toList) ∧
    (accepts (String.ofList ('%' :: (escapePattern s.toList ++ ['%']))) t = true ↔
      s.toList <:+: t.toList) ∧
    (∀ p : String, '\x00' ∉ p.toList → (accepts p t = true ↔ Matches p.toList t.toList)) ∧
    ∀ c : Comparison, c.pattern = .ok s →
      c.likePattern false true = .ok (String.ofList (escapePattern s.toList ++ ['%'])) ∧
      c.likePattern true false = .ok (String.ofList ('%' :: escapePattern s.toList)) ∧
      c.likePattern true true = .ok (String.ofList ('%' :: (escapePattern s.toList ++ ['%']))) := by
  have hclean := not_mem_openPattern hs
  have hstart : '\x00' ∉ escapePattern s.toList ++ ['%'] := hclean false true
  have hinside : '\x00' ∉ '%' :: (escapePattern s.toList ++ ['%']) := hclean true true
  have hend : openPattern true false s.toList = '%' :: escapePattern s.toList := List.append_nil _
  refine ⟨?_, ?_, ?_, fun p hp => Pattern.accepts_iff hp ht, fun c hc => ⟨?_, ?_, ?_⟩⟩
  · rw [Pattern.accepts_ofList hstart ht, Pattern.matchChars_atStart,
      List.isPrefixOf_iff_prefix]
  · rw [Pattern.accepts_ofList (hend ▸ hclean true false) ht, Pattern.matchChars_atEnd,
      List.isSuffixOf_iff_suffix]
  · rw [Pattern.accepts_ofList hinside ht, Pattern.matchChars_inside,
      Pattern.occursIn_iff]
  · exact likePattern_eq hc
  · rw [← hend]
    exact likePattern_eq hc
  · exact likePattern_eq hc

/-- A discount with all three signs, the first of them at its end and another at its start. -/
theorem pattern_finds_literally_discount :
    ('\x00' ∉ "_50\\%".toList ∧ '\x00' ∉ "off: _50\\%!".toList) ∧
    accepts "%\\_50\\\\\\%%" "off: _50\\%!" = true ∧
    accepts "%\\_50\\\\\\%" "off: _50\\%!" = false ∧
    Matches "%\\_50\\\\\\%%".toList "off: _50\\%!".toList ∧
    Comparison.likePattern ⟨"note", .contains, .string, .single (.text "_50\\%")⟩ true true
      = .ok "%\\_50\\\\\\%%" := by
  have hs : '\x00' ∉ "_50\\%".toList := by decide
  have ht : '\x00' ∉ "off: _50\\%!".toList := by decide
  obtain ⟨-, hend, hinside, hrules, hleaf⟩ := pattern_finds_literally hs ht
  have haccepts : accepts "%\\_50\\\\\\%%" "off: _50\\%!" = true :=
    hinside.mpr (by decide)
  exact ⟨⟨hs, ht⟩, haccepts, Bool.eq_false_iff.mpr fun h => absurd (hend.mp h) (by decide),
    (hrules _ (by decide)).mp haccepts, (hleaf _ rfl).2.2⟩

end Comparison

end MailMerge
