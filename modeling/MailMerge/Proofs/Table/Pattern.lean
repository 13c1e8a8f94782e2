import MailMerge.Predicate.Compile
import MailMerge.Table.Pattern
import MailMerge.Text.Search
import Mathlib.Data.List.TakeWhile

/-!
# Patterns that search for a text

A text whose special characters are escaped, with a percent sign at the open ends, is found
by a pattern exactly where it stands at the start, inside, or at the end.
-/

namespace MailMerge

namespace Pattern

-- ---------------------------------------------------------------------------
-- Ends of a text
-- ---------------------------------------------------------------------------

theorem any_tails_isPrefixOf (p cs : List Char) :
    (tails cs).any p.isPrefixOf = Text.occursIn p cs := by
  induction cs with
  | nil => cases p <;> rfl
  | cons c cs ih => rw [tails, List.any_cons, ih, Text.occursIn]

theorem mem_tails {t cs : List Char} : t ∈ tails cs ↔ t <:+ cs := by
  induction cs with
  | nil => rw [tails, List.mem_singleton, List.suffix_nil]
  | cons c cs ih => rw [tails, List.mem_cons, ih, List.suffix_cons_iff]

-- ---------------------------------------------------------------------------
-- Escaped texts
-- ---------------------------------------------------------------------------

theorem matchChars_percent (ps cs : List Char) :
    matchChars ('%' :: ps) cs = (tails cs).any (matchChars ps) := by
  cases cs <;> simp [matchChars]

theorem matchChars_escaped (p : Char) (ps cs : List Char) :
    matchChars (escapePattern [p] ++ ps) cs =
      match cs with
      | [] => false
      | c :: cs => p == c && matchChars ps cs := by
  simp only [escapePattern, List.flatMap_cons, List.flatMap_nil, List.append_nil]
  split
  · rfl
  · next h =>
    simp only [Bool.or_eq_true, beq_iff_eq, not_or] at h
    obtain ⟨⟨hpercent, hline⟩, hslash⟩ := h
    have hline : (p == '_') = false := beq_eq_false_iff_ne.mpr hline
    cases cs <;> simp [matchChars, hpercent, hline, hslash]

/-- An escaped text matches itself and leaves the rest of the pattern to what follows. -/
theorem matchChars_escapePattern_append (p q cs : List Char) :
    matchChars (escapePattern p ++ q) cs
      = (p.isPrefixOf cs && matchChars q (cs.drop p.length)) := by
  induction p generalizing cs with
  | nil => simp [escapePattern]
  | cons c p ih =>
    have hsplit : escapePattern (c :: p) ++ q = escapePattern [c] ++ (escapePattern p ++ q) := by
      simp [escapePattern]
    rw [hsplit, matchChars_escaped]
    cases cs with
    | nil => rfl
    | cons d cs =>
      change (c == d && matchChars (escapePattern p ++ q) cs) = _
      rw [ih, ← Bool.and_assoc]
      rfl

theorem matchChars_nil (cs : List Char) : matchChars [] cs = cs.isEmpty := by
  rw [matchChars]

theorem matchChars_open (cs : List Char) : matchChars ['%'] cs = true := by
  rw [matchChars_percent, List.any_eq_true]
  exact ⟨[], mem_tails.mpr (List.nil_suffix), rfl⟩

-- ---------------------------------------------------------------------------
-- Searches
-- ---------------------------------------------------------------------------

theorem matchChars_atStart (p cs : List Char) :
    matchChars (escapePattern p ++ ['%']) cs = p.isPrefixOf cs := by
  rw [matchChars_escapePattern_append, matchChars_open, Bool.and_true]

theorem matchChars_inside (p cs : List Char) :
    matchChars ('%' :: (escapePattern p ++ ['%'])) cs = Text.occursIn p cs := by
  rw [matchChars_percent, ← any_tails_isPrefixOf]
  exact congrArg (tails cs).any (funext (matchChars_atStart p))

theorem matchChars_atEnd (p cs : List Char) :
    matchChars ('%' :: escapePattern p) cs = p.isSuffixOf cs := by
  have hwhole : ∀ t, matchChars (escapePattern p) t = (t == p) := by
    intro t
    have happend := matchChars_escapePattern_append p [] t
    rw [List.append_nil, matchChars_nil] at happend
    rw [happend, Bool.eq_iff_iff, Bool.and_eq_true, List.isPrefixOf_iff_prefix, beq_iff_eq,
      List.isEmpty_iff, List.drop_eq_nil_iff]
    constructor
    · rintro ⟨hstart, hlength⟩
      exact (hstart.eq_of_length_le hlength).symm
    · rintro rfl
      exact ⟨List.prefix_refl _, Nat.le_refl _⟩
  rw [matchChars_percent, Bool.eq_iff_iff, List.any_eq_true, List.isSuffixOf_iff_suffix]
  constructor
  · rintro ⟨t, ht, hmatch⟩
    rw [hwhole, beq_iff_eq] at hmatch
    exact hmatch ▸ mem_tails.mp ht
  · intro hsuffix
    exact ⟨p, mem_tails.mpr hsuffix, by rw [hwhole]; exact beq_self_eq_true p⟩

-- ---------------------------------------------------------------------------
-- Texts
-- ---------------------------------------------------------------------------

theorem untilNul_of_not_mem {s : String} (h : '\x00' ∉ s.toList) : untilNul s = s.toList := by
  rw [untilNul, List.takeWhile_eq_self_iff]
  intro c hc
  exact bne_iff_ne.mpr fun heq => h (heq ▸ hc)

theorem not_mem_escapePattern {p : List Char} (h : '\x00' ∉ p) : '\x00' ∉ escapePattern p := by
  intro hmem
  obtain ⟨c, hc, hin⟩ := List.mem_flatMap.mp hmem
  have hne : c ≠ '\x00' := fun heq => h (heq ▸ hc)
  split at hin
  · simp [Ne.symm hne] at hin
  · simp [Ne.symm hne] at hin

theorem accepts_ofList {p : List Char} (hp : '\x00' ∉ p) {s : String} (hs : '\x00' ∉ s.toList) :
    accepts (String.ofList p) s = matchChars p s.toList := by
  have hpattern : untilNul (String.ofList p) = p := by
    rw [untilNul_of_not_mem (by rwa [String.toList_ofList]), String.toList_ofList]
  rw [accepts, hpattern, untilNul_of_not_mem hs]

end Pattern

end MailMerge
