import MailMerge.Proofs.Reference.Settled

/-!
# Renaming references

Pointing the references to one name at another changes a marked text by its marks alone. So it
changes a text only if the text refers to the name, leaves no reference to it, and is undone by
the way back if the text did not refer to the other name before.
-/

namespace MailMerge

namespace Reference

variable {m : Markup} {ms : List Mark} {old new : InlineName}

/-- One name in the place of another. -/
def swap (old new n : InlineName) : InlineName := if n = old then new else n

/-- A replacement of names at sites of one kind. -/
def atKind (m : Markup) (f : InlineName → InlineName) (k : Markup) : InlineName → InlineName :=
  if k = m then f else id

/-- A replacement of names at all sites. -/
def everywhere (f : InlineName → InlineName) (_ : Markup) : InlineName → InlineName := f

theorem grows_swap (hlong : 2 ≤ new.1.toList.length) (n : InlineName) :
    swap old new n = n ∨ 2 ≤ (swap old new n).1.toList.length := by
  rw [swap]
  split
  · exact .inr hlong
  · exact .inl rfl

theorem grows_everywhere (hlong : 2 ≤ new.1.toList.length) : Grows (everywhere (swap old new)) :=
  fun _ n => grows_swap hlong n

theorem grows_atKind (m : Markup) (hlong : 2 ≤ new.1.toList.length) :
    Grows (atKind m (swap old new)) := by
  intro k n
  rw [atKind]
  split
  · exact grows_swap hlong n
  · exact .inl rfl

-- ---------------------------------------------------------------------------
-- Replacing the names of one kind
-- ---------------------------------------------------------------------------

/-- The replacement of names that `rename` makes. -/
def swapText (old new : String) (n : String) : String := if n == old then new else n

theorem swapText_inline (n : InlineName) :
    swapText old.1 new.1 n.1 = (swap old new n).1 := by
  by_cases h : n = old
  · simp [swapText, swap, h]
  · have hne : n.1 ≠ old.1 := fun heq => h (Subtype.ext heq)
    simp [swapText, swap, h, hne]

theorem substitute_eq_chars (p : Piece) :
    p.substitute (onChars (swapText old.1 new.1)) =
      chars (mapNames (everywhere (swap old new)) (p.marks m)) := by
  cases p with
  | char c => rfl
  | site before x after =>
    rw [Piece.substitute, Piece.marks, mapNames_append, mapNames_append, chars_append,
      chars_append, mapNames_ofChars, mapNames_ofChars, chars_ofChars, chars_ofChars,
      List.append_assoc]
    by_cases hinline : Name.Inline (String.ofList x)
    · have hx : onChars (swapText old.1 new.1) x = (swap old new ⟨_, hinline⟩).1.toList :=
        congrArg String.toList (swapText_inline ⟨_, hinline⟩)
      rw [markName, dif_pos hinline, hx]
      simp [everywhere]
    · have hne : String.ofList x ≠ old.1 := fun heq => hinline (heq ▸ old.2)
      have hx : onChars (swapText old.1 new.1) x = x := by
        simp [onChars, swapText, hne]
      rw [markName, dif_neg hinline, mapNames_ofChars, chars_ofChars, hx]

theorem substituteMarkup_eq_chars (cs : List Char) :
    substituteMarkup m (onChars (swapText old.1 new.1)) cs =
      chars (mapNames (everywhere (swap old new)) (marksOf m cs)) := by
  rw [substituteMarkup, marksOf]
  induction pieces m cs with
  | nil => rfl
  | cons p ps ih =>
    rw [List.flatMap_cons, List.flatMap_cons, mapNames_append, chars_append, ih,
      substitute_eq_chars]

/-- Names of another kind are only text to a replacement of names. -/
theorem chars_mapNames_keep (f : InlineName → InlineName) (ms : List Mark) :
    chars (mapNames (everywhere f) (keep m ms)) = chars (mapNames (atKind m f) ms) := by
  induction ms using induction_on_kind m with
  | nil => rfl
  | char c ms ih => simp [ih]
  | same n ms ih => simp [everywhere, atKind, ih]
  | other k n ms hk ih => simp [keep_name_of_ne hk, atKind, hk, ih]

theorem Marking.substituteMarkup_chars (h : Marking ms) (m : Markup) :
    substituteMarkup m (onChars (swapText old.1 new.1)) (chars ms) =
      chars (mapNames (atKind m (swap old new)) ms) := by
  rw [substituteMarkup_eq_chars, ← h.settled m, chars_mapNames_keep]

-- ---------------------------------------------------------------------------
-- Replacing the names of both kinds
-- ---------------------------------------------------------------------------

theorem mapNames_mapNames (g g' : Markup → InlineName → InlineName) (ms : List Mark) :
    mapNames g' (mapNames g ms) = mapNames (fun k n => g' k (g k n)) ms := by
  induction ms with
  | nil => rfl
  | cons p ms ih => cases p <;> simp [ih]

theorem mapNames_congr {g g' : Markup → InlineName → InlineName}
    (h : ∀ k n, .name k n ∈ ms → g k n = g' k n) : mapNames g ms = mapNames g' ms := by
  refine List.map_congr_left fun p hp => ?_
  cases p with
  | char c => rfl
  | name k n => rw [Mark.mapName, Mark.mapName, h k n hp]

theorem atKind_atKind (f : InlineName → InlineName) (k : Markup) (n : InlineName) :
    atKind .condition f k (atKind .variable f k n) = everywhere f k n := by
  cases k <;> simp [atKind, everywhere]

/-- A renaming acts on the marks. -/
theorem Marking.rename_chars (h : Marking ms)
    (h' : Marking (mapNames (atKind .variable (swap old new)) ms)) :
    rename old.1 new.1 (String.ofList (chars ms)) =
      String.ofList (chars (mapNames (everywhere (swap old new)) ms)) := by
  have hchars : substituteChars (onChars (swapText old.1 new.1)) (chars ms) =
      chars (mapNames (everywhere (swap old new)) ms) := by
    rw [substituteChars, h.substituteMarkup_chars .variable, h'.substituteMarkup_chars .condition,
      mapNames_mapNames, funext fun k => funext fun n => atKind_atKind _ k n]
  rw [Reference.rename, substitute, String.toList_ofList]
  exact congrArg String.ofList hchars

theorem name_mem_marksOf {n : InlineName} {cs : List Char} :
    .name m n ∈ marksOf m cs ↔ ∃ p ∈ pieces m cs, p.IsSite n.1 := by
  rw [marksOf, List.mem_flatMap]
  refine exists_congr fun p => and_congr_right fun _ => ?_
  cases p with
  | char c => simp [Piece.marks, Piece.IsSite]
  | site before x after =>
    have hofChars : ∀ cs, .name m n ∉ ofChars cs := fun cs => by simp [ofChars]
    have hsite : Piece.IsSite n.1 (.site before x after) ↔ x = n.1.toList := by
      simp [Piece.IsSite]
    rw [hsite, Piece.marks, List.mem_append, List.mem_append, or_iff_right (hofChars before),
      or_iff_left (hofChars after)]
    constructor
    · intro hn
      rw [markName] at hn
      split at hn
      · rw [(Mark.name.inj (List.mem_singleton.mp hn)).2, String.toList_ofList]
      · exact absurd hn (hofChars x)
    · rintro rfl
      rw [markName_toList]
      exact List.mem_singleton_self _

/-- The names a marked text refers to are the marked ones. -/
theorem Marking.mem_names (h : Marking ms) (n : InlineName) :
    n.1 ∈ names (String.ofList (chars ms)) ↔ ∃ m, .name m n ∈ ms := by
  rw [mem_names_iff_isSite, String.toList_ofList]
  refine exists_congr fun m => ?_
  rw [← name_mem_marksOf, ← h.settled m, name_mem_keep]

theorem swap_ne (hne : new ≠ old) (n : InlineName) : swap old new n ≠ old := by
  rw [swap]
  split
  · exact hne
  · assumption

theorem swap_of_ne {n : InlineName} (h : n ≠ old) : swap old new n = n := if_neg h

theorem swap_swap {n : InlineName} (h : n ≠ new) : swap new old (swap old new n) = n := by
  by_cases hn : n = old
  · simp [swap, hn]
  · simp [swap, hn, h]

theorem mapNames_id (ms : List Mark) : mapNames (fun _ n => n) ms = ms := by
  induction ms with
  | nil => rfl
  | cons p ms ih => cases p <;> simp [ih]

/-- A name that is replaced by another at all sites is no longer marked. -/
theorem name_not_mem_mapNames (hne : new ≠ old) :
    .name m old ∉ mapNames (everywhere (swap old new)) ms := by
  intro h
  obtain ⟨p, -, hp⟩ := List.mem_map.mp h
  cases p with
  | char c => cases hp
  | name k n => exact swap_ne hne n (Mark.name.inj hp).2

theorem mapNames_of_not_mem (h : ∀ m, .name m old ∉ ms) :
    mapNames (everywhere (swap old new)) ms = ms := by
  have hsame : ∀ k n, .name k n ∈ ms → everywhere (swap old new) k n = n :=
    fun k n hn => swap_of_ne fun heq => h k (heq ▸ hn)
  rw [mapNames_congr hsame, mapNames_id]

/-- The way back. -/
theorem mapNames_swap_swap (h : ∀ m, .name m new ∉ ms) :
    mapNames (everywhere (swap new old)) (mapNames (everywhere (swap old new)) ms) = ms := by
  have hback : ∀ k n, .name k n ∈ ms →
      everywhere (swap new old) k (everywhere (swap old new) k n) = n :=
    fun k n hn => swap_swap fun heq => h k (heq ▸ hn)
  rw [mapNames_mapNames, mapNames_congr hback, mapNames_id]

/-- Half the way back: what the other half of the way there leads to. -/
theorem mapNames_atKind_swap (h : ∀ m, .name m new ∉ ms) :
    mapNames (atKind .variable (swap new old)) (mapNames (everywhere (swap old new)) ms) =
      mapNames (atKind .condition (swap old new)) ms := by
  rw [mapNames_mapNames]
  refine mapNames_congr fun k n hn => ?_
  cases k with
  | «variable» => exact swap_swap fun heq => h .variable (heq ▸ hn)
  | condition => rfl

theorem Marking.rename_exact (h : Marking ms) (hlong : 2 ≤ new.1.toList.length)
    (hne : new ≠ old) :
    let text := String.ofList (chars ms)
    (rename old.1 new.1 text = text ↔ old.1 ∉ names text) ∧
      old.1 ∉ names (rename old.1 new.1 text) ∧
      (new.1 ∉ names text → rename new.1 old.1 (rename old.1 new.1 text) = text) := by
  intro text
  have hthere : rename old.1 new.1 text =
      String.ofList (chars (mapNames (everywhere (swap old new)) ms)) :=
    h.rename_chars (h.map (grows_atKind _ hlong))
  have hmarking : Marking (mapNames (everywhere (swap old new)) ms) :=
    h.map (grows_everywhere hlong)
  have hgone : old.1 ∉ names (rename old.1 new.1 text) := by
    rw [hthere, hmarking.mem_names]
    exact fun ⟨_, hm⟩ => name_not_mem_mapNames hne hm
  refine ⟨⟨fun heq => ?_, fun hold => ?_⟩, hgone, fun hnew => ?_⟩
  · rwa [heq] at hgone
  · rw [h.mem_names, not_exists] at hold
    rw [hthere, mapNames_of_not_mem hold]
  · rw [h.mem_names, not_exists] at hnew
    have hhalf : Marking (mapNames (atKind .condition (swap old new)) ms) :=
      h.map (grows_atKind .condition hlong)
    rw [← mapNames_atKind_swap hnew] at hhalf
    rw [hthere, hmarking.rename_chars hhalf, mapNames_swap_swap hnew]

/-- Renaming references is exact, and undone by the way back: it changes a text only if the text
refers to the name, and leaves no reference to it. -/
theorem rename_settles {old new : String} (hold : Name.Inline old) (hnew : Name.Inline new)
    (hlong : 2 ≤ new.toList.length) (hne : new ≠ old) (text : String) :
    (rename old new text = text ↔ old ∉ names text) ∧
      old ∉ names (rename old new text) ∧
      (new ∉ names text → rename new old (rename old new text) = text) := by
  obtain ⟨ms, hms, hmarking⟩ := exists_marking text.toList
  have hne' : (⟨new, hnew⟩ : InlineName) ≠ ⟨old, hold⟩ := fun heq => hne (congrArg Subtype.val heq)
  have hexact := hmarking.rename_exact hlong hne'
  rw [hms, String.ofList_toList] at hexact
  exact hexact

/-- A text with references of both kinds, a name inside markup that is left open, and one name of
a single character. -/
theorem rename_settles_reminder :
    let text := "\x7b\x7b t \x7d\x7d, \x7b\x7b \x7b% if t %\x7d now"
    (rename "t" "due date" text = text ↔ "t" ∉ names text) ∧
      "t" ∉ names (rename "t" "due date" text) ∧
      rename "due date" "t" (rename "t" "due date" text) = text := by
  intro text
  have hnew : "due date" ∉ names text := by
    rw [mem_names_iff]
    decide +kernel
  have hold : Name.Inline "t" := by decide
  have hdate : Name.Inline "due date" := by decide
  obtain ⟨hsame, hgone, hback⟩ := rename_settles hold hdate (by decide) (by decide) text
  exact ⟨hsame, hgone, hback hnew⟩

end Reference

end MailMerge
