import MailMerge.Proofs.Letter.Segments

/-!
# Letters on one line

On one line a name of one character reaches on to the next end of markup of its kind. So the
references of a letter are found where they stand exactly if no condition has such a name, and
no reference but the last.
-/

namespace MailMerge

open Reference

-- ---------------------------------------------------------------------------
-- Ends of markup
-- ---------------------------------------------------------------------------

namespace Reference

variable {m : Markup} {rest : List Char}

theorem close?_eq_none {cs : List Char} (h : ¬ m.closing <:+: cs) : m.close? cs = none := by
  have hstop : ∀ ds, cs.dropWhile isBlank = m.closing ++ ds → False := fun ds hds =>
    h (List.IsInfix.trans ⟨[], ds, hds.symm⟩ (List.dropWhile_suffix isBlank).isInfix)
  rw [Markup.close?, spanBlank_eq]
  simp only
  split
  · exact (hstop _ ‹_›).elim
  · exact (hstop _ ‹_›).elim
  · rfl

/-- Where no markup of a kind ends, no name of that kind goes on. -/
theorem extend?_eq_none {cs : List Char} (h : ¬ m.closing <:+: cs) : m.extend? cs = none := by
  induction cs with
  | nil => rfl
  | cons c cs ih =>
    have hcs : ¬ m.closing <:+: cs := fun hin => h (List.infix_cons_iff.mpr (.inr hin))
    rw [Markup.extend?, close?_eq_none hcs, ite_self, ih hcs]
    simp

theorem closing_not_infix_append {cs : List Char} (hcs : ∀ c ∈ cs, m.closing.head? ≠ some c)
    (hrest : ¬ m.closing <:+: rest) : ¬ m.closing <:+: cs ++ rest := by
  induction cs with
  | nil => exact hrest
  | cons c cs ih =>
    rw [List.cons_append, List.infix_cons_iff, not_or]
    refine ⟨?_, ih fun d hd => hcs d (List.mem_cons_of_mem c hd)⟩
    rintro ⟨ds, hds⟩
    have hhead := congrArg List.head? hds
    refine hcs c List.mem_cons_self ?_
    cases m <;> exact hhead

theorem closing_not_infix_brace (hhead : '}' ∉ rest.head?) (hrest : ¬ m.closing <:+: rest) :
    ¬ m.closing <:+: '}' :: rest := by
  rw [List.infix_cons_iff, not_or]
  refine ⟨?_, hrest⟩
  rintro ⟨ds, hds⟩
  match m with
  | .variable => exact hhead (by cases hds; rfl)
  | .condition => cases hds

theorem close?_brace (hhead : '}' ∉ rest.head?) : m.close? ('}' :: rest) = none := by
  have hbrace : isBlank '}' = false := rfl
  have hspan : spanBlank ('}' :: rest) = ([], '}' :: rest) := by
    rw [spanBlank_eq, List.takeWhile_cons_of_neg (by simp [hbrace]),
      List.dropWhile_cons_of_neg (by simp [hbrace])]
  cases rest with
  | nil => cases m <;> simp [Markup.close?, hspan]
  | cons d rest =>
    have hd : d ≠ '}' := fun heq => hhead (congrArg some heq)
    cases m <;> simp [Markup.close?, hspan, hd]

/-- Markup does not end in the middle of its end. -/
theorem extend?_closing (m : Markup) (hhead : '}' ∉ rest.head?) :
    ∃ c ∈ Name.separators, m.extend? (' ' :: (m.closing ++ rest)) =
      (m.extend? ('}' :: rest)).map fun r => (' ' :: c :: r.1, r.2) := by
  have hblank : isBlank ' ' = true := rfl
  have hclose := close?_brace (m := m) hhead
  match m with
  | .variable =>
    refine ⟨'}', by decide, ?_⟩
    simp [Markup.closing, Markup.extend?, hblank, hclose, Function.comp_def]
  | .condition =>
    refine ⟨'%', by decide, ?_⟩
    simp [Markup.closing, Markup.extend?, hblank, hclose, Function.comp_def]

theorem extend?_isSome {body : List Char} (rest : List Char) (hne : body ≠ [])
    (hline : '\n' ∉ body) (hlast : ∀ c ∈ body.getLast?, isBlank c = false) :
    (m.extend? (body ++ ' ' :: (m.closing ++ rest))).isSome := by
  induction body with
  | nil => exact absurd rfl hne
  | cons c body ih =>
    have hc : c ≠ '\n' := fun heq => hline (heq ▸ List.mem_cons_self)
    cases body with
    | nil =>
      have hblank : isBlank c = false := hlast c rfl
      simp [Markup.extend?, hblank, close?_blank_closing]
    | cons d body =>
      have hrest := ih (List.cons_ne_nil d body)
        (fun hmem => hline (List.mem_cons_of_mem c hmem))
        (fun x hx => hlast x (by rwa [List.getLast?_cons_cons]))
      rw [List.cons_append, Markup.extend?]
      split
      · rfl
      · simpa [hc] using hrest

theorem mem_pieces_of_site {cs before name after : List Char}
    (h : m.site? cs = some (before, name, after)) :
    Piece.site before name after ∈ pieces m cs := by
  cases cs with
  | nil => cases m <;> cases h
  | cons c cs =>
    rw [pieces, piecesFrom, h]
    exact List.mem_cons_self

end Reference

-- ---------------------------------------------------------------------------
-- Segments on a line
-- ---------------------------------------------------------------------------

namespace Segment

variable {m : Markup} {s : Segment} {n : String}

/-- Whether a segment may stand on one line: as text it is no markup, and its name can be told
from the markup around it. -/
def Inline : Segment → Prop
  | .char c => c ∉ Name.separators
  | .reference n => Name.Inline n
  | .condition _ n => Name.Inline n
  | .bare _ => True

instance : DecidablePred Inline
  | .char c => inferInstanceAs (Decidable (c ∉ Name.separators))
  | .reference n => inferInstanceAs (Decidable (Name.Inline n))
  | .condition _ n => inferInstanceAs (Decidable (Name.Inline n))
  | .bare _ => isTrue trivial

/-- The kind of markup a segment is in. -/
def markup? : Segment → Option Markup
  | .char _ => none
  | .reference _ => some .variable
  | .condition _ _ => some .condition
  | .bare _ => some .condition

theorem Inline.ne {c d : Char} (h : (char c).Inline) (hd : d ∈ Name.separators) : c ≠ d :=
  fun heq => h (heq ▸ hd)

theorem inline_of_name? (hs : s.Inline) (hn : s.name? = some n) : Name.Inline n := by
  cases s <;> cases hn <;> exact hs

theorem name?_of_nameIn? (hn : s.nameIn? m = some n) : s.name? = some n := by
  cases s with
  | reference n' => cases m <;> first | exact hn | cases hn
  | condition k n' => cases m <;> first | exact hn | cases hn
  | _ => cases hn

/-- In front of the end of a segment's markup stands a name or a word. -/
theorem exists_body (hs : s.Inline) (hm : s.markup? = some m) :
    ∃ front word, s.source = front ++ (word ++ ' ' :: m.closing) ∧ '\n' ∉ front ∧
      '\n' ∉ word ∧ word ≠ [] ∧ ∀ c ∈ word.getLast?, isBlank c = false := by
  have hline : '\n' ∈ Name.separators := by decide
  cases s with
  | char c => cases hm
  | reference n =>
    cases hm
    refine ⟨['{', '{', ' '], n.toList, rfl, by decide, hs.not_mem hline, hs.nonempty, hs.last⟩
  | condition k n =>
    cases hm
    refine ⟨conditionBefore k.chars, n.toList, ?_, ?_, hs.not_mem hline, hs.nonempty, hs.last⟩
    · simp [source, Letter.statementSource, conditionBefore, Markup.closing]
    · cases k <;> decide
  | bare w =>
    cases hm
    refine ⟨['{', '%', ' '], w.chars, rfl, by decide, ?_⟩
    cases w <;> decide

/-- A segment with a name opens markup in front of it. -/
theorem open?_source (hs : s.Inline) (hn : s.nameIn? m = some n) (rest : List Char) :
    ∃ before, m.open? (s.source ++ rest)
      = some (before, n.toList ++ ' ' :: (m.closing ++ rest)) := by
  cases s with
  | reference n' =>
    obtain ⟨rfl, rfl⟩ : m = .variable ∧ n' = n := by simpa [nameIn?] using hn
    refine ⟨['{', '{', ' '], ?_⟩
    have hopen := open?_reference hs (' ' :: (Markup.variable.closing ++ rest))
    simpa [source, Letter.referenceSource, Markup.closing] using hopen
  | condition k n' =>
    obtain ⟨rfl, rfl⟩ : m = .condition ∧ n' = n := by simpa [nameIn?] using hn
    refine ⟨conditionBefore k.chars, ?_⟩
    have hopen := open?_condition hs k.chars_mem (' ' :: (Markup.condition.closing ++ rest))
    simpa [source, Letter.statementSource, conditionBefore, Markup.closing] using hopen
  | _ => cases hn

/-- A segment that is not in markup of a kind adds no end of such markup. -/
theorem closing_not_infix_source_append {rest : List Char} (hs : s.Inline)
    (hm : s.markup? ≠ some m) (hhead : '}' ∉ rest.head?) (hrest : ¬ m.closing <:+: rest) :
    ¬ m.closing <:+: s.source ++ rest := by
  have hstatement : ∀ words, '}' ∉ words →
      ¬ Markup.variable.closing <:+: rest →
      ¬ Markup.variable.closing <:+: Letter.statementSource words ++ rest := by
    intro words hwords hrest
    have hsplit : Letter.statementSource words ++ rest
        = ('{' :: '%' :: ' ' :: (words ++ [' ', '%'])) ++ '}' :: rest := by
      simp [Letter.statementSource]
    rw [hsplit]
    refine closing_not_infix_append (fun c hc => ?_) (closing_not_infix_brace hhead hrest)
    rintro ⟨⟩
    simp [hwords] at hc
  cases s with
  | char c =>
    refine closing_not_infix_append (fun d hd => ?_) hrest
    obtain rfl := List.mem_singleton.mp hd
    intro hclosing
    cases m <;> exact hs.ne (by decide) (Option.some.inj hclosing).symm
  | reference n =>
    obtain rfl : m = .condition := by cases m <;> first | rfl | exact absurd rfl hm
    refine closing_not_infix_append (fun c hc => ?_) hrest
    rintro ⟨⟩
    have hn : '%' ∉ n.toList := hs.not_mem (by decide)
    simp [source, Letter.referenceSource, hn] at hc
  | condition k n =>
    obtain rfl : m = .variable := by cases m <;> first | rfl | exact absurd rfl hm
    have hn : '}' ∉ n.toList := hs.not_mem (by decide)
    refine hstatement _ ?_ hrest
    cases k <;> simp [Keyword.chars, hn]
  | bare w =>
    obtain rfl : m = .variable := by cases m <;> first | rfl | exact absurd rfl hm
    exact hstatement _ (by cases w <;> decide) hrest

end Segment

namespace Segments

variable {m : Markup} {ss : Segments}

theorem head?_source (hss : ∀ s ∈ ss, s.Inline) : '}' ∉ (source ss).head? := by
  cases ss with
  | nil => nofun
  | cons s ss =>
    have hs := hss s List.mem_cons_self
    cases s with
    | char c =>
      intro hc
      exact hs.ne (by decide) (Option.some.inj hc)
    | reference n => exact fun hc => absurd (Option.some.inj hc) (by decide)
    | condition k n => exact fun hc => absurd (Option.some.inj hc) (by decide)
    | bare w => exact fun hc => absurd (Option.some.inj hc) (by decide)

theorem newline_not_mem_source (hss : ∀ s ∈ ss, s.Inline) : '\n' ∉ source ss := by
  intro hmem
  obtain ⟨s, hs, hmem⟩ := List.mem_flatMap.mp hmem
  have hinline := hss s hs
  cases hm : s.markup? with
  | none =>
    cases s with
    | char c => exact hinline (List.mem_singleton.mp hmem ▸ by decide)
    | _ => cases hm
  | some m =>
    obtain ⟨front, word, hsource, hfront, hword, -, -⟩ := s.exists_body hinline hm
    rw [hsource] at hmem
    cases m <;> simp [Markup.closing, hfront, hword] at hmem

theorem closing_not_infix_source (hss : ∀ s ∈ ss, s.Inline) (hm : ∀ s ∈ ss, s.markup? ≠ some m) :
    ¬ m.closing <:+: source ss := by
  induction ss with
  | nil => cases m <;> decide
  | cons s ss ih =>
    obtain ⟨hs, hss⟩ := List.forall_mem_cons.mp hss
    obtain ⟨hms, hmss⟩ := List.forall_mem_cons.mp hm
    exact s.closing_not_infix_source_append hs hms (head?_source hss) (ih hss hmss)

/-- Markup of a kind in a row has an end somewhere. -/
theorem exists_body (hss : ∀ s ∈ ss, s.Inline) {t : Segment} (ht : t ∈ ss)
    (hm : t.markup? = some m) :
    ∃ front word rest, source ss = front ++ (word ++ ' ' :: (m.closing ++ rest)) ∧ '\n' ∉ front ∧
      '\n' ∉ word ∧ word ≠ [] ∧ ∀ c ∈ word.getLast?, isBlank c = false := by
  obtain ⟨ss₁, ss₂, rfl⟩ := List.append_of_mem ht
  obtain ⟨front, word, hsource, hfront, hrest⟩ := t.exists_body (hss t ht) hm
  have hline : '\n' ∉ source ss₁ := newline_not_mem_source fun s hs =>
    hss s (List.mem_append_left _ hs)
  refine ⟨source ss₁ ++ front, word, source ss₂, ?_, ?_, hrest⟩
  · simp [source_append, source_cons, hsource]
  · simp [hline, hfront]

end Segments

-- ---------------------------------------------------------------------------
-- Names that end where their markup does
-- ---------------------------------------------------------------------------

namespace Segment

variable {m : Markup} {s : Segment} {ss : Segments} {n : String}

/-- Whether the name of a segment in markup of a kind ends where the markup does: it has two
characters, or no such markup is behind it. -/
def Legible (m : Markup) (ss : Segments) (s : Segment) : Prop :=
  ∀ n ∈ s.nameIn? m, 2 ≤ n.toList.length ∨ ∀ t ∈ ss, t.markup? ≠ some m

theorem finds_of_legible (hs : s.Inline) (hss : ∀ t ∈ ss, t.Inline) (h : s.Legible m ss) :
    s.Finds m (Segments.source ss) := by
  have hends : ∀ n ∈ s.nameIn? m, m.Ends n (Segments.source ss) := by
    intro n hn
    refine (h n hn).imp_right fun hmarkup => ?_
    have hhead := Segments.head?_source hss
    obtain ⟨c, -, hextend⟩ := extend?_closing m hhead
    rw [hextend, extend?_eq_none
      (closing_not_infix_brace hhead (Segments.closing_not_infix_source hss hmarkup))]
    rfl
  have hbrace : '{' ∈ Name.separators := by decide
  cases s with
  | char c => exact hs.ne (by decide)
  | reference n =>
    rw [Finds, Markup.Finds]
    split
    next hm => exact ⟨hs, hends n (if_pos hm)⟩
    next => exact Markup.opening_not_infix (hs.not_mem hbrace)
  | condition k n =>
    rw [Finds, Markup.Finds]
    split
    next hm => exact ⟨hs, hends n (if_pos hm)⟩
    next => exact Markup.opening_not_infix (hs.not_mem hbrace)
  | bare w => trivial

/-- A name that does not end where its markup does is found with markup in it. -/
theorem exists_site_of_not_legible (hs : s.Inline) (hss : ∀ t ∈ ss, t.Inline)
    (h : ¬ s.Legible m ss) :
    ∃ before name after, Piece.site before name after ∈
        Reference.pieces m (s.source ++ Segments.source ss) ∧ ∃ c ∈ name, c ∈ Name.separators := by
  simp only [Legible, not_forall, not_or, not_not] at h
  obtain ⟨n, hn, hshort, t, ht, hm⟩ := h
  have hname := inline_of_name? hs (name?_of_nameIn? hn)
  obtain ⟨d, hd⟩ : ∃ d, n.toList = [d] := by
    refine List.length_eq_one_iff.mp ?_
    have hpos := List.length_pos_of_ne_nil hname.nonempty
    omega
  obtain ⟨front, word, rest, hrow, hfront, hword, hne, hlast⟩ := Segments.exists_body hss ht hm
  obtain ⟨c, hc, hextend⟩ := extend?_closing m (Segments.head?_source hss)
  -- the search for a longer name passes over the end of its own markup and up to the next one
  have hsome : (m.extend? (' ' :: (m.closing ++ Segments.source ss))).isSome := by
    have hbody : ' ' :: (m.closing ++ Segments.source ss)
        = (' ' :: (m.closing ++ (front ++ word))) ++ ' ' :: (m.closing ++ rest) := by
      simp [hrow]
    rw [hbody]
    refine extend?_isSome rest (List.cons_ne_nil _ _) ?_ ?_
    · cases m <;> simp [Markup.closing, hfront, hword]
    · rw [← List.append_assoc, ← List.cons_append, List.getLast?_append_of_ne_nil _ hne]
      exact hlast
  obtain ⟨before, hopen⟩ := open?_source hs hn (Segments.source ss)
  rw [hextend, Option.isSome_map] at hsome
  obtain ⟨r, hr⟩ := Option.isSome_iff_exists.mp hsome
  rw [hr] at hextend
  have hsite : m.site? (s.source ++ Segments.source ss)
      = some (before, d :: ' ' :: c :: r.1, r.2.1) := by
    rw [Markup.site?, hopen, hd]
    simp [mayStart_of_inline hname hd, hextend]
  exact ⟨before, d :: ' ' :: c :: r.1, r.2.1, mem_pieces_of_site hsite, c, by simp, hc⟩

end Segment

namespace Segments

variable {m : Markup} {ss : Segments}

/-- Whether all names in markup of a kind end where the markup does. -/
def Legible (m : Markup) : Segments → Prop
  | [] => True
  | s :: ss => s.Legible m ss ∧ Legible m ss

theorem finds_of_legible (hss : ∀ s ∈ ss, s.Inline) (h : Legible m ss) : Finds m ss := by
  induction ss with
  | nil => trivial
  | cons s ss ih =>
    obtain ⟨hs, hss⟩ := List.forall_mem_cons.mp hss
    exact ⟨s.finds_of_legible hs hss h.1, ih hss h.2⟩

theorem exists_site_of_not_legible (hss : ∀ s ∈ ss, s.Inline) (h : ¬ Legible m ss) :
    ∃ before name after, Piece.site before name after ∈ Reference.pieces m (source ss) ∧
      ∃ c ∈ name, c ∈ Name.separators := by
  induction ss with
  | nil => exact absurd trivial h
  | cons s ss ih =>
    obtain ⟨hs, hss⟩ := List.forall_mem_cons.mp hss
    by_cases hlegible : s.Legible m ss
    · obtain ⟨before, name, after, hmem, hname⟩ := ih hss fun hrest => h ⟨hlegible, hrest⟩
      refine ⟨before, name, after, ?_, hname⟩
      rw [source_cons, s.pieces_source_append (s.finds_of_legible hs hss hlegible)]
      exact List.mem_append_right _ hmem
    · exact s.exists_site_of_not_legible hs hss hlegible

theorem filterMap_variable_eq_nil_iff :
    ss.filterMap (Segment.nameIn? .variable) = [] ↔ ∀ s ∈ ss, s.markup? ≠ some .variable := by
  rw [List.filterMap_eq_nil_iff]
  refine forall₂_congr fun s _ => ?_
  cases s <;> simp [Segment.nameIn?, Segment.markup?]

/-- Of the references of a row only the last may have a name of one character. -/
theorem legible_variable_iff (ss : Segments) :
    Legible .variable ss ↔
      ∀ n ∈ (ss.filterMap (Segment.nameIn? .variable)).dropLast, 2 ≤ n.toList.length := by
  induction ss with
  | nil => exact iff_of_true trivial (List.forall_mem_nil _)
  | cons s ss ih =>
    rw [Legible, ih]
    cases s with
    | reference n =>
      have hlegible : (Segment.reference n).Legible .variable ss ↔
          2 ≤ n.toList.length ∨ ss.filterMap (Segment.nameIn? .variable) = [] := by
        rw [filterMap_variable_eq_nil_iff]
        simp [Segment.Legible, Segment.nameIn?]
      have hcons : (Segment.reference n :: ss).filterMap (Segment.nameIn? .variable)
          = n :: ss.filterMap (Segment.nameIn? .variable) := rfl
      rw [hlegible, hcons]
      by_cases hnil : ss.filterMap (Segment.nameIn? .variable) = []
      · simp [hnil]
      · simp [hnil, List.dropLast_cons_of_ne_nil]
    | _ => simp [Segment.Legible, Segment.nameIn?, List.filterMap_cons]

/-- Whether a statement stands behind every condition. -/
def Ended : Segments → Prop
  | [] => True
  | s :: ss =>
    ((s.nameIn? .condition).isSome → ∃ t ∈ ss, t.markup? = some .condition) ∧ Ended ss

theorem Ended.append {ts : Segments} (hss : Ended ss) (hts : Ended ts) : Ended (ss ++ ts) := by
  induction ss with
  | nil => exact hts
  | cons s ss ih =>
    refine ⟨fun hs => ?_, ih hss.2⟩
    obtain ⟨t, ht, hm⟩ := hss.1 hs
    exact ⟨t, List.mem_append_left ts ht, hm⟩

/-- No condition that ends may have a name of one character. -/
theorem legible_condition_iff (hended : Ended ss) :
    Legible .condition ss ↔
      ∀ n ∈ ss.filterMap (Segment.nameIn? .condition), 2 ≤ n.toList.length := by
  induction ss with
  | nil => exact iff_of_true trivial (List.forall_mem_nil _)
  | cons s ss ih =>
    have hlegible : s.Legible .condition ss ↔
        ∀ n ∈ s.nameIn? .condition, 2 ≤ n.toList.length := by
      refine forall₂_congr fun n hn => or_iff_left fun hnone => ?_
      obtain ⟨t, ht, hm⟩ := hended.1 (Option.isSome_of_mem hn)
      exact hnone t ht hm
    rw [Legible, hlegible, ih hended.2, List.filterMap_cons]
    cases s.nameIn? .condition with
    | none => simp
    | some n => simp

end Segments

-- ---------------------------------------------------------------------------
-- Letters
-- ---------------------------------------------------------------------------

theorem Otherwise.exists_statement (o : Otherwise) :
    ∃ t ∈ o.segments, t.markup? = some .condition := by
  cases o with
  | nothing => exact ⟨.bare .stop, List.mem_cons_self, rfl⟩
  | always no => exact ⟨.bare .otherwise, List.mem_cons_self, rfl⟩
  | onlyIf n yes no => exact ⟨.condition .again n, List.mem_cons_self, rfl⟩

mutual

theorem Letter.ended_segments (l : Letter) : l.segments.Ended := by
  match l with
  | .done => exact trivial
  | .char c l => exact ⟨nofun, l.ended_segments⟩
  | .reference n l => exact ⟨nofun, l.ended_segments⟩
  | .condition n yes no l =>
    obtain ⟨t, ht, hm⟩ := no.exists_statement
    refine ⟨fun _ => ⟨t, ?_, hm⟩,
      yes.ended_segments.append (no.ended_segments.append l.ended_segments)⟩
    exact List.mem_append_right _ (List.mem_append_left _ ht)

theorem Otherwise.ended_segments (o : Otherwise) : o.segments.Ended := by
  match o with
  | .nothing => exact ⟨nofun, trivial⟩
  | .always no => exact ⟨nofun, no.ended_segments.append ⟨nofun, trivial⟩⟩
  | .onlyIf n yes no =>
    obtain ⟨t, ht, hm⟩ := no.exists_statement
    exact ⟨fun _ => ⟨t, List.mem_append_right _ ht, hm⟩,
      yes.ended_segments.append no.ended_segments⟩

end

namespace Letter

/-- Whether a letter stands on one line, in names that can be told from markup. -/
def Inline (l : Letter) : Prop := ∀ s ∈ l.segments, s.Inline

instance (l : Letter) : Decidable l.Inline :=
  inferInstanceAs (Decidable (∀ s ∈ l.segments, s.Inline))

/-- The names of a letter, from left to right. -/
def names (l : Letter) : List String := l.segments.filterMap Segment.name?

/-- The names in markup of one kind. -/
def namesIn (m : Markup) (l : Letter) : List String := l.segments.filterMap (Segment.nameIn? m)

variable {l : Letter}

theorem names_text (hl : l.Inline) (hlegible : ∀ m, l.segments.Legible m) :
    Reference.names l.text = l.names.eraseDups := by
  rw [text, ← l.source_segments]
  exact Segments.names_source fun m => Segments.finds_of_legible hl (hlegible m)

/-- A name that was found with markup in it is none of the letter. -/
theorem names_text_ne {m : Markup} (hl : l.Inline) (hlegible : ¬ l.segments.Legible m) :
    Reference.names l.text ≠ l.names.eraseDups := by
  intro hnames
  obtain ⟨before, name, after, hmem, c, hc, hsep⟩ := Segments.exists_site_of_not_legible hl hlegible
  have htext : l.text.toList = Segments.source l.segments := by
    rw [text, String.toList_ofList, l.source_segments]
  have hfound : String.ofList name ∈ Reference.names l.text :=
    mem_names (htext ▸ hmem) ⟨before, after, by rw [String.toList_ofList]⟩
  rw [hnames, List.mem_eraseDups, names, List.mem_filterMap] at hfound
  obtain ⟨s, hs, hn⟩ := hfound
  have hinline := Segment.inline_of_name? (hl s hs) hn
  exact hinline.not_mem hsep (by rwa [String.toList_ofList])

theorem substitute_text_of_legible (hl : l.Inline) (hvariable : l.segments.Legible .variable)
    (hcondition : ∀ n ∈ l.namesIn .condition, 2 ≤ n.toList.length) {f : String → String}
    (hf : ∀ n ∈ l.namesIn .variable, ¬ Markup.condition.opening <:+: (f n).toList) :
    Reference.substitute f l.text = (l.mapNames f f).text := by
  have hfirst := Segments.substituteMarkup_source f (Segments.finds_of_legible hl hvariable)
  -- conditions are looked for where references have been replaced already
  have hfinds : Segments.Finds .condition (l.segments.map (Segment.mapName f id)) := by
    refine Segments.finds_of_forall fun s hs rest => ?_
    obtain ⟨t, ht, rfl⟩ := List.mem_map.mp hs
    have hinline := hl t ht
    cases t with
    | char c => exact hinline.ne (by decide)
    | reference n => exact hf n (List.mem_filterMap.mpr ⟨_, ht, rfl⟩)
    | condition k n => exact ⟨hinline, .inl (hcondition n (List.mem_filterMap.mpr ⟨_, ht, rfl⟩))⟩
    | bare w => trivial
  have hsecond := Segments.substituteMarkup_source f hfinds
  rw [text, Reference.substitute, String.toList_ofList, substituteChars, ← l.source_segments]
  change String.ofList (substituteMarkup .condition (onChars f)
    (substituteMarkup .variable (onChars f) (Segments.source l.segments))) = _
  rw [hfirst]
  change String.ofList (substituteMarkup .condition (onChars f)
    (Segments.source (l.segments.map (Segment.mapName f id)))) = _
  rw [hsecond, text, ← source_segments, segments_mapNames, List.map_map]
  congr 2
  refine List.map_congr_left fun s _ => ?_
  cases s <;> rfl

/-- On one line the names of a letter are found, and are replaced and nothing else is, exactly
if no condition has a name of one character and no reference but the last. What takes the place
of a reference's name must not open a statement. -/
theorem names_and_substitute_iff (hl : l.Inline) :
    (Reference.names l.text = l.names.eraseDups ∧
      ∀ f : String → String,
        (∀ n ∈ l.namesIn .variable, ¬ Markup.condition.opening <:+: (f n).toList) →
        Reference.substitute f l.text = (l.mapNames f f).text) ↔
    (∀ n ∈ l.namesIn .condition, 2 ≤ n.toList.length) ∧
      ∀ n ∈ (l.namesIn .variable).dropLast, 2 ≤ n.toList.length := by
  have hcondition := Segments.legible_condition_iff l.ended_segments
  have hvariable := Segments.legible_variable_iff l.segments
  constructor
  · rintro ⟨hnames, -⟩
    exact ⟨hcondition.mp (by_contra fun h => names_text_ne hl h hnames),
      hvariable.mp (by_contra fun h => names_text_ne hl h hnames)⟩
  · rintro ⟨hlong, hfirst⟩
    have hlegible : ∀ m, l.segments.Legible m
      | .variable => hvariable.mpr hfirst
      | .condition => hcondition.mpr hlong
    exact ⟨names_text hl hlegible,
      fun f hf => substitute_text_of_legible hl (hlegible .variable) hlong hf⟩

/-- A letter whose last reference has a name of one character. -/
def invitation : Letter :=
  .reference "first name" (ofText ", " (.condition "came before"
    (.reference "last time" (ofText " was nice" .done)) .nothing
    (ofText ", " (.reference "first name" (ofText " & " (.reference "x" .done))))))

theorem names_and_substitute_invitation :
    invitation.Inline ∧
      Reference.names invitation.text = ["first name", "came before", "last time", "x"] ∧
      Reference.rename "x" "guest" invitation.text
        = (invitation.mapNames (fun n => if n == "x" then "guest" else n)
            fun n => if n == "x" then "guest" else n).text := by
  have hinline : invitation.Inline := by decide
  have hlong : (∀ n ∈ invitation.namesIn .condition, 2 ≤ n.toList.length) ∧
      ∀ n ∈ (invitation.namesIn .variable).dropLast, 2 ≤ n.toList.length := by decide
  have hbrace : ∀ n ∈ invitation.namesIn .variable,
      '{' ∉ (if n == "x" then "guest" else n).toList := by decide
  obtain ⟨hnames, hsubstitute⟩ := (names_and_substitute_iff hinline).mpr hlong
  exact ⟨hinline, hnames.trans (by decide),
    hsubstitute _ fun n hn => Markup.opening_not_infix (hbrace n hn)⟩

/-- Two references with short names. -/
def couple : Letter := .reference "a" (.char ' ' (.reference "b" .done))

/-- The first of two short names reaches to the end of the second reference. -/
theorem names_couple :
    couple.Inline ∧ couple.names.eraseDups = ["a", "b"] ∧
      Reference.names couple.text = ["a \x7d\x7d \x7b\x7b b"] := by
  have hvariable : placedNames 0 (Reference.pieces .variable couple.text.toList)
      = [(3, "a \x7d\x7d \x7b\x7b b".toList)] := by decide
  have hcondition : placedNames 0 (Reference.pieces .condition couple.text.toList) = [] := by
    decide
  refine ⟨by decide, by decide, ?_⟩
  rw [Reference.names]
  simp only [hvariable, hcondition, List.append_nil, List.mergeSort_singleton]
  rfl

end Letter

end MailMerge
