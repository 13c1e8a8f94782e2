import MailMerge.Proofs.Reference.Marked
import MailMerge.Proofs.Letter.Names

/-!
# Marking the references of a text

Every text can be marked so that its marks of either kind are the sites found by a search for
that kind (`Marking`): two names of different kinds never overlap, since each is followed by its
own delimiter. Such a marking stays one when its names are replaced by longer ones.
-/

namespace MailMerge

namespace Reference

variable {m k : Markup} {b b' : Bool} {ms ms' : List Mark} {cs : List Char}

-- ---------------------------------------------------------------------------
-- What a search for one kind marks
-- ---------------------------------------------------------------------------

/-- A text as a name, if it can be told from the markup around it. -/
def markName (m : Markup) (x : List Char) : List Mark :=
  if h : Name.Inline (String.ofList x) then [.name m ⟨_, h⟩] else ofChars x

def Piece.marks (m : Markup) : Piece → List Mark
  | .char c => [.char c]
  | .site before name after => ofChars before ++ (markName m name ++ ofChars after)

/-- A text with the names marked that a search for sites of one kind finds. -/
def marksOf (m : Markup) (cs : List Char) : List Mark := (pieces m cs).flatMap (Piece.marks m)

theorem marksOf_cons {c : Char} (h : m.site? (c :: cs) = none) :
    marksOf m (c :: cs) = .char c :: marksOf m cs := by
  rw [marksOf, pieces_cons_of_no_site h]
  rfl

theorem marksOf_append_of_site {bs x a r : List Char} (hne : bs ≠ [])
    (h : m.site? (bs ++ (x ++ (a ++ r))) = some (bs, x, a)) :
    marksOf m (bs ++ (x ++ (a ++ r))) =
      ofChars bs ++ (markName m x ++ (ofChars a ++ marksOf m r)) := by
  rw [marksOf, pieces_append_of_site hne h, List.flatMap_cons, Piece.marks, marksOf]
  simp only [List.append_assoc]

theorem marksOf_append_of_no_brace {x : List Char} (r : List Char) (h : '{' ∉ x) :
    marksOf m (x ++ r) = ofChars x ++ marksOf m r := by
  have hx : (x.map Piece.char).flatMap (Piece.marks m) = ofChars x := by
    rw [List.flatMap_map]
    exact List.flatMap_pure_eq_map _ _
  rw [marksOf, pieces_append_of_no_brace r h, List.flatMap_append, hx, marksOf]

/-- A text is taken apart as by a search: at its head is a site, or a character. -/
@[elab_as_elim]
theorem site_induction (m : Markup) {P : List Char → Prop} (nil : P [])
    (char : ∀ c cs, m.site? (c :: cs) = none → P cs → P (c :: cs))
    (site : ∀ bs x a r, m.Opens bs → m.named? (x ++ (a ++ r)) = some (x, a, r) → P r →
      P (bs ++ (x ++ (a ++ r)))) (cs : List Char) : P cs := by
  induction hlen : cs.length using Nat.strong_induction_on generalizing cs with
  | h len ih =>
    cases cs with
    | nil => exact nil
    | cons c cs =>
      match hsite : m.site? (c :: cs) with
      | none => exact char c cs hsite (ih cs.length (by simp at hlen; omega) cs rfl)
      | some (bs, x, a) =>
        obtain ⟨rest, r, hbs, hcs, hnamed⟩ := Markup.site?_eq_some hsite
        obtain rfl := (Markup.named?_eq_some hnamed).1.split
        have hpos : 0 < bs.length := List.length_pos_iff.mpr hbs.ne_nil
        have hr : r.length < len := by
          rw [hcs, List.length_append, List.length_append, List.length_append] at hlen
          omega
        rw [hcs]
        exact site bs x a r hbs hnamed (ih r.length hr r rfl)

theorem markName_toList (m : Markup) (n : InlineName) : markName m n.1.toList = [.name m n] := by
  have hn : Name.Inline (String.ofList n.1.toList) := by
    rw [String.ofList_toList]
    exact n.2
  rw [markName, dif_pos hn]
  simp only [String.ofList_toList]

theorem chars_markName (m : Markup) (x : List Char) : chars (markName m x) = x := by
  rw [markName]
  split
  · simp
  · exact chars_ofChars x

theorem keep_markName (m : Markup) (x : List Char) : keep m (markName m x) = markName m x := by
  rw [markName]
  split
  · simp
  · exact keep_ofChars m x

theorem chars_marksOf (m : Markup) (cs : List Char) : chars (marksOf m cs) = cs := by
  induction cs using site_induction m with
  | nil => rfl
  | char c cs h ih => rw [marksOf_cons h, chars_char, ih]
  | site bs x a r hbs hnamed ih =>
    rw [marksOf_append_of_site hbs.ne_nil (Markup.site?_append hbs hnamed)]
    simp [chars_markName, ih]

theorem keep_marksOf (m : Markup) (cs : List Char) : keep m (marksOf m cs) = marksOf m cs := by
  induction cs using site_induction m with
  | nil => rfl
  | char c cs h ih => rw [marksOf_cons h, keep_char, ih]
  | site bs x a r hbs hnamed ih =>
    rw [marksOf_append_of_site hbs.ne_nil (Markup.site?_append hbs hnamed)]
    simp [keep_markName, ih]

theorem sound_marksOf (m : Markup) (cs : List Char) : Sound b (marksOf m cs) := by
  induction cs using site_induction m generalizing b with
  | nil => trivial
  | char c cs h ih =>
    rw [marksOf_cons h]
    exact ih
  | site bs x a r hbs hnamed ih =>
    obtain ⟨hfound, -, hend⟩ := Markup.named?_eq_some hnamed
    rw [marksOf_append_of_site hbs.ne_nil (Markup.site?_append hbs hnamed), sound_ofChars_append,
      hbs.foldl_leads]
    have hrest : ∀ b', Sound b' (ofChars a ++ marksOf m r) := fun b' => by
      rw [sound_ofChars_append]
      exact ih
    rw [markName]
    split
    · have hchars : chars (ofChars a ++ marksOf m r) = a ++ r := by simp [chars_marksOf]
      rw [List.singleton_append, Sound, hchars, String.toList_ofList,
        Markup.close?_append hfound.closes]
      exact ⟨rfl, rfl, hend, hrest false⟩
    · rw [sound_ofChars_append]
      exact hrest _

-- ---------------------------------------------------------------------------
-- Marks of both kinds
-- ---------------------------------------------------------------------------

theorem eq_of_keep_name {n : InlineName} (h : keep m (.name k n :: ms) = .name k n :: ms) :
    k = m := by
  by_contra hk
  obtain ⟨c, more, hn⟩ := List.exists_cons_of_ne_nil n.2.nonempty
  rw [keep_name_of_ne hk, hn] at h
  cases h

/-- Where a reference is closed inside the characters of a name, the name is over. -/
theorem eq_nil_of_close? {x y rest : List Char} (hinner : ∀ c ∈ x ++ y, c ∉ Name.separators)
    (hlast : ∀ c ∈ (x ++ y).getLast?, isBlank c = false)
    (hclose : (k.close? (y ++ rest)).isSome) : y = [] := by
  by_contra hy
  have hinner' : ∀ c ∈ y, c ∉ Name.separators :=
    fun c hc => hinner c (List.mem_append_right _ hc)
  have hlast' : ∀ c ∈ y.getLast?, isBlank c = false := by
    intro c hc
    refine hlast c ?_
    rw [List.getLast?_append, Option.mem_def.mp hc]
    rfl
  rw [close?_append_of_name _ hy hinner' hlast'] at hclose
  exact Bool.false_ne_true hclose

/-- One reference is closed by one delimiter. -/
theorem eq_of_close? {cs : List Char} (hk : (k.close? cs).isSome) (hm : (m.close? cs).isSome) :
    k = m := by
  by_contra hkm
  rw [Markup.close?_eq_none_of_ne hkm hk] at hm
  exact Bool.false_ne_true hm

/-- Where two names have a character in common, the same delimiter stands behind both. -/
theorem eq_of_overlap {x rest rest' : List Char} {n : InlineName}
    (hinner : ∀ c ∈ x, c ∉ Name.separators) (hlast : ∀ c ∈ x.getLast?, isBlank c = false)
    (hclose : (k.close? rest).isSome) (hclose' : (m.close? rest').isSome)
    (h : x ++ rest = n.1.toList ++ rest') : k = m := by
  rcases List.append_eq_append_iff.mp h with ⟨y, hn, rfl⟩ | ⟨y, rfl, rfl⟩
  · obtain rfl := eq_nil_of_close? (hn ▸ n.2.inner) (hn ▸ n.2.last) hclose
    exact eq_of_close? hclose hclose'
  · obtain rfl := eq_nil_of_close? hinner hlast hclose'
    exact eq_of_close? hclose hclose'

/-- The characters of a name at a site of one kind are none of a name at a site of another. -/
theorem Sound.eq_ofChars_append {x rest : List Char} (h : Sound b ms) (hms : keep m ms = ms)
    (hkm : k ≠ m) (hinner : ∀ c ∈ x, c ∉ Name.separators)
    (hlast : ∀ c ∈ x.getLast?, isBlank c = false) (hclose : (k.close? rest).isSome)
    (hchars : chars ms = x ++ rest) : ∃ qs, ms = ofChars x ++ qs := by
  induction x generalizing b ms with
  | nil => exact ⟨ms, rfl⟩
  | cons c x ih =>
    cases ms with
    | nil => cases hchars
    | cons p ms =>
      cases p with
      | char d =>
        have hinner' : ∀ e ∈ x, e ∉ Name.separators :=
          fun e he => hinner e (List.mem_cons_of_mem _ he)
        have hlast' : ∀ e ∈ x.getLast?, isBlank e = false := by
          intro e he
          refine hlast e ?_
          rw [List.getLast?_cons, Option.mem_def.mp he]
          rfl
        have hsound : Sound (leads b d) ms := h
        obtain ⟨qs, rfl⟩ := ih hsound (List.cons.inj hms).2 hinner' hlast' (List.cons.inj hchars).2
        exact ⟨qs, by rw [(List.cons.inj hchars).1]; rfl⟩
      | name k' n =>
        obtain rfl := eq_of_keep_name hms
        exact absurd (eq_of_overlap hinner hlast hclose h.2.1 hchars.symm) hkm

/-- A marking for one kind at a name of another: its characters, then a marking of the rest. -/
theorem Sound.behind_name {n : InlineName} {ps : List Mark} (hkm : k ≠ m)
    (h : Sound b (.name k n :: ps)) (h' : Sound b' ms) (hms : keep m ms = ms)
    (hchars : chars (.name k n :: ps) = chars ms) :
    ∃ qs, ms = ofChars n.1.toList ++ qs ∧ chars ps = chars qs ∧
      Sound (n.1.toList.foldl leads b') qs ∧ keep m qs = qs := by
  obtain ⟨-, hclose, -, -⟩ := h
  obtain ⟨qs, rfl⟩ := h'.eq_ofChars_append hms hkm n.2.inner n.2.last hclose hchars.symm
  rw [chars_name, chars_append, chars_ofChars] at hchars
  rw [keep_append, keep_ofChars] at hms
  exact ⟨qs, rfl, List.append_cancel_left hchars, (sound_ofChars_append _ _).mp h',
    List.append_cancel_left hms⟩

/-- A marking for one kind and one for another have a marking for both. -/
theorem exists_merge {ms₁ ms₂ : List Mark} (hkm : k ≠ m) (hchars : chars ms₁ = chars ms₂)
    (h₁ : Sound b ms₁) (h₂ : Sound b' ms₂) (hk : keep k ms₁ = ms₁) (hm : keep m ms₂ = ms₂) :
    ∃ ms, keep k ms = ms₁ ∧ keep m ms = ms₂ := by
  induction hlen : ms₁.length + ms₂.length using Nat.strong_induction_on
    generalizing ms₁ ms₂ b b' with
  | h len ih =>
    match ms₁, ms₂ with
    | [], ms₂ => exact ⟨[], rfl, (eq_nil_of_chars_eq_nil hchars.symm).symm⟩
    | .name k' n :: ps, ms₂ =>
      obtain rfl := eq_of_keep_name hk
      obtain ⟨qs, rfl, hrest, hqs, hmqs⟩ := h₁.behind_name hkm h₂ hm hchars
      have hlt : ps.length + qs.length < len := by
        simp only [List.length_cons, List.length_append] at hlen
        omega
      rw [keep_name_self] at hk
      obtain ⟨ms, rfl, rfl⟩ := ih _ hlt hrest h₁.2.2.2 hqs (List.cons.inj hk).2 hmqs rfl
      exact ⟨.name k' n :: ms, keep_name_self _ _ _, keep_name_of_ne hkm n ms⟩
    | .char c :: ps, .name m' n :: qs =>
      obtain rfl := eq_of_keep_name hm
      obtain ⟨rs, hrs, hrest, hrsSound, hkrs⟩ :=
        h₂.behind_name (Ne.symm hkm) h₁ hk hchars.symm
      have hlt : rs.length + qs.length < len := by
        rw [hrs] at hlen
        simp only [List.length_cons, List.length_append] at hlen
        omega
      rw [keep_name_self] at hm
      obtain ⟨ms, rfl, rfl⟩ := ih _ hlt hrest.symm hrsSound h₂.2.2.2 hkrs (List.cons.inj hm).2 rfl
      exact ⟨.name m' n :: ms, by rw [keep_name_of_ne (Ne.symm hkm), hrs], keep_name_self _ _ _⟩
    | .char c :: ps, .char d :: qs =>
      have hps : Sound (leads b c) ps := h₁
      have hqs : Sound (leads b' d) qs := h₂
      have hlt : ps.length + qs.length < len := by
        simp only [List.length_cons] at hlen
        omega
      obtain ⟨ms, rfl, rfl⟩ := ih _ hlt (List.cons.inj hchars).2 hps hqs (List.cons.inj hk).2
        (List.cons.inj hm).2 rfl
      exact ⟨.char c :: ms, rfl, by rw [keep_char, (List.cons.inj hchars).1]⟩

theorem sound_of_keep (h : ∀ m, Sound b (keep m ms)) : Sound b ms := by
  induction ms generalizing b with
  | nil => trivial
  | cons p ms ih =>
    cases p with
    | char c => exact ih (b := leads b c) h
    | name k n =>
      have hk := h k
      rw [keep_name_self, Sound, chars_keep] at hk
      obtain ⟨hb, hclose, hend, hms⟩ := hk
      refine ⟨hb, hclose, hend, ih fun m => ?_⟩
      rcases eq_or_ne k m with rfl | hkm
      · exact hms
      · have hm := h m
        rw [keep_name_of_ne hkm, sound_ofChars_append] at hm
        exact hm.of_close? (by rwa [chars_keep])

/-- The marks of one kind are what a search for that kind finds. -/
def Settled (m : Markup) (ms : List Mark) : Prop := keep m ms = marksOf m (chars ms)

/-- A text with the names of its references marked, of both kinds. -/
structure Marking (ms : List Mark) : Prop where
  sound : Sound false ms
  settled : ∀ m, Settled m ms

theorem exists_marking (cs : List Char) : ∃ ms, chars ms = cs ∧ Marking ms := by
  have hne : Markup.variable ≠ .condition := by decide
  have hchars : chars (marksOf .variable cs) = chars (marksOf .condition cs) := by
    rw [chars_marksOf, chars_marksOf]
  obtain ⟨ms, hvariable, hcondition⟩ :=
    exists_merge hne hchars (sound_marksOf (b := false) _ _) (sound_marksOf (b := false) _ _)
      (keep_marksOf _ _) (keep_marksOf _ _)
  have hms : chars ms = cs := by rw [← chars_keep .variable, hvariable, chars_marksOf]
  have hkeep : ∀ m, keep m ms = marksOf m cs := by
    intro m
    cases m with
    | «variable» => exact hvariable
    | condition => exact hcondition
  refine ⟨ms, hms, sound_of_keep fun m => ?_, fun m => ?_⟩
  · rw [hkeep m]
    exact sound_marksOf m cs
  · rw [Settled, hms, hkeep m]

-- ---------------------------------------------------------------------------
-- Replacing marked names
-- ---------------------------------------------------------------------------

/-- A replacement of names that changes none into a shorter one than markup needs. -/
def Grows (g : Markup → InlineName → InlineName) : Prop :=
  ∀ k n, g k n = n ∨ 2 ≤ (g k n).1.toList.length

/-- A marked text with its names replaced. -/
def mapNames (g : Markup → InlineName → InlineName) (ms : List Mark) : List Mark :=
  ms.map (Mark.mapName g)

variable {g : Markup → InlineName → InlineName}

@[simp] theorem mapNames_nil (g : Markup → InlineName → InlineName) : mapNames g [] = [] := rfl

@[simp] theorem mapNames_char (g : Markup → InlineName → InlineName) (c : Char) (ms : List Mark) :
    mapNames g (.char c :: ms) = .char c :: mapNames g ms := rfl

@[simp] theorem mapNames_name (g : Markup → InlineName → InlineName) (k : Markup) (n : InlineName)
    (ms : List Mark) : mapNames g (.name k n :: ms) = .name k (g k n) :: mapNames g ms := rfl

@[simp] theorem mapNames_append (g : Markup → InlineName → InlineName) (ms ps : List Mark) :
    mapNames g (ms ++ ps) = mapNames g ms ++ mapNames g ps := List.map_append

@[simp] theorem mapNames_ofChars (g : Markup → InlineName → InlineName) (cs : List Char) :
    mapNames g (ofChars cs) = ofChars cs := by
  induction cs with
  | nil => rfl
  | cons c cs ih => exact congrArg (Mark.char c :: ·) ih

theorem alike_mapNames (g : Markup → InlineName → InlineName) (ms : List Mark) :
    List.Forall₂ Mark.Alike ms (mapNames g ms) := by
  induction ms with
  | nil => exact .nil
  | cons p ms ih =>
    cases p with
    | char c => exact .cons (.char c) ih
    | name k n => exact .cons (.name k n _) ih

theorem Sound.map (hg : Grows g) (h : Sound b ms) : Sound b (mapNames g ms) := by
  induction ms generalizing b with
  | nil => trivial
  | cons p ms ih =>
    cases p with
    | char c => exact ih (b := leads b c) h
    | name k n =>
      obtain ⟨hb, hclose, hend, hms⟩ := h
      have hms' := ih hms
      refine ⟨hb, ?_, ?_, hms'⟩
      · cases closesAlike (alike_mapNames g ms) hms hms' k with
        | none hnone =>
          rw [hnone] at hclose
          exact absurd hclose Bool.false_ne_true
        | found a qs qs' ha _ hqs' =>
          have hsome := Markup.close?_append ha (chars qs')
          change (k.close? (chars (mapNames g ms))).isSome
          rw [hqs', chars_append, chars_ofChars, hsome]
          rfl
      · rcases hg k n with hsame | hlong
        · rw [hsame]
          refine hend.imp_right fun hnone => ?_
          cases extendsAlike (alike_mapNames g ms) hms hms' k with
          | none _ hnone' => exact hnone'
          | found ls ls' a qs qs' _ _ _ _ hsome =>
            exact absurd (hnone.symm.trans hsome) (Option.some_ne_none _).symm
        · exact .inl hlong

theorem name_mem_keep {n : InlineName} : .name m n ∈ keep m ms ↔ .name m n ∈ ms := by
  induction ms using induction_on_kind m with
  | nil => rfl
  | char c ms ih => simp [ih]
  | same n' ms ih => simp [ih]
  | other k n' ms hk ih =>
    have hne : Mark.name m n ≠ .name k n' := fun h => hk (Mark.name.inj h).1.symm
    simp [keep_name_of_ne hk, ih, hne, ofChars]

theorem keep_eq_ofChars (h : ∀ n, .name m n ∉ ms) : keep m ms = ofChars (chars ms) := by
  induction ms using induction_on_kind m with
  | nil => rfl
  | char c ms ih =>
    rw [keep_char, ih fun n hn => h n (List.mem_cons_of_mem _ hn), chars_char, ofChars_cons]
  | same n ms ih => exact absurd List.mem_cons_self (h n)
  | other k n ms hk ih =>
    rw [keep_name_of_ne hk, ih fun n hn => h n (List.mem_cons_of_mem _ hn), chars_name,
      ofChars_append]

theorem eq_of_keep_eq_name {n : InlineName} (h : keep m ms = [.name m n]) : ms = [.name m n] := by
  cases ms with
  | nil => cases h
  | cons p ms =>
    cases p with
    | char c => cases h
    | name k n' =>
      obtain rfl : k = m := by
        by_contra hk
        obtain ⟨c, more, hn⟩ := List.exists_cons_of_ne_nil n'.2.nonempty
        rw [keep_name_of_ne hk, hn] at h
        cases h
      rw [keep_name_self] at h
      obtain ⟨hn, hms⟩ := List.cons.inj h
      have hnil : ms = [] := eq_nil_of_chars_eq_nil (by rw [← chars_keep k, hms, chars_nil])
      rw [hnil, hn]

theorem char_mem_of_separator {c : Char} (hsep : c ∈ Name.separators) :
    c ∈ chars ms ↔ .char c ∈ ms := by
  rw [chars, List.mem_flatMap]
  constructor
  · rintro ⟨p, hp, hc⟩
    cases p with
    | char d => rwa [List.mem_singleton.mp hc]
    | name k n => exact absurd hsep (n.2.inner c hc)
  · exact fun h => ⟨.char c, h, List.mem_singleton_self c⟩

/-- The name found at a site can be told from the markup around it, or has a separator in it. -/
theorem exists_separator {bs x a : List Char} (h : m.site? cs = some (bs, x, a))
    (hinline : ¬ Name.Inline (String.ofList x)) : ∃ c ∈ x, c ∈ Name.separators := by
  by_contra hnone
  obtain ⟨rest, r, -, -, hnamed⟩ := Markup.site?_eq_some h
  obtain ⟨hfound, hfirst, -⟩ := Markup.named?_eq_some hnamed
  refine hinline ⟨?_, ?_, ?_, ?_⟩ <;> rw [String.toList_ofList]
  · exact hfound.ne_nil
  · exact fun c hc hsep => hnone ⟨c, hc, hsep⟩
  · exact hfirst
  · exact hfound.last

/-- What is marked in a name that is found stays so when marked names in it are replaced. -/
theorem keep_mapNames_eq_markName {ls : List Mark} (h : keep m ls = markName m (chars ls))
    (hsep : ¬ Name.Inline (String.ofList (chars ls)) → ∃ c ∈ chars ls, c ∈ Name.separators) :
    keep m (mapNames g ls) = markName m (chars (mapNames g ls)) := by
  by_cases hinline : Name.Inline (String.ofList (chars ls))
  · rw [markName, dif_pos hinline] at h
    have hls := eq_of_keep_eq_name h
    rw [hls, mapNames_name, mapNames_nil, keep_name_self, keep_nil, chars_name, chars_nil,
      List.append_nil, markName_toList]
  · obtain ⟨c, hc, hcsep⟩ := hsep hinline
    have hchar : .char c ∈ mapNames g ls :=
      List.mem_map.mpr ⟨.char c, (char_mem_of_separator hcsep).mp hc, rfl⟩
    have hnot : ¬ Name.Inline (String.ofList (chars (mapNames g ls))) := by
      intro hin
      refine hin.inner c ?_ hcsep
      rw [String.toList_ofList]
      exact (char_mem_of_separator hcsep).mpr hchar
    rw [markName, dif_neg hinline] at h
    rw [markName, dif_neg hnot]
    refine keep_eq_ofChars fun n hn => ?_
    obtain ⟨p, hp, hpn⟩ := List.mem_map.mp hn
    cases p with
    | char d => cases hpn
    | name k n' =>
      obtain rfl : k = m := (Mark.name.inj hpn).1
      have hmem := name_mem_keep.mpr hp
      rw [h] at hmem
      exact absurd hmem (by simp [ofChars])

theorem Sound.suffix {ps : List Mark} (h : Sound b (ms ++ ps)) : ∃ b', Sound b' ps := by
  induction ms generalizing b with
  | nil => exact ⟨b, h⟩
  | cons p ms ih =>
    cases p with
    | char c => exact ih (b := leads b c) h
    | name k n => exact ih h.2.2.2

theorem settled_char {c : Char} (h : m.site? (c :: chars ms) = none) :
    Settled m (.char c :: ms) ↔ Settled m ms := by
  rw [Settled, chars_char, marksOf_cons h, keep_char]
  exact ⟨fun h => (List.cons.inj h).2, congrArg _⟩

/-- A name at a site of one kind is only text to a search for another. -/
theorem settled_name {n : InlineName} :
    Settled m (.name k n :: ms) ↔ k ≠ m ∧ Settled m ms := by
  have hbrace : '{' ∉ n.1.toList := n.2.not_mem (by decide)
  obtain ⟨c, more, hn⟩ := List.exists_cons_of_ne_nil n.2.nonempty
  rw [Settled, chars_name, marksOf_append_of_no_brace _ hbrace]
  rcases eq_or_ne k m with rfl | hk
  · rw [keep_name_self, hn]
    exact ⟨fun h => (nomatch h), fun h => absurd rfl h.1⟩
  · rw [keep_name_of_ne hk]
    exact ⟨fun h => ⟨hk, List.append_cancel_left h⟩, fun h => congrArg _ h.2⟩

theorem settled_site {bs a : List Char} {ls qs : List Mark} (hne : bs ≠ [])
    (h : m.site? (chars (ofChars bs ++ (ls ++ (ofChars a ++ qs)))) = some (bs, chars ls, a)) :
    Settled m (ofChars bs ++ (ls ++ (ofChars a ++ qs))) ↔
      keep m ls = markName m (chars ls) ∧ Settled m qs := by
  have hchars : chars (ofChars bs ++ (ls ++ (ofChars a ++ qs)))
      = bs ++ (chars ls ++ (a ++ chars qs)) := by simp
  rw [hchars] at h
  rw [Settled, hchars, marksOf_append_of_site hne h, keep_append, keep_append, keep_append,
    keep_ofChars, keep_ofChars]
  constructor
  · intro heq
    obtain ⟨hname, hrest⟩ := append_inj_of_chars (List.append_cancel_left heq)
      (by rw [chars_keep, chars_markName])
    exact ⟨hname, List.append_cancel_left hrest⟩
  · rintro ⟨hname, hqs⟩
    rw [hname, hqs]

/-- What stands around a name that is found stays where it was when names are replaced. -/
theorem mapNames_parts {bs a : List Char} {ls ls' qs qs' : List Mark}
    (hlength : ls'.length = ls.length)
    (h : mapNames g (ofChars bs ++ (ls ++ (ofChars a ++ qs))) =
      ofChars bs ++ (ls' ++ (ofChars a ++ qs'))) : ls' = mapNames g ls ∧ qs' = mapNames g qs := by
  simp only [mapNames_append, mapNames_ofChars] at h
  have hlength' : (mapNames g ls).length = ls'.length := by
    rw [hlength, mapNames, List.length_map]
  obtain ⟨hls, hrest⟩ := List.append_inj (List.append_cancel_left h) hlength'
  exact ⟨hls.symm, (List.append_cancel_left hrest).symm⟩

/-- A search finds the replaced names where it found the marked ones. -/
theorem Settled.map (hg : Grows g) (hsound : Sound b ms) (h : Settled m ms) :
    Settled m (mapNames g ms) := by
  induction hlen : ms.length using Nat.strong_induction_on generalizing ms b with
  | h len ih =>
    have halike := alike_mapNames g ms
    have hsound' := hsound.map hg
    match ms with
    | [] => rfl
    | .name k n :: ms =>
      have hlt : ms.length < len := hlen ▸ Nat.lt_succ_self _
      obtain ⟨hk, hms⟩ := settled_name.mp h
      exact settled_name.mpr ⟨hk, ih ms.length hlt hsound.2.2.2 hms rfl⟩
    | .char c :: ms =>
      cases sitesAlike halike hsound hsound' m with
      | none hnone hnone' =>
        have hlt : ms.length < len := hlen ▸ Nat.lt_succ_self _
        have hms : Sound (leads b c) ms := hsound
        exact (settled_char hnone').mpr (ih ms.length hlt hms ((settled_char hnone).mp h) rfl)
      | found bs ls ls' a qs qs' hbs hms hms' hls hqs hsite hsite' =>
        rw [hms] at hms' hsite hsite' h hsound hlen ⊢
        obtain ⟨rfl, rfl⟩ := mapNames_parts hls.length_eq.symm hms'
        rw [hms'] at hsite' ⊢
        obtain ⟨hname, hqsSettled⟩ := (settled_site hbs.ne_nil hsite).mp h
        obtain ⟨b'', hqsSound⟩ : ∃ b'', Sound b'' qs := by
          rw [← List.append_assoc, ← List.append_assoc] at hsound
          exact hsound.suffix
        have hlt : qs.length < len := by
          have hpos : 0 < bs.length := List.length_pos_iff.mpr hbs.ne_nil
          rw [ofChars, List.length_append, List.length_append, List.length_append,
            List.length_map] at hlen
          omega
        exact (settled_site hbs.ne_nil hsite').mpr
          ⟨keep_mapNames_eq_markName hname (exists_separator hsite),
            ih qs.length hlt hqsSound hqsSettled rfl⟩

theorem Marking.map (hg : Grows g) (h : Marking ms) : Marking (mapNames g ms) where
  sound := h.sound.map hg
  settled m := (h.settled m).map hg h.sound

end Reference

end MailMerge
