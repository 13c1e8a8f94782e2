import MailMerge.Proofs.Reference.Anatomy
import Mathlib.Data.List.Forall2

/-!
# Texts with marked names

A marked text keeps names apart from the characters around them. Where each of them stands in
markup of its kind (`Sound`), a search for a reference of either kind goes the same way in two
texts that differ in their names only: it never ends or begins inside one of them.
-/

namespace MailMerge

/-- A name that can be told from the markup around it. -/
abbrev InlineName := {n : String // Name.Inline n}

namespace Reference

/-- A part of a text: a character, or a name at a site of one kind. -/
inductive Mark where
  | char (c : Char)
  | name (k : Markup) (n : InlineName)

namespace Mark

def chars : Mark → List Char
  | .char c => [c]
  | .name _ n => n.1.toList

/-- A mark, unless it is a name at a site of another kind; the characters of such a name. -/
def keep (m : Markup) : Mark → List Mark
  | .char c => [.char c]
  | .name k n => if k = m then [.name k n] else n.1.toList.map .char

/-- A mark with its name replaced. -/
def mapName (g : Markup → InlineName → InlineName) : Mark → Mark
  | .char c => .char c
  | .name k n => .name k (g k n)

/-- Marks that differ at most in their names. -/
inductive Alike : Mark → Mark → Prop where
  | char (c : Char) : Alike (.char c) (.char c)
  | name (k : Markup) (n n' : InlineName) : Alike (.name k n) (.name k n')

theorem Alike.symm {p q : Mark} (h : Alike p q) : Alike q p := by
  cases h with
  | char c => exact .char c
  | name k n n' => exact .name k n' n

theorem chars_ne_nil (p : Mark) : p.chars ≠ [] := by
  cases p with
  | char c => exact List.cons_ne_nil _ _
  | name k n => exact n.2.nonempty

end Mark

/-- The characters of a marked text. -/
def chars (ms : List Mark) : List Char := ms.flatMap Mark.chars

/-- A marked text without any names. -/
def ofChars (cs : List Char) : List Mark := cs.map .char

/-- A marked text with the names of one kind only. -/
def keep (m : Markup) (ms : List Mark) : List Mark := ms.flatMap (Mark.keep m)

@[simp] theorem chars_nil : chars [] = [] := rfl

@[simp] theorem chars_char (c : Char) (ms : List Mark) : chars (.char c :: ms) = c :: chars ms :=
  rfl

@[simp] theorem chars_name (k : Markup) (n : InlineName) (ms : List Mark) :
    chars (.name k n :: ms) = n.1.toList ++ chars ms := rfl

@[simp] theorem chars_append (ms ps : List Mark) : chars (ms ++ ps) = chars ms ++ chars ps :=
  List.flatMap_append

@[simp] theorem chars_ofChars (cs : List Char) : chars (ofChars cs) = cs := by
  induction cs with
  | nil => rfl
  | cons c cs ih => exact congrArg (c :: ·) ih

@[simp] theorem ofChars_cons (c : Char) (cs : List Char) :
    ofChars (c :: cs) = .char c :: ofChars cs := rfl

@[simp] theorem ofChars_append (cs ds : List Char) :
    ofChars (cs ++ ds) = ofChars cs ++ ofChars ds := List.map_append

@[simp] theorem keep_nil (m : Markup) : keep m [] = [] := rfl

@[simp] theorem keep_append (m : Markup) (ms ps : List Mark) :
    keep m (ms ++ ps) = keep m ms ++ keep m ps := List.flatMap_append

@[simp] theorem keep_char (m : Markup) (c : Char) (ms : List Mark) :
    keep m (.char c :: ms) = .char c :: keep m ms := rfl

@[simp] theorem keep_name_self (m : Markup) (n : InlineName) (ms : List Mark) :
    keep m (.name m n :: ms) = .name m n :: keep m ms := by
  simp [keep, Mark.keep]

theorem keep_name_of_ne {m k : Markup} (h : k ≠ m) (n : InlineName) (ms : List Mark) :
    keep m (.name k n :: ms) = ofChars n.1.toList ++ keep m ms := by
  simp [keep, Mark.keep, h, ofChars]

@[simp] theorem keep_ofChars (m : Markup) (cs : List Char) : keep m (ofChars cs) = ofChars cs := by
  induction cs with
  | nil => rfl
  | cons c cs ih => rw [ofChars_cons, keep_char, ih]

/-- Marks are gone through as keeping the names of one kind does: characters, names of that kind
and names of the other. -/
@[elab_as_elim]
theorem induction_on_kind (m : Markup) {motive : List Mark → Prop} (ms : List Mark)
    (nil : motive []) (char : ∀ c ms, motive ms → motive (.char c :: ms))
    (same : ∀ n ms, motive ms → motive (.name m n :: ms))
    (other : ∀ k n ms, k ≠ m → motive ms → motive (.name k n :: ms)) : motive ms := by
  induction ms with
  | nil => exact nil
  | cons p ms ih =>
    cases p with
    | char c => exact char c ms ih
    | name k n =>
      rcases eq_or_ne k m with rfl | hk
      · exact same n ms ih
      · exact other k n ms hk ih

@[simp] theorem chars_keep (m : Markup) (ms : List Mark) : chars (keep m ms) = chars ms := by
  induction ms using induction_on_kind m with
  | nil => rfl
  | char c ms ih => simp [ih]
  | same n ms ih => simp [ih]
  | other k n ms hk ih => simp [keep_name_of_ne hk, ih]

theorem eq_nil_of_chars_eq_nil {ms : List Mark} (h : chars ms = []) : ms = [] := by
  cases ms with
  | nil => rfl
  | cons p ms => exact absurd (List.append_eq_nil_iff.mp h).1 p.chars_ne_nil

/-- Marked texts are cancelled like their characters. -/
theorem append_inj_of_chars {ms ms' ps ps' : List Mark} (h : ms ++ ps = ms' ++ ps')
    (hchars : chars ms = chars ms') : ms = ms' ∧ ps = ps' := by
  rcases List.append_eq_append_iff.mp h with ⟨qs, rfl, rfl⟩ | ⟨qs, rfl, rfl⟩
  · have hnil : qs = [] := eq_nil_of_chars_eq_nil (by simpa using hchars)
    simp [hnil]
  · have hnil : qs = [] := eq_nil_of_chars_eq_nil (by simpa using hchars)
    simp [hnil]

-- ---------------------------------------------------------------------------
-- Names in markup
-- ---------------------------------------------------------------------------

/-- Whether a name may stand behind a character: the last one before it that is not blank ends
a delimiter or a keyword. The first argument says whether it may stand before the character. -/
def leads (b : Bool) (c : Char) : Bool := if isBlank c then b else c == '{' || c == 'f'

/-- Every name of a marked text stands behind what opens a reference and in front of what closes
one of its kind, and the search for its end does not pass it. The first argument says whether
the text stands behind what opens a reference. -/
def Sound : Bool → List Mark → Prop
  | _, [] => True
  | b, .char c :: ms => Sound (leads b c) ms
  | b, .name k n :: ms =>
    b = true ∧ (k.close? (chars ms)).isSome ∧
      (2 ≤ n.1.toList.length ∨ k.extend? (chars ms) = none) ∧ Sound false ms

variable {m k : Markup} {b b' : Bool} {ms ms' : List Mark}

theorem foldl_leads_of_blank {cs : List Char} (h : Blank cs) : cs.foldl leads b = b := by
  induction cs with
  | nil => rfl
  | cons c cs ih =>
    have hc : leads b c = b := if_pos (h c List.mem_cons_self)
    rw [List.foldl_cons, hc, ih fun d hd => h d (List.mem_cons_of_mem _ hd)]

theorem Markup.Opens.foldl_leads {cs : List Char} (h : m.Opens cs) : cs.foldl leads b = true := by
  cases h with
  | reference hbs =>
    rw [List.foldl_cons, List.foldl_cons, foldl_leads_of_blank hbs]
    rfl
  | condition hbs hk hbs' hne =>
    rw [List.foldl_cons, List.foldl_cons, List.foldl_append, List.foldl_append,
      foldl_leads_of_blank hbs, foldl_leads_of_blank hbs']
    simp only [keywords, List.mem_cons, List.not_mem_nil, or_false] at hk
    rcases hk with rfl | rfl <;> rfl

theorem Markup.Closes.foldl_leads {cs : List Char} (h : m.Closes cs) :
    cs.foldl leads b = false := by
  obtain ⟨bs, hbs, rfl⟩ := h
  rw [List.foldl_append, foldl_leads_of_blank hbs]
  cases m <;> rfl

theorem sound_ofChars_append (cs : List Char) (ms : List Mark) :
    Sound b (ofChars cs ++ ms) ↔ Sound (cs.foldl leads b) ms := by
  induction cs generalizing b with
  | nil => rfl
  | cons c cs ih => exact ih

-- ---------------------------------------------------------------------------
-- Characters outside names
-- ---------------------------------------------------------------------------

/-- No name may begin where one of these characters stands. -/
def Firm : Bool → List Char → Prop
  | _, [] => True
  | b, c :: cs => (isBlank c = true ∨ c ∈ Name.separators ∨ b = false) ∧ Firm (leads b c) cs

theorem firm_append {cs ds : List Char} :
    Firm b (cs ++ ds) ↔ Firm b cs ∧ Firm (cs.foldl leads b) ds := by
  induction cs generalizing b with
  | nil => simp [Firm]
  | cons c cs ih => simp only [List.cons_append, Firm, ih, List.foldl_cons, and_assoc]

theorem Blank.firm {cs : List Char} (h : Blank cs) : Firm b cs := by
  induction cs generalizing b with
  | nil => trivial
  | cons c cs ih =>
    exact ⟨.inl (h c List.mem_cons_self), ih fun d hd => h d (List.mem_cons_of_mem _ hd)⟩

theorem Markup.Opens.firm {cs : List Char} (h : m.Opens cs) : Firm b cs := by
  have hsep : '{' ∈ Name.separators ∧ '%' ∈ Name.separators := by decide
  cases h with
  | reference hbs => exact ⟨.inr (.inl hsep.1), .inr (.inl hsep.1), hbs.firm⟩
  | condition hbs hk hbs' hne =>
    refine ⟨.inr (.inl hsep.1), .inr (.inl hsep.2), firm_append.mpr ⟨hbs.firm, ?_⟩⟩
    rw [foldl_leads_of_blank hbs]
    refine firm_append.mpr ⟨?_, hbs'.firm⟩
    simp only [keywords, List.mem_cons, List.not_mem_nil, or_false] at hk
    rcases hk with rfl | rfl
    · exact ⟨.inr (.inr rfl), .inr (.inr rfl), trivial⟩
    · exact ⟨.inr (.inr rfl), .inr (.inr rfl), .inr (.inr rfl), .inr (.inr rfl), trivial⟩

theorem Markup.Closes.firm {cs : List Char} (h : m.Closes cs) : Firm b cs := by
  obtain ⟨bs, hbs, rfl⟩ := h
  refine firm_append.mpr ⟨hbs.firm, ?_⟩
  cases m <;> exact ⟨.inr (.inl (by decide)), .inr (.inl (by decide)), trivial⟩

/-- Characters outside names are marked as such. -/
theorem Sound.split {cs r : List Char} (h : Sound b ms) (hfirm : Firm b cs)
    (hchars : chars ms = cs ++ r) :
    ∃ qs, ms = ofChars cs ++ qs ∧ chars qs = r ∧ Sound (cs.foldl leads b) qs := by
  induction cs generalizing b ms with
  | nil => exact ⟨ms, rfl, hchars, h⟩
  | cons c cs ih =>
    obtain ⟨hc, hcs⟩ := hfirm
    cases ms with
    | nil => cases hchars
    | cons p ms =>
      cases p with
      | char d =>
        have hms : chars ms = cs ++ r := (List.cons.inj hchars).2
        obtain rfl : d = c := (List.cons.inj hchars).1
        have hsound : Sound (leads b d) ms := h
        obtain ⟨qs, rfl, hqs, hsound'⟩ := ih hsound hcs hms
        exact ⟨qs, rfl, hqs, hsound'⟩
      | name k n =>
        obtain ⟨d, more, hn⟩ := List.exists_cons_of_ne_nil n.2.nonempty
        rw [chars_name, hn] at hchars
        obtain ⟨rfl, -⟩ := List.cons.inj hchars
        rcases hc with hblank | hsep | hfalse
        · exact absurd (n.2.first d (by rw [hn]; rfl)) (by simp [hblank])
        · exact absurd hsep (n.2.inner d (by rw [hn]; exact List.mem_cons_self))
        · exact absurd h.1 (by simp [hfalse])

/-- Where a reference is closed no name follows. -/
theorem Sound.of_close? (h : Sound b ms) (hclose : (k.close? (chars ms)).isSome) :
    Sound b' ms := by
  obtain ⟨⟨a, r⟩, ha⟩ := Option.isSome_iff_exists.mp hclose
  obtain ⟨hcloses, hms⟩ := Markup.close?_eq_some ha
  obtain ⟨qs, rfl, -, hsound⟩ := h.split hcloses.firm hms
  rw [hcloses.foldl_leads] at hsound
  rw [sound_ofChars_append, hcloses.foldl_leads]
  exact hsound

-- ---------------------------------------------------------------------------
-- The same search in texts that differ in names
-- ---------------------------------------------------------------------------

theorem alike_ofChars_append {cs : List Char} {qs : List Mark}
    (h : List.Forall₂ Mark.Alike (ofChars cs ++ qs) ms') :
    ∃ qs', ms' = ofChars cs ++ qs' ∧ List.Forall₂ Mark.Alike qs qs' := by
  induction cs generalizing ms' with
  | nil => exact ⟨ms', rfl, h⟩
  | cons c cs ih =>
    cases h with
    | cons hc hrest =>
      cases hc
      obtain ⟨qs', rfl, hqs⟩ := ih hrest
      exact ⟨qs', rfl, hqs⟩

theorem alike_symm (h : List.Forall₂ Mark.Alike ms ms') : List.Forall₂ Mark.Alike ms' ms :=
  h.flip.imp fun _ _ hp => hp.symm

/-- What closes a reference stands in front of both texts, or of none. -/
inductive ClosesAlike (m : Markup) (ms ms' : List Mark) : Prop where
  | none (h : m.close? (chars ms) = none) (h' : m.close? (chars ms') = none)
  | found (a : List Char) (qs qs' : List Mark) (ha : m.Closes a) (hms : ms = ofChars a ++ qs)
      (hms' : ms' = ofChars a ++ qs') (hqs : List.Forall₂ Mark.Alike qs qs')

theorem closesAlike_of_eq_some {a r : List Char} (halike : List.Forall₂ Mark.Alike ms ms')
    (h : Sound b ms) (hclose : m.close? (chars ms) = some (a, r)) : ClosesAlike m ms ms' := by
  obtain ⟨hcloses, hms⟩ := Markup.close?_eq_some hclose
  obtain ⟨qs, rfl, -, -⟩ := h.split hcloses.firm hms
  obtain ⟨qs', rfl, hqs⟩ := alike_ofChars_append halike
  exact .found a qs qs' hcloses rfl rfl hqs

theorem closesAlike (halike : List.Forall₂ Mark.Alike ms ms') (h : Sound b ms)
    (h' : Sound b' ms') (m : Markup) : ClosesAlike m ms ms' := by
  match hclose : m.close? (chars ms), hclose' : m.close? (chars ms') with
  | some (a, r), _ => exact closesAlike_of_eq_some halike h hclose
  | none, none => exact .none hclose hclose'
  | none, some (a, r) =>
    cases closesAlike_of_eq_some (alike_symm halike) h' hclose' with
    | none hnone => exact absurd (hclose'.symm.trans hnone) (Option.some_ne_none _)
    | found a' qs' qs ha hms' hms hqs =>
      exact .found a' qs qs' ha hms hms' (alike_symm hqs)

/-- A search for the end of a name fails in both texts, or finds it at the same place. -/
inductive FindsAlike (find : List Char → Option (List Char × List Char × List Char))
    (ms ms' : List Mark) : Prop where
  | none (h : find (chars ms) = none) (h' : find (chars ms') = none)
  | found (ls ls' : List Mark) (a : List Char) (qs qs' : List Mark)
      (hms : ms = ls ++ (ofChars a ++ qs)) (hms' : ms' = ls' ++ (ofChars a ++ qs'))
      (hls : List.Forall₂ Mark.Alike ls ls') (hqs : List.Forall₂ Mark.Alike qs qs')
      (h : find (chars ms) = some (chars ls, a, chars qs))
      (h' : find (chars ms') = some (chars ls', a, chars qs'))

/-- A search that goes on behind a mark. -/
theorem FindsAlike.cons {find find' : List Char → Option (List Char × List Char × List Char)}
    {p p' : Mark} (hp : p.Alike p') (h : FindsAlike find ms ms')
    (hfind : find' (chars (p :: ms)) = (find (chars ms)).map fun r => (p.chars ++ r.1, r.2))
    (hfind' : find' (chars (p' :: ms')) = (find (chars ms')).map fun r => (p'.chars ++ r.1, r.2)) :
    FindsAlike find' (p :: ms) (p' :: ms') := by
  cases h with
  | none h h' => exact .none (by rw [hfind, h]; rfl) (by rw [hfind', h']; rfl)
  | found ls ls' a qs qs' hms hms' hls hqs h h' =>
    exact .found (p :: ls) (p' :: ls') a qs qs' (by rw [hms]; rfl) (by rw [hms']; rfl)
      (.cons hp hls) hqs (by rw [hfind, h]; rfl) (by rw [hfind', h']; rfl)

/-- A search that ends behind a mark. -/
theorem FindsAlike.closed {find : List Char → Option (List Char × List Char × List Char)}
    {p p' : Mark} {a : List Char} {qs qs' : List Mark} (hp : p.Alike p')
    (hqs : List.Forall₂ Mark.Alike qs qs')
    (hfind : find (p.chars ++ (a ++ chars qs)) = some (p.chars, a, chars qs))
    (hfind' : find (p'.chars ++ (a ++ chars qs')) = some (p'.chars, a, chars qs')) :
    FindsAlike find (p :: (ofChars a ++ qs)) (p' :: (ofChars a ++ qs')) := by
  have hchars : ∀ (q : Mark) (rs : List Mark),
      chars (q :: (ofChars a ++ rs)) = q.chars ++ (a ++ chars rs) := by
    intro q rs
    rw [← List.singleton_append, chars_append, chars_append, chars_ofChars]
    simp [chars]
  have hone : ∀ q : Mark, chars [q] = q.chars := fun q => List.append_nil _
  exact .found [p] [p'] a qs qs' rfl rfl (.cons hp .nil) hqs (by rw [hchars, hfind, hone])
    (by rw [hchars, hfind', hone])

/-- A search that takes the characters of a name as one ends behind it, or goes on for the end of a
longer name. -/
theorem findsAlike_name {find : List Char → Option (List Char × List Char × List Char)}
    (hrest : FindsAlike m.extend? ms ms') (hcloses : ClosesAlike m ms ms') (k : Markup)
    {n n' : InlineName}
    (hfind : find (n.1.toList ++ chars ms) =
      match m.close? (chars ms) with
      | some (a, r) => some (n.1.toList, a, r)
      | none => (m.extend? (chars ms)).map fun r => (n.1.toList ++ r.1, r.2))
    (hfind' : find (n'.1.toList ++ chars ms') =
      match m.close? (chars ms') with
      | some (a, r) => some (n'.1.toList, a, r)
      | none => (m.extend? (chars ms')).map fun r => (n'.1.toList ++ r.1, r.2)) :
    FindsAlike find (.name k n :: ms) (.name k n' :: ms') := by
  cases hcloses with
  | none hnone hnone' =>
    rw [hnone] at hfind
    rw [hnone'] at hfind'
    exact hrest.cons (.name k n n') hfind hfind'
  | found a qs qs' ha hqs hqs' hqsAlike =>
    rw [hqs, chars_append, chars_ofChars, Markup.close?_append ha] at hfind
    rw [hqs', chars_append, chars_ofChars, Markup.close?_append ha] at hfind'
    rw [hqs, hqs']
    exact .closed (.name k n n') hqsAlike hfind hfind'

/-- A search that goes on behind a character. -/
theorem extendsAlike_char {c : Char} (hstop : isBlank c = true ∨ m.close? (chars ms) = none)
    (hstop' : isBlank c = true ∨ m.close? (chars ms') = none)
    (h : FindsAlike m.extend? ms ms') : FindsAlike m.extend? (.char c :: ms) (.char c :: ms') := by
  have hextend := Markup.extend?_cons_of_not_close hstop
  have hextend' := Markup.extend?_cons_of_not_close hstop'
  by_cases hline : c = '\n'
  · have hif : (c == '\n') = true := by simp [hline]
    rw [hif, if_pos rfl] at hextend hextend'
    exact .none hextend hextend'
  · have hif : (c == '\n') = false := by simp [hline]
    rw [hif, if_neg Bool.false_ne_true] at hextend hextend'
    exact h.cons (.char c) hextend hextend'

theorem extendsAlike (halike : List.Forall₂ Mark.Alike ms ms') (h : Sound b ms)
    (h' : Sound b' ms') (m : Markup) : FindsAlike m.extend? ms ms' := by
  induction halike generalizing b b' with
  | nil => exact .none rfl rfl
  | @cons p p' ms ms' hp hrest ih =>
    cases hp with
    | char c =>
      have hms : Sound (leads b c) ms := h
      have hms' : Sound (leads b' c) ms' := h'
      have hrec := ih hms hms'
      cases hc : isBlank c with
      | true => exact extendsAlike_char (.inl hc) (.inl hc) hrec
      | false =>
        cases closesAlike hrest hms hms' m with
        | none hnone hnone' => exact extendsAlike_char (.inr hnone) (.inr hnone') hrec
        | found a qs qs' ha hqs hqs' hrest =>
          rw [hqs, hqs']
          exact .closed (.char c) hrest
            (Markup.extend?_cons_of_close hc (Markup.close?_append ha _))
            (Markup.extend?_cons_of_close hc (Markup.close?_append ha _))
    | name k n n' =>
      obtain ⟨-, -, -, hms⟩ := h
      obtain ⟨-, -, -, hms'⟩ := h'
      exact findsAlike_name (ih hms hms') (closesAlike hrest hms hms' m) k
        (extend?_append _ n.2.nonempty n.2.inner n.2.last)
        (extend?_append _ n'.2.nonempty n'.2.inner n'.2.last)

/-- What a search for a reference of either kind needs of the name it meets. -/
theorem Sound.ends {n : InlineName} (h : Sound b (.name k n :: ms)) (m : Markup) :
    2 ≤ n.1.toList.length ∨ m.extend? (chars ms) = none ∨ m.close? (chars ms) = none := by
  obtain ⟨-, hclose, hend, -⟩ := h
  rcases eq_or_ne k m with rfl | hk
  · exact hend.imp_right .inl
  · exact .inr (.inr (Markup.close?_eq_none_of_ne hk hclose))

/-- A name that starts with a character ends where the search behind it does, or there. -/
theorem namedAlike_char (h : FindsAlike m.extend? ms ms') (hcloses : ClosesAlike m ms ms')
    (c : Char) : FindsAlike m.named? (.char c :: ms) (.char c :: ms') := by
  cases hstart : m.mayStart c with
  | false => exact .none (by simp [Markup.named?, hstart]) (by simp [Markup.named?, hstart])
  | true =>
    cases hextends : h with
    | found ls ls' a qs qs' hls hls' _ _ hsome hsome' =>
      refine h.cons (.char c) ?_ ?_
      · simp [Markup.named?, hstart, hsome, Mark.chars]
      · simp [Markup.named?, hstart, hsome', Mark.chars]
    | none hnone hnone' =>
      cases hcloses with
      | none hclose hclose' =>
        exact .none (by simp [Markup.named?, hstart, hnone, hclose])
          (by simp [Markup.named?, hstart, hnone', hclose'])
      | found a qs qs' ha hqs hqs' hqsAlike =>
        rw [hqs, chars_append, chars_ofChars] at hnone
        rw [hqs', chars_append, chars_ofChars] at hnone'
        rw [hqs, hqs']
        refine .closed (.char c) hqsAlike ?_ ?_
        · simp [Markup.named?, hstart, Mark.chars, hnone, Markup.close?_append ha]
        · simp [Markup.named?, hstart, Mark.chars, hnone', Markup.close?_append ha]

theorem namedAlike (halike : List.Forall₂ Mark.Alike ms ms') (h : Sound b ms)
    (h' : Sound b' ms') (m : Markup) : FindsAlike m.named? ms ms' := by
  cases halike with
  | nil => exact .none rfl rfl
  | @cons p p' ms ms' hp hrest =>
    cases hp with
    | char c =>
      have hms : Sound (leads b c) ms := h
      have hms' : Sound (leads b' c) ms' := h'
      exact namedAlike_char (extendsAlike hrest hms hms' m) (closesAlike hrest hms hms' m) c
    | name k n n' =>
      have hnamed := named?_append n.2 (h.ends m)
      have hnamed' := named?_append n'.2 (h'.ends m)
      obtain ⟨-, -, -, hms⟩ := h
      obtain ⟨-, -, -, hms'⟩ := h'
      exact findsAlike_name (extendsAlike hrest hms hms' m) (closesAlike hrest hms hms' m) k hnamed
        hnamed'

/-- No reference starts both texts, or one at the same place and with the same characters around
its name. -/
inductive SitesAlike (m : Markup) (ms ms' : List Mark) : Prop where
  | none (h : m.site? (chars ms) = none) (h' : m.site? (chars ms') = none)
  | found (bs : List Char) (ls ls' : List Mark) (a : List Char) (qs qs' : List Mark)
      (hbs : m.Opens bs) (hms : ms = ofChars bs ++ (ls ++ (ofChars a ++ qs)))
      (hms' : ms' = ofChars bs ++ (ls' ++ (ofChars a ++ qs')))
      (hls : List.Forall₂ Mark.Alike ls ls') (hqs : List.Forall₂ Mark.Alike qs qs')
      (h : m.site? (chars ms) = some (bs, chars ls, a))
      (h' : m.site? (chars ms') = some (bs, chars ls', a))

theorem sitesAlike_of_eq_some {x a bs : List Char} (halike : List.Forall₂ Mark.Alike ms ms')
    (h : Sound b ms) (h' : Sound b' ms') (hsite : m.site? (chars ms) = some (bs, x, a)) :
    SitesAlike m ms ms' := by
  obtain ⟨rest, r, hbs, hms, hnamed⟩ := Markup.site?_eq_some hsite
  obtain ⟨ps, rfl, rfl, hps⟩ := h.split hbs.firm hms
  obtain ⟨ps', rfl, hpsAlike⟩ := alike_ofChars_append halike
  rw [sound_ofChars_append] at h'
  cases namedAlike hpsAlike hps h' m with
  | none hnone => exact absurd (hnamed.symm.trans hnone) (Option.some_ne_none _)
  | found ls ls' a qs qs' hls hls' hlsAlike hqsAlike hfound hfound' =>
    refine .found bs ls ls' a qs qs' hbs (by rw [hls]) (by rw [hls']) hlsAlike hqsAlike ?_ ?_
    · rw [chars_append, chars_ofChars, Markup.site?_append hbs hfound]
    · rw [chars_append, chars_ofChars, Markup.site?_append hbs hfound']

theorem sitesAlike (halike : List.Forall₂ Mark.Alike ms ms') (h : Sound b ms)
    (h' : Sound b' ms') (m : Markup) : SitesAlike m ms ms' := by
  match hsite : m.site? (chars ms), hsite' : m.site? (chars ms') with
  | some (bs, x, a), _ => exact sitesAlike_of_eq_some halike h h' hsite
  | none, none => exact .none hsite hsite'
  | none, some (bs, x, a) =>
    cases sitesAlike_of_eq_some (alike_symm halike) h' h hsite' with
    | none hnone => exact absurd (hsite'.symm.trans hnone) (Option.some_ne_none _)
    | found bs ls' ls a qs' qs hbs hms' hms hls hqs hfound' hfound =>
      exact .found bs ls ls' a qs qs' hbs hms hms' (alike_symm hls) (alike_symm hqs) hfound hfound'

end Reference

end MailMerge
