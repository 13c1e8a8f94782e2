import MailMerge.Proofs.Letter.Lexing
import MailMerge.Proofs.Letter.Scanning

/-!
# Letters with braces in their text

A brace opens markup in front of three characters, and is text in front of any other. So a letter
without conditions may have braces in its text: it is still read, and its references are still
found, as long as none of them opens anything.
-/

namespace MailMerge

namespace Letter

variable {p q : String → Prop} {f g : String → String} {c : Char} {cs ds : List Char}

/-- A character that opens markup in front of a text. -/
def Opens (c : Char) (cs : List Char) : Prop :=
  c = '{' ∧ cs.head?.any ['{', '%', '#'].contains = true

instance (c : Char) (cs : List Char) : Decidable (Opens c cs) :=
  inferInstanceAs (Decidable (_ ∧ _))

theorem Opens.of_head? (h : ∀ d, cs.head? = some d → ds.head? = some d) (hc : Opens c cs) :
    Opens c ds := by
  obtain ⟨hbrace, hnext⟩ := hc
  cases hhead : cs.head? with
  | none =>
    rw [hhead] at hnext
    cases hnext
  | some d =>
    rw [hhead] at hnext
    exact ⟨hbrace, (h d hhead).symm ▸ hnext⟩

/-- A letter without conditions that refers to names of a kind, and whose text opens no markup. -/
def Mentions (p : String → Prop) : Letter → Prop
  | .done => True
  | .char c rest => ¬ Opens c rest.source ∧ rest.Mentions p
  | .reference n rest => p n ∧ rest.Mentions p
  | .condition _ _ _ _ => False

def decideMentions (p : String → Prop) [DecidablePred p] : (l : Letter) → Decidable (l.Mentions p)
  | .done => .isTrue trivial
  | .char c rest =>
    have := rest.decideMentions p
    inferInstanceAs (Decidable (¬ Opens c rest.source ∧ rest.Mentions p))
  | .reference n rest =>
    have := rest.decideMentions p
    inferInstanceAs (Decidable (p n ∧ rest.Mentions p))
  | .condition _ _ _ _ => .isFalse False.elim

instance (p : String → Prop) [DecidablePred p] (l : Letter) : Decidable (l.Mentions p) :=
  l.decideMentions p

-- ---------------------------------------------------------------------------
-- Names and ends
-- ---------------------------------------------------------------------------

theorem Mentions.imp (h : ∀ n, p n → q n) (l : Letter) (hl : l.Mentions p) : l.Mentions q := by
  match l, hl with
  | .done, _ => exact trivial
  | .char _ l, ⟨hc, hl⟩ => exact ⟨hc, Mentions.imp h l hl⟩
  | .reference n l, ⟨hn, hl⟩ => exact ⟨h n hn, Mentions.imp h l hl⟩

theorem head?_source_mapNames (f g : String → String) (l : Letter) :
    (l.mapNames f g).source.head? = l.source.head? := by
  cases l <;> rfl

theorem opens_mapNames (f g : String → String) (l : Letter) :
    Opens c (l.mapNames f g).source ↔ Opens c l.source := by
  rw [Opens, head?_source_mapNames, Opens]

theorem Mentions.mapNames (l : Letter) (hl : l.Mentions fun n => p (f n)) :
    (l.mapNames f g).Mentions p := by
  match l, hl with
  | .done, _ => exact trivial
  | .char _ l, ⟨hc, hl⟩ => exact ⟨mt (opens_mapNames f g l).mp hc, Mentions.mapNames l hl⟩
  | .reference _ l, ⟨hn, hl⟩ => exact ⟨hn, Mentions.mapNames l hl⟩

theorem head?_source_dropLast (c : Char) (l : Letter) (d : Char)
    (h : (l.dropLast c).source.head? = some d) : l.source.head? = some d := by
  fun_cases l.dropLast c with
  | case1 => exact h
  | case2 => simp [dropLast, source] at h
  | case3 e he => simpa [dropLast, he] using h
  | case4 e rest hrest => simpa [dropLast, source] using h
  | case5 name rest => exact h
  | case6 name yes no rest => exact h

theorem Mentions.dropLast (c : Char) {l : Letter} (h : l.Mentions p) :
    (l.dropLast c).Mentions p := by
  fun_induction l.dropLast c with
  | case1 => exact h
  | case2 => trivial
  | case3 d hd => exact h
  | case4 d rest hrest ih => exact ⟨mt (Opens.of_head? (head?_source_dropLast c rest)) h.1, ih h.2⟩
  | case5 name rest ih => exact ⟨h.1, ih h.2⟩
  | case6 name yes no rest ih => exact h.elim

theorem Mentions.ended (keep : Bool) {l : Letter} (h : l.Mentions p) :
    (l.ended keep).Mentions p := by
  unfold Letter.ended
  split
  · exact h
  · exact (h.dropLast '\n').dropLast '\r'

-- ---------------------------------------------------------------------------
-- Tokens
-- ---------------------------------------------------------------------------

end Letter

open Token

theorem Token.passes_char {c : Char} {cs : List Char} (h : ¬ Letter.Opens c cs) :
    Passes [c] cs := by
  by_cases hc : c = '{'
  · subst hc
    cases cs with
    | nil => rfl
    | cons d cs =>
      have hd : (d == '{' || d == '%' || d == '#') = false := by
        simpa [Letter.Opens, and_assoc] using h
      simp [Passes, spanText, hd]
  · rw [Passes, List.singleton_append, spanText]
    · rfl
    · exact fun _ _ heq _ => hc heq

theorem Token.Passes.append {p q cs : List Char} (hp : Passes p (q ++ cs)) (hq : Passes q cs) :
    Passes (p ++ q) cs := by
  rw [Passes, List.append_assoc, hp, hq, List.append_assoc]

namespace Letter

theorem Mentions.lexes_append (l : Letter) (hl : l.Mentions Name.IsWord) {p : List Char}
    (hp : Passes p l.source) : Lexes (p ++ l.source) (l.tokens p) := by
  match l, hl with
  | .done, _ =>
    rw [source, List.append_nil]
    exact lexes_text hp
  | .char c l, ⟨hc, hl⟩ =>
    have hall := Mentions.lexes_append l hl (Passes.append (q := [c]) hp (passes_char hc))
    rwa [List.append_assoc] at hall
  | .reference n l, ⟨hn, hl⟩ =>
    have hrest := Mentions.lexes_append l hl (p := []) rfl
    have hall := lexes_reference hn hp hrest
    rwa [String.ofList_toList] at hall

/-- The tokens of the template a letter is written as are those of the letter, also with braces in
its text. -/
theorem Mentions.tokenize_text (keep : Bool) {l : Letter} (hl : l.Mentions Name.IsWord) :
    Token.tokenize keep l.text = (l.ended keep).tokens [] :=
  l.tokenize_of_lexes keep (Mentions.lexes_append _ (hl.ended keep) (p := []) rfl)

end Letter

-- ---------------------------------------------------------------------------
-- References
-- ---------------------------------------------------------------------------

open Reference

theorem Reference.site?_of_not_opens (m : Reference.Markup) {c : Char} {cs : List Char}
    (h : ¬ Letter.Opens c cs) : m.site? (c :: cs) = none := by
  have hopening : ¬ m.opening <+: c :: cs := by
    rintro ⟨rest, hrest⟩
    match m, hrest with
    | .variable, rfl => exact h ⟨rfl, rfl⟩
    | .condition, rfl => exact h ⟨rfl, rfl⟩
  rw [Reference.Markup.site?, open?_eq_none hopening]

namespace Letter

theorem Mentions.pieces_source {m : Reference.Markup} (l : Letter)
    (h : l.Mentions (m.FindsAlways .variable)) : Reference.pieces m l.source = l.pieces m := by
  match l, h with
  | .done, _ => rfl
  | .char c l, ⟨hc, hl⟩ =>
    rw [source, pieces_cons_of_no_site (site?_of_not_opens m hc), Mentions.pieces_source l hl]
    rfl
  | .reference n l, ⟨hn, hl⟩ =>
    rw [source, pieces_reference (hn _), Mentions.pieces_source l hl]
    rfl

/-- Replacing the names in the template of a letter is replacing those of the letter, also with
braces in its text. -/
theorem Mentions.substitute_text (f : String → String)
    (hf : ∀ n, Name.Ordinary n → '{' ∉ (f n).toList) {l : Letter} (hl : l.Mentions Name.Ordinary) :
    Reference.substitute f l.text = (l.mapNames f f).text := by
  have hfirst : l.Mentions (Reference.Markup.FindsAlways .variable .variable) :=
    Mentions.imp (fun _ hn => findsAlways_of_ordinary hn _) l hl
  have hsecond : (l.mapNames f id).Mentions (Reference.Markup.FindsAlways .condition .variable) :=
    Mentions.mapNames l
      (Mentions.imp (fun n hn _ => Reference.Markup.opening_not_infix (hf n hn)) l hl)
  exact l.substitute_text_of_pieces f (Mentions.pieces_source l hfirst)
    (Mentions.pieces_source _ hsecond)

end Letter

end MailMerge
