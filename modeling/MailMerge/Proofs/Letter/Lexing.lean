import MailMerge.Proofs.Letter.Basic
import Mathlib.Data.List.TakeDrop

/-!
# The tokens of a letter

A letter whose names are words of the engine is divided into the tokens its tree suggests.
Text that has been passed over is put together with the text behind it, so each lemma is
about what follows after some text still pending.
-/

namespace MailMerge

namespace Token

variable {m : Markup} {cs rest : List Char} {ts : List Token}

-- ---------------------------------------------------------------------------
-- Words
-- ---------------------------------------------------------------------------

/-- The characters of an identifier. -/
def IsWord (w : List Char) : Prop :=
  ∃ c more, w = c :: more ∧ isIdentStart c = true ∧ ∀ x ∈ more, isIdentChar x = true

theorem ne_of_isIdentStart {c d : Char} (hc : isIdentStart c = true)
    (hd : isIdentStart d = false) : c ≠ d := by
  rintro rfl
  rw [hc] at hd
  contradiction

theorem isIdentChar_of_isIdentStart {c : Char} (h : isIdentStart c = true) :
    isIdentChar c = true := by
  simp only [isIdentStart, isIdentChar, Char.isAlphanum, Bool.or_eq_true] at h ⊢
  rcases h with h | h
  · exact Or.inl (Or.inl h)
  · exact Or.inr h

theorem operator?_of_isIdentStart {c : Char} (h : isIdentStart c = true) (cs : List Char) :
    operator? (c :: cs) = none := by
  have hnot : "+-*/%.,:~=|><()[]\x7b\x7d".toList.contains c = false := by
    rw [List.contains_eq_mem, decide_eq_false_iff_not]
    intro hmem
    have hall : ∀ d ∈ "+-*/%.,:~=|><()[]\x7b\x7d".toList, isIdentStart d = false := by decide
    exact ne_of_isIdentStart h (hall c hmem) rfl
  unfold operator?
  split
  case h_7 heq =>
    obtain ⟨rfl, rfl⟩ := List.cons.inj heq
    rw [hnot]
    rfl
  case h_8 heq => exact absurd heq (List.cons_ne_nil _ _)
  all_goals
    rename_i heq
    obtain ⟨rfl, -⟩ := List.cons.inj heq
    exact absurd h (by decide)

/-- No letter is a digit. -/
theorem isDigit_of_isAlpha {c : Char} (h : c.isAlpha = true) : c.isDigit = false := by
  rw [Bool.eq_false_iff]
  intro hdigit
  have hbelow : c.val ≤ '9'.val := of_decide_eq_true (Bool.and_eq_true_iff.mp hdigit).2
  have habove : 'A'.val ≤ c.val := by
    rcases Bool.or_eq_true_iff.mp h with hupper | hlower
    · exact (of_decide_eq_true hupper).1
    · exact UInt32.le_trans (by decide) (of_decide_eq_true (Bool.and_eq_true_iff.mp hlower).1)
  exact absurd (UInt32.le_trans habove hbelow) (by decide)

theorem isDigit_of_isIdentStart {c : Char} (h : isIdentStart c = true) : c.isDigit = false := by
  simp only [isIdentStart, Bool.or_eq_true, beq_iff_eq] at h
  rcases h with h | rfl
  · exact isDigit_of_isAlpha h
  · decide

theorem isSpace_of_isIdentStart {c : Char} (h : isIdentStart c = true) : isSpace c = false := by
  simp only [isSpace, Bool.or_eq_false_iff, beq_eq_false_iff_ne]
  exact ⟨⟨⟨⟨ne_of_isIdentStart h rfl, ne_of_isIdentStart h rfl⟩, ne_of_isIdentStart h rfl⟩,
    ne_of_isIdentStart h rfl⟩, ne_of_isIdentStart h rfl⟩

theorem close?_of_isIdentStart {c : Char} (h : isIdentStart c = true) (cs : List Char) :
    close? m (c :: cs) = none := by
  unfold close?
  split
  case h_6 => rfl
  all_goals
    rename_i heq
    obtain ⟨rfl, -⟩ := List.cons.inj heq
    exact absurd h (by decide)

theorem span_isIdentChar {w : List Char} (hw : ∀ x ∈ w, isIdentChar x = true) (rest : List Char) :
    (w ++ ' ' :: rest).span isIdentChar = (w, ' ' :: rest) := by
  have hblank : isIdentChar ' ' = false := by decide
  rw [List.span_eq_takeWhile_dropWhile, List.takeWhile_append_of_pos hw,
    List.dropWhile_append_of_pos hw]
  simp [hblank]

theorem inside_word {w : List Char} (hw : IsWord w) (rest : List Char) :
    inside (w ++ ' ' :: rest) = (.ident (String.ofList w), ' ' :: rest) := by
  obtain ⟨c, more, rfl, hc, hmore⟩ := hw
  have hspan : (c :: (more ++ ' ' :: rest)).span isIdentChar = (c :: more, ' ' :: rest) := by
    refine span_isIdentChar (w := c :: more) ?_ rest
    intro x hx
    rcases List.mem_cons.mp hx with rfl | hx
    · exact isIdentChar_of_isIdentStart hc
    · exact hmore x hx
  have hquote : (c == '\'' || c == '"') = false := by
    rw [Bool.or_eq_false_iff, beq_eq_false_iff_ne, beq_eq_false_iff_ne]
    exact ⟨ne_of_isIdentStart hc rfl, ne_of_isIdentStart hc rfl⟩
  rw [List.cons_append, inside, operator?_of_isIdentStart hc]
  simp only [hquote, isDigit_of_isIdentStart hc, hc, hspan, Bool.false_eq_true, if_false, if_true]

-- ---------------------------------------------------------------------------
-- Steps
-- ---------------------------------------------------------------------------

/-- A template, read from its start, has the given tokens. -/
def Lexes (cs : List Char) (ts : List Token) : Prop :=
  ∀ fuel, cs.length < fuel → tokensFrom fuel (.text .keep) cs = ts

/-- The inside of markup, with what is behind it, has the given tokens. -/
def LexesInside (m : Markup) (cs : List Char) (ts : List Token) : Prop :=
  ∀ fuel, cs.length < fuel → tokensFrom fuel (.markup m 0) cs = ts

/-- The end of markup, and the token for it. -/
def Markup.closing : Markup → List Char
  | .variable => ['}', '}']
  | .block => ['%', '}']

def Markup.endToken : Markup → Token
  | .variable => .variableEnd
  | .block => .blockEnd

theorem dropWhile_isSpace_blank {c : Char} (hc : isSpace c = false) (cs : List Char) :
    (' ' :: c :: cs).dropWhile isSpace = c :: cs := by
  have hblank : isSpace ' ' = true := by decide
  simp [List.dropWhile, hblank, hc]

theorem lexesInside_closing (h : Lexes cs ts) :
    LexesInside m (' ' :: (m.closing ++ cs)) (m.endToken :: ts) := by
  intro fuel hfuel
  cases fuel with
  | zero => exact absurd hfuel (Nat.not_lt_zero _)
  | succ fuel =>
    have hrest : cs.length < fuel := by
      simp only [List.length_cons, List.length_append] at hfuel
      omega
    have hbrace : isSpace '}' = false := by decide
    have hpercent : isSpace '%' = false := by decide
    match m with
    | .variable =>
      simp only [tokensFrom, Markup.closing, List.cons_append, dropWhile_isSpace_blank hbrace]
      simp [close?, h fuel hrest, Markup.endToken]
    | .block =>
      simp only [tokensFrom, Markup.closing, List.cons_append, dropWhile_isSpace_blank hpercent]
      simp [close?, h fuel hrest, Markup.endToken]

theorem lexesInside_word {w : List Char} (hw : IsWord w) (h : LexesInside m (' ' :: cs) ts) :
    LexesInside m (' ' :: (w ++ ' ' :: cs)) (.ident (String.ofList w) :: ts) := by
  intro fuel hfuel
  cases fuel with
  | zero => exact absurd hfuel (Nat.not_lt_zero _)
  | succ fuel =>
    have hinside := inside_word hw cs
    obtain ⟨c, more, rfl, hc, -⟩ := hw
    have hrest : (' ' :: cs).length < fuel := by
      simp only [List.length_cons, List.length_append] at hfuel ⊢
      omega
    simp only [tokensFrom, List.cons_append, dropWhile_isSpace_blank (isSpace_of_isIdentStart hc),
      close?_of_isIdentStart hc]
    rw [List.cons_append] at hinside
    simp [hinside, h fuel hrest]

theorem spanText_append {p : List Char} (hp : '{' ∉ p) (cs : List Char) :
    spanText (p ++ cs) = (p ++ (spanText cs).1, (spanText cs).2) := by
  induction p with
  | nil => rfl
  | cons c p ih =>
    have hc : c ≠ '{' := fun heq => hp (heq ▸ List.mem_cons_self)
    have hp' : '{' ∉ p := fun hmem => hp (List.mem_cons_of_mem _ hmem)
    rw [List.cons_append, spanText, ih hp']
    · rfl
    · exact fun _ _ heq _ => hc heq

/-- A text that opens no markup in front of what follows. -/
def Passes (p cs : List Char) : Prop := spanText (p ++ cs) = (p ++ (spanText cs).1, (spanText cs).2)

theorem lexes_text {p : List Char} (hp : Passes p []) : Lexes p (dataToken p) := by
  intro fuel hfuel
  cases fuel with
  | zero => exact absurd hfuel (Nat.not_lt_zero _)
  | succ fuel =>
    rw [Passes, List.append_nil, spanText, List.append_nil] at hp
    simp [tokensFrom, hp]

theorem lexes_variable {p : List Char} (hp : Passes p ('{' :: '{' :: ' ' :: cs))
    (h : LexesInside .variable (' ' :: cs) ts) :
    Lexes (p ++ '{' :: '{' :: ' ' :: cs) (dataToken p ++ .variableStart :: ts) := by
  intro fuel hfuel
  cases fuel with
  | zero => exact absurd hfuel (Nat.not_lt_zero _)
  | succ fuel =>
    have hspan : spanText (p ++ '{' :: '{' :: ' ' :: cs) = _ := hp
    have hrest : (' ' :: cs).length < fuel := by
      simp only [List.length_cons, List.length_append] at hfuel ⊢
      omega
    simp only [spanText] at hspan
    simp [tokensFrom, hspan, trimSign, h fuel hrest]

/-- A statement that starts with another word than the one for raw text. -/
theorem lexes_block {p : List Char} (hp : '{' ∉ p)
    (hraw : wordEnd? ['r', 'a', 'w'] (' ' :: cs) = none) (h : LexesInside .block (' ' :: cs) ts) :
    Lexes (p ++ '{' :: '%' :: ' ' :: cs) (dataToken p ++ .blockStart :: ts) := by
  intro fuel hfuel
  cases fuel with
  | zero => exact absurd hfuel (Nat.not_lt_zero _)
  | succ fuel =>
    have hspan := spanText_append hp ('{' :: '%' :: ' ' :: cs)
    have hrest : (' ' :: cs).length < fuel := by
      simp only [List.length_cons, List.length_append] at hfuel ⊢
      omega
    simp only [spanText] at hspan
    simp [tokensFrom, hspan, trimSign, hraw, h fuel hrest]

theorem wordEnd?_raw {c : Char} (hc : isIdentStart c = true) (hr : c ≠ 'r') (cs : List Char) :
    wordEnd? ['r', 'a', 'w'] (' ' :: c :: cs) = none := by
  rw [wordEnd?, dropWhile_isSpace_blank (isSpace_of_isIdentStart hc)]
  simp [List.isPrefixOf, Ne.symm hr]

-- ---------------------------------------------------------------------------
-- What follows a text
-- ---------------------------------------------------------------------------

/-- Behind any text that is still pending, the rest has the given tokens. -/
def Follows (rest : List Char) (ts : List Token) : Prop :=
  ∀ p, '{' ∉ p → Lexes (p ++ rest) (dataToken p ++ ts)

theorem follows_nil : Follows [] [] := by
  intro p hp
  rw [List.append_nil, List.append_nil]
  exact lexes_text (spanText_append hp [])

theorem lexes_reference {n p : List Char} (hn : IsWord n)
    (hp : Passes p (Letter.referenceSource n ++ rest)) (h : Lexes rest ts) :
    Lexes (p ++ (Letter.referenceSource n ++ rest))
      (dataToken p ++ .variableStart :: .ident (String.ofList n) :: .variableEnd :: ts) := by
  have hinside := lexesInside_word hn (lexesInside_closing (m := .variable) h)
  have hsource : Letter.referenceSource n ++ rest
      = '{' :: '{' :: ' ' :: (n ++ ' ' :: (Markup.variable.closing ++ rest)) := by
    simp [Letter.referenceSource, Markup.closing]
  rw [hsource] at hp ⊢
  exact lexes_variable hp hinside

theorem follows_reference {n : List Char} (hn : IsWord n) (h : Lexes rest ts) :
    Follows (Letter.referenceSource n ++ rest)
      (.variableStart :: .ident (String.ofList n) :: .variableEnd :: ts) :=
  fun _ hp => lexes_reference hn (spanText_append hp _) h

/-- A statement of one word. -/
theorem follows_word {w : List Char} (hw : IsWord w) (hr : w.head? ≠ some 'r')
    (h : Lexes rest ts) :
    Follows (Letter.statementSource w ++ rest)
      (.blockStart :: .ident (String.ofList w) :: .blockEnd :: ts) := by
  intro p hp
  have hinside := lexesInside_word hw (lexesInside_closing (m := .block) h)
  obtain ⟨c, more, rfl, hc, -⟩ := hw
  have hr' : c ≠ 'r' := fun heq => hr (by rw [heq]; rfl)
  have hall := lexes_block hp (wordEnd?_raw hc hr' _) hinside
  simpa [Letter.statementSource, Markup.closing, Markup.endToken] using hall

/-- A statement of a word and a name. -/
theorem follows_condition {w n : List Char} (hw : IsWord w) (hr : w.head? ≠ some 'r')
    (hn : IsWord n) (h : Lexes rest ts) :
    Follows (Letter.statementSource (w ++ ' ' :: n) ++ rest)
      (.blockStart :: .ident (String.ofList w) :: .ident (String.ofList n) :: .blockEnd :: ts) := by
  intro p hp
  have hinside := lexesInside_word hw
    (lexesInside_word hn (lexesInside_closing (m := .block) h))
  obtain ⟨c, more, rfl, hc, -⟩ := hw
  have hr' : c ≠ 'r' := fun heq => hr (by rw [heq]; rfl)
  have hall := lexes_block hp (wordEnd?_raw hc hr' _) hinside
  simpa [Letter.statementSource, Markup.closing, Markup.endToken] using hall

end Token

-- ---------------------------------------------------------------------------
-- Letters
-- ---------------------------------------------------------------------------

open Token

mutual

/-- The tokens of a letter behind text that is still pending. -/
def Letter.tokens (p : List Char) : Letter → List Token
  | .done => dataToken p
  | .char c rest => rest.tokens (p ++ [c])
  | .reference n rest =>
    dataToken p ++ .variableStart :: .ident n :: .variableEnd :: rest.tokens []
  | .condition n yes no rest =>
    dataToken p ++ .blockStart :: .ident "if" :: .ident n :: .blockEnd ::
      (yes.tokens [] ++ (no.tokens ++ .blockEnd :: rest.tokens []))

/-- The tokens from the end of one text of a condition on, without the last one. -/
def Otherwise.tokens : Otherwise → List Token
  | .nothing => [.blockStart, .ident "endif"]
  | .always no =>
    .blockStart :: .ident "else" :: .blockEnd :: (no.tokens [] ++ [.blockStart, .ident "endif"])
  | .onlyIf n yes no =>
    .blockStart :: .ident "elif" :: .ident n :: .blockEnd :: (yes.tokens [] ++ no.tokens)

end

theorem Token.isWord_of_keyword :
    ∀ w ∈ [['i', 'f'], ['e', 'l', 'i', 'f'], ['e', 'l', 's', 'e'], ['e', 'n', 'd', 'i', 'f']],
      IsWord w ∧ w.head? ≠ some 'r' := by
  simp only [List.forall_mem_cons, List.not_mem_nil, false_implies, implies_true, and_true]
  refine ⟨⟨⟨_, _, rfl, ?_⟩, ?_⟩, ⟨⟨_, _, rfl, ?_⟩, ?_⟩, ⟨⟨_, _, rfl, ?_⟩, ?_⟩,
    ⟨⟨_, _, rfl, ?_⟩, ?_⟩⟩ <;> decide

/-- A name the engine reads as one word. -/
def Name.IsWord (n : String) : Prop := Token.IsWord n.toList

mutual

theorem Letter.lexes_append (l : Letter) (hl : l.All Name.IsWord Name.IsWord)
    {rest : List Char} {ts : List Token} (h : Follows rest ts) {p : List Char} (hp : '{' ∉ p) :
    Lexes (p ++ (l.source ++ rest)) (l.tokens p ++ ts) := by
  match l, hl with
  | .done, _ => exact h p hp
  | .char c l, ⟨hc, hl⟩ =>
    have hpending : '{' ∉ p ++ [c] := by
      simp only [List.mem_append, List.mem_singleton, not_or]
      exact ⟨hp, hc.symm⟩
    have hall := l.lexes_append hl h hpending
    simpa [Letter.source, Letter.tokens] using hall
  | .reference n l, ⟨hn, hl⟩ =>
    have hrest := l.lexes_append hl h List.not_mem_nil
    have hall := follows_reference hn hrest p hp
    simpa [Letter.source, Letter.tokens] using hall
  | .condition n yes no l, ⟨hn, hyes, hno, hl⟩ =>
    obtain ⟨hif, hr⟩ := isWord_of_keyword ['i', 'f'] (by decide)
    have hrest := l.lexes_append hl h List.not_mem_nil
    have hbody := yes.lexes_append hyes (no.follows_append hno hrest) List.not_mem_nil
    have hall := follows_condition hif hr hn hbody p hp
    simpa [Letter.source, Letter.tokens] using hall

theorem Otherwise.follows_append (o : Otherwise) (ho : o.All Name.IsWord Name.IsWord)
    {rest : List Char} {ts : List Token} (h : Lexes rest ts) :
    Follows (o.source ++ rest) (o.tokens ++ .blockEnd :: ts) := by
  obtain ⟨hend, hrend⟩ := isWord_of_keyword ['e', 'n', 'd', 'i', 'f'] (by decide)
  match o, ho with
  | .nothing, _ => exact follows_word hend hrend h
  | .always no, hno =>
    obtain ⟨helse, hrelse⟩ := isWord_of_keyword ['e', 'l', 's', 'e'] (by decide)
    have hbody := no.lexes_append hno (follows_word hend hrend h) List.not_mem_nil
    have hall := follows_word helse hrelse hbody
    simpa [Otherwise.source, Otherwise.tokens] using hall
  | .onlyIf n yes no, ⟨hn, hyes, hno⟩ =>
    obtain ⟨helif, hrelif⟩ := isWord_of_keyword ['e', 'l', 'i', 'f'] (by decide)
    have hbody := yes.lexes_append hyes (no.follows_append hno h) List.not_mem_nil
    have hall := follows_condition helif hrelif hn hbody
    simpa [Otherwise.source, Otherwise.tokens] using hall

end

theorem Letter.lexes_source (l : Letter) (hl : l.All Name.IsWord Name.IsWord) :
    Lexes l.source (l.tokens []) := by
  have hall := l.lexes_append hl follows_nil (List.not_mem_nil (a := '{'))
  rwa [List.nil_append, List.append_nil, List.append_nil] at hall

/-- What the engine reads of a template is the letter as it is rendered. -/
theorem Letter.tokenize_of_lexes (keep : Bool) (l : Letter) {ts : List Token}
    (h : Lexes (l.ended keep).source ts) : Token.tokenize keep l.text = ts := by
  cases keep with
  | true =>
    rw [Token.tokenize, Letter.text, String.toList_ofList]
    exact h _ (Nat.lt_succ_self _)
  | false =>
    have hsource : Text.dropLast '\r' (Text.dropLast '\n' l.source) = (l.ended false).source := by
      rw [Letter.ended, if_neg Bool.false_ne_true, Letter.source_dropLast (by decide),
        Letter.source_dropLast (by decide)]
    rw [Token.tokenize, Letter.text, String.toList_ofList]
    change tokensFrom ((Text.dropLast '\r' (Text.dropLast '\n' l.source)).length + 1) _
      (Text.dropLast '\r' (Text.dropLast '\n' l.source)) = _
    rw [hsource]
    exact h _ (Nat.lt_succ_self _)

/-- The tokens of the template a letter is written as are those of the letter. -/
theorem Letter.tokenize_text (keep : Bool) (l : Letter) (hl : l.All Name.IsWord Name.IsWord) :
    Token.tokenize keep l.text = (l.ended keep).tokens [] :=
  l.tokenize_of_lexes keep ((l.ended keep).lexes_source (hl.ended keep))

end MailMerge
