import MailMerge.Proofs.Letter.Quotes

/-!
# Names in markup

What the engine takes the identifier of a name for. A word is a name of the context, unless it
is one of the engine's own; a text between quotes is a string if nothing but the string stands
there, and never a name.
-/

namespace MailMerge

-- ---------------------------------------------------------------------------
-- The tokens of markup
-- ---------------------------------------------------------------------------

namespace Token

variable {q : Char} {body w : List Char} {t : Token}

theorem tokensFrom_variable (fuel : Nat) (cs : List Char) :
    tokensFrom (fuel + 1) (.text .keep) ('{' :: '{' :: ' ' :: cs)
      = .variableStart :: tokensFrom fuel (.markup .variable 0) (' ' :: cs) := by
  simp [tokensFrom, spanText, trimSign, dataToken]

/-- A template that is nothing but markup starts with what stands in it. -/
theorem tokenize_referenceSource (keep : Bool) (w : List Char) :
    tokenize keep (String.ofList (Letter.referenceSource w))
      = .variableStart ::
          tokensFrom (w.length + 6) (.markup .variable 0) (' ' :: (w ++ [' ', '}', '}'])) := by
  have hlast := Letter.getLast?_referenceSource w
  have hdrop : ∀ c, c ≠ '}' →
      Text.dropLast c (Letter.referenceSource w) = Letter.referenceSource w := by
    intro c hc
    rw [Text.dropLast, hlast, if_neg]
    simpa using hc.symm
  have hlength : (Letter.referenceSource w).length = w.length + 6 := by
    simp [Letter.referenceSource]
  have htokens : tokenize keep (String.ofList (Letter.referenceSource w))
      = tokensFrom ((Letter.referenceSource w).length + 1) (.text .keep)
          (Letter.referenceSource w) := by
    rw [tokenize, String.toList_ofList]
    cases keep with
    | true => rfl
    | false =>
      change tokensFrom ((Text.dropLast '\r' (Text.dropLast '\n' (Letter.referenceSource w))).length
        + 1) _ (Text.dropLast '\r' (Text.dropLast '\n' (Letter.referenceSource w))) = _
      rw [hdrop '\n' (by decide), hdrop '\r' (by decide)]
  rw [htokens, hlength]
  exact tokensFrom_variable _ _

theorem tokenize_markup (keep : Bool)
    (h : ∀ ts, LexesInside .variable (' ' :: '}' :: '}' :: []) ts →
      LexesInside .variable (' ' :: (w ++ ' ' :: '}' :: '}' :: [])) (t :: ts)) :
    tokenize keep (String.ofList (Letter.referenceSource w))
      = [.variableStart, t, .variableEnd] := by
  have hnil : Lexes [] [] := lexes_text rfl
  have hend : LexesInside .variable [' ', '}', '}'] [.variableEnd] :=
    lexesInside_closing (m := .variable) hnil
  rw [tokenize_referenceSource, h _ hend _ (by simp)]

theorem tokenize_word (keep : Bool) (hw : IsWord w) :
    tokenize keep (String.ofList (Letter.referenceSource w))
      = [.variableStart, .ident (String.ofList w), .variableEnd] :=
  tokenize_markup keep fun _ h => lexesInside_word hw h

theorem tokenize_string (keep : Bool) (hq : q ∈ quotes) (hbody : Spells q body)
    {text : List Char} (htext : unescape? body = some text) :
    tokenize keep (String.ofList (Letter.referenceSource (q :: (body ++ [q]))))
      = [.variableStart, .str (String.ofList text), .variableEnd] := by
  refine tokenize_markup keep fun ts h => ?_
  have hinside := lexesInside_string hq hbody htext h
  simpa using hinside

theorem tokenize_quote (keep : Bool) (hq : q ∈ quotes) (cs : List Char) :
    ∃ t ts, tokenize keep (String.ofList (Letter.referenceSource (q :: cs)))
      = .variableStart :: t :: ts ∧ AtQuote t := by
  obtain ⟨t, ts, htokens, ht⟩ := atQuote_of_tokensFrom (m := .variable) hq
    ((q :: cs).length + 5) (cs ++ [' ', '}', '}'])
  refine ⟨t, ts, ?_, ht⟩
  rw [tokenize_referenceSource, ← htokens]
  rfl

end Token

-- ---------------------------------------------------------------------------
-- What is read of markup
-- ---------------------------------------------------------------------------

namespace Node

open Expr.Reader

/-- An expression of one token is read as what it stands for. -/
theorem read_alone {u : Token} {e : Expr} (hu : Stands u e) :
    read [.variableStart, u, .variableEnd] = .ok [.print e] := by
  have hnodes : Reader.nodes 120 { } [] [.variableStart, u, .variableEnd] = .ok ([.print e], []) :=
    Reader.nodes_print hu (by decide) (by decide) rfl
  simp [read, hnodes, blocksOf, blocks, bind, Except.bind, pure, Except.pure]

/-- Nothing that starts at a quote is read as a name. -/
theorem unnamed_of_read {t : Token} {ts : List Token} {e : Expr} (ht : Token.AtQuote t)
    (h : read (.variableStart :: t :: ts) = .ok [.print e]) : e.Unnamed := by
  obtain ⟨⟨ns, rest⟩, hnodes, hblocks⟩ := exists_of_bind_eq_ok h
  have hns : ns = [.print e] := by
    dsimp only at hblocks
    split at hblocks
    · exact Except.ok.inj hblocks
    · cases hblocks
  subst hns
  obtain ⟨⟨e', ts₁⟩, hexpr, h₁⟩ := exists_of_bind_eq_ok hnodes
  obtain ⟨ts₂, -, h₂⟩ := exists_of_bind_eq_ok h₁
  obtain ⟨⟨more, ts₃⟩, -, h₃⟩ := exists_of_bind_eq_ok h₂
  cases h₃
  exact expr_readsNoName ht _ _ ts e ts₁ hexpr

end Node

-- ---------------------------------------------------------------------------
-- Names
-- ---------------------------------------------------------------------------

namespace Name

open Expr.Reader Token

variable {n s : String}

/-- The markup of a reference to a name. -/
def markup (n : String) : String := String.ofList (Letter.referenceSource (identifier n).toList)

/-- Names that are strings, each with its text: nothing stands in them but two quotes of a kind
and what they enclose. -/
def Denotes (n s : String) : Prop :=
  ∃ q ∈ quotes, ∃ body, n.toList = q :: (body ++ [q]) ∧ Spells q body ∧
    unescape? body = some s.toList

/-- What a name is meant as: a text, if it is a string, else what is bound to its identifier. -/
inductive Means (n : String) : Expr → Prop where
  | text {s : String} (h : Denotes n s) : Means n (.const (Datum.ofText s))
  | entry (h : ∀ s, ¬ Denotes n s) : Means n (.var (identifier n))

theorem identifier_of_quoted (h : isQuoted n.toList = true) : identifier n = n := by
  rw [identifier, identifierChars_of_quoted h, String.ofList_toList]

theorem Denotes.isQuoted (h : Denotes n s) : isQuoted n.toList = true := by
  obtain ⟨q, hq, body, hn, -, -⟩ := h
  simp only [quotes, List.mem_cons, List.not_mem_nil, or_false] at hq
  rw [hn]
  rcases hq with rfl | rfl <;> simp [Name.isQuoted, List.getLast?_cons]

theorem engineWords_unquoted : ∀ w ∈ engineWords, isQuoted w.toList = false := by decide

/-- None of the engine's words is read as a name. -/
theorem engineWords_unread : ∀ w ∈ engineWords, ∀ keep,
    (match Node.read (tokenize keep (markup w)) with
      | .ok [.print (.var _)] => true
      | _ => false) = false := by
  decide +kernel

theorem read_of_denotes (h : Denotes n s) (keep : Bool) :
    Node.read (tokenize keep (markup n)) = .ok [.print (.const (Datum.ofText s))] := by
  have hself := identifier_of_quoted h.isQuoted
  obtain ⟨q, hq, body, hn, hbody, htext⟩ := h
  rw [markup, hself, hn, tokenize_string keep hq hbody htext, String.ofList_toList]
  exact Node.read_alone (stands_str s)

theorem read_of_word (hword : n ∉ engineWords) (hn : isQuoted n.toList = false) (keep : Bool) :
    Node.read (tokenize keep (markup n)) = .ok [.print (.var (identifier n))] := by
  have hnames : Names (identifier n) :=
    names_of_not_mem_engineWords (identifier_not_mem_engineWords hword)
  rw [markup, tokenize_word keep (isWord_identifier hn), String.ofList_toList]
  exact Node.read_alone (stands_name hnames)

theorem unnamed_of_read_quoted (hn : isQuoted n.toList = true) {keep : Bool} {e : Expr}
    (h : Node.read (tokenize keep (markup n)) = .ok [.print e]) : e.Unnamed := by
  rw [markup, identifier_of_quoted hn] at h
  cases hchars : n.toList with
  | nil =>
    rw [hchars] at hn
    cases hn
  | cons q cs =>
    have hq : q ∈ quotes := by
      rw [hchars] at hn
      rcases head_of_quoted hn with rfl | rfl <;> decide
    obtain ⟨t, ts, htokens, ht⟩ := tokenize_quote keep hq cs
    rw [hchars, htokens] at h
    exact Node.unnamed_of_read ht h

theorem renderTemplate_of_read {options : RenderOptions} {bound : List (String × Datum)}
    {e : Expr} {d : Datum} (hread : ∀ keep, Node.read (tokenize keep (markup n)) = .ok [.print e])
    (heval : ∀ answer, Expr.eval ⟨options.strictUndefined, bound, []⟩ answer e
      (.atStart options.html) = .ok (d, .atStart options.html)) :
    Render.renderTemplate options bound (markup n) = d.print (Render.mode options) := by
  rw [Render.renderTemplate, hread]
  exact Node.render_print heval

/-- The engine takes the markup of a name as what the name is meant as, unless the name is one of
the engine's words, or stands between two quotes and is no string. Then a string is rendered as
its text, and any other name as what the context binds to its identifier. -/
theorem read_markup_iff (n : String) :
    ((∀ keep, ∃ e, Means n e ∧ Node.read (tokenize keep (markup n)) = .ok [.print e]) ↔
      n ∉ engineWords ∧ (isQuoted n.toList = true → ∃ s, Denotes n s)) ∧
    ∀ (options : RenderOptions) (c : Context),
      (∀ s, Denotes n s →
        Render.renderTemplate options (c.map fun e => (e.1, Datum.ofValue e.2)) (markup n)
          = (Datum.ofText s).print (Render.mode options)) ∧
      (n ∉ engineWords → isQuoted n.toList = false →
        Render.renderTemplate options (c.map fun e => (e.1, Datum.ofValue e.2)) (markup n)
          = (Render.datumOf c (identifier n)).print (Render.mode options)) := by
  refine ⟨⟨fun h => ?_, fun ⟨hword, hliteral⟩ keep => ?_⟩, fun options c => ⟨fun s hs => ?_, ?_⟩⟩
  · obtain ⟨e, hmeans, hread⟩ := h true
    cases hmeans with
    | text hs =>
      refine ⟨fun hmem => ?_, fun _ => ⟨_, hs⟩⟩
      have hquoted := hs.isQuoted
      rw [engineWords_unquoted n hmem] at hquoted
      cases hquoted
    | entry hnone =>
      constructor
      · intro hmem
        have hunread := engineWords_unread n hmem true
        rw [hread] at hunread
        cases hunread
      · intro hquoted
        exact absurd rfl (unnamed_of_read_quoted hquoted hread (identifier n))
  · cases hquoted : isQuoted n.toList with
    | true =>
      obtain ⟨s, hs⟩ := hliteral hquoted
      exact ⟨_, .text hs, read_of_denotes hs keep⟩
    | false =>
      refine ⟨_, .entry fun s hs => ?_, read_of_word hword hquoted keep⟩
      rw [hs.isQuoted] at hquoted
      cases hquoted
  · exact renderTemplate_of_read (read_of_denotes hs) fun answer => Node.eval_const _ answer _ _
  · intro hword hquoted
    have hfind : (RenderState.atStart options.html).find
        ⟨options.strictUndefined, c.map fun e => (e.1, Datum.ofValue e.2), []⟩ (identifier n)
          = Render.datumOf c (identifier n) := by
      rw [Render.find_atStart, Render.lookup_ofValue, Render.datumOf]
      cases c.get? (identifier n) with
      | none => rfl
      | some v => exact Render.renew_ofValue _ v
    refine renderTemplate_of_read (read_of_word hword hquoted) fun answer => ?_
    rw [← hfind]
    exact Node.eval_var _ answer _ _

/-- A name that only its identifier makes a word of, and one that is a string with another quote
and an escape in it. -/
theorem read_markup_iff_names :
    ("Q&A" ∉ engineWords ∧ isQuoted "Q&A".toList = false ∧ Denotes "'a\"\\'b'" "a\"'b") ∧
    (∀ keep, ∃ e, Means "Q&A" e ∧ Node.read (tokenize keep (markup "Q&A")) = .ok [.print e]) ∧
    Render.renderTemplate {} [("Q_fA", .int 3)] (markup "Q&A") = .ok "3" ∧
    Render.renderTemplate {} [] (markup "'a\"\\'b'")
      = (Datum.ofText "a\"'b").print (Render.mode {}) := by
  have hword : "Q&A" ∉ engineWords := by decide
  have hunquoted : isQuoted "Q&A".toList = false := by decide
  have hdenotes : Denotes "'a\"\\'b'" "a\"'b" := by
    refine ⟨'\'', by decide, ['a', '"', '\\', '\'', 'b'], by decide, ?_, by decide⟩
    exact .plain (by decide) (by decide) (.plain (by decide) (by decide)
      (.escaped '\'' (.plain (by decide) (by decide) .nil)))
  obtain ⟨hread, hrender⟩ := read_markup_iff "Q&A"
  have hliteral : isQuoted "Q&A".toList = true → ∃ s, Denotes "Q&A" s := fun h =>
    absurd h (by decide)
  have hentry := (hrender {} [("Q_fA", .int 3)]).2 hword hunquoted
  have htext := ((read_markup_iff "'a\"\\'b'").2 {} []).1 _ hdenotes
  refine ⟨⟨hword, hunquoted, hdenotes⟩, hread.mpr ⟨hword, hliteral⟩, ?_, htext⟩
  exact hentry.trans (by decide +kernel)

/-- A word of the engine, and a name that begins and ends with a quote, are not looked up, though
the context binds them: the first cannot be read at all, and the second is two strings joined. -/
theorem not_entry_engineWord :
    let c : Context := [("not", .text "x"), ("none", .text "y"), ("'a' ~ 'b'", .text "z")]
    identifier "not" = "not" ∧ identifier "none" = "none" ∧
      identifier "'a' ~ 'b'" = "'a' ~ 'b'" ∧
      Render.renderTemplate {} (c.map fun e => (e.1, Datum.ofValue e.2)) (markup "not")
        = .error .malformed ∧
      Render.renderTemplate {} (c.map fun e => (e.1, Datum.ofValue e.2)) (markup "none")
        = .ok "" ∧
      Render.renderTemplate {} (c.map fun e => (e.1, Datum.ofValue e.2)) (markup "'a' ~ 'b'")
        = .ok "ab" := by
  decide +kernel

end Name

end MailMerge
