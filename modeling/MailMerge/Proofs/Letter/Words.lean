import MailMerge.Proofs.Letter.Mentions
import MailMerge.Proofs.Letter.Rendering

/-!
# Letters that only refer

A letter without conditions may refer by any word, be it one of the engine's: a constant is
printed as such, and the word of a negation makes the letter unreadable. So how it is rendered
hangs on what each of its words stands for, and on nothing else.
-/

namespace MailMerge

-- ---------------------------------------------------------------------------
-- Expressions of one word
-- ---------------------------------------------------------------------------

namespace Expr.Reader

variable {n : String} {t : Token} {rest : List Token}

/-- What a word is read as: a constant, or a name. -/
def wordExpr (n : String) : Expr :=
  match constant? n with
  | some d => .const d
  | none => .var n

theorem stands_word (hn : n ≠ "not") : Stands (.ident n) (wordExpr n) where
  unsigned := Token.noConfusion
  unnegated := fun heq => hn (Token.ident.inj heq)
  read := by
    intro t rest depth _ hd fuel
    simp only [primary, Nat.not_le.mpr hd, if_false, wordExpr]
    cases constant? n <;> rfl

theorem unary_ends_error (ht : Ends t) {depth : Nat} (hd : depth < maxDepth) (fuel : Nat) :
    unary (fuel + 3) depth (t :: rest) = .error .malformed := by
  have hprimary : primary (fuel + 1) depth (t :: rest) = .error .malformed := by
    rcases ht with rfl | rfl <;> simp [primary, Nat.not_le.mpr hd, refuse]
  rcases ht with rfl | rfl
  · simp [unary, negation, hprimary, bind, Except.bind]
  · simp [unary, negation, hprimary, bind, Except.bind]

/-- The word of a negation is no expression by itself. -/
theorem expr_not_error (ht : Ends t) {depth : Nat} (hd : depth + 1 < maxDepth) {fuel : Nat}
    (hf : 21 ≤ fuel) :
    expr fuel depth (.ident "not" :: t :: rest) = .error .malformed := by
  obtain ⟨more, rfl⟩ := Nat.exists_eq_add_of_le' hf
  have hhead : (t :: rest).head? ≠ some (.ident "not") := by
    rcases ht with rfl | rfl <;> exact fun heq => nomatch heq
  have hnot : binary (more + 15) (depth + 1) .not (t :: rest) = .error .malformed :=
    binary_not_error hhead (unary_ends_error ht hd more)
  change expr (more + 16 + 5) depth _ = _
  refine expr_error_of_binary_not (Nat.lt_of_succ_lt hd) ?_
  simp only [binary, hnot, bind, Except.bind]

end Expr.Reader

-- ---------------------------------------------------------------------------
-- Reading
-- ---------------------------------------------------------------------------

open Node.Reader Expr.Reader

namespace Letter

/-- The nodes of a letter without conditions, behind text that is still pending. -/
def wordNodes (p : List Char) : Letter → List Node
  | .done => textNodes p
  | .char c rest => rest.wordNodes (p ++ [c])
  | .reference n rest => textNodes p ++ .print (wordExpr n) :: rest.wordNodes []
  | .condition _ _ _ rest => rest.wordNodes p

/-- A letter that does not refer by the word of a negation. -/
def Spoken (l : Letter) : Prop := l.Mentions fun n => n ≠ "not"

instance (l : Letter) : Decidable l.Spoken := inferInstanceAs (Decidable (l.Mentions _))

theorem nodes_wordNodes (l : Letter) (hl : l.Spoken) {site : Site}
    (hd : site.depth + 1 < maxDepth) (p : List Char) {fuel : Nat}
    (hf : (l.tokens p).length + 25 ≤ fuel) :
    Node.Reader.nodes fuel site [] (l.tokens p) = .ok (l.wordNodes p, []) := by
  match l, hl with
  | .done, _ =>
    have hend : Node.Reader.nodes (fuel - (Token.dataToken p).length) site [] []
        = .ok ([], []) := nodes_of_stops .atEnd (by simp only [Letter.tokens] at hf; omega)
    have hall := nodes_data p (Nat.sub_add_cancel (by simp only [Letter.tokens] at hf; omega)) hend
    simpa [Letter.tokens, wordNodes] using hall
  | .char c l, ⟨_, hl⟩ => exact l.nodes_wordNodes hl hd (p ++ [c]) hf
  | .reference n l, ⟨hn, hl⟩ =>
    simp only [Letter.tokens, wordNodes, List.length_append, List.length_cons] at hf ⊢
    obtain ⟨more, rfl⟩ : ∃ more, fuel = more + 1 + (Token.dataToken p).length :=
      ⟨fuel - 1 - (Token.dataToken p).length, by omega⟩
    have hrest : Node.Reader.nodes more site [] (l.tokens []) = .ok (l.wordNodes [], []) :=
      l.nodes_wordNodes hl hd [] (by omega)
    exact nodes_data p rfl (nodes_print (stands_word hn) hd (by omega) hrest)

theorem nodes_not_spoken (l : Letter) {q : String → Prop} (hl : l.Mentions q)
    (hnot : ¬ l.Spoken) {site : Site} (hd : site.depth + 1 < maxDepth) (p : List Char)
    {fuel : Nat} (hf : (l.tokens p).length + 25 ≤ fuel) :
    Node.Reader.nodes fuel site [] (l.tokens p) = .error .malformed := by
  match l, hl with
  | .done, _ => exact absurd trivial hnot
  | .char c l, ⟨hc, hl⟩ =>
    exact l.nodes_not_spoken hl (fun h => hnot ⟨hc, h⟩) hd (p ++ [c]) hf
  | .reference n l, ⟨_, hl⟩ =>
    simp only [Letter.tokens, List.length_append, List.length_cons] at hf ⊢
    obtain ⟨more, rfl⟩ : ∃ more, fuel = more + 1 + (Token.dataToken p).length :=
      ⟨fuel - 1 - (Token.dataToken p).length, by omega⟩
    refine nodes_data_error p rfl ?_
    by_cases hn : n = "not"
    · have hexpr : expr more site.depth (.ident n :: .variableEnd :: l.tokens [])
          = .error .malformed := by
        rw [hn]
        exact expr_not_error (.inl rfl) hd (by omega)
      simp only [Node.Reader.nodes, hexpr, bind, Except.bind]
    · have hrest : Node.Reader.nodes more site [] (l.tokens []) = .error .malformed :=
        l.nodes_not_spoken hl (fun h => hnot ⟨hn, h⟩) hd [] (by omega)
      exact nodes_print_error (stands_word hn) hd (by omega) hrest

theorem blocksOf_wordNodes (l : Letter) (p : List Char) : Node.blocksOf (l.wordNodes p) = [] := by
  fun_induction l.wordNodes p with
  | case1 p => exact Node.blocksOf_textNodes p
  | case2 p c rest ih => exact ih
  | case3 p n rest ih =>
    rw [Node.blocksOf_append, Node.blocksOf_textNodes, Node.blocksOf, ih]
    rfl
  | case4 p name yes no rest ih => exact ih

theorem read_spoken (l : Letter) (hl : l.Spoken) :
    Node.read (l.tokens []) = .ok (l.wordNodes []) := by
  have hnodes : Node.Reader.nodes (24 * ((l.tokens []).length + 2)) {} [] (l.tokens [])
      = .ok (l.wordNodes [], []) := l.nodes_wordNodes hl (by decide) [] (by omega)
  simp [Node.read, hnodes, l.blocksOf_wordNodes, bind, Except.bind, pure, Except.pure]

theorem read_not_spoken (l : Letter) {q : String → Prop} (hl : l.Mentions q)
    (hnot : ¬ l.Spoken) : Node.read (l.tokens []) = .error .malformed := by
  have hnodes : Node.Reader.nodes (24 * ((l.tokens []).length + 2)) {} [] (l.tokens [])
      = .error .malformed := l.nodes_not_spoken hl hnot (by decide) [] (by omega)
  simp only [Node.read, hnodes, bind, Except.bind]

end Letter

-- ---------------------------------------------------------------------------
-- Running
-- ---------------------------------------------------------------------------

/-- What a word stands for: a constant, or what is found under a name. -/
def RenderState.means (st : RenderState) (s : Surroundings) (n : String) : Datum :=
  (constant? n).getD (st.find s n)

theorem RenderState.wrote_means (st : RenderState) (cs : List Char) (s : Surroundings)
    (n : String) : (st.wrote cs).means s n = st.means s n := by
  rw [means, wrote_find, means]

theorem Node.eval_wordExpr (s : Surroundings) (answer : Answer) (st : RenderState) (n : String) :
    Expr.eval s answer (wordExpr n) st = .ok (st.means s n, st) := by
  unfold wordExpr RenderState.means
  cases constant? n with
  | some d => exact eval_const s answer st d
  | none => exact eval_var s answer st n

namespace Letter

/-- What a letter without conditions says where words are looked up in a state. -/
def spokenIn (s : Surroundings) (st : RenderState) (l : Letter) :
    Except RenderError (List Char) :=
  l.writtenOr (fun n => (st.means s n).print ⟨s.strict, st.escape⟩) fun _ => .ok true

theorem spokenIn_wrote (s : Surroundings) (st : RenderState) (cs : List Char) (l : Letter) :
    l.spokenIn s (st.wrote cs) = l.spokenIn s st := by
  simp only [spokenIn, RenderState.wrote_means, RenderState.wrote_escape]

theorem runAll_wordNodes (s : Surroundings) (answer : Answer) (l : Letter) (hl : l.Spoken)
    (p : List Char) (st : RenderState) :
    Node.runAll s answer (l.wordNodes p) st
      = (l.spokenIn s st).map fun cs => ((), st.wrote (p ++ cs)) := by
  match l, hl with
  | .done, _ =>
    have hall := Node.runAll_textNodes_append s answer st p []
    rw [List.append_nil, Node.runAll_nil] at hall
    simp [wordNodes, hall, spokenIn, writtenOr, Except.map]
  | .char c l, ⟨_, hl⟩ =>
    have hspoken : (Letter.char c l).spokenIn s st
        = l.spokenIn s st >>= fun cs => pure (c :: cs) := by
      simp only [spokenIn, writtenOr]
    rw [wordNodes, l.runAll_wordNodes s answer hl (p ++ [c]) st, hspoken]
    cases l.spokenIn s st with
    | error e => rfl
    | ok cs => simp [Except.map, bind, Except.bind, pure, Except.pure]
  | .reference n l, ⟨_, hl⟩ =>
    have hspoken : (Letter.reference n l).spokenIn s st
        = (st.means s n).print ⟨s.strict, st.escape⟩ >>= fun t =>
            l.spokenIn s st >>= fun cs => pure (t.toList ++ cs) := by
      simp only [spokenIn, writtenOr]
    rw [wordNodes, Node.runAll_textNodes_append, Node.runAll_cons,
      Node.run_print_of_eval (Node.eval_wordExpr s answer _ n), hspoken, RenderState.wrote_means,
      RenderState.wrote_escape]
    cases (st.means s n).print ⟨s.strict, st.escape⟩ with
    | error e => rfl
    | ok t =>
      simp only [Except.map, bind, Except.bind, l.runAll_wordNodes s answer hl, spokenIn_wrote]
      cases l.spokenIn s st with
      | error e => rfl
      | ok cs => simp [pure, Except.pure]

theorem render_wordNodes (strict escape : Bool) (bound : List (String × Datum)) (l : Letter)
    (hl : l.Spoken) :
    Node.render strict escape bound (l.wordNodes [])
      = (l.spokenIn ⟨strict, bound, []⟩ (.atStart escape)).map String.ofList := by
  simp only [Node.render, l.blocksOf_wordNodes, StateT.run, l.runAll_wordNodes _ _ hl]
  rw [RenderState.atStart]
  cases l.spokenIn ⟨strict, bound, []⟩ { frames := [{ base := .bindings }], escape } with
  | error e => rfl
  | ok cs => simp [Except.map, bind, Except.bind, RenderState.wrote, pure, Except.pure]

theorem Mentions.writtenOr_congr {p p' : String → Except RenderError String}
    {q q' : String → Except RenderError Bool} {f g : String → String} (l : Letter)
    (hl : l.Mentions fun n => p (f n) = p' (g n)) :
    (l.mapNames f f).writtenOr p q = (l.mapNames g g).writtenOr p' q' := by
  match l, hl with
  | .done, _ => rfl
  | .char c l, ⟨_, hl⟩ =>
    rw [Letter.mapNames, Letter.mapNames, writtenOr, writtenOr, Mentions.writtenOr_congr l hl]
  | .reference n l, ⟨hn, hl⟩ =>
    rw [Letter.mapNames, Letter.mapNames, writtenOr, writtenOr, Mentions.writtenOr_congr l hl, hn]

end Letter

-- ---------------------------------------------------------------------------
-- Rendering
-- ---------------------------------------------------------------------------

theorem Letter.Spoken.congr {f g : String → String} {l : Letter}
    (hl : l.Mentions fun n => f n = "not" ↔ g n = "not") (h : (l.mapNames f f).Spoken) :
    (l.mapNames g g).Spoken := by
  match l, hl, h with
  | .done, _, _ => exact trivial
  | .char _ l, ⟨hc, hl⟩, ⟨_, h⟩ =>
    exact ⟨mt (opens_mapNames g g l).mp hc, Letter.Spoken.congr hl h⟩
  | .reference _ l, ⟨hn, hl⟩, ⟨hne, h⟩ =>
    exact ⟨fun heq => hne (hn.mpr heq), Letter.Spoken.congr hl h⟩

namespace Render

variable (options : RenderOptions) {bound bound' : List (String × Datum)}

/-- What a word of a template stands for. -/
def means (bound : List (String × Datum)) (n : String) : Datum :=
  (RenderState.atStart options.html).means ⟨options.strictUndefined, bound, []⟩ n

/-- A letter without conditions is rendered as what it says, unless a negation stands in it. -/
theorem renderTemplate_words {l : Letter} (hl : l.Mentions Name.IsWord) :
    renderTemplate options bound l.text
      = if (l.ended options.keepTrailingNewline).Spoken then
          ((l.ended options.keepTrailingNewline).spokenIn ⟨options.strictUndefined, bound, []⟩
            (.atStart options.html)).map String.ofList
        else .error .malformed := by
  rw [renderTemplate, hl.tokenize_text]
  split
  · next hspoken =>
    rw [Letter.read_spoken _ hspoken]
    exact Letter.render_wordNodes _ _ _ _ hspoken
  · next hspoken =>
    rw [Letter.read_not_spoken _ (hl.ended _) hspoken]
    rfl

/-- Words in which a template and another agree: they stand for the same, and neither is the
word of a negation unless both are. -/
structure Agree (bound bound' : List (String × Datum)) (n n' : String) : Prop where
  isWord : Name.IsWord n
  isWord' : Name.IsWord n'
  negation : n = "not" ↔ n' = "not"
  means : means options bound n = means options bound' n'

/-- Letters without conditions whose words agree are rendered alike, be it an error or a text. -/
theorem renderTemplate_words_congr {f g : String → String} {l : Letter}
    (hl : l.Mentions fun n => Agree options bound bound' (f n) (g n)) :
    renderTemplate options bound (l.mapNames f f).text
      = renderTemplate options bound' (l.mapNames g g).text := by
  have hf : (l.mapNames f f).Mentions Name.IsWord :=
    Letter.Mentions.mapNames l (Letter.Mentions.imp (fun _ hn => hn.isWord) l hl)
  have hg : (l.mapNames g g).Mentions Name.IsWord :=
    Letter.Mentions.mapNames l (Letter.Mentions.imp (fun _ hn => hn.isWord') l hl)
  have hended := hl.ended options.keepTrailingNewline
  have hspoken : ((l.ended options.keepTrailingNewline).mapNames f f).Spoken ↔
      ((l.ended options.keepTrailingNewline).mapNames g g).Spoken :=
    ⟨Letter.Spoken.congr (Letter.Mentions.imp (fun _ hn => hn.negation) _ hended),
      Letter.Spoken.congr (Letter.Mentions.imp (fun _ hn => hn.negation.symm) _ hended)⟩
  have hprint : ∀ n, Agree options bound bound' (f n) (g n) →
      (means options bound (f n)).print (mode options)
        = (means options bound' (g n)).print (mode options) :=
    fun n hn => by rw [hn.means]
  have hsaid : ((l.ended options.keepTrailingNewline).mapNames f f).spokenIn
      ⟨options.strictUndefined, bound, []⟩ (.atStart options.html)
        = ((l.ended options.keepTrailingNewline).mapNames g g).spokenIn
          ⟨options.strictUndefined, bound', []⟩ (.atStart options.html) :=
    Letter.Mentions.writtenOr_congr _ (Letter.Mentions.imp hprint _ hended)
  rw [renderTemplate_words options hf, renderTemplate_words options hg, Letter.ended_mapNames,
    Letter.ended_mapNames, hsaid]
  simp only [hspoken]

end Render

end MailMerge
