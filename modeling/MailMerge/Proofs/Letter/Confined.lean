import MailMerge.Proofs.Letter.Rendering
import MailMerge.Proofs.Traversal

/-!
# Templates that only look names up

Phrases are the tokens letters are made of: text, a name printed, a name tested, and the words
behind the texts of a condition. Whatever is read of phrases looks at names of phrases and at
nothing else (`Node.Confined`), however deep they nest and whichever words of the engine stand in
the place of names. So it is rendered alike where those names are bound alike.
-/

namespace MailMerge

-- ---------------------------------------------------------------------------
-- Expressions of one word
-- ---------------------------------------------------------------------------

namespace Expr

/-- An expression that looks up a name of some kind, or nothing. -/
inductive Confined (p : String → Prop) : Expr → Prop where
  | const (d : Datum) : Confined p (.const d)
  | var {n : String} (hn : p n) : Confined p (.var n)

namespace Reader

variable {p : String → Prop} {n : String} {t : Token} {rest : List Token} {depth : Nat}

theorem refuse_ne_ok {α : Type} (ts : List Token) (x : α) : refuse ts ≠ .ok x := by
  intro h
  unfold refuse at h
  split at h <;> cases h

/-- If anything is read, it is confined, and read up to the end of the markup. -/
def ReadsAlone (p : String → Prop) (t : Token) (rest : List Token)
    (read : Except RenderError (Expr × List Token)) : Prop :=
  ∀ e ts, read = .ok (e, ts) → e.Confined p ∧ ts = t :: rest

theorem readsAlone_refuse (ts : List Token) : ReadsAlone p t rest (refuse ts) :=
  fun e ts' h => absurd h (refuse_ne_ok ts (e, ts'))

/-- A step behind an expression that reads nothing more. -/
theorem ReadsAlone.bind {read : Except RenderError (Expr × List Token)}
    {next : Expr × List Token → Except RenderError (Expr × List Token)}
    (h : ReadsAlone p t rest read)
    (hnext : ∀ e r, next (e, t :: rest) = .ok r → r = (e, t :: rest)) :
    ReadsAlone p t rest (read >>= next) := by
  intro e ts heq
  obtain ⟨⟨e', ts'⟩, hread, hrest⟩ := exists_of_bind_eq_ok heq
  obtain ⟨he, rfl⟩ := h e' ts' hread
  cases hnext e' (e, ts) hrest
  exact ⟨he, rfl⟩

theorem primary_alone (hn : p n) (fuel : Nat) :
    ReadsAlone p t rest (primary fuel depth (.ident n :: t :: rest)) := by
  cases fuel with
  | zero =>
    rw [primary]
    exact readsAlone_refuse _
  | succ fuel =>
    intro e ts h
    simp only [primary] at h
    split at h
    · cases h
    · split at h
      · cases h
        exact ⟨.const _, rfl⟩
      · cases h
        exact ⟨.var hn, rfl⟩

theorem parts_alone (ht : Ends t) (fuel : Nat) (e : Expr) (r : Expr × List Token)
    (h : parts fuel depth e (t :: rest) = .ok r) : r = (e, t :: rest) := by
  cases fuel with
  | zero =>
    rw [parts] at h
    exact absurd h (refuse_ne_ok _ _)
  | succ fuel => rcases ht with rfl | rfl <;> simpa [parts, eq_comm] using h

theorem filters_alone (ht : Ends t) (fuel : Nat) (e : Expr) (r : Expr × List Token)
    (h : filters fuel depth e (t :: rest) = .ok r) : r = (e, t :: rest) := by
  cases fuel with
  | zero =>
    rw [filters] at h
    exact absurd h (refuse_ne_ok _ _)
  | succ fuel => rcases ht with rfl | rfl <;> simpa [filters, eq_comm] using h

theorem choice_alone (ht : Ends t) (fuel : Nat) (e : Expr) (r : Expr × List Token)
    (h : choice fuel depth e (t :: rest) = .ok r) : r = (e, t :: rest) := by
  cases fuel with
  | zero =>
    rw [choice] at h
    exact absurd h (refuse_ne_ok _ _)
  | succ fuel => rcases ht with rfl | rfl <;> simpa [choice, eq_comm] using h

theorem binaryRest_alone (ht : Ends t) (fuel : Nat) (l : Level) (e : Expr) (r : Expr × List Token)
    (h : binaryRest fuel depth l e (t :: rest) = .ok r) : r = (e, t :: rest) := by
  cases fuel with
  | zero =>
    rw [binaryRest] at h
    exact absurd h (refuse_ne_ok _ _)
  | succ fuel =>
    rw [binaryRest, infix?_of_ends ht] at h
    simpa [eq_comm] using h

theorem comparisons_alone (ht : Ends t) (fuel : Nat) (r : List (CompareOp × Expr) × List Token)
    (h : comparisons fuel depth (t :: rest) = .ok r) : r = ([], t :: rest) := by
  cases fuel with
  | zero =>
    rw [comparisons] at h
    exact absurd h (refuse_ne_ok _ _)
  | succ fuel => rcases ht with rfl | rfl <;> simpa [comparisons, comparison?, eq_comm] using h

theorem negation_alone (hn : p n) (fuel : Nat) :
    ReadsAlone p t rest (negation fuel depth (.ident n :: t :: rest)) := by
  cases fuel with
  | zero =>
    rw [negation]
    exact readsAlone_refuse _
  | succ fuel =>
    rw [negation]
    · exact primary_alone hn fuel
    · intro _ heq
      cases heq

theorem unary_alone (hn : p n) (ht : Ends t) (fuel : Nat) :
    ReadsAlone p t rest (unary fuel depth (.ident n :: t :: rest)) := by
  cases fuel with
  | zero =>
    rw [unary]
    exact readsAlone_refuse _
  | succ fuel =>
    rw [unary]
    refine (negation_alone hn fuel).bind fun e r h => ?_
    obtain ⟨behind, hparts, h⟩ := exists_of_bind_eq_ok h
    cases parts_alone ht fuel e behind hparts
    exact filters_alone ht fuel e r h

/-- No value is read where markup ends. -/
theorem primary_ends (ht : Ends t) (fuel : Nat) (r : Expr × List Token) :
    primary fuel depth (t :: rest) ≠ .ok r := by
  cases fuel with
  | zero =>
    rw [primary]
    exact refuse_ne_ok _ _
  | succ fuel =>
    rw [primary]
    rcases ht with rfl | rfl <;> (split <;> (intro h; cases h))

theorem negation_ends (ht : Ends t) (fuel : Nat) (r : Expr × List Token) :
    negation fuel depth (t :: rest) ≠ .ok r := by
  cases fuel with
  | zero =>
    rw [negation]
    exact refuse_ne_ok _ _
  | succ fuel =>
    rw [negation]
    · exact primary_ends ht fuel r
    · intro _ heq
      rcases ht with rfl | rfl <;> cases heq

theorem unary_ends (ht : Ends t) (fuel : Nat) (r : Expr × List Token) :
    unary fuel depth (t :: rest) ≠ .ok r := by
  cases fuel with
  | zero =>
    rw [unary]
    exact refuse_ne_ok _ _
  | succ fuel =>
    intro h
    rw [unary] at h
    obtain ⟨x, hx, -⟩ := exists_of_bind_eq_ok h
    exact negation_ends ht fuel x hx

theorem binary_ends (ht : Ends t) (fuel : Nat) :
    (∀ l r, binary fuel depth l (t :: rest) ≠ .ok r) ∧
      ∀ l r, operand fuel depth l (t :: rest) ≠ .ok r := by
  induction fuel with
  | zero =>
    refine ⟨fun l r => ?_, fun l r => ?_⟩
    · rw [binary]
      exact refuse_ne_ok _ _
    · rw [operand]
      exact refuse_ne_ok _ _
  | succ fuel ih =>
    refine ⟨fun l r h => ?_, fun l r => ?_⟩
    · rw [binary] at h
      · obtain ⟨x, hx, -⟩ := exists_of_bind_eq_ok h
        exact ih.2 l x hx
      · rintro _ - heq
        rcases ht with rfl | rfl <;> cases heq
    · rw [operand]
      split
      · exact ih.1 _ r
      · exact unary_ends ht fuel r

theorem binary_alone (hn : p n) (ht : Ends t) (fuel : Nat) :
    (∀ l, ReadsAlone p t rest (binary fuel depth l (.ident n :: t :: rest))) ∧
      ∀ l, ReadsAlone p t rest (operand fuel depth l (.ident n :: t :: rest)) := by
  induction fuel with
  | zero =>
    refine ⟨fun l => ?_, fun l => ?_⟩
    · rw [binary]
      exact readsAlone_refuse _
    · rw [operand]
      exact readsAlone_refuse _
  | succ fuel ih =>
    refine ⟨fun l => ?_, fun l => ?_⟩
    · by_cases hnot : l = .not ∧ n = "not"
      · obtain ⟨rfl, rfl⟩ := hnot
        intro e ts h
        rw [binary] at h
        obtain ⟨x, hx, -⟩ := exists_of_bind_eq_ok h
        exact absurd hx ((binary_ends ht fuel).1 _ x)
      · rw [binary]
        · refine (ih.2 l).bind fun first r h => ?_
          simp only at h
          split at h
          · cases h
            rfl
          · split at h
            · obtain ⟨others, hothers, h⟩ := exists_of_bind_eq_ok h
              cases comparisons_alone ht fuel others hothers
              cases h
              rfl
            · exact binaryRest_alone ht fuel l first r h
        · intro _ hl heq
          exact hnot ⟨hl, (Token.ident.inj (List.cons.inj heq).1)⟩
    · rw [operand]
      split
      · exact ih.1 _
      · exact unary_alone hn ht fuel

/-- Whatever is read of a single word is confined. -/
theorem expr_alone (hn : p n) (ht : Ends t) (fuel : Nat) :
    ReadsAlone p t rest (expr fuel depth (.ident n :: t :: rest)) := by
  cases fuel with
  | zero =>
    rw [expr]
    exact readsAlone_refuse _
  | succ fuel =>
    rw [expr]
    split
    · intro e r h
      cases h
    · exact ((binary_alone hn ht fuel).1 .or).bind (choice_alone ht fuel)

end Reader

end Expr

-- ---------------------------------------------------------------------------
-- Phrases
-- ---------------------------------------------------------------------------

namespace Node

/-- A node that looks up names of some kind and nothing else. -/
inductive Confined (p : String → Prop) : Node → Prop where
  | text (s : String) : Confined p (.text s)
  | print {e : Expr} (he : e.Confined p) : Confined p (.print e)
  | branch {test : Expr} {yes no : List Node} (htest : test.Confined p)
      (hyes : ∀ n ∈ yes, Confined p n) (hno : ∀ n ∈ no, Confined p n) :
      Confined p (.branch test yes no)

namespace Reader

open Expr.Reader

variable {p : String → Prop} {n w : String} {ts rest after : List Token} {ns : List Node}
  {node : Node} {site : Site} {stops : List String} {fuel : Nat}

/-- The tokens of a tag of a condition, behind its start, and others. -/
inductive Tag (p : String → Prop) (rest : List Token) : List Token → Prop where
  | test {w n : String} (hw : w ∈ ["if", "elif"]) (hn : p n) :
      Tag p rest (.ident w :: .ident n :: .blockEnd :: rest)
  | word {w : String} (hw : w ∈ ["else", "endif"]) : Tag p rest (.ident w :: .blockEnd :: rest)

/-- Texts, printed names, and tags of conditions, in any order. -/
inductive Phrases (p : String → Prop) : List Token → Prop where
  | nil : Phrases p []
  | data (s : String) {ts : List Token} (h : Phrases p ts) : Phrases p (.data s :: ts)
  | reference {n : String} {ts : List Token} (hn : p n) (h : Phrases p ts) :
      Phrases p (.variableStart :: .ident n :: .variableEnd :: ts)
  | tag {ts rest : List Token} (ht : Tag p rest ts) (h : Phrases p rest) :
      Phrases p (.blockStart :: ts)

/-- What is left where nodes end: nothing, or phrases from inside a tag on. -/
def Left (p : String → Prop) (ts : List Token) : Prop :=
  ts = [] ∨ ∃ rest, Tag p rest ts ∧ Phrases p rest

/-- Behind the end of a tag, if that is next, stand phrases. -/
def Closed (p : String → Prop) (ts : List Token) : Prop :=
  ∀ rest, ts = .blockEnd :: rest → Phrases p rest

theorem closed_blockEnd (h : Phrases p rest) : Closed p (.blockEnd :: rest) :=
  fun _ heq => (List.cons.inj heq).2 ▸ h

theorem closed_ident (n : String) (ts : List Token) : Closed p (.ident n :: ts) :=
  fun _ heq => by cases heq

theorem eq_cons_of_expect {t : Token} (h : expect t ts = .ok rest) : ts = t :: rest := by
  cases ts with
  | nil =>
    rw [expect] at h
    exact absurd h (refuse_ne_ok _ _)
  | cons u us =>
    rw [expect] at h
    split at h
    · next heq => rw [beq_iff_eq.mp heq, Except.ok.inj h]
    · exact absurd h (refuse_ne_ok _ _)

theorem Closed.of_expect (h : Closed p ts) (hexpect : expect .blockEnd ts = .ok rest) :
    Phrases p rest := h rest (eq_cons_of_expect hexpect)

theorem Left.of_dropOne (h : Left p ts) (hdrop : dropOne ts = .ok rest) : Closed p rest := by
  rcases h with rfl | ⟨more, htag, hmore⟩
  · cases hdrop
    intro _ heq
    cases heq
  · cases htag with
    | test hw hn =>
      cases hdrop
      exact closed_ident _ _
    | word hw =>
      cases hdrop
      exact closed_blockEnd hmore

theorem Left.of_else (h : Left p (.ident "else" :: ts)) : Closed p ts := by
  rcases h with heq | ⟨rest, htag, hrest⟩
  · cases heq
  · cases htag with
    | test hw hn => exact absurd hw (by decide)
    | word hw => exact closed_blockEnd hrest

theorem Left.of_elif (h : Left p (.ident "elif" :: ts)) :
    ∃ n rest, p n ∧ Phrases p rest ∧ ts = .ident n :: .blockEnd :: rest := by
  rcases h with heq | ⟨rest, htag, hrest⟩
  · cases heq
  · cases htag with
    | test hw hn => exact ⟨_, rest, hn, hrest, rfl⟩
    | word hw => exact absurd hw (by decide)

/-- All that is read of phrases is confined, and phrases are left. -/
structure Confines (p : String → Prop) (fuel : Nat) : Prop where
  nodes : ∀ {site stops ts ns after}, Phrases p ts →
    Reader.nodes fuel site stops ts = .ok (ns, after) →
      (∀ n ∈ ns, Confined p n) ∧ Left p after
  body : ∀ {site word ts ns after}, Closed p ts →
    Reader.body fuel site word ts = .ok (ns, after) →
      (∀ n ∈ ns, Confined p n) ∧ Closed p after
  statement : ∀ {site w ts rest node after}, Tag p rest (.ident w :: ts) → Phrases p rest →
    Reader.statement fuel site w ts = .ok (node, after) → Confined p node ∧ Closed p after
  branch : ∀ {site n rest node after}, p n → Phrases p rest →
    Reader.branch fuel site (.ident n :: .blockEnd :: rest) = .ok (node, after) →
      Confined p node ∧ Closed p after

namespace Confines

variable (h : Confines p fuel)
include h

theorem nodes_succ (hts : Phrases p ts)
    (hread : Reader.nodes (fuel + 1) site stops ts = .ok (ns, after)) :
    (∀ n ∈ ns, Confined p n) ∧ Left p after := by
  cases hts with
  | nil =>
    rw [Reader.nodes] at hread
    cases hread
    exact ⟨fun _ hn => absurd hn List.not_mem_nil, .inl rfl⟩
  | data s hts =>
    rw [Reader.nodes] at hread
    obtain ⟨⟨more, left⟩, hmore, hread⟩ := exists_of_bind_eq_ok hread
    cases hread
    obtain ⟨hall, hleft⟩ := h.nodes hts hmore
    exact ⟨List.forall_mem_cons.mpr ⟨.text s, hall⟩, hleft⟩
  | reference hn hts =>
    rw [Reader.nodes] at hread
    obtain ⟨⟨e, behind⟩, he, hread⟩ := exists_of_bind_eq_ok hread
    obtain ⟨hconfined, rfl⟩ := expr_alone hn (.inl rfl) fuel e behind he
    obtain ⟨behind, hexpect, hread⟩ := exists_of_bind_eq_ok hread
    cases eq_cons_of_expect hexpect
    obtain ⟨⟨more, left⟩, hmore, hread⟩ := exists_of_bind_eq_ok hread
    cases hread
    obtain ⟨hall, hleft⟩ := h.nodes hts hmore
    exact ⟨List.forall_mem_cons.mpr ⟨.print hconfined, hall⟩, hleft⟩
  | @tag ts rest htag hrest =>
    obtain ⟨w, inside, rfl⟩ : ∃ w inside, ts = .ident w :: inside := by
      cases htag with
      | test hw hn => exact ⟨_, _, rfl⟩
      | word hw => exact ⟨_, _, rfl⟩
    rw [Reader.nodes] at hread
    simp only at hread
    split at hread
    · cases hread
      exact ⟨fun _ hn => absurd hn List.not_mem_nil, .inr ⟨rest, htag, hrest⟩⟩
    · split at hread
      · cases hread
      · obtain ⟨⟨node, behind⟩, hnode, hread⟩ := exists_of_bind_eq_ok hread
        obtain ⟨hconfined, hclosed⟩ := h.statement htag hrest hnode
        obtain ⟨next, hexpect, hread⟩ := exists_of_bind_eq_ok hread
        obtain ⟨⟨more, left⟩, hmore, hread⟩ := exists_of_bind_eq_ok hread
        cases hread
        obtain ⟨hall, hleft⟩ := h.nodes (hclosed.of_expect hexpect) hmore
        exact ⟨List.forall_mem_cons.mpr ⟨hconfined, hall⟩, hleft⟩

theorem body_succ {word : String} (hts : Closed p ts)
    (hread : Reader.body (fuel + 1) site word ts = .ok (ns, after)) :
    (∀ n ∈ ns, Confined p n) ∧ Closed p after := by
  rw [Reader.body] at hread
  obtain ⟨inside, hexpect, hread⟩ := exists_of_bind_eq_ok hread
  obtain ⟨⟨read, left⟩, hnodes, hread⟩ := exists_of_bind_eq_ok hread
  obtain ⟨behind, hdrop, hread⟩ := exists_of_bind_eq_ok hread
  cases hread
  obtain ⟨hall, hleft⟩ := h.nodes (hts.of_expect hexpect) hnodes
  exact ⟨hall, hleft.of_dropOne hdrop⟩

theorem statement_succ (htag : Tag p rest (.ident w :: ts)) (hrest : Phrases p rest)
    (hread : Reader.statement (fuel + 1) site w ts = .ok (node, after)) :
    Confined p node ∧ Closed p after := by
  cases htag with
  | test hw hn =>
    simp only [List.mem_cons, List.not_mem_nil, or_false] at hw
    rcases hw with rfl | rfl
    · simp only [Reader.statement] at hread
      exact h.branch hn hrest hread
    · simp only [Reader.statement] at hread
      exact absurd hread (refuse_ne_ok _ _)
  | word hw =>
    simp only [List.mem_cons, List.not_mem_nil, or_false] at hw
    rcases hw with rfl | rfl <;>
      (simp only [Reader.statement] at hread; exact absurd hread (refuse_ne_ok _ _))

theorem branch_succ (hn : p n) (hrest : Phrases p rest)
    (hread : Reader.branch (fuel + 1) site (.ident n :: .blockEnd :: rest) = .ok (node, after)) :
    Confined p node ∧ Closed p after := by
  rw [Reader.branch] at hread
  obtain ⟨⟨test, behind⟩, htest, hread⟩ := exists_of_bind_eq_ok hread
  obtain ⟨hconfined, rfl⟩ := expr_alone hn (.inr rfl) fuel test behind htest
  obtain ⟨inside, hexpect, hread⟩ := exists_of_bind_eq_ok hread
  cases eq_cons_of_expect hexpect
  obtain ⟨⟨yes, left⟩, hyes, hread⟩ := exists_of_bind_eq_ok hread
  obtain ⟨hyesAll, hleft⟩ := h.nodes hrest hyes
  simp only at hread
  split at hread
  · obtain ⟨⟨no, behind⟩, hno, hread⟩ := exists_of_bind_eq_ok hread
    cases hread
    obtain ⟨hnoAll, hclosed⟩ := h.body hleft.of_else hno
    exact ⟨.branch hconfined hyesAll hnoAll, hclosed⟩
  · obtain ⟨⟨no, behind⟩, hno, hread⟩ := exists_of_bind_eq_ok hread
    cases hread
    obtain ⟨m, more, hm, hmore, rfl⟩ := hleft.of_elif
    obtain ⟨hnoConfined, hclosed⟩ := h.branch hm hmore hno
    exact ⟨.branch hconfined hyesAll (List.forall_mem_singleton.mpr hnoConfined), hclosed⟩
  · obtain ⟨behind, hdrop, hread⟩ := exists_of_bind_eq_ok hread
    cases hread
    exact ⟨.branch hconfined hyesAll fun _ hn => absurd hn List.not_mem_nil, hleft.of_dropOne hdrop⟩

end Confines

theorem confines (p : String → Prop) (fuel : Nat) : Confines p fuel := by
  induction fuel with
  | zero =>
    refine ⟨fun _ hread => ?_, fun _ hread => ?_, fun _ _ hread => ?_, fun _ _ hread => ?_⟩
    · rw [Reader.nodes] at hread
      exact absurd hread (refuse_ne_ok _ _)
    · rw [Reader.body] at hread
      exact absurd hread (refuse_ne_ok _ _)
    · rw [Reader.statement] at hread
      exact absurd hread (refuse_ne_ok _ _)
    · rw [Reader.branch] at hread
      exact absurd hread (refuse_ne_ok _ _)
  | succ fuel h => exact ⟨h.nodes_succ, h.body_succ, h.statement_succ, h.branch_succ⟩

end Reader

end Node

-- ---------------------------------------------------------------------------
-- Letters
-- ---------------------------------------------------------------------------

open Node.Reader

theorem phrases_dataToken {p : String → Prop} (cs : List Char) {ts : List Token}
    (h : Phrases p ts) : Phrases p (Token.dataToken cs ++ ts) := by
  unfold Token.dataToken
  split
  · exact h
  · exact .data _ h

mutual

/-- The tokens of a letter are phrases. -/
theorem Letter.phrases_tokens_append {p : String → Prop} (l : Letter) (hl : l.All p p)
    {ts : List Token} (hts : Phrases p ts) (cs : List Char) : Phrases p (l.tokens cs ++ ts) := by
  match l, hl with
  | .done, _ => exact phrases_dataToken cs hts
  | .char c l, ⟨_, hl⟩ => exact l.phrases_tokens_append hl hts (cs ++ [c])
  | .reference n l, ⟨hn, hl⟩ =>
    rw [Letter.tokens, List.append_assoc]
    exact phrases_dataToken cs (.reference hn (l.phrases_tokens_append hl hts []))
  | .condition n yes no l, ⟨hn, hyes, hno, hl⟩ =>
    have hrest := no.phrases_tokens_append hno (l.phrases_tokens_append hl hts [])
    have hbody := yes.phrases_tokens_append hyes hrest []
    simp only [Letter.tokens, List.append_assoc, List.cons_append]
    exact phrases_dataToken cs (.tag (.test (by decide) hn) hbody)

theorem Otherwise.phrases_tokens_append {p : String → Prop} (o : Otherwise) (ho : o.All p p)
    {ts : List Token} (hts : Phrases p ts) : Phrases p (o.tokens ++ .blockEnd :: ts) := by
  have hend : Phrases p (.blockStart :: .ident "endif" :: .blockEnd :: ts) :=
    .tag (.word (by decide)) hts
  match o, ho with
  | .nothing, _ => exact hend
  | .always no, hno =>
    have hbody := no.phrases_tokens_append hno hend []
    simp only [Otherwise.tokens, List.append_assoc, List.cons_append, List.nil_append]
    exact .tag (.word (by decide)) hbody
  | .onlyIf n yes no, ⟨hn, hyes, hno⟩ =>
    have hbody := yes.phrases_tokens_append hyes (no.phrases_tokens_append hno hts) []
    simp only [Otherwise.tokens, List.append_assoc, List.cons_append]
    exact .tag (.test (by decide) hn) hbody

end

theorem Node.confined_of_read {p : String → Prop} {ts : List Token} {ns : List Node}
    (hts : Phrases p ts) (h : Node.read ts = .ok ns) : ∀ n ∈ ns, n.Confined p := by
  obtain ⟨⟨read, left⟩, hread, h⟩ := exists_of_bind_eq_ok h
  simp only at h
  split at h
  · cases h
    exact ((confines p _).nodes hts hread).1
  · cases h

-- ---------------------------------------------------------------------------
-- Runs
-- ---------------------------------------------------------------------------

namespace Node

variable {p : String → Prop} {s s' : Surroundings}

/-- Two surroundings with the same data under some names, seen from a state. -/
structure Agree (p : String → Prop) (s s' : Surroundings) (st : RenderState) : Prop where
  strict : s.strict = s'.strict
  find : ∀ n, p n → st.find s n = st.find s' n

theorem Agree.wrote {st : RenderState} (h : Agree p s s' st) (cs : List Char) :
    Agree p s s' (st.wrote cs) where
  strict := h.strict
  find n hn := by rw [RenderState.wrote_find, RenderState.wrote_find, h.find n hn]

theorem eval_confined (answer answer' : Answer) {e : Expr} (he : e.Confined p) {st : RenderState}
    (h : Agree p s s' st) :
    ∃ d, Expr.eval s answer e st = .ok (d, st) ∧ Expr.eval s' answer' e st = .ok (d, st) := by
  cases he with
  | const d => exact ⟨d, rfl, rfl⟩
  | var hn => exact ⟨_, eval_var s answer st _, by rw [eval_var, h.find _ hn]⟩

/-- Two runs that write the same from a state on and change nothing else, or fail alike. -/
def WriteAlike (st : RenderState) (run run' : Except RenderError (Unit × RenderState)) : Prop :=
  ∃ written : Except RenderError (List Char),
    run = written.map (fun cs => ((), st.wrote cs)) ∧
      run' = written.map fun cs => ((), st.wrote cs)

theorem runAll_confined_of_run (answer answer' : Answer) {ns : List Node}
    (hrun : ∀ n ∈ ns, ∀ st, Agree p s s' st →
      WriteAlike st (run s answer n st) (run s' answer' n st)) {st : RenderState}
    (h : Agree p s s' st) : WriteAlike st (runAll s answer ns st) (runAll s' answer' ns st) := by
  induction ns generalizing st with
  | nil =>
    refine ⟨.ok [], ?_, ?_⟩
    · rw [runAll_nil, Except.map, RenderState.wrote_nil]
    · rw [runAll_nil, Except.map, RenderState.wrote_nil]
  | cons n ns ih =>
    obtain ⟨written, hn, hn'⟩ := hrun n List.mem_cons_self st h
    rw [runAll_cons, runAll_cons, hn, hn']
    cases written with
    | error e => exact ⟨.error e, rfl, rfl⟩
    | ok cs =>
      obtain ⟨more, hns, hns'⟩ :=
        ih (fun m hm => hrun m (List.mem_cons_of_mem n hm)) (h.wrote cs)
      have hmap : ∀ more : Except RenderError (List Char),
          (more.map fun ds => ((), (st.wrote cs).wrote ds)) =
            (more.map (cs ++ ·)).map fun ds => ((), st.wrote ds) := by
        intro more
        cases more with
        | error e => rfl
        | ok ds => simp [Except.map]
      exact ⟨more.map (cs ++ ·), hns.trans (hmap more), hns'.trans (hmap more)⟩

/-- A confined node is run alike where its names are bound alike. -/
theorem run_confined (answer answer' : Answer) {n : Node} (hn : n.Confined p) {st : RenderState}
    (h : Agree p s s' st) : WriteAlike st (run s answer n st) (run s' answer' n st) := by
  induction hn generalizing st with
  | text t => exact ⟨.ok t.toList, run_text s answer st t, run_text s' answer' st t⟩
  | print he =>
    obtain ⟨d, hd, hd'⟩ := eval_confined answer answer' he h
    refine ⟨(d.print ⟨s.strict, st.escape⟩).map String.toList, ?_, ?_⟩
    · rw [run_print_of_eval hd]
      cases d.print ⟨s.strict, st.escape⟩ <;> rfl
    · rw [run_print_of_eval hd', ← h.strict]
      cases d.print ⟨s.strict, st.escape⟩ <;> rfl
  | branch htest hyes hno ihyes ihno =>
    obtain ⟨d, hd, hd'⟩ := eval_confined answer answer' htest h
    rw [run_branch_of_eval hd, run_branch_of_eval hd', ← h.strict]
    cases d.truth ⟨s.strict, st.escape⟩ with
    | error e => exact ⟨.error e, rfl, rfl⟩
    | ok b =>
      cases b with
      | true => exact runAll_confined_of_run _ _ (fun m hm st hst => ihyes m hm hst) h
      | false => exact runAll_confined_of_run _ _ (fun m hm st hst => ihno m hm hst) h

/-- A template that only looks names up is rendered alike where they are bound alike. -/
theorem render_confined (strict escape : Bool) {bound bound' : List (String × Datum)}
    {ns : List Node} (hns : ∀ n ∈ ns, n.Confined p)
    (hbound : ∀ n, p n → bound.lookup n = bound'.lookup n) :
    render strict escape bound ns = render strict escape bound' ns := by
  have hagree : Agree p ⟨strict, bound, blocksOf ns⟩ ⟨strict, bound', blocksOf ns⟩
      (.atStart escape) := by
    refine ⟨rfl, fun n hn => ?_⟩
    rw [Render.find_atStart, Render.find_atStart, hbound n hn]
  obtain ⟨written, hrun, hrun'⟩ :=
    runAll_confined_of_run (Rendering.answer ⟨strict, bound, blocksOf ns⟩)
      (Rendering.answer ⟨strict, bound', blocksOf ns⟩)
      (fun n hn _ hst => run_confined _ _ (hns n hn) hst) hagree
  rw [RenderState.atStart] at hrun hrun'
  simp only [render, StateT.run, hrun, hrun']

end Node

end MailMerge
