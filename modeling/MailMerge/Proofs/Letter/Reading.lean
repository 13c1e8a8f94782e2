import MailMerge.Proofs.Letter.Lexing

/-!
# The nodes of a letter

From the tokens of a letter the reader makes the nodes its tree suggests, as long as
conditions do not nest too deep for it.
-/

namespace MailMerge

namespace Expr.Reader

variable {n : String} {u t : Token} {e : Expr} {rest : List Token}

-- ---------------------------------------------------------------------------
-- Expressions of one token
-- ---------------------------------------------------------------------------

/-- The tokens that end what stands inside markup. -/
def Ends (t : Token) : Prop := t = .variableEnd ∨ t = .blockEnd

/-- A token that is read as an expression by itself. -/
structure Stands (u : Token) (e : Expr) : Prop where
  unsigned : u ≠ .op "-"
  unnegated : u ≠ .ident "not"
  read : ∀ {t rest depth}, Ends t → depth < maxDepth → ∀ fuel,
    primary (fuel + 1) depth (u :: t :: rest) = .ok (e, t :: rest)

theorem Stands.unary (hu : Stands u e) (ht : Ends t) {depth : Nat} (hd : depth < maxDepth)
    (fuel : Nat) : unary (fuel + 3) depth (u :: t :: rest) = .ok (e, t :: rest) := by
  have hnegation : negation (fuel + 2) depth (u :: t :: rest) = .ok (e, t :: rest) := by
    rw [negation]
    · exact hu.read ht hd fuel
    · exact fun _ heq => hu.unsigned (List.cons.inj heq).1
  rcases ht with rfl | rfl
  · simp [Reader.unary, hnegation, parts, filters, bind, Except.bind]
  · simp [Reader.unary, hnegation, parts, filters, bind, Except.bind]

theorem infix?_of_ends (ht : Ends t) (l : Level) : infix? l (t :: rest) = none := by
  rcases ht with rfl | rfl <;> cases l <;> rfl

theorem Stands.binary_of_operand (hu : Stands u e) (ht : Ends t) {depth fuel : Nat} {l : Level}
    (h : operand (fuel + 1) depth l (u :: t :: rest) = .ok (e, t :: rest)) :
    binary (fuel + 2) depth l (u :: t :: rest) = .ok (e, t :: rest) := by
  have hcomparisons : comparisons (fuel + 1) depth (t :: rest) = .ok ([], t :: rest) := by
    rcases ht with rfl | rfl <;> simp [comparisons, comparison?]
  have hrest : binaryRest (fuel + 1) depth l e (t :: rest) = .ok (e, t :: rest) := by
    rw [binaryRest, infix?_of_ends ht]
  rw [binary]
  · simp only [h, bind, Except.bind]
    split
    · rfl
    · split
      · simp [hcomparisons, compareOf, pure, Except.pure]
      · exact hrest
  · intro _ _ heq
    exact hu.unnegated (List.cons.inj heq).1

theorem Stands.binary_of_next (hu : Stands u e) (ht : Ends t) {depth fuel : Nat} {l next : Level}
    (hl : l.next? = some next)
    (h : binary fuel depth next (u :: t :: rest) = .ok (e, t :: rest)) :
    binary (fuel + 2) depth l (u :: t :: rest) = .ok (e, t :: rest) := by
  refine hu.binary_of_operand ht ?_
  rw [operand, hl]
  exact h

theorem Stands.binary (hu : Stands u e) (ht : Ends t) {depth : Nat} (hd : depth < maxDepth)
    (fuel : Nat) : binary (fuel + 19) depth .or (u :: t :: rest) = .ok (e, t :: rest) := by
  have hpower : Reader.binary (fuel + 5) depth .power (u :: t :: rest) = .ok (e, t :: rest) :=
    hu.binary_of_operand ht (by
      rw [operand]
      exact hu.unary ht hd fuel)
  have hproduct := hu.binary_of_next (l := .product) ht rfl hpower
  have hconcat := hu.binary_of_next (l := .concat) ht rfl hproduct
  have hsum := hu.binary_of_next (l := .sum) ht rfl hconcat
  have hcompare := hu.binary_of_next (l := .compare) ht rfl hsum
  have hnot := hu.binary_of_next (l := .not) ht rfl hcompare
  have hand := hu.binary_of_next (l := .and) ht rfl hnot
  exact hu.binary_of_next (l := .or) ht rfl hand

theorem Stands.expr (hu : Stands u e) (ht : Ends t) {depth : Nat} (hd : depth + 1 < maxDepth)
    {fuel : Nat} (hf : 20 ≤ fuel) :
    expr fuel depth (u :: t :: rest) = .ok (e, t :: rest) := by
  obtain ⟨more, rfl⟩ := Nat.exists_eq_add_of_le' hf
  have hdepth : ¬ maxDepth ≤ depth := by omega
  have hbinary : Reader.binary (more + 19) (depth + 1) .or (u :: t :: rest)
      = .ok (e, t :: rest) := hu.binary ht hd more
  have hchoice : choice (more + 19) (depth + 1) e (t :: rest) = .ok (e, t :: rest) := by
    rcases ht with rfl | rfl <;> simp [choice]
  simp only [Reader.expr, hdepth, if_false, hbinary, bind, Except.bind, hchoice]

/-- A word that names something. -/
def Names (n : String) : Prop := constant? n = none ∧ n ≠ "not"

theorem stands_name (hn : Names n) : Stands (.ident n) (.var n) where
  unsigned := Token.noConfusion
  unnegated := fun heq => hn.2 (Token.ident.inj heq)
  read := by
    intro t rest depth _ hd fuel
    simp only [primary, Nat.not_le.mpr hd, if_false, hn.1]

/-- A name on its own is read as what it is bound to. -/
theorem expr_name (hn : Names n) (ht : Ends t) {depth : Nat} (hd : depth + 1 < maxDepth)
    {fuel : Nat} (hf : 20 ≤ fuel) :
    expr fuel depth (.ident n :: t :: rest) = .ok (.var n, t :: rest) :=
  (stands_name hn).expr ht hd hf

theorem expect_head (t : Token) (rest : List Token) : expect t (t :: rest) = .ok rest := by
  simp [expect]

end Expr.Reader

-- ---------------------------------------------------------------------------
-- Nodes one by one
-- ---------------------------------------------------------------------------

namespace Node.Reader

open Expr.Reader

variable {fuel : Nat} {site : Site} {stops : List String} {n : String} {ts after : List Token}
  {ns : List Node}

/-- Where nodes end: at the end of the template, or at a statement that starts with one of
some words. The tokens left are given too. -/
inductive Stops (stops : List String) : List Token → List Token → Prop where
  | atEnd : Stops stops [] []
  | word {w : String} {ts : List Token} :
      w ∈ stops → Stops stops (.blockStart :: .ident w :: ts) (.ident w :: ts)

/-- The node of a text, unless it is empty. -/
def textNodes (p : List Char) : List Node := if p.isEmpty then [] else [.text (String.ofList p)]

theorem nodes_of_stops (h : Stops stops ts after) (hf : 0 < fuel) :
    nodes fuel site stops ts = .ok ([], after) := by
  obtain ⟨more, rfl⟩ := Nat.exists_eq_add_of_le' hf
  cases h with
  | atEnd => rfl
  | word hw => simp [nodes, hw]

theorem nodes_data (p : List Char) {total : Nat} (htotal : fuel + (Token.dataToken p).length = total)
    (h : nodes fuel site stops ts = .ok (ns, after)) :
    nodes total site stops (Token.dataToken p ++ ts) = .ok (textNodes p ++ ns, after) := by
  subst htotal
  unfold Token.dataToken textNodes
  split
  · exact h
  · simp [nodes, h, bind, Except.bind, pure, Except.pure]

theorem nodes_print {u : Token} {e : Expr} (hu : Stands u e) (hd : site.depth + 1 < maxDepth)
    (hf : 20 ≤ fuel) (h : nodes fuel site stops ts = .ok (ns, after)) :
    nodes (fuel + 1) site stops (.variableStart :: u :: .variableEnd :: ts)
      = .ok (.print e :: ns, after) := by
  have hexpr : expr fuel site.depth (u :: .variableEnd :: ts) = .ok (e, .variableEnd :: ts) :=
    hu.expr (Or.inl rfl) hd hf
  simp [nodes, hexpr, expect_head, h, bind, Except.bind, pure, Except.pure]

theorem nodes_condition {node : Node} {inside rest : List Token} (hif : "if" ∉ stops)
    (hd : site.depth < maxDepth)
    (hbranch : branch fuel { site with depth := site.depth + 1 } inside
      = .ok (node, .blockEnd :: rest))
    (h : nodes (fuel + 1) site stops rest = .ok (ns, after)) :
    nodes (fuel + 2) site stops (.blockStart :: .ident "if" :: inside)
      = .ok (node :: ns, after) := by
  have hdepth : ¬ maxDepth ≤ site.depth := Nat.not_le.mpr hd
  rw [nodes]
  simp [hif, hdepth, statement, hbranch, expect_head, h, bind, Except.bind, pure, Except.pure]

/-- The words that may stand behind the text of a condition. -/
def branchStops : List String := ["endif", "else", "elif"]

/-- What is read of a condition behind its first text. -/
def branchRest (fuel : Nat) (site : Site) (test : Expr) (yes : List Node) :
    List Token → Except RenderError (Node × List Token)
  | .ident "else" :: ts => do
    let (no, ts) ← body fuel site "endif" ts
    return (.branch test yes no, ts)
  | .ident "elif" :: ts => do
    let (no, ts) ← branch fuel site ts
    return (.branch test yes [no], ts)
  | ts => do
    let ts ← dropOne ts
    return (.branch test yes [], ts)

theorem branch_name (hn : Names n) (hd : site.depth + 1 < maxDepth) (hf : 20 ≤ fuel)
    (h : nodes fuel site branchStops ts = .ok (ns, after)) :
    branch (fuel + 1) site (.ident n :: .blockEnd :: ts) = branchRest fuel site (.var n) ns after := by
  have hexpr : expr fuel site.depth (.ident n :: .blockEnd :: ts)
      = .ok (.var n, .blockEnd :: ts) := expr_name hn (Or.inr rfl) hd hf
  rw [branchStops] at h
  simp only [branch, hexpr, expect_head, h, bind, Except.bind]
  rfl

end Node.Reader

-- ---------------------------------------------------------------------------
-- Letters
-- ---------------------------------------------------------------------------

open Node.Reader Expr.Reader

mutual

/-- The nodes of a letter behind text that is still pending. -/
def Letter.nodes (p : List Char) : Letter → List Node
  | .done => textNodes p
  | .char c rest => rest.nodes (p ++ [c])
  | .reference n rest => textNodes p ++ .print (.var n) :: rest.nodes []
  | .condition n yes no rest =>
    textNodes p ++ .branch (.var n) (yes.nodes []) no.nodes :: rest.nodes []

def Otherwise.nodes : Otherwise → List Node
  | .nothing => []
  | .always no => no.nodes []
  | .onlyIf n yes no => [.branch (.var n) (yes.nodes []) no.nodes]

end

/-- What is left to read behind the first text of a condition, from the word that ends it on. -/
def Otherwise.behind (rest : List Token) : Otherwise → List Token
  | .nothing => .ident "endif" :: .blockEnd :: rest
  | .always no => .ident "else" :: .blockEnd ::
      (no.tokens [] ++ .blockStart :: .ident "endif" :: .blockEnd :: rest)
  | .onlyIf n yes no => .ident "elif" :: .ident n :: .blockEnd ::
      (yes.tokens [] ++ (no.tokens ++ .blockEnd :: rest))

/-- What stands behind the first text of a condition ends that text. -/
theorem Otherwise.stops_tokens (o : Otherwise) (rest : List Token) :
    Stops branchStops (o.tokens ++ .blockEnd :: rest) (o.behind rest) := by
  cases o with
  | nothing => exact .word (by decide)
  | always no =>
    simp only [tokens, behind, List.cons_append, List.append_assoc, List.nil_append]
    exact .word (by decide)
  | onlyIf n yes no =>
    simp only [tokens, behind, List.cons_append, List.append_assoc]
    exact .word (by decide)

theorem stops_endif (rest : List Token) :
    Stops ["endif"] (.blockStart :: .ident "endif" :: .blockEnd :: rest)
      (.ident "endif" :: .blockEnd :: rest) := .word (by decide)

/-- Where the first text of a condition is read, the condition goes on with what is behind. -/
theorem Otherwise.branch_tokens (o : Otherwise) {n : String} (hn : Names n) {site : Site}
    (hd : site.depth + 1 < maxDepth) {fuel : Nat} (hf : 20 ≤ fuel) {ys : List Token}
    {ns : List Node} (hyes : ∀ {tail after}, Stops branchStops tail after →
      Node.Reader.nodes fuel site branchStops (ys ++ tail) = .ok (ns, after))
    (rest : List Token) :
    branch (fuel + 1) site (.ident n :: .blockEnd :: (ys ++ (o.tokens ++ .blockEnd :: rest)))
      = branchRest fuel site (.var n) ns (o.behind rest) :=
  branch_name hn hd hf (hyes (o.stops_tokens rest))

mutual

theorem Letter.nodes_tokens_append (l : Letter) (hl : l.All Names Names) {stops : List String}
    (hif : "if" ∉ stops) {site : Site} (hd : site.depth + l.nesting + 1 < maxDepth)
    {tail after : List Token} (htail : Stops stops tail after) (p : List Char) {fuel : Nat}
    (hf : (l.tokens p).length + 25 ≤ fuel) :
    Node.Reader.nodes fuel site stops (l.tokens p ++ tail) = .ok (l.nodes p, after) := by
  match l, hl with
  | .done, _ =>
    simp only [Letter.tokens, Letter.nodes] at hf ⊢
    have hend : Node.Reader.nodes (fuel - (Token.dataToken p).length) site stops tail
        = .ok ([], after) := nodes_of_stops htail (by omega)
    have hall := nodes_data p (Nat.sub_add_cancel (by omega)) hend
    rwa [List.append_nil] at hall
  | .char c l, ⟨_, hl⟩ => exact l.nodes_tokens_append hl hif hd htail (p ++ [c]) hf
  | .reference n l, ⟨hn, hl⟩ =>
    simp only [Letter.tokens, Letter.nodes, List.length_append, List.length_cons] at hf ⊢
    obtain ⟨more, rfl⟩ : ∃ more, fuel = more + 1 + (Token.dataToken p).length :=
      ⟨fuel - 1 - (Token.dataToken p).length, by omega⟩
    have hrest : Node.Reader.nodes more site stops (l.tokens [] ++ tail)
        = .ok (l.nodes [], after) := l.nodes_tokens_append hl hif hd htail [] (by omega)
    have hreference := nodes_print (stands_name hn) (by omega) (by omega) hrest
    simpa using nodes_data p rfl hreference
  | .condition n yes no l, ⟨hn, hyes, hno, hl⟩ =>
    simp only [Letter.tokens, Letter.nodes, Letter.nesting, List.length_append,
      List.length_cons] at hf hd ⊢
    obtain ⟨more, rfl⟩ : ∃ more, fuel = more + 3 + (Token.dataToken p).length :=
      ⟨fuel - 3 - (Token.dataToken p).length, by omega⟩
    have hrest : Node.Reader.nodes (more + 2) site stops (l.tokens [] ++ tail)
        = .ok (l.nodes [], after) :=
      l.nodes_tokens_append hl hif (by omega) htail [] (by omega)
    have hdeeper : site.depth + 1 + max yes.nesting no.nesting + 1 < maxDepth := by omega
    have hbody : ∀ {tail after}, Stops branchStops tail after →
        Node.Reader.nodes more { site with depth := site.depth + 1 } branchStops
          (yes.tokens [] ++ tail) = .ok (yes.nodes [], after) := by
      intro tail after hstop
      refine yes.nodes_tokens_append hyes (by decide) ?_ hstop [] (by omega)
      exact Nat.lt_of_le_of_lt (by simp only; omega) hdeeper
    have hbranch := no.branch_tokens_append hno hn
      (Nat.lt_of_le_of_lt (by simp only; omega) hdeeper) hbody (by omega) (l.tokens [] ++ tail)
    have hcondition := nodes_condition hif (by omega) hbranch hrest
    simpa using nodes_data p rfl hcondition

theorem Otherwise.branch_tokens_append (o : Otherwise) (ho : o.All Names Names) {n : String}
    (hn : Names n) {ys : List Token} {ns : List Node} {site : Site}
    (hd : site.depth + o.nesting + 1 < maxDepth) {fuel : Nat}
    (hyes : ∀ {tail after}, Stops branchStops tail after →
      Node.Reader.nodes fuel site branchStops (ys ++ tail) = .ok (ns, after))
    (hf : o.tokens.length + 25 ≤ fuel) (rest : List Token) :
    branch (fuel + 1) site (.ident n :: .blockEnd :: (ys ++ (o.tokens ++ .blockEnd :: rest)))
      = .ok (.branch (.var n) ns o.nodes, .blockEnd :: rest) := by
  match o, ho with
  | .nothing, _ => exact Otherwise.nothing.branch_tokens hn (by omega) (by omega) hyes rest
  | .always no, hno =>
    simp only [Otherwise.tokens, Otherwise.nesting, List.length_append, List.length_cons] at hf hd
    obtain ⟨more, rfl⟩ : ∃ more, fuel = more + 1 := ⟨fuel - 1, by omega⟩
    have hnodes : Node.Reader.nodes more site ["endif"] (no.tokens [] ++
        .blockStart :: .ident "endif" :: .blockEnd :: rest)
          = .ok (no.nodes [], .ident "endif" :: .blockEnd :: rest) :=
      no.nodes_tokens_append hno (by decide) hd (stops_endif rest) [] (by omega)
    rw [(Otherwise.always no).branch_tokens hn (by omega) (by omega) hyes]
    simp [Otherwise.behind, branchRest, body, expect_head, hnodes, dropOne, Otherwise.nodes, bind, Except.bind,
      pure, Except.pure]
  | .onlyIf m yes no, ⟨hm, hyes', hno⟩ =>
    simp only [Otherwise.tokens, Otherwise.nesting, List.length_append, List.length_cons] at hf hd
    obtain ⟨more, rfl⟩ : ∃ more, fuel = more + 1 := ⟨fuel - 1, by omega⟩
    have hbody : ∀ {tail after}, Stops branchStops tail after →
        Node.Reader.nodes more site branchStops (yes.tokens [] ++ tail)
          = .ok (yes.nodes [], after) :=
      fun hstop => yes.nodes_tokens_append hyes' (by decide) (by omega) hstop [] (by omega)
    have hbranch := no.branch_tokens_append hno hm (by omega) hbody (by omega) rest
    rw [(Otherwise.onlyIf m yes no).branch_tokens hn (by omega) (by omega) hyes]
    simp [Otherwise.behind, branchRest, hbranch, Otherwise.nodes, bind, Except.bind, pure, Except.pure]

end

theorem Node.blocksOf_append (ns ms : List Node) : blocksOf (ns ++ ms) = blocksOf ns ++ blocksOf ms := by
  induction ns with
  | nil => rfl
  | cons n ns ih => rw [List.cons_append, blocksOf, ih, blocksOf, List.append_assoc]

theorem Node.blocksOf_textNodes (p : List Char) : blocksOf (textNodes p) = [] := by
  unfold textNodes
  split <;> rfl

mutual

theorem Letter.blocksOf_nodes (l : Letter) (p : List Char) : Node.blocksOf (l.nodes p) = [] := by
  match l with
  | .done => exact Node.blocksOf_textNodes p
  | .char c l => exact l.blocksOf_nodes (p ++ [c])
  | .reference n l =>
    rw [Letter.nodes, Node.blocksOf_append, Node.blocksOf_textNodes, Node.blocksOf,
      l.blocksOf_nodes]
    rfl
  | .condition n yes no l =>
    rw [Letter.nodes, Node.blocksOf_append, Node.blocksOf_textNodes, Node.blocksOf,
      l.blocksOf_nodes, Node.blocks, yes.blocksOf_nodes, no.blocksOf_nodes]
    rfl

theorem Otherwise.blocksOf_nodes (o : Otherwise) : Node.blocksOf o.nodes = [] := by
  match o with
  | .nothing => rfl
  | .always no => exact no.blocksOf_nodes []
  | .onlyIf n yes no =>
    rw [Otherwise.nodes, Node.blocksOf, Node.blocks, yes.blocksOf_nodes, no.blocksOf_nodes]
    rfl

end

/-- The tokens of a letter are read as its nodes. -/
theorem Letter.read_tokens (l : Letter) (hl : l.All Names Names)
    (hd : l.nesting + 1 < maxDepth) : Node.read (l.tokens []) = .ok (l.nodes []) := by
  have hdepth : ({ } : Site).depth + l.nesting + 1 < maxDepth := by simpa using hd
  have hnodes : Node.Reader.nodes (24 * ((l.tokens []).length + 2)) { } [] (l.tokens [] ++ [])
      = .ok (l.nodes [], []) :=
    l.nodes_tokens_append hl List.not_mem_nil hdepth .atEnd [] (by omega)
  rw [List.append_nil] at hnodes
  simp [Node.read, hnodes, l.blocksOf_nodes, bind, Except.bind, pure, Except.pure]

end MailMerge
