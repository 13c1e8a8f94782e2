import MailMerge.Proofs.Letter.Reading

/-!
# Letters that nest too deep

A letter whose conditions nest deeper than the reader allows is refused as malformed, and
nothing else is wrong with it: the bound on the nesting of a readable letter is exact.
-/

namespace MailMerge

namespace Expr.Reader

variable {n : String} {ts rest : List Token} {e : RenderError}

theorem binary_error_of_operand {depth fuel : Nat} {l : Level}
    (hts : l = .not → ts.head? ≠ some (.ident "not"))
    (h : operand (fuel + 1) depth l ts = .error e) : binary (fuel + 2) depth l ts = .error e := by
  rw [binary]
  · simp only [h, bind, Except.bind]
  · intro _ hl heq
    exact hts hl (by rw [heq]; rfl)

theorem binary_error_of_next {depth fuel : Nat} {l next : Level}
    (hts : l = .not → ts.head? ≠ some (.ident "not")) (hl : l.next? = some next)
    (h : binary fuel depth next ts = .error e) : binary (fuel + 2) depth l ts = .error e := by
  refine binary_error_of_operand hts ?_
  rw [operand, hl]
  exact h

/-- Where no operand is read, nothing up to a negation is. -/
theorem binary_not_error (hts : ts.head? ≠ some (.ident "not")) {depth fuel : Nat}
    (h : unary (fuel + 3) depth ts = .error e) : binary (fuel + 15) depth .not ts = .error e := by
  have hoperand : operand (fuel + 4) depth .power ts = .error e := by
    rw [operand]
    exact h
  have hpower := binary_error_of_operand (fun _ => hts) hoperand
  have hproduct := binary_error_of_next (l := .product) (fun _ => hts) rfl hpower
  have hconcat := binary_error_of_next (l := .concat) (fun _ => hts) rfl hproduct
  have hsum := binary_error_of_next (l := .sum) (fun _ => hts) rfl hconcat
  have hcompare := binary_error_of_next (l := .compare) (fun _ => hts) rfl hsum
  exact binary_error_of_next (l := .not) (fun _ => hts) rfl hcompare

/-- Where no negation is read, no expression is. -/
theorem expr_error_of_binary_not {depth fuel : Nat} (hd : depth < maxDepth)
    (h : binary fuel (depth + 1) .not ts = .error e) : expr (fuel + 5) depth ts = .error e := by
  have hand := binary_error_of_next (l := .and) (fun heq => nomatch heq) rfl h
  have hor := binary_error_of_next (l := .or) (fun heq => nomatch heq) rfl hand
  rw [expr, if_neg (Nat.not_le.mpr hd)]
  simp only [hor, bind, Except.bind]

theorem unary_error (n : String) (rest : List Token) {depth : Nat} (hd : maxDepth ≤ depth)
    (fuel : Nat) : unary (fuel + 3) depth (.ident n :: rest) = .error .malformed := by
  have hprimary : primary (fuel + 1) depth (.ident n :: rest) = .error .malformed := by
    rw [primary, if_pos hd]
  simp [unary, negation, hprimary, bind, Except.bind]

/-- Where no expression may stand any more, not even a name is read. -/
theorem expr_error (hn : Names n) {depth : Nat} (hd : maxDepth ≤ depth + 1) {fuel : Nat}
    (hf : 20 ≤ fuel) : expr fuel depth (.ident n :: rest) = .error .malformed := by
  obtain ⟨more, rfl⟩ := Nat.exists_eq_add_of_le' hf
  by_cases hdepth : maxDepth ≤ depth
  · rw [expr, if_pos hdepth]
  · have hhead : (Token.ident n :: rest).head? ≠ some (.ident "not") := fun heq =>
      hn.2 (Token.ident.inj (Option.some.inj heq))
    exact expr_error_of_binary_not (Nat.not_le.mp hdepth)
      (binary_not_error hhead (unary_error n rest hd more))

end Expr.Reader

namespace Node.Reader

open Expr.Reader

variable {fuel : Nat} {site : Site} {stops : List String} {n : String} {ts : List Token}
  {e : RenderError}

theorem nodes_data_error (p : List Char) {total : Nat}
    (htotal : fuel + (Token.dataToken p).length = total)
    (h : nodes fuel site stops ts = .error e) :
    nodes total site stops (Token.dataToken p ++ ts) = .error e := by
  subst htotal
  unfold Token.dataToken
  split
  · exact h
  · simp [nodes, h, bind, Except.bind]

theorem nodes_print_error {u : Token} {x : Expr} (hu : Stands u x)
    (hd : site.depth + 1 < maxDepth) (hf : 20 ≤ fuel)
    (h : nodes fuel site stops ts = .error e) :
    nodes (fuel + 1) site stops (.variableStart :: u :: .variableEnd :: ts) = .error e := by
  have hexpr : expr fuel site.depth (u :: .variableEnd :: ts) = .ok (x, .variableEnd :: ts) :=
    hu.expr (Or.inl rfl) hd hf
  simp [nodes, hexpr, expect_head, h, bind, Except.bind]

theorem nodes_condition_error {inside : List Token} (hif : "if" ∉ stops)
    (hd : site.depth < maxDepth)
    (hbranch : branch fuel { site with depth := site.depth + 1 } inside = .error e) :
    nodes (fuel + 2) site stops (.blockStart :: .ident "if" :: inside) = .error e := by
  have hdepth : ¬ maxDepth ≤ site.depth := Nat.not_le.mpr hd
  rw [nodes]
  simp [hif, hdepth, statement, hbranch, bind, Except.bind]

theorem nodes_behind_condition_error {node : Node} {inside rest : List Token} (hif : "if" ∉ stops)
    (hd : site.depth < maxDepth)
    (hbranch : branch fuel { site with depth := site.depth + 1 } inside
      = .ok (node, .blockEnd :: rest))
    (h : nodes (fuel + 1) site stops rest = .error e) :
    nodes (fuel + 2) site stops (.blockStart :: .ident "if" :: inside) = .error e := by
  have hdepth : ¬ maxDepth ≤ site.depth := Nat.not_le.mpr hd
  rw [nodes]
  simp [hif, hdepth, statement, hbranch, expect_head, h, bind, Except.bind]

theorem branch_name_error (hn : Names n) (hd : maxDepth ≤ site.depth + 1) (hf : 20 ≤ fuel)
    (ts : List Token) :
    branch (fuel + 1) site (.ident n :: .blockEnd :: ts) = .error .malformed := by
  have hexpr : expr fuel site.depth (.ident n :: .blockEnd :: ts) = .error .malformed :=
    expr_error hn hd hf
  simp only [branch, hexpr, bind, Except.bind]

theorem branch_text_error (hn : Names n) (hd : site.depth + 1 < maxDepth) (hf : 20 ≤ fuel)
    (h : nodes fuel site branchStops ts = .error e) :
    branch (fuel + 1) site (.ident n :: .blockEnd :: ts) = .error e := by
  have hexpr : expr fuel site.depth (.ident n :: .blockEnd :: ts)
      = .ok (.var n, .blockEnd :: ts) := expr_name hn (Or.inr rfl) hd hf
  rw [branchStops] at h
  simp only [branch, hexpr, expect_head, h, bind, Except.bind]

end Node.Reader

-- ---------------------------------------------------------------------------
-- Letters
-- ---------------------------------------------------------------------------

open Node.Reader Expr.Reader

mutual

theorem Letter.nodes_tokens_error (l : Letter) (hl : l.All Names Names) {stops : List String}
    (hif : "if" ∉ stops) {site : Site} (hs : site.depth + 1 < maxDepth)
    (hd : maxDepth ≤ site.depth + l.nesting + 1) {tail after : List Token}
    (htail : Stops stops tail after) (p : List Char) {fuel : Nat}
    (hf : (l.tokens p).length + 25 ≤ fuel) :
    Node.Reader.nodes fuel site stops (l.tokens p ++ tail) = .error .malformed := by
  match l, hl with
  | .done, _ => exact absurd (Nat.le_trans hd (Nat.le_refl _)) (Nat.not_le.mpr hs)
  | .char c l, ⟨_, hl⟩ => exact l.nodes_tokens_error hl hif hs hd htail (p ++ [c]) hf
  | .reference n l, ⟨hn, hl⟩ =>
    simp only [Letter.tokens, List.length_append, List.length_cons] at hf ⊢
    obtain ⟨more, rfl⟩ : ∃ more, fuel = more + 1 + (Token.dataToken p).length :=
      ⟨fuel - 1 - (Token.dataToken p).length, by omega⟩
    have hrest : Node.Reader.nodes more site stops (l.tokens [] ++ tail) = .error .malformed :=
      l.nodes_tokens_error hl hif hs hd htail [] (by omega)
    have hreference := nodes_print_error (stands_name hn) hs (by omega) hrest
    simpa using nodes_data_error p rfl hreference
  | .condition n yes no l, ⟨hn, hyes, hno, hl⟩ =>
    simp only [Letter.tokens, Letter.nesting, List.length_append, List.length_cons] at hf hd ⊢
    obtain ⟨more, rfl⟩ : ∃ more, fuel = more + 3 + (Token.dataToken p).length :=
      ⟨fuel - 3 - (Token.dataToken p).length, by omega⟩
    have hhere : site.depth < maxDepth := by omega
    have hcondition : Node.Reader.nodes (more + 3) site stops
        (.blockStart :: .ident "if" :: .ident n :: .blockEnd ::
          (yes.tokens [] ++ (no.tokens ++ .blockEnd :: (l.tokens [] ++ tail))))
            = .error .malformed := by
      by_cases hname : maxDepth ≤ site.depth + 1 + 1
      · exact nodes_condition_error hif hhere (branch_name_error hn hname (by omega) _)
      · have hdeeper : site.depth + 1 + 1 < maxDepth := Nat.not_le.mp hname
        by_cases hyesDeep : maxDepth ≤ site.depth + 1 + yes.nesting + 1
        · have hbody : Node.Reader.nodes more { site with depth := site.depth + 1 } branchStops
              (yes.tokens [] ++ (no.tokens ++ .blockEnd :: (l.tokens [] ++ tail)))
                = .error .malformed :=
            yes.nodes_tokens_error hyes (by decide) hdeeper hyesDeep (no.stops_tokens _) []
              (by omega)
          exact nodes_condition_error hif hhere
            (branch_text_error hn hdeeper (by omega) hbody)
        · have hbody : ∀ {tail after}, Stops branchStops tail after →
              Node.Reader.nodes more { site with depth := site.depth + 1 } branchStops
                (yes.tokens [] ++ tail) = .ok (yes.nodes [], after) :=
            fun hstop => yes.nodes_tokens_append hyes (by decide) (Nat.not_le.mp hyesDeep) hstop []
              (by omega)
          by_cases hnoDeep : maxDepth ≤ site.depth + 1 + no.nesting + 1
          · exact nodes_condition_error hif hhere
              (no.branch_tokens_error hno hn hdeeper hnoDeep hbody (by omega) _)
          · have hrest : Node.Reader.nodes (more + 2) site stops (l.tokens [] ++ tail)
                = .error .malformed :=
              l.nodes_tokens_error hl hif hs (by omega) htail [] (by omega)
            exact nodes_behind_condition_error hif hhere
              (no.branch_tokens_append hno hn (Nat.not_le.mp hnoDeep) hbody (by omega) _) hrest
    simpa using nodes_data_error p rfl hcondition

theorem Otherwise.branch_tokens_error (o : Otherwise) (ho : o.All Names Names) {n : String}
    (hn : Names n) {ys : List Token} {ns : List Node} {site : Site}
    (hs : site.depth + 1 < maxDepth) (hd : maxDepth ≤ site.depth + o.nesting + 1) {fuel : Nat}
    (hyes : ∀ {tail after}, Stops branchStops tail after →
      Node.Reader.nodes fuel site branchStops (ys ++ tail) = .ok (ns, after))
    (hf : o.tokens.length + 25 ≤ fuel) (rest : List Token) :
    branch (fuel + 1) site (.ident n :: .blockEnd :: (ys ++ (o.tokens ++ .blockEnd :: rest)))
      = .error .malformed := by
  match o, ho with
  | .nothing, _ => exact absurd (Nat.le_trans hd (Nat.le_refl _)) (Nat.not_le.mpr hs)
  | .always no, hno =>
    simp only [Otherwise.tokens, Otherwise.nesting, List.length_append, List.length_cons] at hf hd
    obtain ⟨more, rfl⟩ : ∃ more, fuel = more + 1 := ⟨fuel - 1, by omega⟩
    have hnodes : Node.Reader.nodes more site ["endif"] (no.tokens [] ++
        .blockStart :: .ident "endif" :: .blockEnd :: rest) = .error .malformed :=
      no.nodes_tokens_error hno (by decide) hs hd (stops_endif rest) [] (by omega)
    rw [(Otherwise.always no).branch_tokens hn hs (by omega) hyes]
    simp [Otherwise.behind, branchRest, body, expect_head, hnodes, bind, Except.bind]
  | .onlyIf m yes no, ⟨hm, hyes', hno⟩ =>
    simp only [Otherwise.tokens, Otherwise.nesting, List.length_append, List.length_cons] at hf hd
    obtain ⟨more, rfl⟩ : ∃ more, fuel = more + 1 := ⟨fuel - 1, by omega⟩
    have hbranch : branch (more + 1) site (.ident m :: .blockEnd :: (yes.tokens [] ++
        (no.tokens ++ .blockEnd :: rest))) = .error .malformed := by
      by_cases hyesDeep : maxDepth ≤ site.depth + yes.nesting + 1
      · exact branch_text_error hm hs (by omega)
          (yes.nodes_tokens_error hyes' (by decide) hs hyesDeep (no.stops_tokens rest) []
            (by omega))
      · have hbody : ∀ {tail after}, Stops branchStops tail after →
            Node.Reader.nodes more site branchStops (yes.tokens [] ++ tail)
              = .ok (yes.nodes [], after) :=
          fun hstop => yes.nodes_tokens_append hyes' (by decide) (Nat.not_le.mp hyesDeep) hstop []
            (by omega)
        exact no.branch_tokens_error hno hm hs (by omega) hbody (by omega) rest
    rw [(Otherwise.onlyIf m yes no).branch_tokens hn hs (by omega) hyes]
    simp [Otherwise.behind, branchRest, hbranch, bind, Except.bind]

end

/-- The bound on the nesting of a letter that can be read is exact. -/
theorem Letter.read_tokens_error (l : Letter) (hl : l.All Names Names)
    (hd : maxDepth ≤ l.nesting + 1) : Node.read (l.tokens []) = .error .malformed := by
  have hdepth : maxDepth ≤ ({ } : Site).depth + l.nesting + 1 := by simpa using hd
  have hnodes : Node.Reader.nodes (24 * ((l.tokens []).length + 2)) { } [] (l.tokens [] ++ [])
      = .error .malformed :=
    l.nodes_tokens_error hl List.not_mem_nil (by decide) hdepth .atEnd [] (by omega)
  rw [List.append_nil] at hnodes
  simp [Node.read, hnodes, bind, Except.bind]

end MailMerge
