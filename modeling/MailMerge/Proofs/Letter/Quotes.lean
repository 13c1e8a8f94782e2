import MailMerge.Proofs.Letter.Rendering
import MailMerge.Proofs.Traversal

/-!
# Markup that starts with a quote

Behind a quote stands a string, or nothing that can be read. A string that goes up to the end of
the markup is a constant; whatever else an expression is that starts with a string, it is not a
name.
-/

namespace MailMerge

namespace Token

variable {m : Markup} {q : Char} {body cs rest : List Char} {ts : List Token}

-- ---------------------------------------------------------------------------
-- The end of a string
-- ---------------------------------------------------------------------------

/-- The quotes a string may stand between. -/
def quotes : List Char := ['\'', '"']

/-- What may stand between two quotes of a kind: a backslash takes along the character behind
it, and no quote of the kind is left. -/
inductive Spells (q : Char) : List Char → Prop where
  | nil : Spells q []
  | escaped (c : Char) {cs : List Char} (h : Spells q cs) : Spells q ('\\' :: c :: cs)
  | plain {c : Char} {cs : List Char} (hq : c ≠ q) (hc : c ≠ '\\') (h : Spells q cs) :
    Spells q (c :: cs)

theorem spanString_of_ne {c : Char} (hc : c ≠ '\\') (cs : List Char) :
    spanString q (c :: cs) = if c == q then some ([], cs)
      else (spanString q cs).map fun r => (c :: r.1, r.2) := by
  rw [spanString]
  · have hslash : (c == '\\') = false := beq_eq_false_iff_ne.mpr hc
    simp only [hslash, Bool.false_eq_true, if_false]
  · exact fun _ _ heq => absurd heq hc

theorem spanString_of_spells (hq : q ≠ '\\') (h : Spells q body) (rest : List Char) :
    spanString q (body ++ q :: rest) = some (body, rest) := by
  induction h with
  | nil => simp [spanString_of_ne hq]
  | escaped c _ ih => simp [spanString, ih]
  | plain hne hc _ ih => simp [spanString_of_ne hc, hne, ih]

theorem spells_of_spanString (h : spanString q cs = some (body, rest)) :
    Spells q body ∧ cs = body ++ q :: rest := by
  fun_induction spanString q cs generalizing body with
  | case1 => cases h
  | case2 c cs ih =>
    obtain ⟨⟨more, rest'⟩, hmore, heq⟩ := Option.map_eq_some_iff.mp h
    cases heq
    obtain ⟨hspells, rfl⟩ := ih hmore
    exact ⟨.escaped c hspells, rfl⟩
  | case3 c cs hescape heq =>
    cases h
    rw [beq_iff_eq.mp heq]
    exact ⟨.nil, rfl⟩
  | case4 => cases h
  | case5 c cs hescape hne hslash ih =>
    obtain ⟨⟨more, rest'⟩, hmore, heq⟩ := Option.map_eq_some_iff.mp h
    cases heq
    obtain ⟨hspells, rfl⟩ := ih hmore
    exact ⟨.plain (by simpa using hne) (by simpa using hslash) hspells, rfl⟩

theorem quote_ne_backslash (hq : q ∈ quotes) : q ≠ '\\' := by
  rintro rfl
  exact absurd hq (by decide)

/-- A string ends at the first quote of its kind that no backslash takes along. -/
theorem spanString_eq_some_iff (hq : q ∈ quotes) :
    spanString q cs = some (body, rest) ↔ Spells q body ∧ cs = body ++ q :: rest := by
  constructor
  · exact spells_of_spanString
  · rintro ⟨h, rfl⟩
    exact spanString_of_spells (quote_ne_backslash hq) h rest

-- ---------------------------------------------------------------------------
-- Tokens
-- ---------------------------------------------------------------------------

theorem inside_quote (hq : q ∈ quotes) (cs : List Char) :
    inside (q :: cs) = match spanString q cs with
      | none => (.bad .malformed, [])
      | some (spelled, rest) =>
        match unescape? spelled with
        | none => (.bad .failed, [])
        | some text => (.str (String.ofList text), rest) := by
  simp only [quotes, List.mem_cons, List.not_mem_nil, or_false] at hq
  rcases hq with rfl | rfl
  · rfl
  · rfl

theorem blank_quote (hq : q ∈ quotes) (cs : List Char) :
    (' ' :: q :: cs).dropWhile isSpace = q :: cs ∧ close? m (q :: cs) = none := by
  simp only [quotes, List.mem_cons, List.not_mem_nil, or_false] at hq
  rcases hq with rfl | rfl
  · exact ⟨dropWhile_isSpace_blank (by decide) cs, by cases m <;> rfl⟩
  · exact ⟨dropWhile_isSpace_blank (by decide) cs, by cases m <;> rfl⟩

theorem lexesInside_string (hq : q ∈ quotes) (hbody : Spells q body) {text : List Char}
    (htext : unescape? body = some text) (h : LexesInside m (' ' :: cs) ts) :
    LexesInside m (' ' :: q :: (body ++ q :: ' ' :: cs)) (.str (String.ofList text) :: ts) := by
  intro fuel hfuel
  cases fuel with
  | zero => exact absurd hfuel (Nat.not_lt_zero _)
  | succ fuel =>
    have hrest : (' ' :: cs).length < fuel := by
      simp only [List.length_cons, List.length_append] at hfuel ⊢
      omega
    obtain ⟨hdrop, hclose⟩ := blank_quote (m := m) hq (body ++ q :: ' ' :: cs)
    have hspan := (spanString_eq_some_iff hq).mpr ⟨hbody, Eq.refl (body ++ q :: ' ' :: cs)⟩
    simp only [tokensFrom, hdrop, hclose, inside_quote hq, hspan, htext]
    simp [h fuel hrest]

/-- A token that stands at a quote: a string, or a place where nothing can be read. -/
inductive AtQuote : Token → Prop where
  | str (s : String) : AtQuote (.str s)
  | bad (e : RenderError) : AtQuote (.bad e)

theorem atQuote_of_tokensFrom (hq : q ∈ quotes) (fuel : Nat) (cs : List Char) :
    ∃ t ts, tokensFrom (fuel + 1) (.markup m 0) (' ' :: q :: cs) = t :: ts ∧ AtQuote t := by
  obtain ⟨hdrop, hclose⟩ := blank_quote (m := m) hq cs
  simp only [tokensFrom, hdrop, hclose, inside_quote hq]
  cases spanString q cs with
  | none => exact ⟨_, _, rfl, .bad _⟩
  | some r =>
    cases hr : unescape? r.1 with
    | none =>
      simp only [hr]
      exact ⟨_, _, rfl, .bad _⟩
    | some text =>
      simp only [hr]
      exact ⟨_, _, rfl, .str _⟩

end Token

-- ---------------------------------------------------------------------------
-- Expressions that are no names
-- ---------------------------------------------------------------------------

/-- An expression that is more than a name, or none. -/
def Expr.Unnamed (e : Expr) : Prop := ∀ n, e ≠ .var n

theorem Expr.Unnamed.callOf {e : Expr} (he : e.Unnamed) (args : List Expr) :
    (callOf e args).Unnamed := by
  intro n
  unfold Expr.callOf
  split
  · next name => exact absurd rfl (he name)
  · split <;> exact Expr.noConfusion
  · exact Expr.noConfusion
  · exact Expr.noConfusion

theorem Expr.Unnamed.compareOf {e : Expr} (he : e.Unnamed) (others : List (CompareOp × Expr)) :
    (Reader.compareOf e others).Unnamed := by
  unfold Reader.compareOf
  split
  · exact he
  · exact fun _ => Expr.noConfusion

namespace Expr.Reader

open Token

variable {α : Type} {e : Expr} {t : Token} {ts : List Token}

/-- No name comes of reading. -/
def ReadsNoName (read : Except RenderError (Expr × List Token)) : Prop :=
  ∀ e ts, read = .ok (e, ts) → e.Unnamed

theorem readsNoName_error (error : RenderError) : ReadsNoName (.error error) :=
  fun _ _ h => nomatch h

theorem readsNoName_refuse (ts : List Token) : ReadsNoName (refuse ts) := by
  unfold refuse
  split <;> exact readsNoName_error _

theorem readsNoName_ok (he : e.Unnamed) (ts : List Token) : ReadsNoName (.ok (e, ts)) := by
  intro e' ts' h
  cases h
  exact he

theorem readsNoName_bind {read : Except RenderError α}
    {next : α → Except RenderError (Expr × List Token)} (h : ∀ a, ReadsNoName (next a)) :
    ReadsNoName (read >>= next) := by
  intro e ts heq
  obtain ⟨a, -, ha⟩ := exists_of_bind_eq_ok heq
  exact h a e ts ha

theorem ReadsNoName.bind {read : Except RenderError (Expr × List Token)}
    {next : Expr × List Token → Except RenderError (Expr × List Token)} (h : ReadsNoName read)
    (hnext : ∀ e ts, e.Unnamed → ReadsNoName (next (e, ts))) : ReadsNoName (read >>= next) := by
  intro e ts heq
  obtain ⟨⟨e', ts'⟩, hread, hrest⟩ := exists_of_bind_eq_ok heq
  exact hnext e' ts' (h e' ts' hread) e ts hrest

-- Behind an expression that is no name, by induction on the fuel.

theorem parts_readsNoName (fuel : Nat) :
    (∀ depth e ts, e.Unnamed → ReadsNoName (parts fuel depth e ts)) ∧
      ∀ depth e start ts, ReadsNoName (sliceFrom fuel depth e start ts) := by
  induction fuel with
  | zero =>
    constructor
    · intro depth e ts _
      rw [parts]
      exact readsNoName_refuse ts
    · intro depth e start ts
      rw [sliceFrom]
      exact readsNoName_refuse ts
  | succ fuel ih =>
    obtain ⟨ihParts, ihSlice⟩ := ih
    constructor
    · intro depth e ts he
      unfold parts
      split
      · exact ihParts _ _ _ fun _ => Expr.noConfusion
      · exact ihParts _ _ _ fun _ => Expr.noConfusion
      · exact readsNoName_refuse _
      · exact readsNoName_bind fun args => ihParts _ _ _ (he.callOf args.1)
      · exact ihSlice _ _ _ _
      · refine readsNoName_bind fun key => ?_
        dsimp only
        split
        · exact ihSlice _ _ _ _
        · exact readsNoName_bind fun _ => ihParts _ _ _ fun _ => Expr.noConfusion
      · exact readsNoName_ok he _
    · intro depth e start ts
      unfold sliceFrom
      refine readsNoName_bind fun stop => ?_
      dsimp only
      split
      · refine readsNoName_bind fun step => readsNoName_bind fun _ => ?_
        exact ihParts _ _ _ fun _ => Expr.noConfusion
      · exact readsNoName_bind fun _ => ihParts _ _ _ fun _ => Expr.noConfusion

theorem filters_readsNoName (fuel : Nat) {depth : Nat} (he : e.Unnamed) :
    ReadsNoName (filters fuel depth e ts) := by
  induction fuel generalizing e ts with
  | zero =>
    rw [filters]
    exact readsNoName_refuse ts
  | succ fuel ih =>
    unfold filters
    split
    · exact readsNoName_bind fun _ => ih fun _ => Expr.noConfusion
    · exact ih fun _ => Expr.noConfusion
    · exact readsNoName_refuse _
    · exact readsNoName_bind fun _ => ih fun _ => Expr.noConfusion
    · split
      · exact readsNoName_refuse _
      · exact readsNoName_bind fun _ => ih fun _ => Expr.noConfusion
    · exact readsNoName_refuse _
    · exact readsNoName_ok he _

theorem unnamed_of_infix? {l : Level} {f : Expr → Expr → Expr} {rest : List Token}
    (h : infix? l ts = some (f, rest)) (a b : Expr) : (f a b).Unnamed := by
  unfold infix? at h
  split at h <;> cases h <;> exact fun _ => Expr.noConfusion

theorem binaryRest_readsNoName (fuel : Nat) {depth : Nat} {l : Level} (he : e.Unnamed) :
    ReadsNoName (binaryRest fuel depth l e ts) := by
  induction fuel generalizing e ts with
  | zero =>
    rw [binaryRest]
    exact readsNoName_refuse ts
  | succ fuel ih =>
    rw [binaryRest]
    split
    · next hinfix => exact readsNoName_bind fun right => ih (unnamed_of_infix? hinfix _ _)
    · exact readsNoName_ok he _

theorem choice_readsNoName (fuel : Nat) {depth : Nat} (he : e.Unnamed) :
    ReadsNoName (choice fuel depth e ts) := by
  induction fuel generalizing e ts with
  | zero =>
    rw [choice]
    exact readsNoName_refuse ts
  | succ fuel ih =>
    unfold choice
    split
    · refine readsNoName_bind fun condition => ?_
      dsimp only
      split
      · refine readsNoName_bind fun first => readsNoName_bind fun no => ?_
        exact ih fun _ => Expr.noConfusion
      · exact ih fun _ => Expr.noConfusion
    · exact readsNoName_ok he _

-- From a quote on, by the levels at which operators bind.

theorem primary_readsNoName (ht : AtQuote t) (fuel depth : Nat) (ts : List Token) :
    ReadsNoName (primary fuel depth (t :: ts)) := by
  cases fuel with
  | zero =>
    rw [primary]
    exact readsNoName_refuse _
  | succ fuel =>
    rw [primary]
    split
    · exact readsNoName_error _
    · cases ht with
      | str s => exact readsNoName_ok (fun _ => Expr.noConfusion) _
      | bad e => exact readsNoName_refuse _

theorem unary_readsNoName (ht : AtQuote t) (fuel depth : Nat) (ts : List Token) :
    ReadsNoName (unary fuel depth (t :: ts)) := by
  have hnegation : ∀ fuel, ReadsNoName (negation fuel depth (t :: ts)) := by
    intro fuel
    cases fuel with
    | zero =>
      rw [negation]
      exact readsNoName_refuse _
    | succ fuel =>
      rw [negation]
      · exact primary_readsNoName ht fuel depth ts
      · intro _ heq
        cases ht <;> cases heq
  cases fuel with
  | zero =>
    rw [unary]
    exact readsNoName_refuse _
  | succ fuel =>
    rw [unary]
    refine (hnegation fuel).bind fun e ts he => ?_
    refine ((parts_readsNoName fuel).1 depth e ts he).bind fun e ts he => ?_
    exact filters_readsNoName fuel he

theorem binary_readsNoName (ht : AtQuote t) (depth : Nat) (ts : List Token) (fuel : Nat) :
    ∀ l, ReadsNoName (binary fuel depth l (t :: ts)) ∧
      ReadsNoName (operand fuel depth l (t :: ts)) := by
  induction fuel with
  | zero =>
    intro l
    rw [binary, operand]
    exact ⟨readsNoName_refuse _, readsNoName_refuse _⟩
  | succ fuel ih =>
    intro l
    constructor
    · rw [binary]
      · refine (ih l).2.bind fun e ts he => ?_
        dsimp only
        split
        · exact readsNoName_ok he _
        · split
          · exact readsNoName_bind fun others => readsNoName_ok (he.compareOf others.1) _
          · exact binaryRest_readsNoName fuel he
      · intro _ _ heq
        cases ht <;> cases heq
    · rw [operand]
      split
      · next next _ => exact (ih next).1
      · exact unary_readsNoName ht fuel depth ts

/-- An expression that starts at a quote is no name. -/
theorem expr_readsNoName (ht : AtQuote t) (fuel depth : Nat) (ts : List Token) :
    ReadsNoName (expr fuel depth (t :: ts)) := by
  cases fuel with
  | zero =>
    rw [expr]
    exact readsNoName_refuse _
  | succ fuel =>
    rw [expr]
    split
    · exact readsNoName_error _
    · refine (binary_readsNoName ht _ ts fuel .or).1.bind fun e ts he => ?_
      exact choice_readsNoName fuel he

theorem stands_str (s : String) : Stands (.str s) (.const (Datum.ofText s)) where
  unsigned := Token.noConfusion
  unnegated := Token.noConfusion
  read := by
    intro t rest depth ht hd fuel
    have hjoin : joinStrings (t :: rest) = ("", t :: rest) := by
      rcases ht with rfl | rfl <;> rfl
    simp only [primary, Nat.not_le.mpr hd, if_false, hjoin, String.append_empty]

end Expr.Reader

end MailMerge
