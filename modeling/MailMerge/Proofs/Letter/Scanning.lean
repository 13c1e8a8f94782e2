import MailMerge.Proofs.Letter.Basic
import Mathlib.Data.List.TakeDrop
import Mathlib.Data.List.TakeWhile

/-!
# Finding the references of a letter

Looking for references of one kind in the source of a letter finds exactly those of its
tree, whatever stands next to them; every other character is a piece of its own.
-/

namespace MailMerge

namespace Reference

variable {m : Markup}

-- ---------------------------------------------------------------------------
-- Pieces one by one
-- ---------------------------------------------------------------------------

theorem piecesFrom_eq_pieces_drop (m : Markup) (k : Nat) (cs : List Char) :
    piecesFrom m k cs = pieces m (cs.drop k) := by
  induction k generalizing cs with
  | zero => rfl
  | succ k ih =>
    cases cs with
    | nil => rfl
    | cons c cs => exact ih cs

theorem pieces_nil (m : Markup) : pieces m [] = [] := rfl

theorem pieces_cons_of_no_site {c : Char} {cs : List Char} (h : m.site? (c :: cs) = none) :
    pieces m (c :: cs) = .char c :: pieces m cs := by
  rw [pieces, piecesFrom, h]
  rfl

theorem pieces_cons_of_ne_brace {c : Char} (cs : List Char) (h : c ≠ '{') :
    pieces m (c :: cs) = .char c :: pieces m cs := by
  have hopen : m.open? (c :: cs) = none := by
    cases m <;> simp [Markup.open?, h]
  exact pieces_cons_of_no_site (by rw [Markup.site?, hopen])

theorem pieces_append_of_no_brace {cs : List Char} (rest : List Char) (h : '{' ∉ cs) :
    pieces m (cs ++ rest) = cs.map .char ++ pieces m rest := by
  induction cs with
  | nil => rfl
  | cons c cs ih =>
    have hc : c ≠ '{' := fun heq => h (heq ▸ List.mem_cons_self)
    have hcs : '{' ∉ cs := fun hmem => h (List.mem_cons_of_mem _ hmem)
    rw [List.cons_append, pieces_cons_of_ne_brace _ hc, ih hcs]
    rfl

/-- The delimiter in front of a reference. -/
def Markup.opening : Markup → List Char
  | .variable => ['{', '{']
  | .condition => ['{', '%']

theorem open?_eq_none {c : Char} {cs : List Char} (h : ¬ m.opening <+: c :: cs) :
    m.open? (c :: cs) = none := by
  rw [Markup.open?]
  · rintro rest rfl hcs
    exact h ⟨rest, hcs.symm⟩
  · rintro rest rfl hcs
    exact h ⟨rest, hcs.symm⟩

theorem pieces_append_of_no_opening {cs : List Char} (rest : List Char)
    (h : ¬ m.opening <:+: cs) :
    pieces m (cs ++ ' ' :: rest) = cs.map .char ++ pieces m (' ' :: rest) := by
  induction cs with
  | nil => rfl
  | cons c cs ih =>
    have hcs : ¬ m.opening <:+: cs := fun hin => h (List.infix_cons_iff.mpr (.inr hin))
    have hopen : ¬ m.opening <+: c :: (cs ++ ' ' :: rest) := by
      intro hpre
      refine h (List.infix_cons_iff.mpr (.inl ?_))
      cases cs with
      | nil => cases m <;> simp [Markup.opening] at hpre
      | cons d cs => cases m <;> simpa [Markup.opening] using hpre
    have hsite : m.site? (c :: (cs ++ ' ' :: rest)) = none := by
      rw [Markup.site?, open?_eq_none hopen]
    rw [List.cons_append, pieces_cons_of_no_site hsite, ih hcs]
    rfl

theorem pieces_append_of_site {before name after rest : List Char} (hne : before ≠ [])
    (h : m.site? (before ++ (name ++ (after ++ rest))) = some (before, name, after)) :
    pieces m (before ++ (name ++ (after ++ rest))) = .site before name after :: pieces m rest := by
  obtain ⟨c, more, rfl⟩ := List.exists_cons_of_ne_nil hne
  have hdrop : (more ++ (name ++ (after ++ rest))).drop
      ((c :: more).length + name.length + after.length - 1) = rest := by
    have hlen : (c :: more).length + name.length + after.length - 1
        = (more ++ (name ++ after)).length := by
      simp only [List.length_cons, List.length_append]
      omega
    have hsplit : more ++ (name ++ (after ++ rest)) = more ++ (name ++ after) ++ rest := by
      simp only [List.append_assoc]
    rw [hlen, hsplit, List.drop_left]
  rw [List.cons_append] at h ⊢
  rw [pieces, piecesFrom, h]
  simp only
  rw [piecesFrom_eq_pieces_drop, hdrop]

-- ---------------------------------------------------------------------------
-- Where a name ends
-- ---------------------------------------------------------------------------

namespace Markup

/-- The delimiter behind a reference. -/
def closing : Markup → List Char
  | .variable => ['}', '}']
  | .condition => ['%', '}']

end Markup

theorem spanBlank_eq (cs : List Char) :
    spanBlank cs = (cs.takeWhile isBlank, cs.dropWhile isBlank) :=
  List.span_eq_takeWhile_dropWhile isBlank cs

theorem spanBlank_blank_append {name : List Char} (rest : List Char)
    (hfirst : ∀ c ∈ name.head?, isBlank c = false) (hne : name ≠ []) :
    spanBlank (' ' :: (name ++ rest)) = ([' '], name ++ rest) := by
  obtain ⟨c, more, rfl⟩ := List.exists_cons_of_ne_nil hne
  have hc : isBlank c = false := hfirst c rfl
  have hblank : isBlank ' ' = true := rfl
  simp [spanBlank_eq, List.takeWhile, List.dropWhile, hblank, hc]

theorem close?_blank_closing (m : Markup) (rest : List Char) :
    m.close? (' ' :: (m.closing ++ rest)) = some (' ' :: m.closing, rest) := by
  have hblank : isBlank ' ' = true := rfl
  have hbrace : isBlank '}' = false := rfl
  have hpercent : isBlank '%' = false := rfl
  cases m <;>
    simp [Markup.close?, Markup.closing, spanBlank_eq, List.takeWhile, List.dropWhile, hblank,
      hbrace, hpercent]

/-- No delimiter stands where more of a name does. -/
theorem close?_append_of_name {cs : List Char} (rest : List Char) (hne : cs ≠ [])
    (hinner : ∀ c ∈ cs, c ∉ Name.separators) (hlast : ∀ c ∈ cs.getLast?, isBlank c = false) :
    m.close? (cs ++ rest) = none := by
  have hstop : cs.dropWhile isBlank ≠ [] := by
    intro hnil
    have hblank := List.dropWhile_eq_nil_iff.mp hnil (cs.getLast hne) (List.getLast_mem hne)
    rw [hlast _ (List.getLast?_eq_some_getLast hne)] at hblank
    contradiction
  obtain ⟨d, more, hd⟩ := List.exists_cons_of_ne_nil hstop
  have hmem : d ∈ cs := (List.dropWhile_suffix isBlank).subset (hd ▸ List.mem_cons_self)
  have hsep : d ∉ Name.separators := hinner d hmem
  have hdrop : (cs ++ rest).dropWhile isBlank = d :: (more ++ rest) := by
    rw [List.dropWhile_append, hd]
    rfl
  have hbrace : d ≠ '}' := fun heq => hsep (by rw [heq]; decide)
  have hpercent : d ≠ '%' := fun heq => hsep (by rw [heq]; decide)
  cases m <;> simp [Markup.close?, spanBlank_eq, hdrop, hbrace, hpercent]

/-- A search for the end of a name goes past the characters of a name as one. -/
theorem extend?_append {cs : List Char} (rest : List Char) (hne : cs ≠ [])
    (hinner : ∀ c ∈ cs, c ∉ Name.separators) (hlast : ∀ c ∈ cs.getLast?, isBlank c = false) :
    m.extend? (cs ++ rest) =
      match m.close? rest with
      | some (after, rest') => some (cs, after, rest')
      | none => (m.extend? rest).map fun r => (cs ++ r.1, r.2) := by
  induction cs with
  | nil => exact absurd rfl hne
  | cons c cs ih =>
    have hline : c ≠ '\n' := fun heq => hinner c List.mem_cons_self (by rw [heq]; decide)
    cases cs with
    | nil =>
      have hc : isBlank c = false := hlast c rfl
      cases hclose : m.close? rest <;> simp [Markup.extend?, hc, hclose, hline]
    | cons d cs =>
      have hinner' : ∀ x ∈ d :: cs, x ∉ Name.separators :=
        fun x hx => hinner x (List.mem_cons_of_mem _ hx)
      have hlast' : ∀ x ∈ (d :: cs).getLast?, isBlank x = false := by
        intro x hx
        exact hlast x (by rwa [List.getLast?_cons_cons])
      have hnone := close?_append_of_name (m := m) rest (List.cons_ne_nil d cs) hinner' hlast'
      rw [List.cons_append, Markup.extend?, hnone, ite_self,
        ih (List.cons_ne_nil d cs) hinner' hlast']
      cases m.close? rest <;> simp [hline, Function.comp_def]

-- ---------------------------------------------------------------------------
-- Sites of a letter
-- ---------------------------------------------------------------------------

theorem mayStart_of_inline {c : Char} {more : List Char} {n : String} (hn : Name.Inline n)
    (hchars : n.toList = c :: more) : m.mayStart c = true := by
  have hc : isBlank c = false := hn.first c (by rw [hchars]; rfl)
  have hsep : c ∉ Name.separators := hn.inner c (by rw [hchars]; exact List.mem_cons_self)
  have hbrace : c ≠ '{' := fun heq => hsep (by rw [heq]; decide)
  have hbrace' : c ≠ '}' := fun heq => hsep (by rw [heq]; decide)
  cases m <;> simp [Markup.mayStart, hc, hbrace, hbrace']

/-- The name at the head of a text, what stands behind it, and the rest. -/
def Markup.named? (m : Markup) : List Char → Option (List Char × List Char × List Char)
  | [] => none
  | c :: rest =>
    if !m.mayStart c then none
    else
      match m.extend? rest with
      | some (more, after, rest) => some (c :: more, after, rest)
      | none => (m.close? rest).map fun r => ([c], r.1, r.2)

theorem site?_eq_named? (m : Markup) (cs : List Char) :
    m.site? cs = (m.open? cs).bind fun p => (m.named? p.2).map fun q => (p.1, q.1, q.2.1) := by
  rw [Markup.site?]
  rcases m.open? cs with _ | ⟨before, _ | ⟨c, rest⟩⟩
  · rfl
  · rfl
  · simp only [Option.bind_some, Markup.named?]
    rcases m.mayStart c with _ | _
    · rfl
    · rcases m.extend? rest with _ | found
      · simp only [Bool.not_true, Bool.false_eq_true, if_false, Option.map_map]
        rfl
      · rfl

/-- The name found where the characters of a name stand: that one, if it ends there, or one that
goes on behind it. -/
theorem named?_append {n : String} (hn : Name.Inline n) {rest : List Char}
    (hend : 2 ≤ n.toList.length ∨ m.extend? rest = none ∨ m.close? rest = none) :
    m.named? (n.toList ++ rest) =
      match m.close? rest with
      | some (after, rest') => some (n.toList, after, rest')
      | none => (m.extend? rest).map fun r => (n.toList ++ r.1, r.2) := by
  have hinner := hn.inner
  have hlast := hn.last
  match hchars : n.toList with
  | [] => exact absurd hchars hn.nonempty
  | [c] =>
    have hnone := hend.resolve_left (by simp [hchars])
    simp only [List.singleton_append, Markup.named?, mayStart_of_inline hn hchars]
    rcases hnone with hextend | hclose
    · cases m.close? rest <;> simp [hextend]
    · cases m.extend? rest <;> simp [hclose]
  | c :: d :: more =>
    rw [hchars] at hinner hlast
    have hinner' : ∀ x ∈ d :: more, x ∉ Name.separators :=
      fun x hx => hinner x (List.mem_cons_of_mem _ hx)
    have hlast' : ∀ x ∈ (d :: more).getLast?, isBlank x = false :=
      fun x hx => hlast x (by rwa [List.getLast?_cons_cons])
    have hextend := extend?_append (m := m) rest (List.cons_ne_nil d more) hinner' hlast'
    have hnone := close?_append_of_name (m := m) rest (List.cons_ne_nil d more) hinner' hlast'
    rw [List.cons_append] at hextend hnone
    simp only [List.cons_append, Markup.named?, mayStart_of_inline hn hchars, hextend, hnone]
    cases m.close? rest with
    | none => cases m.extend? rest <;> rfl
    | some r => rfl

/-- Whether a name ends where its markup does: it has two characters, or the search for a later
end fails. -/
def Markup.Ends (m : Markup) (n : String) (rest : List Char) : Prop :=
  2 ≤ n.toList.length ∨ m.extend? (' ' :: (m.closing ++ rest)) = none

/-- The reference found behind markup that opens one. -/
theorem site?_append_of_inline {before cs : List Char} {n : String} (hn : Name.Inline n)
    {rest : List Char} (hend : m.Ends n rest)
    (hopen : m.open? cs = some (before, n.toList ++ ' ' :: (m.closing ++ rest))) :
    m.site? cs = some (before, n.toList, ' ' :: m.closing) := by
  have hend' : 2 ≤ n.toList.length ∨ m.extend? (' ' :: (m.closing ++ rest)) = none ∨
      m.close? (' ' :: (m.closing ++ rest)) = none := hend.imp_right .inl
  rw [site?_eq_named?, hopen, Option.bind_some, named?_append hn hend',
    close?_blank_closing m rest]
  rfl

/-- What stands before the name of a condition. -/
def conditionBefore (keyword : List Char) : List Char := '{' :: '%' :: ' ' :: (keyword ++ [' '])

/-- The words that a condition may start with. -/
def keywords : List (List Char) := [['i', 'f'], ['e', 'l', 'i', 'f']]

theorem open?_reference {n : String} (hn : Name.Inline n) (rest : List Char) :
    Markup.open? .variable ('{' :: '{' :: ' ' :: (n.toList ++ rest))
      = some (['{', '{', ' '], n.toList ++ rest) := by
  simp only [Markup.open?, spanBlank_blank_append rest hn.first hn.nonempty]

theorem open?_condition {n : String} (hn : Name.Inline n) {keyword : List Char}
    (hk : keyword ∈ keywords) (rest : List Char) :
    Markup.open? .condition (conditionBefore keyword ++ (n.toList ++ rest))
      = some (conditionBefore keyword, n.toList ++ rest) := by
  have hname := spanBlank_blank_append rest hn.first hn.nonempty
  have hkeyword : ∀ k ∈ keyword.head?, isBlank k = false := by
    revert hk keyword
    decide
  have hne : keyword ≠ [] := by
    revert hk keyword
    decide
  have hbefore : conditionBefore keyword ++ (n.toList ++ rest)
      = '{' :: '%' :: ' ' :: (keyword ++ (' ' :: (n.toList ++ rest))) := by
    simp [conditionBefore]
  rw [hbefore, Markup.open?, spanBlank_blank_append _ hkeyword hne]
  simp only [keywords, List.mem_cons, List.not_mem_nil, or_false] at hk
  rcases hk with rfl | rfl <;>
    simp [Markup.keyword?, hname, conditionBefore]

-- ---------------------------------------------------------------------------
-- Pieces of a letter
-- ---------------------------------------------------------------------------

/-- What a name must be like at a site of one kind, with a text behind it, for a search for
sites of one kind to go right: it ends where its markup does, or it opens no such markup. -/
def Markup.Finds (m site : Markup) (n : String) (rest : List Char) : Prop :=
  if m = site then Name.Inline n ∧ m.Ends n rest else ¬ m.opening <:+: n.toList

/-- What a name must be like for that whatever stands behind it. -/
def Markup.FindsAlways (m site : Markup) (n : String) : Prop := ∀ rest, m.Finds site n rest

theorem Markup.opening_not_infix {cs : List Char} (h : '{' ∉ cs) : ¬ m.opening <:+: cs := by
  intro hin
  exact h (hin.subset (by cases m <;> exact List.mem_cons_self))

theorem findsAlways_of_ordinary {n : String} (hn : Name.Ordinary n) (site : Markup) :
    m.FindsAlways site n := by
  intro rest
  rw [Markup.Finds]
  split
  · exact ⟨hn.inline, .inl hn.long⟩
  · exact Markup.opening_not_infix (hn.inline.not_mem (by decide))

/-- The pieces of a reference. -/
def referencePieces (m : Markup) (n : List Char) : List Piece :=
  match m with
  | .variable => [.site ['{', '{', ' '] n [' ', '}', '}']]
  | .condition => (Letter.referenceSource n).map .char

/-- The pieces of the statement that starts a condition. -/
def conditionPieces (m : Markup) (keyword n : List Char) : List Piece :=
  match m with
  | .variable => (Letter.statementSource (keyword ++ ' ' :: n)).map .char
  | .condition => [.site (conditionBefore keyword) n [' ', '%', '}']]

theorem pieces_reference {n : String} {rest : List Char} (h : m.Finds .variable n rest) :
    pieces m (Letter.referenceSource n.toList ++ rest)
      = referencePieces m n.toList ++ pieces m rest := by
  match m, h with
  | .variable, h =>
    have hsite : Markup.site? .variable
        (['{', '{', ' '] ++ (n.toList ++ ([' ', '}', '}'] ++ rest)))
          = some (['{', '{', ' '], n.toList, [' ', '}', '}']) :=
      site?_append_of_inline h.1 h.2 (open?_reference h.1 _)
    have hpieces := pieces_append_of_site (List.cons_ne_nil _ _) hsite
    simpa [Letter.referenceSource, referencePieces] using hpieces
  | .condition, h =>
    have hn : ¬ Markup.opening .condition <:+: n.toList := h
    have hopen : ∀ cs, Markup.site? .condition ('{' :: '{' :: ' ' :: cs) = none := fun cs => rfl
    have hopen' : ∀ cs, Markup.site? .condition ('{' :: ' ' :: cs) = none := fun cs => rfl
    have hrest : pieces .condition (' ' :: '}' :: '}' :: rest)
        = [' ', '}', '}'].map .char ++ pieces .condition rest :=
      pieces_append_of_no_brace rest (by decide : '{' ∉ [' ', '}', '}'])
    simp only [Letter.referenceSource, referencePieces, List.cons_append, List.append_assoc,
      List.map_cons, List.nil_append]
    rw [pieces_cons_of_no_site (hopen _), pieces_cons_of_no_site (hopen' _),
      pieces_cons_of_ne_brace _ (by decide), pieces_append_of_no_opening _ hn, hrest]
    simp

theorem pieces_condition {n : String} {rest : List Char} (h : m.Finds .condition n rest)
    {keyword : List Char} (hk : keyword ∈ keywords) :
    pieces m (Letter.statementSource (keyword ++ ' ' :: n.toList) ++ rest)
      = conditionPieces m keyword n.toList ++ pieces m rest := by
  match m, h with
  | .variable, h =>
    have hn : ¬ Markup.opening .variable <:+: n.toList := h
    have hopen : ∀ cs, Markup.site? .variable ('{' :: '%' :: cs) = none := fun cs => rfl
    have hkeyword : '{' ∉ '%' :: ' ' :: (keyword ++ [' ']) := by
      revert hk keyword
      decide
    have hstart := pieces_append_of_no_brace (m := .variable)
      (n.toList ++ ' ' :: '%' :: '}' :: rest) hkeyword
    have hrest : pieces .variable (' ' :: '%' :: '}' :: rest)
        = [' ', '%', '}'].map .char ++ pieces .variable rest :=
      pieces_append_of_no_brace rest (by decide : '{' ∉ [' ', '%', '}'])
    rw [pieces_append_of_no_opening _ hn, hrest] at hstart
    simp only [List.cons_append, List.append_assoc, List.nil_append] at hstart
    simp only [Letter.statementSource, conditionPieces, List.cons_append, List.append_assoc,
      List.map_cons, List.nil_append]
    rw [pieces_cons_of_no_site (hopen _), hstart]
    simp
  | .condition, h =>
    have hsite : Markup.site? .condition
        (conditionBefore keyword ++ (n.toList ++ ([' ', '%', '}'] ++ rest)))
          = some (conditionBefore keyword, n.toList, [' ', '%', '}']) :=
      site?_append_of_inline h.1 h.2 (open?_condition h.1 hk _)
    have hpieces := pieces_append_of_site (List.cons_ne_nil _ _) hsite
    simpa [Letter.statementSource, conditionPieces, conditionBefore] using hpieces

/-- The words of statements without a name. -/
def bareWords : List (List Char) := [['e', 'l', 's', 'e'], ['e', 'n', 'd', 'i', 'f']]

theorem pieces_word {word : List Char} (hw : word ∈ bareWords) (rest : List Char) :
    pieces m (Letter.statementSource word ++ rest)
      = (Letter.statementSource word).map .char ++ pieces m rest := by
  have hword : '{' ∉ word := by
    revert hw word
    decide
  have hopen : ∀ cs, m.site? ('{' :: '%' :: ' ' :: (word ++ ' ' :: cs)) = none := by
    intro cs
    simp only [bareWords, List.mem_cons, List.not_mem_nil, or_false] at hw
    match m with
    | .variable => rfl
    | .condition => rcases hw with rfl | rfl <;> rfl
  have htail : '{' ∉ '%' :: ' ' :: (word ++ [' ', '%', '}']) := by simp [hword]
  have hrest := pieces_append_of_no_brace (m := m) rest htail
  simp only [List.cons_append, List.append_assoc, List.nil_append] at hrest
  simp only [Letter.statementSource, List.cons_append, List.append_assoc, List.nil_append,
    List.map_cons]
  rw [pieces_cons_of_no_site (hopen _), hrest]
  simp

end Reference

open Reference

mutual

/-- The pieces of a letter. -/
def Letter.pieces (m : Markup) : Letter → List Piece
  | .done => []
  | .char c rest => .char c :: rest.pieces m
  | .reference name rest => referencePieces m name.toList ++ rest.pieces m
  | .condition name yes no rest =>
    conditionPieces m ['i', 'f'] name.toList ++
      (yes.pieces m ++ (no.pieces m ++ rest.pieces m))

def Otherwise.pieces (m : Markup) : Otherwise → List Piece
  | .nothing => (Letter.statementSource ['e', 'n', 'd', 'i', 'f']).map .char
  | .always no =>
    (Letter.statementSource ['e', 'l', 's', 'e']).map .char ++
      (no.pieces m ++ (Letter.statementSource ['e', 'n', 'd', 'i', 'f']).map .char)
  | .onlyIf name yes no =>
    conditionPieces m ['e', 'l', 'i', 'f'] name.toList ++ (yes.pieces m ++ no.pieces m)

end

mutual

theorem Letter.pieces_source_append {m : Markup} (l : Letter)
    (h : l.All (m.FindsAlways .variable) (m.FindsAlways .condition)) (rest : List Char) :
    Reference.pieces m (l.source ++ rest) = l.pieces m ++ Reference.pieces m rest := by
  match l, h with
  | .done, _ => rfl
  | .char c l, ⟨hc, hl⟩ =>
    rw [Letter.source, List.cons_append, pieces_cons_of_ne_brace _ hc, l.pieces_source_append hl]
    rfl
  | .reference n l, ⟨hn, hl⟩ =>
    rw [Letter.source, List.append_assoc, pieces_reference (hn _), l.pieces_source_append hl,
      Letter.pieces, List.append_assoc]
  | .condition n yes no l, ⟨hn, hyes, hno, hl⟩ =>
    have hif : ['i', 'f'] ∈ keywords := by decide
    have hstart := pieces_condition (hn (yes.source ++ (no.source ++ (l.source ++ rest)))) hif
    rw [yes.pieces_source_append hyes, no.pieces_source_append hno, l.pieces_source_append hl]
      at hstart
    simp only [Letter.source, Letter.pieces, List.append_assoc]
    exact hstart

theorem Otherwise.pieces_source_append {m : Markup} (o : Otherwise)
    (h : o.All (m.FindsAlways .variable) (m.FindsAlways .condition)) (rest : List Char) :
    Reference.pieces m (o.source ++ rest) = o.pieces m ++ Reference.pieces m rest := by
  have hend : ['e', 'n', 'd', 'i', 'f'] ∈ bareWords := by decide
  match o, h with
  | .nothing, _ => exact pieces_word hend rest
  | .always no, h =>
    have helse : ['e', 'l', 's', 'e'] ∈ bareWords := by decide
    rw [Otherwise.source, List.append_assoc, pieces_word helse, List.append_assoc,
      no.pieces_source_append h, pieces_word hend, Otherwise.pieces]
    simp only [List.append_assoc]
  | .onlyIf n yes no, ⟨hn, hyes, hno⟩ =>
    have helif : ['e', 'l', 'i', 'f'] ∈ keywords := by decide
    have hstart := pieces_condition (hn (yes.source ++ (no.source ++ rest))) helif
    rw [yes.pieces_source_append hyes, no.pieces_source_append hno] at hstart
    simp only [Otherwise.source, Otherwise.pieces, List.append_assoc]
    exact hstart

end

theorem Name.Ordinary.no_brace {n : String} (h : Name.Ordinary n) : '{' ∉ n.toList :=
  h.inline.not_mem (by decide)

theorem Letter.All.finds {l : Letter} (h : l.All Name.Ordinary Name.Ordinary) (m : Markup) :
    l.All (m.FindsAlways .variable) (m.FindsAlways .condition) :=
  Letter.All.imp (fun _ hn => findsAlways_of_ordinary hn _)
    (fun _ hn => findsAlways_of_ordinary hn _) l h

/-- A search finds the references of a letter and nothing else. -/
theorem Letter.pieces_source {m : Markup} (l : Letter)
    (h : l.All (m.FindsAlways .variable) (m.FindsAlways .condition)) :
    Reference.pieces m l.source = l.pieces m := by
  have happend := l.pieces_source_append h []
  rwa [List.append_nil, pieces_nil, List.append_nil] at happend

-- ---------------------------------------------------------------------------
-- Replacing names
-- ---------------------------------------------------------------------------

namespace Reference

/-- A replacement of names as one of characters. -/
def onChars (f : String → String) (n : List Char) : List Char := (f (String.ofList n)).toList

theorem flatMap_substitute_chars (f : List Char → List Char) (cs : List Char) :
    (cs.map Piece.char).flatMap (Piece.substitute f) = cs := by
  induction cs with
  | nil => rfl
  | cons c cs ih =>
    rw [List.map_cons, List.flatMap_cons, ih]
    rfl

/-- What a search for sites of one kind does to names at sites of a kind. -/
def Markup.mapping (m site : Markup) (f : String → String) : String → String :=
  if m = site then f else id

theorem flatMap_substitute_reference (m : Markup) (f : String → String) (n : String) :
    (referencePieces m n.toList).flatMap (Piece.substitute (onChars f))
      = Letter.referenceSource (m.mapping .variable f n).toList := by
  match m with
  | .variable => simp [referencePieces, Piece.substitute, onChars, Markup.mapping,
      Letter.referenceSource]
  | .condition => exact flatMap_substitute_chars _ _

theorem flatMap_substitute_condition (m : Markup) (f : String → String) (keyword : List Char)
    (n : String) :
    (conditionPieces m keyword n.toList).flatMap (Piece.substitute (onChars f))
      = Letter.statementSource (keyword ++ ' ' :: (m.mapping .condition f n).toList) := by
  match m with
  | .variable => exact flatMap_substitute_chars _ _
  | .condition => simp [conditionPieces, conditionBefore, Piece.substitute, onChars,
      Markup.mapping, Letter.statementSource]

end Reference

mutual

theorem Letter.flatMap_substitute_pieces (m : Markup) (f : String → String) (l : Letter) :
    (l.pieces m).flatMap (Piece.substitute (onChars f))
      = (l.mapNames (m.mapping .variable f) (m.mapping .condition f)).source := by
  match l with
  | .done => rfl
  | .char c l =>
    rw [Letter.pieces, List.flatMap_cons, l.flatMap_substitute_pieces m f]
    rfl
  | .reference n l =>
    rw [Letter.pieces, List.flatMap_append, flatMap_substitute_reference,
      l.flatMap_substitute_pieces m f]
    rfl
  | .condition n yes no l =>
    rw [Letter.pieces, List.flatMap_append, List.flatMap_append, List.flatMap_append,
      flatMap_substitute_condition, yes.flatMap_substitute_pieces m f,
      no.flatMap_substitute_pieces m f, l.flatMap_substitute_pieces m f]
    rfl

theorem Otherwise.flatMap_substitute_pieces (m : Markup) (f : String → String) (o : Otherwise) :
    (o.pieces m).flatMap (Piece.substitute (onChars f))
      = (o.mapNames (m.mapping .variable f) (m.mapping .condition f)).source := by
  match o with
  | .nothing => exact flatMap_substitute_chars _ _
  | .always no =>
    rw [Otherwise.pieces, List.flatMap_append, List.flatMap_append, flatMap_substitute_chars,
      flatMap_substitute_chars, no.flatMap_substitute_pieces m f]
    rfl
  | .onlyIf n yes no =>
    rw [Otherwise.pieces, List.flatMap_append, List.flatMap_append, flatMap_substitute_condition,
      yes.flatMap_substitute_pieces m f, no.flatMap_substitute_pieces m f]
    rfl

end

namespace Letter

theorem substituteMarkup_source (m : Markup) (f : String → String) (l : Letter)
    (h : Reference.pieces m l.source = l.pieces m) :
    substituteMarkup m (onChars f) l.source
      = (l.mapNames (m.mapping .variable f) (m.mapping .condition f)).source := by
  rw [substituteMarkup, h, l.flatMap_substitute_pieces]

/-- Names are replaced where a search finds references, and then conditions behind them. -/
theorem substitute_text_of_pieces (f : String → String) (l : Letter)
    (hvariables : Reference.pieces .variable l.source = l.pieces .variable)
    (hconditions : Reference.pieces .condition (l.mapNames f id).source
      = (l.mapNames f id).pieces .condition) :
    Reference.substitute f l.text = (l.mapNames f f).text := by
  have hfirst := substituteMarkup_source .variable f l hvariables
  have hsecond := substituteMarkup_source .condition f _ hconditions
  rw [text, Reference.substitute, String.toList_ofList, substituteChars]
  change String.ofList (substituteMarkup .condition (onChars f)
    (substituteMarkup .variable (onChars f) l.source)) = _
  rw [hfirst]
  change String.ofList (substituteMarkup .condition (onChars f) (l.mapNames f id).source) = _
  rw [hsecond, mapNames_mapNames]
  rfl

/-- Replacing the names in the template of a letter is replacing those of the letter. -/
theorem substitute_text (f : String → String) (hf : ∀ n, Name.Ordinary n → '{' ∉ (f n).toList)
    (l : Letter) (h : l.All Name.Ordinary Name.Ordinary) :
    Reference.substitute f l.text = (l.mapNames f f).text := by
  have hsecond : (l.mapNames f id).All (Markup.FindsAlways .condition .variable)
      (Markup.FindsAlways .condition .condition) :=
    Letter.All.mapNames l (Letter.All.imp (fun n hn _ => Markup.opening_not_infix (hf n hn))
      (fun _ hn => findsAlways_of_ordinary hn _) l h)
  exact l.substitute_text_of_pieces f (l.pieces_source (h.finds .variable))
    (Letter.pieces_source _ hsecond)

end Letter

end MailMerge
