import MailMerge.Proofs.Predicate.Query
import Mathlib.Algebra.GroupWithZero.Nat

/-!
# Places in the percent style

In the percent style a place is a pair of characters, and a percent sign that means itself is
written twice. A text in that style is read once from left to right. What is read of the text of a
predicate is its text in the question style, whatever the names of its columns hold, with a place
for each of its values.
-/

namespace MailMerge

namespace PlaceholderStyle

-- ---------------------------------------------------------------------------
-- Reading
-- ---------------------------------------------------------------------------

/-- What is read of a text: a character that means itself, or a place. -/
inductive Mark where
  | char (c : Char)
  | place
deriving DecidableEq

/-- A mark in the question style. -/
def Mark.question : Mark → Char
  | .char c => c
  | .place => '?'

/-- The marks of a text in the percent style. No percent sign can stand in it but one that is
written twice and one with an s behind it. -/
def marks? : List Char → Option (List Mark)
  | [] => some []
  | '%' :: '%' :: cs => (marks? cs).map (.char '%' :: ·)
  | '%' :: 's' :: cs => (marks? cs).map (.place :: ·)
  | c :: cs => if c = '%' then none else (marks? cs).map (.char c :: ·)

theorem marks?_cons {c : Char} (h : c ≠ '%') (cs : List Char) :
    marks? (c :: cs) = (marks? cs).map (.char c :: ·) := by
  rw [marks?]
  · exact if_neg h
  · rintro _ rfl
    exact absurd rfl h
  · rintro _ rfl
    exact absurd rfl h

/-- A text that is read to its end is read before any other. -/
theorem marks?_append {cs ds : List Char} {ms ns : List Mark} (h : marks? cs = some ms)
    (h' : marks? ds = some ns) : marks? (cs ++ ds) = some (ms ++ ns) := by
  fun_induction marks? cs generalizing ms with
  | case1 =>
    cases h
    exact h'
  | case2 cs ih =>
    obtain ⟨ms, hms, rfl⟩ := Option.map_eq_some_iff.mp h
    rw [List.cons_append, List.cons_append, marks?, ih hms]
    rfl
  | case3 cs ih =>
    obtain ⟨ms, hms, rfl⟩ := Option.map_eq_some_iff.mp h
    rw [List.cons_append, List.cons_append, marks?, ih hms]
    rfl
  | case4 => cases h
  | case5 c cs _ _ hc ih =>
    obtain ⟨ms, hms, rfl⟩ := Option.map_eq_some_iff.mp h
    rw [List.cons_append, marks?_cons hc, ih hms]
    rfl

/-- A text in the percent style says what another one says in the question style, and has a number
of places. -/
def Says (s t : String) (places : Nat) : Prop :=
  ∃ ms, marks? s.toList = some ms ∧ ms.map Mark.question = t.toList ∧ ms.count .place = places

namespace Says

variable {s s' t t' : String} {n n' : Nat}

theorem append (h : Says s t n) (h' : Says s' t' n') : Says (s ++ s') (t ++ t') (n + n') := by
  obtain ⟨ms, hms, htext, hcount⟩ := h
  obtain ⟨ms', hms', htext', hcount'⟩ := h'
  refine ⟨ms ++ ms', ?_, ?_, ?_⟩
  · rw [String.toList_append]
    exact marks?_append hms hms'
  · rw [List.map_append, htext, htext', String.toList_append]
  · rw [List.count_append, hcount, hcount']

/-- Without percent signs the styles are the same. -/
theorem plain {s : String} (h : '%' ∉ s.toList) : Says s s 0 := by
  refine ⟨s.toList.map .char, ?_, ?_, ?_⟩
  · generalize s.toList = cs at h
    induction cs with
    | nil => rfl
    | cons c cs ih =>
      rw [List.mem_cons, not_or] at h
      rw [marks?_cons (Ne.symm h.1), ih h.2]
      rfl
  · rw [List.map_map]
    exact List.map_id _
  · rw [List.count_eq_zero, List.mem_map]
    rintro ⟨c, -, hc⟩
    cases hc

theorem between {first last : String} (h : Says s t n) (hfirst : '%' ∉ first.toList)
    (hlast : '%' ∉ last.toList) : Says (first ++ s ++ last) (first ++ t ++ last) n := by
  have hsays := ((plain hfirst).append h).append (plain hlast)
  rwa [Nat.zero_add, Nat.add_zero] at hsays

theorem place : Says percent.placeholder question.placeholder 1 := ⟨[.place], rfl, rfl, rfl⟩

theorem columnChar (c : Char) :
    Says (String.ofList (percent.columnChar c)) (String.ofList (question.columnChar c)) 0 := by
  by_cases hquote : c = '"'
  · subst hquote
    exact plain (by decide)
  by_cases hpercent : c = '%'
  · subst hpercent
    exact ⟨[.char '%'], rfl, rfl, rfl⟩
  · have hchar : ∀ style : PlaceholderStyle, style.columnChar c = [c] := by
      intro style
      simp [PlaceholderStyle.columnChar, hquote, hpercent]
    rw [hchar, hchar]
    exact plain (by simpa using Ne.symm hpercent)

/-- A percent sign in the name of a column is read as one. -/
theorem column (name : String) : Says (percent.column name) (question.column name) 0 := by
  have hname : ∀ cs : List Char, Says (String.ofList (cs.flatMap percent.columnChar))
      (String.ofList (cs.flatMap question.columnChar)) 0 := by
    intro cs
    induction cs with
    | nil => exact plain (by decide)
    | cons c cs ih =>
      rw [List.flatMap_cons, List.flatMap_cons, String.ofList_append, String.ofList_append]
      exact (columnChar c).append ih
  have hquoted : ∀ style : PlaceholderStyle, style.column name
      = "\"" ++ String.ofList (name.toList.flatMap style.columnChar) ++ "\"" := by
    intro style
    apply String.toList_injective
    simp [PlaceholderStyle.column]
  rw [hquoted, hquoted]
  exact (hname _).between (by decide) (by decide)

/-- A name that looks like a place has none. -/
example : percent.column "100%s" = "\"100%%s\"" ∧
    (marks? (percent.column "100%s").toList).map (·.map Mark.question)
      = some (question.column "100%s").toList := by
  decide

end Says

end PlaceholderStyle

open PlaceholderStyle

-- ---------------------------------------------------------------------------
-- Predicates
-- ---------------------------------------------------------------------------

theorem Comparator.says_symbol (o : Comparator) : Says o.symbol o.symbol 0 := by
  cases o <;> exact .plain (by decide)

theorem Conjunction.says_name (kind : Conjunction) : Says kind.name kind.name 0 := by
  cases kind <;> exact .plain (by decide)

/-- A test has a place for each of its values. -/
theorem Test.says_write (t : Test) :
    Says (t.write .percent) (t.write .question) t.values.length := by
  have hblank : Says " " " " 0 := .plain (by decide)
  cases t with
  | compare c o v =>
    exact ((((Says.column c).append hblank).append o.says_symbol).append hblank).append .place
  | compareEmpty c o =>
    exact (((Says.column c).append hblank).append o.says_symbol).append (.plain (by decide))
  | like c negated pattern =>
    have hverb : Says (if negated then " NOT LIKE " else " LIKE ")
        (if negated then " NOT LIKE " else " LIKE ") 0 := by
      cases negated <;> exact .plain (by decide)
    exact (((Says.column c).append hverb).append .place).append (.plain (by decide))
  | null c negated =>
    have hverb : Says (if negated then " is not null" else " is null")
        (if negated then " is not null" else " is null") 0 := by
      cases negated <;> exact .plain (by decide)
    exact (Says.column c).append hverb
  | between c negated low high =>
    have hverb : Says (if negated then " NOT BETWEEN " else " BETWEEN ")
        (if negated then " NOT BETWEEN " else " BETWEEN ") 0 := by
      cases negated <;> exact .plain (by decide)
    exact ((((Says.column c).append hverb).append .place).append (.plain (by decide))).append
      .place

namespace Predicate

/-- Parts that are joined are read one by one. -/
theorem says_writeJoined {α : Type} (kind : Conjunction) {text text' : α → String}
    {places : α → Nat} {xs : List α} (h : ∀ x ∈ xs, Says (text x) (text' x) (places x)) :
    Says (writeJoined kind (xs.map text)) (writeJoined kind (xs.map text'))
      (xs.map places).sum := by
  have hseparator : Says (") " ++ kind.name ++ " (") (") " ++ kind.name ++ " (") 0 :=
    kind.says_name.between (by decide) (by decide)
  have hparts : Says (String.intercalate (") " ++ kind.name ++ " (") (xs.map text))
      (String.intercalate (") " ++ kind.name ++ " (") (xs.map text')) (xs.map places).sum := by
    induction xs with
    | nil => exact .plain List.not_mem_nil
    | cons x xs ih =>
      rw [List.forall_mem_cons] at h
      cases xs with
      | nil => exact h.1
      | cons x' xs =>
        rw [List.map_cons, List.map_cons, List.map_cons, List.map_cons,
          String.intercalate_cons_cons, String.intercalate_cons_cons, List.map_cons, List.sum_cons]
        exact (h.1.append hseparator).append (ih h.2)
  exact hparts.between (by decide) (by decide)

theorem writeEach_eq_map (style : PlaceholderStyle) (ps : List Predicate) :
    writeEach style ps = ps.map (write style) := by
  induction ps with
  | nil => rfl
  | cons p ps ih => rw [writeEach, ih, List.map_cons]

theorem length_valuesEach (ps : List Predicate) :
    (valuesEach ps).length = (ps.map fun p => p.values.length).sum := by
  induction ps with
  | nil => rfl
  | cons p ps ih => rw [valuesEach, List.length_append, ih, List.map_cons, List.sum_cons]

mutual

/-- The text of a predicate has a place for each of its values. -/
theorem says_write (p : Predicate) :
    Says (p.write .percent) (p.write .question) p.values.length := by
  match p with
  | .test t => exact t.says_write
  | .join kind tests =>
    rw [values, List.length_flatMap]
    exact says_writeJoined kind fun t _ => t.says_write
  | .group kind members =>
    rw [write, write, values, writeEach_eq_map, writeEach_eq_map, length_valuesEach]
    exact (says_writeJoined kind (says_writeEach members)).between (by decide) (by decide)
  | .not p => exact (says_write p).between (by decide) (by decide)

theorem says_writeEach (ps : List Predicate) :
    ∀ p ∈ ps, Says (p.write .percent) (p.write .question) p.values.length := by
  match ps with
  | [] => exact fun _ hp => absurd hp List.not_mem_nil
  | p :: ps => exact List.forall_mem_cons.mpr ⟨says_write p, says_writeEach ps⟩

end

theorem says_write? (p : Option Predicate) :
    Says (write? .percent p) (write? .question p) (values? p).length := by
  cases p with
  | none => exact .plain List.not_mem_nil
  | some p => exact p.says_write

end Predicate

-- ---------------------------------------------------------------------------
-- Formulas
-- ---------------------------------------------------------------------------

/-- The styles write one query. Both fail with the same error, or both have the same values, and
the text in the percent style is read, every percent sign in it, as the text in the question style,
with a place for each value. -/
theorem Formula.query_styles (f : Formula) (columns : Option (List String)) :
    (∃ e, f.query .percent columns = .error e ∧ f.query .question columns = .error e) ∨
    ∃ text text' values ms, f.query .percent columns = .ok (text, values) ∧
      f.query .question columns = .ok (text', values) ∧ marks? text.toList = some ms ∧
      ms.map Mark.question = text'.toList ∧ ms.count .place = values.length := by
  rw [query, query]
  cases f.compile columns with
  | error e => exact .inl ⟨e, rfl, rfl⟩
  | ok p =>
    obtain ⟨ms, hms, htext, hcount⟩ := Predicate.says_write? p
    exact .inr ⟨_, _, _, ms, rfl, rfl, hms, htext, hcount⟩

end MailMerge
