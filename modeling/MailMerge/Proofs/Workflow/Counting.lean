import MailMerge.Proofs.Store.Reading
import MailMerge.Workflow.Selection

/-!
# Counted conditions

For a condition that is no filter one predicate is asked, which joins the filter and the
condition. The rows it selects are those that the two select each by itself. Counting goes
through the conditions of an action and stops at the first that cannot be counted: those before
it have their counts by then, it and those behind it keep what they had.
-/

namespace MailMerge

namespace Predicate

/-- Two predicates that are joined select the rows that both select; a missing one stands in no
row's way. -/
theorem selects_and (p q : Option Predicate) (row : String → Slot) :
    selects (combine? .and [p, q]) row = (selects p row && selects q row) := by
  cases q with
  | some q => rw [selects_combine, Bool.and_comm]
  | none =>
    cases p with
    | none => rfl
    | some p =>
      have hone : Verdict.and (p.truth row) (some true) = p.truth row := by
        rcases p.truth row with _ | _ | _ <;> rfl
      change (Verdict.and (p.truth row) (some true) == some true) = _
      rw [hone]
      exact (Bool.and_true _).symm

end Predicate

namespace Formula

/-- Two formulas are compiled together exactly when each is, to their predicates joined. -/
theorem compile_and_eq_ok_iff {f g : Formula} {columns : Option (List String)}
    {r : Option Predicate} :
    (Formula.and [f, g]).compile columns = .ok r ↔
      ∃ p q, f.compile columns = .ok p ∧ g.compile columns = .ok q ∧
        r = Predicate.combine? .and [p, q] := by
  have hjoined : ∀ ps, joinPredicates .and false ps = Predicate.combine? .and ps := fun ps =>
    congrFun Option.map_id _
  rw [compile, Formula.and, fold, foldEach, foldEach, foldEach, ← compile, ← compile]
  cases f.compile columns with
  | error e => simp [bind, Except.bind, Except.map]
  | ok p =>
    cases g.compile columns with
    | error e => simp [bind, Except.bind, Except.map]
    | ok q => simp [bind, Except.bind, Except.map, pure, Except.pure, hjoined, eq_comm]

end Formula

namespace Table

/-- Whether a formula selects a row of a table. -/
def chooses (t : Table) (f : Formula) (row : List Cell) : Bool :=
  match f.compile (some t.names) with
  | .ok p => Predicate.selects p (t.slot row)
  | .error _ => false

/-- How many of the stored rows some formulas select, each of them by itself. -/
def countOf (t : Table) (fs : List Formula) : Nat :=
  t.rows.countP fun row => fs.all fun f => t.chooses f row

variable {t : Table} {f : Formula} {p : Option Predicate}

theorem chooses_eq (hp : f.compile (some t.names) = .ok p) (row : List Cell) :
    t.chooses f row = Predicate.selects p (t.slot row) := by
  rw [chooses, hp]

/-- Rows are counted alike in the order in which they are read and in which they are stored. -/
theorem length_selected (t : Table) (p : Option Predicate) :
    (t.selected p).length = t.rows.countP fun row => Predicate.selects p (t.slot row) := by
  rw [selected, ← List.countP_eq_length_filter]
  exact t.ordered_perm.countP_eq _

end Table

namespace Store

variable {s : Store} {id : Int64} {t : Table} {f g : Formula} {n : Nat}

/-- What it takes to count the rows of a formula, and what comes of it. -/
theorem countRows_eq_ok_iff (ht : s.find? id = some t) :
    s.countRows id (some f) = .ok n ↔
      ∃ p, f.compile (some t.names) = .ok p ∧ n = (t.selected p).length := by
  cases hp : f.compile (some t.names) with
  | error e => simp [countRows, table, ht, compileFilter, hp, Except.mapError, bind, Except.bind]
  | ok p =>
    have hfilter : compileFilter t (some f) = .ok p := by
      rw [compileFilter, hp]
      rfl
    rw [countRows_of_compileFilter ht hfilter]
    simp [eq_comm]

theorem countRows_single_iff (ht : s.find? id = some t) :
    s.countRows id (some f) = .ok n ↔
      (∃ p, f.compile (some t.names) = .ok p) ∧ n = t.countOf [f] := by
  rw [countRows_eq_ok_iff ht]
  constructor
  · rintro ⟨p, hp, rfl⟩
    exact ⟨⟨p, hp⟩, by simp [Table.length_selected, Table.countOf, Table.chooses_eq hp]⟩
  · rintro ⟨⟨p, hp⟩, rfl⟩
    exact ⟨p, hp, by simp [Table.length_selected, Table.countOf, Table.chooses_eq hp]⟩

/-- Rows counted for two formulas together are the rows that both select. -/
theorem countRows_and_iff (ht : s.find? id = some t) :
    s.countRows id (some (.and [f, g])) = .ok n ↔
      ((∃ p, f.compile (some t.names) = .ok p) ∧ ∃ q, g.compile (some t.names) = .ok q) ∧
        n = t.countOf [f, g] := by
  have hcount : ∀ {p q}, f.compile (some t.names) = .ok p → g.compile (some t.names) = .ok q →
      (t.selected (Predicate.combine? .and [p, q])).length = t.countOf [f, g] := by
    intro p q hp hq
    simp [Table.length_selected, Table.countOf, Table.chooses_eq hp, Table.chooses_eq hq,
      Predicate.selects_and]
  rw [countRows_eq_ok_iff ht]
  constructor
  · rintro ⟨r, hr, rfl⟩
    obtain ⟨p, q, hp, hq, rfl⟩ := Formula.compile_and_eq_ok_iff.mp hr
    exact ⟨⟨⟨p, hp⟩, q, hq⟩, hcount hp hq⟩
  · rintro ⟨⟨⟨p, hp⟩, q, hq⟩, rfl⟩
    exact ⟨_, Formula.compile_and_eq_ok_iff.mpr ⟨p, q, hp, hq, rfl⟩, (hcount hp hq).symm⟩

theorem find?_of_countRows {filter : Option Formula} (h : s.countRows id filter = .ok n) :
    ∃ t, s.find? id = some t := by
  cases ht : s.find? id with
  | some t => exact ⟨t, rfl⟩
  | none =>
    rw [countRows, table, ht] at h
    cases h

end Store

-- ---------------------------------------------------------------------------
-- One condition
-- ---------------------------------------------------------------------------

/-- The formulas that select the rows that are counted for a condition: a filter's own, and for
any other condition also that of the filter. -/
def Condition.selectors (filter : Option Formula) (c : Condition) : List Formula :=
  if c.isFilter then [c.formula] else filter.toList ++ [c.formula]

/-- A condition with the number of rows that its formulas select from a table. -/
def Condition.counted (t : Table) (filter : Option Formula) (c : Condition) : Condition :=
  { c with selectedRows := some (t.countOf (c.selectors filter)) }

/-- Whether a store can count the rows of a condition: it has the table, and the columns that the
formulas compare. -/
def Condition.Countable (s : Store) (id : Int64) (filter : Option Formula) (c : Condition) : Prop :=
  ∃ t, s.find? id = some t ∧ ∀ f ∈ c.selectors filter, ∃ p, f.compile (some t.names) = .ok p

namespace Action

variable {s : Store} {id : Int64} {t : Table} {filter : Option Formula} {c : Condition} {n : Nat}

/-- The one formula that is counted for a condition selects what its formulas select together. -/
theorem countRows_countedFormula_iff (ht : s.find? id = some t) :
    s.countRows id (some (countedFormula filter c)) = .ok n ↔
      (∀ f ∈ c.selectors filter, ∃ p, f.compile (some t.names) = .ok p) ∧
        n = t.countOf (c.selectors filter) := by
  cases filter with
  | none => simpa [countedFormula, Condition.selectors] using Store.countRows_single_iff ht
  | some f =>
    by_cases hfilter : c.isFilter = true
    · simpa [countedFormula, Condition.selectors, hfilter] using Store.countRows_single_iff ht
    · simpa [countedFormula, Condition.selectors, hfilter] using Store.countRows_and_iff ht

theorem countable_iff :
    c.Countable s id filter ↔ ∃ n, s.countRows id (some (countedFormula filter c)) = .ok n := by
  constructor
  · rintro ⟨t, ht, hcompile⟩
    exact ⟨_, (countRows_countedFormula_iff ht).mpr ⟨hcompile, rfl⟩⟩
  · rintro ⟨n, hn⟩
    obtain ⟨t, ht⟩ := Store.find?_of_countRows hn
    exact ⟨t, ht, ((countRows_countedFormula_iff ht).mp hn).1⟩

-- ---------------------------------------------------------------------------
-- All conditions in turn
-- ---------------------------------------------------------------------------

/-- A condition that can be counted gets its count, and those behind it have their turn. -/
theorem countConditions_of_countable (ht : s.find? id = some t) (hc : c.Countable s id filter)
    (rest : List Condition) :
    countConditions s id filter (c :: rest)
      = (c.counted t filter :: (countConditions s id filter rest).1,
          (countConditions s id filter rest).2) := by
  obtain ⟨n, hn⟩ := countable_iff.mp hc
  obtain ⟨-, rfl⟩ := (countRows_countedFormula_iff ht).mp hn
  rw [countConditions, hn]
  rfl

/-- At the first condition that cannot be counted nothing is changed any more. -/
theorem countConditions_of_not_countable (hc : ¬c.Countable s id filter) (rest : List Condition) :
    ∃ e, s.countRows id (some (countedFormula filter c)) = .error e ∧
      countConditions s id filter (c :: rest) = (c :: rest, .error (.store e)) := by
  cases hcount : s.countRows id (some (countedFormula filter c)) with
  | ok n => exact absurd (countable_iff.mpr ⟨n, hcount⟩) hc
  | error e => exact ⟨e, rfl, by rw [countConditions, hcount]⟩

theorem countConditions_append (ht : s.find? id = some t) {before : List Condition}
    (hbefore : ∀ c ∈ before, c.Countable s id filter) (rest : List Condition) :
    countConditions s id filter (before ++ rest)
      = (before.map (·.counted t filter) ++ (countConditions s id filter rest).1,
          (countConditions s id filter rest).2) := by
  induction before with
  | nil => rfl
  | cons c before ih =>
    obtain ⟨hc, hbefore⟩ := List.forall_mem_cons.mp hbefore
    rw [List.cons_append, countConditions_of_countable ht hc, ih hbefore]
    rfl

/-- Conditions are counted up to the first that cannot be. -/
theorem exists_first_uncountable {cs : List Condition}
    (h : ¬∀ c ∈ cs, c.Countable s id filter) :
    ∃ before c after, cs = before ++ c :: after ∧ (∀ b ∈ before, b.Countable s id filter) ∧
      ¬c.Countable s id filter := by
  induction cs with
  | nil => exact absurd (List.forall_mem_nil _) h
  | cons c cs ih =>
    by_cases hc : c.Countable s id filter
    · have hrest : ¬∀ c ∈ cs, c.Countable s id filter := fun hall =>
        h (List.forall_mem_cons.mpr ⟨hc, hall⟩)
      obtain ⟨before, d, after, rfl, hbefore, hd⟩ := ih hrest
      exact ⟨c :: before, d, after, rfl, List.forall_mem_cons.mpr ⟨hc, hbefore⟩, hd⟩
    · exact ⟨[], c, cs, rfl, List.forall_mem_nil _, hc⟩

/-- Counting again what was counted changes nothing, by induction on the conditions. -/
theorem countConditions_counted (cs : List Condition) :
    countConditions s id filter (countConditions s id filter cs).1
      = countConditions s id filter cs := by
  induction cs with
  | nil => rfl
  | cons c cs ih =>
    by_cases hc : c.Countable s id filter
    · have ⟨t, ht, _⟩ := hc
      have hagain : (c.counted t filter).Countable s id filter := hc
      rw [countConditions_of_countable ht hc, countConditions_of_countable ht hagain, ih]
      rfl
    · obtain ⟨e, -, hstop⟩ := countConditions_of_not_countable hc cs
      rw [hstop, hstop]

/-- Counting does not change which formula is the filter. -/
theorem filterFormula?_countConditions (cs : List Condition) :
    ((countConditions s id filter cs).1.find? (·.isFilter)).map (·.formula)
      = (cs.find? (·.isFilter)).map (·.formula) := by
  induction cs with
  | nil => rfl
  | cons c cs ih =>
    by_cases hc : c.Countable s id filter
    · have ⟨t, ht, _⟩ := hc
      have hsame : (c.counted t filter).isFilter = c.isFilter := rfl
      rw [countConditions_of_countable ht hc, List.find?_cons, List.find?_cons, hsame]
      cases c.isFilter with
      | true => rfl
      | false => exact ih
    · obtain ⟨e, -, hstop⟩ := countConditions_of_not_countable hc cs
      rw [hstop]

/-- Without a table no condition can be counted. -/
theorem find?_ne_none (hc : c.Countable s id filter) : s.find? id ≠ none := by
  obtain ⟨t, ht, -⟩ := hc
  simp [ht]

theorem countConditions_of_all {cs : List Condition} (h : ∀ c ∈ cs, c.Countable s id filter) :
    (countConditions s id filter cs).2 = .ok () ∧
      ∀ t, s.find? id = some t →
        (countConditions s id filter cs).1 = cs.map (·.counted t filter) := by
  have hrun : ∀ t, s.find? id = some t →
      countConditions s id filter cs = (cs.map (·.counted t filter), .ok ()) := by
    intro t ht
    have happend := countConditions_append ht h []
    simpa [countConditions] using happend
  refine ⟨?_, fun t ht => by rw [hrun t ht]⟩
  cases cs with
  | nil => rfl
  | cons c cs =>
    obtain ⟨t, ht, -⟩ := h c List.mem_cons_self
    rw [hrun t ht]

theorem countConditions_of_stop {before : List Condition}
    (hbefore : ∀ b ∈ before, b.Countable s id filter) (hc : ¬c.Countable s id filter)
    (after : List Condition) :
    ∃ e, s.countRows id (some (countedFormula filter c)) = .error e ∧
      (countConditions s id filter (before ++ c :: after)).2 = .error (.store e) ∧
      (∀ t, s.find? id = some t → (countConditions s id filter (before ++ c :: after)).1
        = before.map (·.counted t filter) ++ c :: after) ∧
      (s.find? id = none →
        (countConditions s id filter (before ++ c :: after)).1 = before ++ c :: after) := by
  obtain ⟨e, he, hstop⟩ := countConditions_of_not_countable hc after
  refine ⟨e, he, ?_⟩
  cases ht : s.find? id with
  | some t =>
    rw [countConditions_append ht hbefore, hstop]
    refine ⟨rfl, fun t' ht' => ?_, fun hnone => by cases hnone⟩
    cases ht'
    rfl
  | none =>
    have hnil : before = [] := List.eq_nil_iff_forall_not_mem.mpr fun b hb =>
      find?_ne_none (hbefore b hb) ht
    subst hnil
    rw [List.nil_append, hstop]
    exact ⟨rfl, fun t h => (nomatch h), fun _ => rfl⟩

/-- Counting changes nothing but counts. It succeeds if every condition can be counted, and each
then has the number of rows that its own formula and, unless it is a filter itself, the filter
select. Else the conditions before the first that cannot be counted have their new counts, and it
and those behind it are as they were. Counting again gives the same. -/
theorem countRows_intersections (a : Action) (s : Store) (id : Int64) :
    ((a.countRows s id).2 = .ok () ↔ ∀ c ∈ a.conditions, c.Countable s id a.filterFormula?) ∧
    ((a.countRows s id).2 = .ok () → ∀ t, s.find? id = some t → (a.countRows s id).1
      = { a with conditions := a.conditions.map (·.counted t a.filterFormula?) }) ∧
    (∀ e, (a.countRows s id).2 = .error e →
      ∃ before c after e', a.conditions = before ++ c :: after ∧
        (∀ b ∈ before, b.Countable s id a.filterFormula?) ∧
        s.countRows id (some (countedFormula a.filterFormula? c)) = .error e' ∧ e = .store e' ∧
        ∀ t, s.find? id = some t → (a.countRows s id).1
          = { a with conditions := before.map (·.counted t a.filterFormula?) ++ c :: after }) ∧
    (s.find? id = none → (a.countRows s id).1 = a) ∧
    (a.countRows s id).1.countRows s id = a.countRows s id := by
  have hagain : (a.countRows s id).1.countRows s id = a.countRows s id := by
    have hfilter : (a.countRows s id).1.filterFormula? = a.filterFormula? :=
      filterFormula?_countConditions a.conditions
    have hconditions : countConditions s id a.filterFormula? (a.countRows s id).1.conditions
        = countConditions s id a.filterFormula? a.conditions := countConditions_counted a.conditions
    rw [countRows, hfilter, hconditions]
    rfl
  have hfirst : ∀ cs, (countConditions s id a.filterFormula? a.conditions).1 = cs →
      (a.countRows s id).1 = { a with conditions := cs } := by
    rintro _ rfl
    rfl
  have hsecond : (a.countRows s id).2
      = (countConditions s id a.filterFormula? a.conditions).2 := rfl
  by_cases hall : ∀ c ∈ a.conditions, c.Countable s id a.filterFormula?
  · obtain ⟨hok, hcounted⟩ := countConditions_of_all hall
    refine ⟨iff_of_true (hsecond.trans hok) hall, fun _ t ht => hfirst _ (hcounted t ht),
      fun e he => ?_, fun hnone => ?_, hagain⟩
    · rw [hsecond, hok] at he
      cases he
    · have hnil : a.conditions = [] := List.eq_nil_iff_forall_not_mem.mpr fun c hc =>
        find?_ne_none (hall c hc) hnone
      rw [hfirst [] (by rw [hnil]; rfl), ← hnil]
  · obtain ⟨before, c, after, hconditions, hbefore, hc⟩ := exists_first_uncountable hall
    obtain ⟨e', he', herror, hcounted, hkept⟩ := countConditions_of_stop hbefore hc after
    rw [← hconditions] at herror hcounted hkept
    have hnot : (a.countRows s id).2 ≠ .ok () := by
      rw [hsecond, herror]
      exact fun h => nomatch h
    refine ⟨iff_of_false hnot hall, fun hok => absurd hok hnot, fun e he => ?_,
      fun hnone => hfirst _ (hkept hnone), hagain⟩
    rw [hsecond, herror] at he
    cases he
    exact ⟨before, c, after, e', hconditions, hbefore, he', rfl,
      fun t ht => hfirst _ (hcounted t ht)⟩

/-- Members are the filter. Of the other conditions one asks for members who are not heavy, one
has no leaf at all, one compares a column that the table does not have. -/
def memberAction : Action where
  name := "invitation"
  conditions :=
    [{ name := "light",
       formula := .group .or true [.leaf ⟨"weight", .greater, .double, .single (.int 80)⟩] },
     { name := "members", isFilter := true, selectedRows := some 7,
       formula := .leaf ⟨"member", .equal, .boolean, .single (.text "true")⟩ },
     { name := "all", formula := .group .and true [.group .or false []] },
     { name := "tall", formula := .leaf ⟨"height", .isNotNull, .double, .none⟩,
       selectedRows := some 3 },
     { name := "named", formula := .leaf ⟨"name", .isNotEmpty, .string, .none⟩,
       selectedRows := some 4 }]

/-- The conditions of the action before the one that cannot be counted. -/
def countableAction : Action := { memberAction with conditions := memberAction.conditions.take 3 }

theorem countRows_intersections_members :
    ((countableAction.countRows Store.guestStore 1).2 = .ok () ∧
      (countableAction.countRows Store.guestStore 1).1.conditions.map (·.selectedRows)
        = [some 1, some 1, some 1]) ∧
    ((memberAction.countRows Store.guestStore 1).2
        = .error (.store (.filter (.unknownColumn "height"))) ∧
      (memberAction.countRows Store.guestStore 1).1.conditions.map (·.selectedRows)
        = [some 1, some 1, some 1, some 3, some 4]) ∧
    (memberAction.countRows Store.guestStore 1).1.countRows Store.guestStore 1
      = memberAction.countRows Store.guestStore 1 := by
  have htable : Store.guestStore.find? 1 = some Store.guestTable := rfl
  obtain ⟨hok, hcounted, -⟩ := countRows_intersections countableAction Store.guestStore 1
  obtain ⟨-, -, -, -, hagain⟩ := countRows_intersections memberAction Store.guestStore 1
  have hcountable : ∀ c ∈ countableAction.conditions,
      c.Countable Store.guestStore 1 countableAction.filterFormula? := by
    simp only [countableAction, memberAction, List.take, List.forall_mem_cons]
    exact ⟨countable_iff.mpr ⟨1, by decide +kernel⟩, countable_iff.mpr ⟨1, by decide +kernel⟩,
      countable_iff.mpr ⟨1, by decide +kernel⟩, List.forall_mem_nil _⟩
  have hsuccess := hok.mpr hcountable
  refine ⟨⟨hsuccess, ?_⟩, ⟨by decide +kernel, by decide +kernel⟩, hagain⟩
  rw [hcounted hsuccess _ htable]
  decide +kernel

end Action

end MailMerge
