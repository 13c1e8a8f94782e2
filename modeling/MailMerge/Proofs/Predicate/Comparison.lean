import MailMerge.Formula.Truth
import MailMerge.Predicate.Compile
import MailMerge.Proofs.Store.Filled
import MailMerge.Proofs.Table.Pattern

/-!
# Leaves as predicates

The predicate of a leaf answers, on a row of its table, what the comparison is of the values
of that row. Where the cell is null the two may part: then some predicates have no answer
and some hold, and a comparison that has nothing to compare is false.
-/

namespace MailMerge

namespace Operator

/-- Operators whose predicate answers for a null cell as the comparison does. -/
def answersNull : Operator → Bool
  | .equal | .beginsWith | .contains | .endsWith | .isNotEmpty | .isNull | .isNotNull => true
  | _ => false

/-- Whether an operator may meet a null cell beneath an odd or even number of negations. A
predicate of order then has no answer, which selects as little as the answer no. -/
def nullSafe (o : Operator) (odd : Bool) : Bool := o.answersNull || (o.isOrdering && !odd)

variable {o : Operator} {odd : Bool}

/-- Operators of order are safe beneath an even number of negations. -/
theorem even_of_nullSafe (hanswers : o.answersNull = false) (hsafe : o.nullSafe odd = true) :
    odd = false := by
  rw [nullSafe, hanswers, Bool.false_or, Bool.and_eq_true, Bool.not_eq_true'] at hsafe
  exact hsafe.2

/-- All others are safe if they answer for a null cell as the comparison does. -/
theorem answersNull_of_nullSafe (hordering : o.isOrdering = false) (hsafe : o.nullSafe odd = true) :
    o.answersNull = true := by
  rwa [nullSafe, hordering, Bool.false_and, Bool.or_false] at hsafe

end Operator

/-- A verdict and a truth value that select alike, beneath an odd or even number of
negations. -/
def Verdict.Agrees (odd : Bool) (v : Verdict) (b : Bool) : Prop := v = some (!odd) ↔ b = !odd

namespace Verdict

theorem agrees_some (odd b : Bool) : Agrees odd (some b) b := by
  rw [Agrees, Option.some_inj]

/-- Where no negation waits, no answer is as good as the answer no. -/
theorem agrees_none : Agrees false none false := by
  rw [Agrees]
  decide

end Verdict

namespace Comparison

/-- A leaf on a column of its type, with an operator for the type and constants of the type. -/
structure Fits (columns : List Column) (c : Comparison) : Prop where
  column : ∃ d ∈ columns, d.name = c.field ∧ d.dataType = c.dataType
  operator : c.operator.accepts c.dataType = true
  arity : c.operand.values.length = c.operator.arity
  onClock : ∀ v ∈ c.operand.values, v.OnClock
  constants : ∀ v ∈ c.operand.values, ∃ w ∈ c.dataType.coerce? v, w.Legible ∧ w.Exact

instance (columns : List Column) (c : Comparison) : Decidable (c.Fits columns) :=
  decidable_of_iff ((∃ d ∈ columns, d.name = c.field ∧ d.dataType = c.dataType) ∧
      c.operator.accepts c.dataType = true ∧ c.operand.values.length = c.operator.arity ∧
      (∀ v ∈ c.operand.values, v.OnClock) ∧
      ∀ v ∈ c.operand.values, ∃ w ∈ c.dataType.coerce? v, w.Legible ∧ w.Exact)
    ⟨fun ⟨hcolumn, hoperator, harity, hclock, hconstants⟩ =>
        ⟨hcolumn, hoperator, harity, hclock, hconstants⟩,
      fun h => ⟨h.column, h.operator, h.arity, h.onClock, h.constants⟩⟩

/-- What a comparison meets in a row: null, or a cell and the value it shows. -/
inductive Meets (t : DataType) : Cell → Option Value → Prop
  | null : Meets t .null none
  | value {cell : Cell} {v : Value} (h : Cell.Shows t cell v) : Meets t cell (some v)

/-- The predicate of a leaf agrees with the comparison wherever the cell is not null or the
operator may meet a null cell. -/
def Agrees (names : List String) (c : Comparison) : Prop :=
  ∃ p, c.compile (some names) = .ok p ∧ ∀ row ctx cell v, row c.field = (c.dataType, cell) →
    c.cell (some ctx) = .ok v → Meets c.dataType cell v →
    ∃ b, c.isTrue (some ctx) = .ok b ∧ ∀ odd, (v.isSome || c.operator.nullSafe odd) = true →
      (p.truth row).Agrees odd b

variable {columns : List Column} {c : Comparison}

-- ---------------------------------------------------------------------------
-- Checks
-- ---------------------------------------------------------------------------

/-- Knowing the columns changes nothing for a leaf on one of them. -/
theorem Fits.compile_eq (h : c.Fits columns) :
    c.compile (some (columns.map (·.name))) = c.compile none := by
  obtain ⟨d, hd, hname, -⟩ := h.column
  have hmem : (columns.map (·.name)).contains c.field = true :=
    List.contains_iff_mem.mpr (List.mem_map.mpr ⟨d, hd, hname⟩)
  have hcheck : c.checkColumn (some (columns.map (·.name))) = c.checkColumn none := if_pos hmem
  rw [compile, hcheck, compile]

theorem Fits.checkType_eq (h : c.Fits columns) : c.checkType = .ok () := by
  rw [checkType, if_pos h.operator]

theorem Fits.coerce_eq (h : c.Fits columns) {v : Value} (hv : v ∈ c.operand.values) :
    ∃ w, c.coerce v = .ok w ∧ w.Comparable c.dataType := by
  obtain ⟨w, hw, hlegible, hexact⟩ := h.constants v hv
  exact ⟨w, by rw [coerce, hw], Value.dataType?_of_coerce? hw,
    Value.onClock_of_coerce? (h.onClock v hv) hw, hlegible, hexact⟩

theorem Fits.constant_eq (h : c.Fits columns) (harity : c.operator.arity = 1) :
    ∃ w, c.constant = .ok w ∧ w.Comparable c.dataType := by
  have hlength := h.arity.trans harity
  cases hoperand : c.operand with
  | none => rw [hoperand] at hlength; cases hlength
  | range low high => rw [hoperand] at hlength; cases hlength
  | single v =>
    obtain ⟨w, hw, hcomparable⟩ := h.coerce_eq (v := v) (by rw [hoperand]; exact List.mem_cons_self)
    exact ⟨w, by rw [constant, hoperand]; exact hw, hcomparable⟩

theorem Fits.range_eq (h : c.Fits columns) (harity : c.operator.arity = 2) :
    ∃ low high, c.range = .ok (low, high) ∧ low.Comparable c.dataType ∧
      high.Comparable c.dataType := by
  have hlength := h.arity.trans harity
  cases hoperand : c.operand with
  | none => rw [hoperand] at hlength; cases hlength
  | single v => rw [hoperand] at hlength; cases hlength
  | range v v' =>
    obtain ⟨low, hlow, hlowFits⟩ := h.coerce_eq (v := v) (by simp [hoperand, Operand.values])
    obtain ⟨high, hhigh, hhighFits⟩ := h.coerce_eq (v := v') (by simp [hoperand, Operand.values])
    refine ⟨low, high, ?_, hlowFits, hhighFits⟩
    rw [range, hoperand]
    simp [hlow, hhigh, bind, Except.bind, pure, Except.pure]

/-- Only texts are searched, and only for texts. -/
theorem Fits.pattern_eq (h : c.Fits columns) (hpattern : c.operator.isPattern = true) :
    c.dataType = .string ∧
      ∃ s, c.constant = .ok (.text s) ∧ c.pattern = .ok s ∧ '\x00' ∉ s.toList := by
  have harity : c.operator.arity = 1 ∧ c.operator.isOrdering = false := by
    revert hpattern
    cases c.operator <;> decide
  have htype : c.dataType = .string := by
    have haccepts := h.operator
    rw [Operator.accepts, harity.2, hpattern] at haccepts
    exact beq_iff_eq.mp haccepts
  refine ⟨htype, ?_⟩
  have hlength := h.arity.trans harity.1
  cases hoperand : c.operand with
  | none => rw [hoperand] at hlength; cases hlength
  | range low high => rw [hoperand] at hlength; cases hlength
  | single v =>
    obtain ⟨w, hw, hlegible, -⟩ := h.constants v (by rw [hoperand]; exact List.mem_cons_self)
    rw [htype] at hw
    cases v with
    | null => cases hw
    | _ =>
      cases hw
      refine ⟨_, ?_, by rw [pattern, hoperand], hlegible⟩
      rw [constant, hoperand]
      simp only [coerce, htype]
      rfl

-- ---------------------------------------------------------------------------
-- One leaf
-- ---------------------------------------------------------------------------

/-- It suffices to look at a null cell and at a cell that shows a value. -/
theorem Fits.agrees_of (h : c.Fits columns) {p : Predicate}
    {test : Option Value → Except FormulaError Bool} (hcompile : c.compile none = .ok p)
    (htest : ∀ ctx, c.isTrue (some ctx) = do
      let v ← c.cell (some ctx)
      c.checkType
      test v)
    (hnull : ∀ row, row c.field = (c.dataType, .null) → ∃ b, test none = .ok b ∧
      ∀ odd, c.operator.nullSafe odd = true → (p.truth row).Agrees odd b)
    (hvalue : ∀ row cell v, row c.field = (c.dataType, cell) → Cell.Shows c.dataType cell v →
      ∃ b, test (some v) = .ok b ∧ p.truth row = some b) :
    c.Agrees (columns.map (·.name)) := by
  refine ⟨p, h.compile_eq.trans hcompile, fun row ctx cell v hrow hcell hmeets => ?_⟩
  have htrue : c.isTrue (some ctx) = test v := by
    rw [htest, hcell, h.checkType_eq]
    rfl
  rw [htrue]
  cases hmeets with
  | null =>
    obtain ⟨b, hb, hagrees⟩ := hnull row hrow
    exact ⟨b, hb, hagrees⟩
  | value h =>
    obtain ⟨b, hb, htruth⟩ := hvalue row cell _ hrow h
    exact ⟨b, hb, fun odd _ => htruth ▸ Verdict.agrees_some odd b⟩

/-- A cell that shows a value is compared as the value is. -/
theorem slot_compare {t : DataType} {cell : Cell} {v w : Value} (h : Cell.Shows t cell v)
    (hw : w.Comparable t) :
    ∃ x, v.compare? w = some x ∧
      ∀ o, Slot.compare (t, cell) o (.ofValue w) = some (o.accepts x) := by
  refine ⟨_, h.compare? hw, fun o => ?_⟩
  rw [Slot.compare, Cell.compared_ofValue hw]
  dsimp only
  split
  · exact absurd rfl h.ne_null
  · next hnull => exact absurd hnull (Cell.ofConstant_ne_null hw)
  · rfl

theorem asDeclared_eq {cell : Cell} {v : Value} (h : Cell.Shows c.dataType cell v) :
    c.asDeclared v = v := by
  rw [asDeclared, h.coerce?, Option.getD_some]

theorem order_eq {v w : Value} {x : Ordering} (h : v.compare? w = some x) :
    c.order v w = .ok x := by
  rw [order, h]

theorem Fits.agrees_order (h : c.Fits columns) (harity : c.operator.arity = 1)
    (hanswers : c.operator.answersNull = false) {o : Comparator} {wanted : Ordering → Bool}
    (hwanted : ∀ x, o.accepts x = wanted x) (hcompile : c.compile none = c.orderTest o)
    (htest : ∀ ctx, c.isTrue (some ctx) = do
      let v ← c.cell (some ctx)
      c.checkType
      c.testOrder v wanted) :
    c.Agrees (columns.map (·.name)) := by
  obtain ⟨w, hconstant, hw⟩ := h.constant_eq harity
  refine h.agrees_of (p := .test (.compare c.field o w))
    (by rw [hcompile, orderTest, hconstant]; rfl) htest
    (fun row hrow => ⟨false, ?_, fun odd hsafe => ?_⟩) fun row cell v hrow hshows => ?_
  · rw [testOrder, hconstant]
    rfl
  · rw [Operator.even_of_nullSafe hanswers hsafe, Predicate.truth, Test.truth, hrow]
    exact Verdict.agrees_none
  · obtain ⟨x, hx, htruth⟩ := slot_compare hshows hw
    refine ⟨wanted x, ?_, ?_⟩
    · rw [testOrder, hconstant]
      simp only [bind, Except.bind, asDeclared_eq hshows, order_eq hx]
      rfl
    · rw [Predicate.truth, Test.truth, hrow, htruth, hwanted]

theorem Fits.agrees_range (h : c.Fits columns) (negated : Bool) (harity : c.operator.arity = 2)
    (hanswers : c.operator.answersNull = false)
    (hcompile : c.compile none = c.rangeTest negated)
    (htest : ∀ ctx, c.isTrue (some ctx) = do
      let v ← c.cell (some ctx)
      c.checkType
      c.testRange v (!negated)) :
    c.Agrees (columns.map (·.name)) := by
  obtain ⟨low, high, hrange, hlow, hhigh⟩ := h.range_eq harity
  refine h.agrees_of (p := .test (.between c.field negated low high))
    (by rw [hcompile, rangeTest, hrange]; rfl) htest
    (fun row hrow => ⟨false, ?_, fun odd hsafe => ?_⟩) fun row cell v hrow hshows => ?_
  · rw [testRange, hrange]
    rfl
  · have htruth : (Predicate.test (.between c.field negated low high)).truth row = none := by
      rw [Predicate.truth, Test.truth, hrow]
      cases negated <;> rfl
    rw [Operator.even_of_nullSafe hanswers hsafe, htruth]
    exact Verdict.agrees_none
  · obtain ⟨x, hx, hxTruth⟩ := slot_compare hshows hlow
    obtain ⟨y, hy, hyTruth⟩ := slot_compare hshows hhigh
    refine ⟨(x != .lt && y != .gt) == !negated, ?_, ?_⟩
    · rw [testRange, hrange]
      simp only [bind, Except.bind, asDeclared_eq hshows, order_eq hx, order_eq hy]
      cases x <;> rfl
    · rw [Predicate.truth, Test.truth, hrow, hxTruth, hyTruth]
      cases x <;> cases y <;> cases negated <;> rfl

theorem slot_isNull {t : DataType} {cell : Cell} {v : Value} (h : Cell.Reads t cell v) :
    Slot.isNull (t, cell) = false := by
  cases h <;> rfl

theorem Fits.agrees_equality (h : c.Fits columns) (expected : Bool)
    (harity : c.operator.arity = 1)
    (hoperator : c.operator.answersNull = expected ∧ c.operator.isOrdering = false)
    (hcompile : c.compile none = do
      return .join (if expected then .and else .or)
        [.compare c.field (if expected then .eq else .ne) (← c.constant), .null c.field expected])
    (htest : ∀ ctx, c.isTrue (some ctx) = do
      let v ← c.cell (some ctx)
      c.checkType
      c.testEqual v expected) :
    c.Agrees (columns.map (·.name)) := by
  obtain ⟨w, hconstant, hw⟩ := h.constant_eq harity
  refine h.agrees_of (by rw [hcompile, hconstant]; rfl) htest
    (fun row hrow => ⟨false, ?_, fun odd hsafe => ?_⟩) fun row cell v hrow hshows => ?_
  · rw [testEqual, hconstant]
    rfl
  · have hexpected : expected = true :=
      hoperator.1.symm.trans (Operator.answersNull_of_nullSafe hoperator.2 hsafe)
    subst hexpected
    have htruth : Slot.compare (c.dataType, .null) .eq (.ofValue w) = none := rfl
    simp only [Predicate.truth, Test.truth, hrow, htruth, List.map_cons, List.map_nil, if_true]
    exact Verdict.agrees_some odd false
  · obtain ⟨x, hx, htruth⟩ := slot_compare hshows hw
    refine ⟨(x == .eq) == expected, ?_, ?_⟩
    · rw [testEqual, hconstant]
      simp only [bind, Except.bind, asDeclared_eq hshows, Value.alike, hx]
      rfl
    · simp only [Predicate.truth, Test.truth, hrow, htruth, slot_isNull hshows.reads, List.map_cons,
        List.map_nil]
      cases x <;> cases expected <;> rfl

/-- The pattern for a text that is open at the marked ends. -/
def openPattern (openStart openEnd : Bool) (text : List Char) : List Char :=
  (if openStart then ['%'] else []) ++ escapePattern text ++ (if openEnd then ['%'] else [])

theorem openPattern_atStart (p cs : List Char) :
    Pattern.matchChars (openPattern false true p) cs = p.isPrefixOf cs :=
  Pattern.matchChars_atStart p cs

theorem openPattern_inside (p cs : List Char) :
    Pattern.matchChars (openPattern true true p) cs = Text.occursIn p cs :=
  Pattern.matchChars_inside p cs

theorem openPattern_atEnd (p cs : List Char) :
    Pattern.matchChars (openPattern true false p) cs = p.isSuffixOf cs := by
  have hopen : openPattern true false p = '%' :: escapePattern p := List.append_nil _
  rw [hopen, Pattern.matchChars_atEnd]

theorem not_mem_openPattern {text : List Char} (h : '\x00' ∉ text) (openStart openEnd : Bool) :
    '\x00' ∉ openPattern openStart openEnd text := by
  have hends : ∀ b : Bool, '\x00' ∉ (if b then ['%'] else []) := by decide
  simp only [openPattern, List.mem_append, not_or]
  exact ⟨⟨hends openStart, Pattern.not_mem_escapePattern h⟩, hends openEnd⟩

theorem likePattern_eq {openStart openEnd : Bool} {s : String} (h : c.pattern = .ok s) :
    c.likePattern openStart openEnd
      = .ok (String.ofList (openPattern openStart openEnd s.toList)) := by
  rw [likePattern, h]
  rfl

theorem Fits.agrees_pattern (h : c.Fits columns) (expected openStart openEnd : Bool)
    {relation : List Char → List Char → Bool} (hpattern : c.operator.isPattern = true)
    (hoperator : c.operator.answersNull = expected ∧ c.operator.isOrdering = false)
    (hmatch : ∀ p cs, Pattern.matchChars (openPattern openStart openEnd p) cs = relation p cs)
    (hcompile : c.compile none
      = if expected then c.likeTest openStart openEnd else c.notLikeTest openStart openEnd)
    (htest : ∀ ctx, c.isTrue (some ctx) = do
      let v ← c.cell (some ctx)
      c.checkType
      c.testText v relation expected) : c.Agrees (columns.map (·.name)) := by
  obtain ⟨htype, s, hconstant, htext, hnul⟩ := h.pattern_eq hpattern
  have hlike : c.compile none = .ok (.join (if expected then .and else .or)
      [.like c.field (!expected) (String.ofList (openPattern openStart openEnd s.toList)),
       .null c.field expected]) := by
    rw [hcompile, likeTest, notLikeTest, likePattern_eq htext]
    cases expected <;> rfl
  refine h.agrees_of hlike htest
    (fun row hrow => ⟨false, ?_, fun odd hsafe => ?_⟩) fun row cell v hrow hshows => ?_
  · rw [testText, hconstant]
    rfl
  · have hexpected : expected = true :=
      hoperator.1.symm.trans (Operator.answersNull_of_nullSafe hoperator.2 hsafe)
    subst hexpected
    simp only [Predicate.truth, Test.truth, hrow, List.map_cons, List.map_nil, if_true]
    exact Verdict.agrees_some odd false
  · rw [htype] at hrow hshows
    cases hshows with
    | @text text hclean =>
    have haccepts : Pattern.accepts (String.ofList (openPattern openStart openEnd s.toList)) text
        = relation s.toList text.toList := by
      rw [Pattern.accepts_ofList (not_mem_openPattern hnul _ _) hclean, hmatch]
    refine ⟨relation s.toList text.toList == expected, ?_, ?_⟩
    · rw [testText, hconstant]
      rfl
    · simp only [Predicate.truth, Test.truth, hrow, Slot.like, Cell.text?, Option.map_some,
        haccepts, List.map_cons, List.map_nil]
      cases relation s.toList text.toList <;> cases expected <;> rfl

theorem slot_compare_empty {t : DataType} {cell : Cell} {v : Value} (h : Cell.Reads t cell v)
    (o : Comparator) :
    Slot.compare (t, cell) o (.text "") = some (o.accepts (cell.order (.text ""))) := by
  rw [Slot.compare, Cell.compared_empty]
  cases h <;> rfl

theorem Fits.agrees_empty (h : c.Fits columns) (negated : Bool)
    (hoperator : c.operator.answersNull = negated ∧ c.operator.isOrdering = false)
    {test : Value → Bool} (hempty : ∀ v, test v = ((v.text? == some "") != negated))
    (hcompile : c.compile none = .ok (.join (if negated then .and else .or)
      [.compareEmpty c.field (if negated then .ne else .eq), .null c.field negated]))
    (htest : ∀ ctx, c.isTrue (some ctx) = do
      let v ← c.cell (some ctx)
      c.checkType
      .ok (v.any test)) :
    c.Agrees (columns.map (·.name)) := by
  refine h.agrees_of hcompile htest (fun row hrow => ⟨false, rfl, fun odd hsafe => ?_⟩)
    fun row cell v hrow hshows => ⟨test v, rfl, ?_⟩
  · have hnegated : negated = true :=
      hoperator.1.symm.trans (Operator.answersNull_of_nullSafe hoperator.2 hsafe)
    subst hnegated
    simp only [Predicate.truth, Test.truth, hrow, List.map_cons, List.map_nil, if_true]
    exact Verdict.agrees_some odd false
  · rw [hempty, ← hshows.reads.order_empty]
    simp only [Predicate.truth, Test.truth, hrow, slot_compare_empty hshows.reads,
      slot_isNull hshows.reads, List.map_cons, List.map_nil]
    cases cell.order (.text "") <;> cases negated <;> rfl

theorem Fits.agrees_null (h : c.Fits columns) (negated : Bool) {test : Option Value → Bool}
    (hnull : ∀ v, test v = (v.isSome == negated))
    (hcompile : c.compile none = .ok (.join .and [.null c.field negated]))
    (htest : ∀ ctx, c.isTrue (some ctx) = do
      let v ← c.cell (some ctx)
      c.checkType
      .ok (test v)) :
    c.Agrees (columns.map (·.name)) := by
  refine h.agrees_of hcompile htest (fun row hrow => ⟨!negated, ?_, fun odd _ => ?_⟩)
    fun row cell v hrow hshows => ⟨negated, ?_, ?_⟩
  · rw [hnull]
    cases negated <;> rfl
  · have htruth : (Predicate.join .and [.null c.field negated]).truth row = some (!negated) := by
      rw [Predicate.truth, List.map_cons, Test.truth, hrow]
      cases negated <;> rfl
    rw [htruth]
    exact Verdict.agrees_some odd _
  · rw [hnull]
    cases negated <;> rfl
  · rw [Predicate.truth, List.map_cons, Test.truth, hrow, slot_isNull hshows.reads]
    cases negated <;> rfl

/-- The predicate of a leaf that fits its table agrees with the comparison, by the kinds of
operators. -/
theorem Fits.agrees (h : c.Fits columns) : c.Agrees (columns.map (·.name)) := by
  obtain ⟨field, operator, dataType, operand⟩ := c
  cases operator with
  | equal => exact h.agrees_equality true rfl ⟨rfl, rfl⟩ rfl fun _ => rfl
  | notEqual => exact h.agrees_equality false rfl ⟨rfl, rfl⟩ rfl fun _ => rfl
  | beginsWith =>
    exact h.agrees_pattern true false true rfl ⟨rfl, rfl⟩ openPattern_atStart rfl fun _ => rfl
  | notBeginsWith =>
    exact h.agrees_pattern false false true rfl ⟨rfl, rfl⟩ openPattern_atStart rfl fun _ => rfl
  | contains =>
    exact h.agrees_pattern true true true rfl ⟨rfl, rfl⟩ openPattern_inside rfl fun _ => rfl
  | notContains =>
    exact h.agrees_pattern false true true rfl ⟨rfl, rfl⟩ openPattern_inside rfl fun _ => rfl
  | endsWith =>
    exact h.agrees_pattern true true false rfl ⟨rfl, rfl⟩ openPattern_atEnd rfl fun _ => rfl
  | notEndsWith =>
    exact h.agrees_pattern false true false rfl ⟨rfl, rfl⟩ openPattern_atEnd rfl fun _ => rfl
  | isEmpty =>
    exact h.agrees_empty false ⟨rfl, rfl⟩ (fun v => (Bool.bne_false _).symm) rfl fun _ => rfl
  | isNotEmpty =>
    exact h.agrees_empty true ⟨rfl, rfl⟩ (fun v => (Bool.bne_true _).symm) rfl fun _ => rfl
  | isNull => exact h.agrees_null false (fun v => by cases v <;> rfl) rfl fun _ => rfl
  | isNotNull => exact h.agrees_null true (fun v => by cases v <;> rfl) rfl fun _ => rfl
  | less => exact h.agrees_order rfl rfl (fun _ => rfl) rfl fun _ => rfl
  | lessOrEqual => exact h.agrees_order rfl rfl (fun _ => rfl) rfl fun _ => rfl
  | greater => exact h.agrees_order rfl rfl (fun _ => rfl) rfl fun _ => rfl
  | greaterOrEqual => exact h.agrees_order rfl rfl (fun _ => rfl) rfl fun _ => rfl
  | between => exact h.agrees_range false rfl rfl rfl fun _ => rfl
  | notBetween => exact h.agrees_range true rfl rfl rfl fun _ => rfl

end Comparison

end MailMerge
