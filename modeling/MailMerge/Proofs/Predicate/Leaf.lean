import MailMerge.Proofs.Predicate.Agreement
import MailMerge.Proofs.Predicate.Renaming

/-!
# Leaves by themselves

What a leaf is of a row it is of the value in its column, and whether its predicate selects the
row is a matter of the slot of the column. The name of the column does not matter, so a leaf may
be asked about one value and one slot alone.
-/

namespace MailMerge

theorem toOption_eq_some_iff {ε α : Type} {x : Except ε α} {a : α} :
    x.toOption = some a ↔ x = .ok a := by
  cases x <;> simp [Except.toOption]

/-- The operators that take no constant. -/
theorem Operator.eq_of_arity_zero {o : Operator} (h : o.arity = 0) :
    o = .isEmpty ∨ o = .isNotEmpty ∨ o = .isNull ∨ o = .isNotNull := by
  cases o <;> simp_all [arity]

/-- The operators that take two constants. -/
theorem Operator.eq_of_arity_two {o : Operator} (h : o.arity = 2) :
    o = .between ∨ o = .notBetween := by
  cases o <;> simp_all [arity]

namespace Comparison

/-- The leaf on a column without a name. -/
def nameless (c : Comparison) : Comparison := { c with field := "" }

/-- The truth of a leaf of a value, where it has one. -/
def answer? (c : Comparison) (v : Value) : Option Bool :=
  (c.nameless.isTrue (some [("", v)])).toOption

/-- Whether the predicate of a leaf selects a row with a slot in its column. -/
def selects (c : Comparison) (slot : Slot) : Bool :=
  match c.nameless.compile (some [""]) with
  | .ok p => Predicate.selects (some p) fun _ => slot
  | .error _ => false

variable {c : Comparison} {names : List String} {p : Predicate}

/-- A row is asked only for the value of the column. -/
theorem toOption_isTrue {ctx : Context} {v : Value} (h : ctx.get? c.field = some v) :
    (c.isTrue (some ctx)).toOption = c.answer? v := by
  have hrow : Context.get? [("", v)] "" = ctx.get? c.field := by
    rw [h]
    rfl
  have hname : (c.renamed fun _ => "").isTrue (some [("", v)])
      = (c.isTrue (some ctx)).mapError (.renamed fun _ => "") := by
    rw [c.isTrue_renamed_of hrow, Formula.translate_id]
  have hanswer : c.answer? v = ((c.renamed fun _ => "").isTrue (some [("", v)])).toOption := rfl
  rw [hanswer, hname]
  cases c.isTrue (some ctx) <;> rfl

-- ---------------------------------------------------------------------------
-- Predicates
-- ---------------------------------------------------------------------------

theorem checkColumn_of_compile {columns : Option (List String)} (h : c.compile columns = .ok p) :
    c.checkColumn columns = .ok () := by
  obtain ⟨_, hcolumn, -⟩ := exists_of_bind_eq_ok h
  exact hcolumn

/-- The predicate of a leaf on another column that is known. -/
theorem compile_renamed_eq_ok {columns columns' : Option (List String)}
    (h : c.compile columns = .ok p) (σ : String → String)
    (hcolumn : (c.renamed σ).checkColumn columns' = .ok ()) :
    (c.renamed σ).compile columns' = .ok (p.renamed σ) := by
  rw [c.compile_renamed_of (by rw [hcolumn, checkColumn_of_compile h]; rfl), h]
  rfl

/-- The predicate of a leaf asks a row for nothing but the slot of its column: it is the same
with all columns called like that one. -/
theorem truth_compile {columns : Option (List String)} (h : c.compile columns = .ok p)
    (row : String → Slot) : p.truth row = p.truth fun _ => row c.field := by
  have hcompile : c.compile columns = .ok (p.renamed fun _ => c.field) :=
    compile_renamed_eq_ok h (fun _ => c.field) (checkColumn_of_compile h)
  have hsame : p.renamed (fun _ => c.field) = p := Except.ok.inj (hcompile.symm.trans h)
  calc p.truth row
      = (p.renamed fun _ => c.field).truth row := by rw [hsame]
    _ = p.truth fun _ => row c.field := Predicate.truth_renamed (fun _ => rfl) p

/-- Whether a row is selected is a matter of the slot of the column. -/
theorem selects_compile {columns : Option (List String)} (hp : c.compile columns = .ok p)
    (row : String → Slot) : Predicate.selects (some p) row = c.selects (row c.field) := by
  have hnameless : c.nameless.compile (some [""]) = .ok (p.renamed fun _ => "") :=
    compile_renamed_eq_ok hp (fun _ => "") rfl
  have hslot : (p.renamed fun _ => "").truth (fun _ => row c.field)
      = p.truth fun _ => row c.field := Predicate.truth_renamed (fun _ => rfl) p
  rw [selects, hnameless]
  simp only [Predicate.selects, hslot, truth_compile hp row]

-- ---------------------------------------------------------------------------
-- Constants
-- ---------------------------------------------------------------------------

/-- A leaf with as many constants as its operator takes, each of which can be read as one of
the declared type. -/
structure Given (c : Comparison) : Prop where
  arity : c.operand.values.length = c.operator.arity
  onClock : ∀ v ∈ c.operand.values, v.OnClock
  constants : ∀ v ∈ c.operand.values, (c.dataType.coerce? v).isSome

instance (c : Comparison) : Decidable c.Given :=
  decidable_of_iff (c.operand.values.length = c.operator.arity ∧
      (∀ v ∈ c.operand.values, v.OnClock) ∧ ∀ v ∈ c.operand.values, (c.dataType.coerce? v).isSome)
    ⟨fun ⟨harity, hclock, hconstants⟩ => ⟨harity, hclock, hconstants⟩,
      fun h => ⟨h.arity, h.onClock, h.constants⟩⟩

/-- What the constants of a leaf are read as; a single one is both bounds. -/
inductive Bounds (c : Comparison) : Value → Value → Prop
  | single {v w : Value} (harity : c.operator.arity = 1) (hoperand : c.operand = .single v)
    (hw : c.dataType.coerce? v = some w) : Bounds c w w
  | range {v v' low high : Value} (harity : c.operator.arity = 2)
    (hoperand : c.operand = .range v v') (hlow : c.dataType.coerce? v = some low)
    (hhigh : c.dataType.coerce? v' = some high) : Bounds c low high

variable {low high : Value}

theorem Given.bounds (h : c.Given) (hne : c.operator.arity ≠ 0) :
    ∃ low high, c.Bounds low high := by
  obtain ⟨harity, -, hconstants⟩ := h
  cases hoperand : c.operand with
  | none =>
    rw [hoperand] at harity
    exact absurd harity.symm hne
  | single v =>
    rw [hoperand] at harity hconstants
    obtain ⟨w, hw⟩ := Option.isSome_iff_exists.mp (hconstants v List.mem_cons_self)
    exact ⟨w, w, .single harity.symm hoperand hw⟩
  | range v v' =>
    rw [hoperand] at harity hconstants
    obtain ⟨low, hlow⟩ := Option.isSome_iff_exists.mp (hconstants v List.mem_cons_self)
    obtain ⟨high, hhigh⟩ := Option.isSome_iff_exists.mp
      (hconstants v' (List.mem_cons_of_mem _ List.mem_cons_self))
    exact ⟨low, high, .range harity.symm hoperand hlow hhigh⟩

/-- What holds of all constants holds of the bounds. -/
theorem Bounds.forall (h : c.Bounds low high) {P : Value → Prop}
    (hP : ∀ v ∈ c.operand.values, ∀ w, c.dataType.coerce? v = some w → P w) : P low ∧ P high := by
  cases h with
  | single _ hoperand hw =>
    rw [hoperand] at hP
    exact ⟨hP _ List.mem_cons_self _ hw, hP _ List.mem_cons_self _ hw⟩
  | range _ hoperand hlow hhigh =>
    rw [hoperand] at hP
    exact ⟨hP _ List.mem_cons_self _ hlow,
      hP _ (List.mem_cons_of_mem _ List.mem_cons_self) _ hhigh⟩

theorem constant_eq {v w : Value} (hoperand : c.operand = .single v)
    (hw : c.dataType.coerce? v = some w) : c.constant = .ok w := by
  simp only [constant, hoperand, coerce, hw]

theorem range_eq {v v' : Value} (hoperand : c.operand = .range v v')
    (hlow : c.dataType.coerce? v = some low) (hhigh : c.dataType.coerce? v' = some high) :
    c.range = .ok (low, high) := by
  simp only [range, hoperand, coerce, hlow, hhigh, bind, Except.bind, pure, Except.pure]

theorem pattern_eq {v w : Value} (hoperand : c.operand = .single v)
    (hw : c.dataType.coerce? v = some w) : c.pattern = .ok v.display := by
  rw [pattern, hoperand]
  cases v with
  | null => cases h : c.dataType <;> rw [h] at hw <;> cases hw
  | _ => rfl

/-- A leaf with its constants has a predicate on every table with its column. -/
theorem Given.compile_eq_ok (h : c.Given) (hfield : c.field ∈ names) :
    ∃ p, c.compile (some names) = .ok p := by
  have hcolumn : c.checkColumn (some names) = .ok () := by simp [checkColumn, hfield]
  rw [compile, hcolumn]
  by_cases harity : c.operator.arity = 0
  · rcases Operator.eq_of_arity_zero harity with hop | hop | hop | hop
    all_goals
      rw [hop]
      exact ⟨_, rfl⟩
  · obtain ⟨low, high, hbounds⟩ := h.bounds harity
    cases hbounds with
    | single harity hoperand hw =>
      have hconstant := constant_eq hoperand hw
      have hpattern := pattern_eq hoperand hw
      cases hop : c.operator
      case isEmpty | isNotEmpty | isNull | isNotNull | between | notBetween =>
        rw [hop] at harity
        cases harity
      all_goals
        simp only [bind, Except.bind, orderTest, likeTest, notLikeTest, likePattern, hconstant,
          hpattern, pure, Except.pure]
        exact ⟨_, rfl⟩
    | range harity hoperand hlow hhigh =>
      have hrange := range_eq hoperand hlow hhigh
      rcases Operator.eq_of_arity_two harity with hop | hop
      all_goals
        simp only [hop, bind, Except.bind, rangeTest, hrange, pure, Except.pure]
        exact ⟨_, rfl⟩

end Comparison

-- ---------------------------------------------------------------------------
-- Comparing with constants
-- ---------------------------------------------------------------------------

namespace Operator

/-- Operators that compare a value with constants by their order. -/
def isComparison (o : Operator) : Bool := o.isOrdering || o == .equal || o == .notEqual

/-- What a comparison makes of the orders of a value beside a lower and an upper constant. -/
def holds (o : Operator) (x y : Ordering) : Bool :=
  match o with
  | .equal => x == .eq
  | .notEqual => x != .eq
  | .less => x == .lt
  | .lessOrEqual => x != .gt
  | .greater => x == .gt
  | .greaterOrEqual => x != .lt
  | .between => x != .lt && y != .gt
  | .notBetween => !(x != .lt && y != .gt)
  | _ => false

theorem beq_congr {x y z : Ordering} (h : x = z ↔ y = z) : (x == z) = (y == z) := by
  rw [Bool.eq_iff_iff, beq_iff_eq, beq_iff_eq, h]

/-- The operators that compare with one constant. -/
theorem eq_of_isComparison {o : Operator} (h : o.isComparison = true) (harity : o.arity = 1) :
    (o = .equal ∨ o = .notEqual) ∨
      o = .less ∨ o = .lessOrEqual ∨ o = .greater ∨ o = .greaterOrEqual := by
  cases o <;> simp_all [arity, isComparison, isOrdering]

/-- The operators that compare without asking for the order. -/
theorem eq_of_not_isOrdering {o : Operator} (h : o.isComparison = true)
    (hordering : o.isOrdering = false) : o = .equal ∨ o = .notEqual := by
  cases o <;> simp_all [isComparison, isOrdering]

theorem arity_ne_zero_of_isComparison {o : Operator} (h : o.isComparison = true) :
    o.arity ≠ 0 := by
  revert h
  cases o <;> decide

end Operator

namespace Comparison

variable {c : Comparison} {low high v : Value} {x y : Ordering}

theorem answer?_of_cell {r : Except FormulaError Bool} (hv : v ≠ .null)
    (h : ∀ ctx, c.nameless.cell (some ctx) = .ok (some v) → c.nameless.isTrue (some ctx) = r) :
    c.answer? v = r.toOption := by
  have hcell : c.nameless.cell (some [("", v)]) = .ok (some v) := by
    cases v with
    | null => exact absurd rfl hv
    | _ => rfl
  rw [answer?, h _ hcell]

/-- A leaf is true of a value that stands beside its constants as the operator asks. -/
theorem Bounds.answer?_eq (h : c.Bounds low high) (hcomparison : c.operator.isComparison = true)
    (haccepts : c.operator.accepts c.dataType = true) (hv : v ≠ .null)
    (hx : (c.asDeclared v).compare? low = some x) (hy : (c.asDeclared v).compare? high = some y) :
    c.answer? v = some (c.operator.holds x y) := by
  refine answer?_of_cell (r := .ok (c.operator.holds x y)) hv fun ctx hcell => ?_
  have htype : c.nameless.checkType = .ok () := if_pos haccepts
  have hdeclared : c.nameless.asDeclared v = c.asDeclared v := rfl
  have horder : ∀ {w o}, (c.asDeclared v).compare? w = some o →
      c.nameless.order (c.asDeclared v) w = .ok o := order_eq
  have hoperator : c.nameless.operator = c.operator := rfl
  rw [isTrue, hcell, hoperator]
  cases h with
  | single harity hoperand hw =>
    have hconstant : c.nameless.constant = .ok _ := constant_eq hoperand hw
    rcases Operator.eq_of_isComparison hcomparison harity with
      (hop | hop) | hop | hop | hop | hop
    all_goals
      simp only [hop, bind, Except.bind, htype, testEqual, testOrder, hconstant, hdeclared,
        horder hx, Value.alike, hx, Operator.holds, pure, Except.pure]
    all_goals cases x <;> rfl
  | range harity hoperand hlow hhigh =>
    have hrange : c.nameless.range = .ok _ := range_eq hoperand hlow hhigh
    rcases Operator.eq_of_arity_two harity with hop | hop
    all_goals
      simp only [hop, bind, Except.bind, htype, testRange, hrange, hdeclared, horder hx, horder hy,
        Operator.holds, pure, Except.pure]
    all_goals cases x <;> cases y <;> rfl

/-- Of a value that does not compare with its constants a leaf has no truth if it asks for their
order; else the value is not equal to them. -/
theorem Bounds.answer?_of_incomparable (h : c.Bounds low high)
    (hcomparison : c.operator.isComparison = true)
    (haccepts : c.operator.accepts c.dataType = true) (hv : v ≠ .null)
    (hx : (c.asDeclared v).compare? low = none) :
    c.answer? v = if c.operator.isOrdering then none else some (c.operator == .notEqual) := by
  have htype : c.nameless.checkType = .ok () := if_pos haccepts
  have hdeclared : c.nameless.asDeclared v = c.asDeclared v := rfl
  let failure : FormulaError := .incomparable "" (c.asDeclared v).kindName c.dataType
  have horder : c.nameless.order (c.asDeclared v) low = .error failure := by
    rw [order, hx]
    rfl
  have hoperator : c.nameless.operator = c.operator := rfl
  cases h with
  | single harity hoperand hw =>
    have hconstant : c.nameless.constant = .ok _ := constant_eq hoperand hw
    rcases Operator.eq_of_isComparison hcomparison harity with hequality | horders
    · rcases hequality with hop | hop
      all_goals
        rw [hop]
        refine answer?_of_cell (r := .ok _) hv fun ctx hcell => ?_
        rw [isTrue, hcell, hoperator, hop]
        simp only [bind, Except.bind, htype, testEqual, hconstant, hdeclared, Value.alike, hx,
          pure, Except.pure]
        rfl
    · rcases horders with hop | hop | hop | hop
      all_goals
        rw [hop]
        refine answer?_of_cell (r := .error failure) hv fun ctx hcell => ?_
        rw [isTrue, hcell, hoperator, hop]
        simp only [bind, Except.bind, htype, testOrder, hconstant, hdeclared, horder]
  | range harity hoperand hlow hhigh =>
    have hrange : c.nameless.range = .ok _ := range_eq hoperand hlow hhigh
    rcases Operator.eq_of_arity_two harity with hop | hop
    all_goals
      rw [hop]
      refine answer?_of_cell (r := .error failure) hv fun ctx hcell => ?_
      rw [isTrue, hcell, hoperator, hop]
      simp only [bind, Except.bind, htype, testRange, hrange, hdeclared, horder]

/-- A leaf has no truth if its operator does not accept the declared type. -/
theorem answer?_of_not_accepts (h : c.operator.accepts c.dataType = false) (v : Value) :
    c.answer? v = none := by
  have htype : c.nameless.checkType = .error (.typeNotAllowed c.operator c.dataType) :=
    if_neg (Bool.eq_false_iff.mp h)
  rw [answer?, isTrue, htype]
  cases c.nameless.cell (some [("", v)]) <;> rfl

/-- A predicate selects a row whose cell stands beside its constants as the operator asks. -/
theorem Bounds.selects_eq (h : c.Bounds low high) (hcomparison : c.operator.isComparison = true)
    {slot : Slot} (hnull : slot.isNull = false)
    (hx : ∀ o, slot.compare o (.ofValue low) = some (o.accepts x))
    (hy : ∀ o, slot.compare o (.ofValue high) = some (o.accepts y)) :
    c.selects slot = c.operator.holds x y := by
  have hoperator : c.nameless.operator = c.operator := rfl
  have hcolumn : c.nameless.checkColumn (some [""]) = .ok () := rfl
  rw [selects, compile, hcolumn, hoperator]
  cases h with
  | single harity hoperand hw =>
    have hconstant : c.nameless.constant = .ok _ := constant_eq hoperand hw
    rcases Operator.eq_of_isComparison hcomparison harity with
      (hop | hop) | hop | hop | hop | hop
    all_goals
      simp only [hop, bind, Except.bind, orderTest, hconstant, pure, Except.pure,
        Predicate.selects, Predicate.truth, Test.truth, List.map_cons, List.map_nil, hx, hnull]
    all_goals cases x <;> rfl
  | range harity hoperand hlow hhigh =>
    have hrange : c.nameless.range = .ok _ := range_eq hoperand hlow hhigh
    rcases Operator.eq_of_arity_two harity with hop | hop
    all_goals
      simp only [hop, bind, Except.bind, rangeTest, hrange, pure, Except.pure, Predicate.selects,
        Predicate.truth, Test.truth, hx, hy]
    all_goals cases x <;> cases y <;> rfl

end Comparison

/-- A cell is compared with what its column makes of a constant. -/
theorem Slot.compare_eq {t : DataType} {cell : Cell} (hcell : cell ≠ .null) {w : Value}
    (hw : (Cell.ofValue w).compared t ≠ .null) (o : Comparator) :
    Slot.compare (t, cell) o (.ofValue w)
      = some (o.accepts (cell.order ((Cell.ofValue w).compared t))) := by
  rw [Slot.compare]
  dsimp only
  split
  · exact absurd rfl hcell
  · next hnull => exact absurd hnull hw
  · rfl

end MailMerge
