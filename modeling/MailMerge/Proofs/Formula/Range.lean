import MailMerge.Proofs.Predicate.Leaf

/-!
# Ranges as pairs of bounds

A range asks for its upper bound only where the lower one is met, while two leaves on the bounds
are both asked. The answers are the same nonetheless: whether a value stands in an order to a bound
depends on the type of the bound, and both have one type. Only an upper bound that is no number
stands in no order to anything.
-/

namespace MailMerge

-- ---------------------------------------------------------------------------
-- Bounds of one type
-- ---------------------------------------------------------------------------

/-- Whatever stands in an order to a bound stands in one to every other bound of its type. -/
theorem Value.exists_compare? {v low high : Value} {t : DataType} (ht : t.isOrdered = true)
    (hlow : low.dataType? = some t) (hhigh : high.dataType? = some t)
    (hnan : ∀ d, high = .double d → d.isNaN = false) {x : Ordering}
    (h : v.compare? low = some x) : ∃ y, v.compare? high = some y := by
  have hdoubles : ∀ {a b c : Double}, a.compare? b = some x → c.isNaN = false →
      ∃ y, a.compare? c = some y := by
    intro a b c hab hc
    rw [Double.compare?] at hab
    split at hab
    · cases hab
    · next hnumbers =>
      rw [Bool.or_eq_true, not_or] at hnumbers
      exact ⟨_, by rw [Double.compare?, hc, Bool.or_false, if_neg hnumbers.1]⟩
  cases t with
  | boolean | string => cases ht
  | integer =>
    cases low <;> cases hlow
    cases high <;> cases hhigh
    cases v with
    | int i => exact ⟨_, rfl⟩
    | double d => exact hdoubles h (Double.isNaN_ofInt _)
    | _ => cases h
  | double =>
    cases low <;> cases hlow
    cases high <;> cases hhigh
    cases v with
    | int i => exact hdoubles h (hnan _ rfl)
    | double d => exact hdoubles h (hnan _ rfl)
    | _ => cases h
  | datetime =>
    cases low <;> cases hlow
    cases high <;> cases hhigh
    cases v with
    | time u => exact ⟨_, rfl⟩
    | text s =>
      obtain ⟨u, hu, -⟩ := Option.map_eq_some_iff.mp h
      exact ⟨_, by rw [Value.compare?, hu]; rfl⟩
    | _ => cases h

-- ---------------------------------------------------------------------------
-- Answers by order
-- ---------------------------------------------------------------------------

theorem toOption_bind {ε α β : Type} (x : Except ε α) (f : α → Except ε β) :
    (x >>= f).toOption = x.toOption.bind fun a => (f a).toOption := by
  cases x <;> rfl

namespace Operator

variable {o : Operator}

/-- What an operator says of a cell beside a bound, where the two stand in an order. The cell is
read as one of a type; of null nothing is true. -/
def beside? (o : Operator) (t : DataType) (bound : Value) : Option Value → Option Bool
  | none => some false
  | some v => (((t.coerce? v).getD v).compare? bound).map fun x => o.holds x x

/-- What an operator says of a cell within two bounds; below the lower one it does not look at the
upper one. -/
def within? (o : Operator) (t : DataType) (low high : Value) : Option Value → Option Bool
  | none => some false
  | some v => (((t.coerce? v).getD v).compare? low).bind fun x =>
    if x = .lt then some (o.holds .lt .lt)
    else (((t.coerce? v).getD v).compare? high).map fun y => o.holds x y

end Operator

namespace Comparison

variable {field : String} {o : Operator} {t : DataType} {row : Option Context}

theorem toOption_order (c : Comparison) (v w : Value) : (c.order v w).toOption = v.compare? w := by
  rw [order]
  cases v.compare? w <;> rfl

theorem toOption_checkType (ho : o.isOrdering = true) (operand : Operand) :
    (⟨field, o, t, operand⟩ : Comparison).checkType.toOption
      = if t.isOrdered then some () else none := by
  have haccepts : o.accepts t = t.isOrdered := by rw [Operator.accepts, if_pos ho]
  rw [checkType, haccepts]
  split <;> rfl

theorem toOption_coerce (c : Comparison) (v : Value) :
    (c.coerce v).toOption = c.dataType.coerce? v := by
  rw [coerce]
  cases c.dataType.coerce? v <;> rfl

theorem isTrue_of_cell_eq_error {c : Comparison} {e : FormulaError} (h : c.cell row = .error e) :
    c.isTrue row = .error e := by
  rw [isTrue, h]
  rfl

variable {cell : Option Value}

theorem toOption_testOrder {v : Value} (wanted : Ordering → Bool)
    (hwanted : ∀ x, wanted x = o.holds x x) :
    ((⟨field, o, t, .single v⟩ : Comparison).testOrder cell wanted).toOption
      = (t.coerce? v).bind fun bound => o.beside? t bound cell := by
  rw [testOrder, toOption_bind, constant, toOption_coerce]
  congr 1
  funext bound
  cases cell with
  | none => rfl
  | some v =>
    rw [toOption_bind, toOption_order, Operator.beside?, asDeclared]
    cases ((t.coerce? v).getD v).compare? bound with
    | none => rfl
    | some x => exact congrArg some (hwanted x)

/-- A leaf with one bound. -/
theorem toOption_isTrue_single (ho : o.isOrdering = true) (harity : o.arity = 1) {v : Value}
    (hcell : (⟨field, o, t, .single v⟩ : Comparison).cell row = .ok cell) :
    ((⟨field, o, t, .single v⟩ : Comparison).isTrue row).toOption
      = if t.isOrdered then (t.coerce? v).bind fun bound => o.beside? t bound cell else none := by
  rw [isTrue, hcell]
  change (checkType _ >>= _).toOption = _
  rw [toOption_bind, toOption_checkType ho]
  cases ht : t.isOrdered with
  | false => rfl
  | true =>
    cases o <;> cases ho <;> cases harity
    all_goals exact toOption_testOrder _ fun _ => rfl

theorem toOption_range (low high : Value) :
    (⟨field, o, t, .range low high⟩ : Comparison).range.toOption
      = (t.coerce? low).bind fun w => (t.coerce? high).map fun w' => (w, w') := by
  rw [range, toOption_bind, toOption_coerce]
  congr 1
  funext w
  rw [toOption_bind, toOption_coerce]
  cases t.coerce? high <;> rfl

theorem toOption_testRange {low high : Value} (expected : Bool)
    (hexpected : ∀ x y, o.holds x y = ((x != .lt && y != .gt) == expected)) :
    ((⟨field, o, t, .range low high⟩ : Comparison).testRange cell expected).toOption
      = (t.coerce? low).bind fun w => (t.coerce? high).bind fun w' => o.within? t w w' cell := by
  rw [testRange, toOption_bind, toOption_range, Option.bind_assoc]
  congr 1
  funext w
  rw [Option.bind_map]
  congr 1
  funext w'
  cases cell with
  | none => rfl
  | some v =>
    simp only [Function.comp, toOption_bind, toOption_order, Operator.within?, asDeclared, hexpected]
    cases ((t.coerce? v).getD v).compare? w with
    | none => rfl
    | some x =>
      cases x with
      | lt => rfl
      | eq | gt =>
        change (order _ _ w' >>= _).toOption = Option.map _ _
        rw [toOption_bind, toOption_order]
        cases ((t.coerce? v).getD v).compare? w' <;> rfl

/-- A leaf with two bounds. -/
theorem toOption_isTrue_range (harity : o.arity = 2) {low high : Value}
    (hcell : (⟨field, o, t, .range low high⟩ : Comparison).cell row = .ok cell) :
    ((⟨field, o, t, .range low high⟩ : Comparison).isTrue row).toOption
      = if t.isOrdered then
          (t.coerce? low).bind fun w => (t.coerce? high).bind fun w' => o.within? t w w' cell
        else none := by
  rw [isTrue, hcell]
  change (checkType _ >>= _).toOption = _
  have ho : o.isOrdering = true := by
    rcases Operator.eq_of_arity_two harity with rfl | rfl <;> rfl
  rw [toOption_bind, toOption_checkType ho]
  cases ht : t.isOrdered with
  | false => rfl
  | true =>
    rcases Operator.eq_of_arity_two harity with rfl | rfl
    · exact toOption_testRange true fun _ _ => (beq_true _).symm
    · exact toOption_testRange false fun _ _ => (beq_false _).symm

end Comparison

-- ---------------------------------------------------------------------------
-- Two leaves for one
-- ---------------------------------------------------------------------------

namespace Operator

variable {o o₁ o₂ : Operator} {kind : Conjunction} {t : DataType} {low high : Value}

/-- A range operator says what two operators say of its bounds, joined. -/
def Splits (o o₁ o₂ : Operator) (kind : Conjunction) : Prop :=
  ∀ x y, o.holds x y = Formula.joinTruth kind false [o₁.holds x x, o₂.holds y y]

theorem splits_between : Splits .between .greaterOrEqual .lessOrEqual .and := by
  intro x y
  cases x <;> cases y <;> rfl

theorem splits_notBetween : Splits .notBetween .less .greater .or := by
  intro x y
  cases x <;> cases y <;> rfl

/-- Below its lower bound a range says the same whatever the order to the upper one is. -/
theorem holds_lt (o : Operator) (y : Ordering) : o.holds .lt y = o.holds .lt .lt := by
  cases o <;> rfl

/-- The order to the upper bound can be asked for wherever that to the lower one is known. -/
theorem within?_eq (hsplits : o.Splits o₁ o₂ kind)
    (ht : t.isOrdered = true) (hlow : low.dataType? = some t) (hhigh : high.dataType? = some t)
    (hnan : ∀ d, high = .double d → d.isNaN = false) (cell : Option Value) :
    o.within? t low high cell = (o₁.beside? t low cell).bind fun a =>
      (o₂.beside? t high cell).map fun b => Formula.joinTruth kind false [a, b] := by
  cases cell with
  | none => cases kind <;> rfl
  | some v =>
    rw [within?, beside?, beside?]
    cases hx : ((t.coerce? v).getD v).compare? low with
    | none => rfl
    | some x =>
      obtain ⟨y, hy⟩ := Value.exists_compare? ht hlow hhigh hnan hx
      simp only [hy, Option.bind_some, Option.map_some, ← hsplits x y]
      split
      · next hlt => rw [hlt, holds_lt o y]
      · rfl

theorem isSome_within? (o o' : Operator) (cell : Option Value) :
    (o.within? t low high cell).isSome = (o'.within? t low high cell).isSome := by
  cases cell with
  | none => rfl
  | some v =>
    rw [within?, within?]
    cases ((t.coerce? v).getD v).compare? low with
    | none => rfl
    | some x =>
      rw [Option.bind_some, Option.bind_some]
      split
      · rfl
      · rw [Option.isSome_map, Option.isSome_map]

end Operator

namespace Formula

open Comparison

variable {field : String} {o o₁ o₂ : Operator} {kind : Conjunction} {t : DataType}
  {row : Option Context} {low high : Value}

theorem toOption_isTrue_pair (p q : Comparison) :
    ((Formula.group kind false [.leaf p, .leaf q]).isTrue row).toOption
      = (p.isTrue row).toOption.bind fun a => (q.isTrue row).toOption.map fun b =>
          joinTruth kind false [a, b] := by
  rw [isTrue, fold, foldEach, foldEach, foldEach, fold, fold]
  cases p.isTrue row with
  | error e => rfl
  | ok a => cases q.isTrue row <;> rfl

/-- A range and the group of two leaves on its bounds. -/
theorem toOption_isTrue_range_eq (harity : o.arity = 2) (harity₁ : o₁.arity = 1)
    (harity₂ : o₂.arity = 1) (ho₁ : o₁.isOrdering = true) (ho₂ : o₂.isOrdering = true)
    (hsplits : o.Splits o₁ o₂ kind)
    (hnan : ∀ d, t.coerce? high = some (.double d) → d.isNaN = false) :
    ((Formula.leaf ⟨field, o, t, .range low high⟩).isTrue row).toOption
      = ((Formula.group kind false [.leaf ⟨field, o₁, t, .single low⟩,
          .leaf ⟨field, o₂, t, .single high⟩]).isTrue row).toOption := by
  rw [toOption_isTrue_pair]
  change (Comparison.isTrue row _).toOption = _
  cases hcell : (⟨field, o, t, .range low high⟩ : Comparison).cell row with
  | error e =>
    rw [isTrue_of_cell_eq_error hcell,
      isTrue_of_cell_eq_error (c := ⟨field, o₁, t, .single low⟩) hcell]
    rfl
  | ok cell =>
    rw [toOption_isTrue_range harity hcell, toOption_isTrue_single ho₁ harity₁ hcell,
      toOption_isTrue_single ho₂ harity₂ hcell]
    cases ht : t.isOrdered with
    | false => rfl
    | true =>
      simp only [if_true]
      cases hlow : t.coerce? low with
      | none => rfl
      | some w =>
        cases hhigh : t.coerce? high with
        | none => simp
        | some w' =>
          have htypes := Value.dataType?_of_coerce? hlow
          have htypes' := Value.dataType?_of_coerce? hhigh
          exact Operator.within?_eq hsplits ht htypes htypes'
            (fun d hd => hnan d (hd ▸ hhigh)) cell

/-- Range operators have an answer on the same rows. -/
theorem isSome_isTrue_range (o o' : Operator) (harity : o.arity = 2) (harity' : o'.arity = 2) :
    ((Formula.leaf ⟨field, o, t, .range low high⟩).isTrue row).toOption.isSome
      = ((Formula.leaf ⟨field, o', t, .range low high⟩).isTrue row).toOption.isSome := by
  change (Comparison.isTrue row _).toOption.isSome = (Comparison.isTrue row _).toOption.isSome
  cases hcell : (⟨field, o, t, .range low high⟩ : Comparison).cell row with
  | error e =>
    rw [isTrue_of_cell_eq_error hcell,
      isTrue_of_cell_eq_error (c := ⟨field, o', t, .range low high⟩) hcell]
  | ok cell =>
    rw [toOption_isTrue_range harity hcell, toOption_isTrue_range harity' hcell]
    split
    · simp only [Option.isSome_bind, Operator.isSome_within? o o']
    · rfl

theorem exists_eq_ok_iff {ε α : Type} {x : Except ε α} : (∃ a, x = .ok a) ↔ x.toOption.isSome := by
  cases x <;> simp [Except.toOption]

/-- A range says of a row what a leaf on its lower bound and one on its upper bound say together,
and the opposite range what one of two leaves beyond the bounds says. Each has an answer exactly
where the two leaves have one, whatever the row holds and be the bounds in order or not. Only the
upper bound must not be a double that is no number: a value below the lower bound is not compared
with it by a range. -/
theorem isTrue_range_iff (field : String) (t : DataType) (low high : Value) (row : Option Context)
    (hnan : ∀ d, t.coerce? high = some (.double d) → d.isNaN = false) :
    (∀ b, (Formula.leaf ⟨field, .between, t, .range low high⟩).isTrue row = .ok b ↔
      (Formula.and [.leaf ⟨field, .greaterOrEqual, t, .single low⟩,
        .leaf ⟨field, .lessOrEqual, t, .single high⟩]).isTrue row = .ok b) ∧
    (∀ b, (Formula.leaf ⟨field, .notBetween, t, .range low high⟩).isTrue row = .ok b ↔
      (Formula.or [.leaf ⟨field, .less, t, .single low⟩,
        .leaf ⟨field, .greater, t, .single high⟩]).isTrue row = .ok b) ∧
    ((∃ b, (Formula.leaf ⟨field, .between, t, .range low high⟩).isTrue row = .ok b) ↔
      ∃ b, (Formula.leaf ⟨field, .notBetween, t, .range low high⟩).isTrue row = .ok b) := by
  refine ⟨fun b => ?_, fun b => ?_, ?_⟩
  · rw [← toOption_eq_some_iff, ← toOption_eq_some_iff, Formula.and]
    rw [toOption_isTrue_range_eq rfl rfl rfl rfl rfl Operator.splits_between hnan]
  · rw [← toOption_eq_some_iff, ← toOption_eq_some_iff, Formula.or]
    rw [toOption_isTrue_range_eq rfl rfl rfl rfl rfl Operator.splits_notBetween hnan]
  · rw [exists_eq_ok_iff, exists_eq_ok_iff, isSome_isTrue_range .between .notBetween rfl rfl]

/-- A mark that was typed as a text, within two bounds and beyond them when they change places. -/
theorem isTrue_range_iff_mark :
    ((∀ d, DataType.double.coerce? (.int 10) = some (.double d) → d.isNaN = false) ∧
      ∀ d, DataType.double.coerce? (.text " 2.5") = some (.double d) → d.isNaN = false) ∧
    (Formula.leaf ⟨"mark", .between, .double, .range (.text " 2.5") (.int 10)⟩).isTrue
      (some [("mark", .text "7e0")]) = .ok true ∧
    (Formula.leaf ⟨"mark", .notBetween, .double, .range (.int 10) (.text " 2.5")⟩).isTrue
      (some [("mark", .text "7e0")]) = .ok true ∧
    ∃ b, (Formula.leaf ⟨"mark", .notBetween, .double, .range (.int 10) (.text " 2.5")⟩).isTrue
      (some [("mark", .null)]) = .ok b := by
  have hten : ∀ d, DataType.double.coerce? (.int 10) = some (.double d) → d.isNaN = false := by
    intro d hd
    rw [← Value.double.inj (Option.some.inj hd)]
    exact Double.isNaN_ofInt _
  have hhalf : ∀ d, DataType.double.coerce? (.text " 2.5") = some (.double d) →
      d.isNaN = false := by
    have hread : DataType.double.coerce? (.text " 2.5") = some (.double ⟨0x4004000000000000⟩) := by
      decide +kernel
    intro d hd
    cases hread.symm.trans hd
    rfl
  obtain ⟨hin, -, -⟩ := isTrue_range_iff "mark" .double (.text " 2.5") (.int 10)
    (some [("mark", .text "7e0")]) hten
  obtain ⟨-, hout, -⟩ := isTrue_range_iff "mark" .double (.int 10) (.text " 2.5")
    (some [("mark", .text "7e0")]) hhalf
  obtain ⟨-, -, hnull⟩ := isTrue_range_iff "mark" .double (.int 10) (.text " 2.5")
    (some [("mark", .null)]) hhalf
  refine ⟨⟨hten, hhalf⟩, (hin true).mpr ?_, (hout true).mpr ?_, hnull.mp ⟨false, ?_⟩⟩
  · decide +kernel
  · decide +kernel
  · decide +kernel

/-- Beside an upper bound that is no number a range is false of what is below its lower bound, and
the two leaves have no answer. -/
example :
    (Formula.leaf ⟨"mark", .between, .double, .range (.int 10) (.text "nan")⟩).isTrue
      (some [("mark", .int 7)]) = .ok false ∧
    (Formula.and [.leaf ⟨"mark", .greaterOrEqual, .double, .single (.int 10)⟩,
      .leaf ⟨"mark", .lessOrEqual, .double, .single (.text "nan")⟩]).isTrue
      (some [("mark", .int 7)]) = .error (.incomparable "mark" "double" .double) := by
  decide +kernel

end Formula

end MailMerge
