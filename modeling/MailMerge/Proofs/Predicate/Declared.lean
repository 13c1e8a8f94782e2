import MailMerge.Proofs.Double.Rounding
import MailMerge.Proofs.Store.Filtered
import MailMerge.Proofs.Store.Placement
import MailMerge.Proofs.Table.Dated

/-!
# Leaves that declare another type

A leaf may declare another type than its column has. A formula then reads the value as one of the
declared type where it can; a table compares the cell as the column would. For some pairs of types
and some operators both come to the same, for all values and constants; for every other there are
a value and constants for which they do not.
-/

namespace MailMerge

-- ---------------------------------------------------------------------------
-- Cells and what is read back
-- ---------------------------------------------------------------------------

/-- A value of a column's type is stored as a cell from which something is read back, unless it is
no number. -/
theorem Cell.reads_stored {t : DataType} {v : Value} (hv : v.HasType t)
    (hnull : ((Cell.ofValue v).stored t).toValue t ≠ .null) :
    Reads t ((Cell.ofValue v).stored t) (((Cell.ofValue v).stored t).toValue t) := by
  obtain ⟨htype, hclock⟩ := hv
  cases v with
  | null => cases htype
  | bool b =>
    cases htype
    cases b
    · exact .truth false
    · exact .truth true
  | int i =>
    cases htype
    exact .int i
  | text s =>
    cases htype
    exact .text s
  | time u =>
    cases htype
    rw [stored_write, toValue_write hclock]
    split
    · exact .time u
    · exact .late u
  | double d =>
    cases htype
    by_cases hnan : d.isNaN = true
    · rw [ofValue, if_pos hnan] at hnull
      exact absurd rfl hnull
    · rw [ofValue, if_neg hnan]
      rcases stored_real d with h | ⟨i, -, h⟩
      · rw [h]
        exact .real (Bool.eq_false_iff.mpr hnan)
      · rw [h]
        exact .real (Double.isNaN_ofInt i)

/-- A constant that a table takes as it is: no NUL cuts the text short, and the double is a
number. -/
def Value.Plain : Value → Prop
  | .text s => '\x00' ∉ s.toList
  | .double d => d.isNaN = false
  | _ => True

instance : DecidablePred Value.Plain
  | .text s => inferInstanceAs (Decidable ('\x00' ∉ s.toList))
  | .double d => inferInstanceAs (Decidable (d.isNaN = false))
  | .null | .bool _ | .int _ | .time _ => .isTrue trivial

/-- Only a text or a double may not be plain. -/
theorem Value.plain_of_dataType? {v : Value} {t : DataType} (h : v.dataType? = some t)
    (hstring : t ≠ .string) (hdouble : t ≠ .double) : v.Plain := by
  cases v with
  | text s => exact absurd (Option.some.inj h).symm hstring
  | double d => exact absurd (Option.some.inj h).symm hdouble
  | _ => trivial

/-- A text in a column of instants stands behind all numbers. -/
theorem Slot.compare_text_number {w : Value} {t : DataType} (htype : w.dataType? = some t)
    (ht : t ≠ .string ∧ t ≠ .datetime) (hplain : w.Plain) (s : String) (o : Comparator) :
    Slot.compare (.datetime, .text s) o (.ofValue w) = some (o.accepts .gt) := by
  cases w with
  | null => cases htype
  | text s => exact absurd (Option.some.inj htype).symm ht.1
  | time b => exact absurd (Option.some.inj htype).symm ht.2
  | bool b => rfl
  | int i => rfl
  | double d =>
    have hnan : ¬d.isNaN = true := Bool.eq_false_iff.mp hplain
    have hcompared : (Cell.ofValue (.double d)).compared .datetime = Cell.ofDouble d := by
      rw [Cell.ofValue, if_neg hnan]
      rfl
    rw [Slot.compare_eq Cell.noConfusion (hcompared ▸ Cell.ofDouble_ne_null d), hcompared]
    rcases Cell.ofDouble_cases d with h | ⟨i, -, h⟩ <;> rw [h] <;> rfl

/-- A text is the same as a written instant to a column of instants only if it is so as a text, for
a written instant denotes no number. -/
theorem Slot.compare_write_text (u : Instant) (s : String) :
    ∃ x, (x = .eq ↔ Text.order u.write.toList s.toList = .eq) ∧
      ∀ o, Slot.compare (.datetime, .text u.write) o (.ofValue (.text s)) = some (o.accepts x) := by
  cases hnumber : Cell.number? s with
  | none =>
    have hcompared : (Cell.ofValue (.text s)).compared .datetime = .text s := by
      simp [Cell.ofValue, Cell.compared, Cell.toNumber, hnumber]
    exact ⟨_, .rfl, fun o => by rw [Slot.compare, hcompared]; rfl⟩
  | some n =>
    have hne : Text.order u.write.toList s.toList ≠ .eq := by
      intro h
      rw [← String.toList_inj.mp (Text.order_eq_iff.mp h), Cell.number?_write] at hnumber
      cases hnumber
    have hcompared : (Cell.ofValue (.text s)).compared .datetime = n := by
      simp [Cell.ofValue, Cell.compared, Cell.toNumber, hnumber]
    refine ⟨.gt, iff_of_false (by decide) hne, fun o => ?_⟩
    rw [Slot.compare, hcompared]
    cases n with
    | null => exact absurd hnumber Cell.number?_ne_null
    | text s => exact absurd hnumber Cell.number?_ne_text
    | int i => rfl
    | real d => rfl

/-- What is read back from a column of instants is read as no number and no truth value. -/
theorem Cell.Reads.coerce?_eq_none {t : DataType} {cell : Cell} {v : Value}
    (hcell : Reads .datetime cell v) (ht : t ≠ .string ∧ t ≠ .datetime) : t.coerce? v = none := by
  cases hcell with
  | time u =>
    cases t with
    | string => exact absurd rfl ht.1
    | datetime => exact absurd rfl ht.2
    | _ => rfl
  | late u =>
    cases t with
    | string => exact absurd rfl ht.1
    | datetime => exact absurd rfl ht.2
    | integer => rw [DataType.coerce?, u.integerOfText?_write, Option.map_none]
    | boolean => rw [DataType.coerce?, u.booleanOfText?_write, Option.map_none]
    | double =>
      rw [DataType.coerce?, u.trim_write, String.ofList_toList, u.read?_double_write,
        Option.map_none]

-- ---------------------------------------------------------------------------
-- Ways to agree
-- ---------------------------------------------------------------------------

theorem Operator.isComparison_of_not_isPattern {o : Operator} (hpattern : o.isPattern = false)
    (harity : o.arity ≠ 0) : o.isComparison = true := by
  revert hpattern harity
  cases o <;> decide

theorem Operator.isComparison_of_accepts {o : Operator} {t : DataType}
    (haccepts : o.accepts t = true) (ht : t ≠ .string) (harity : o.arity ≠ 0) :
    o.isComparison = true := by
  revert haccepts ht harity
  cases o <;> cases t <;> decide

theorem Operator.equality_of_accepts {o : Operator} (h : o.accepts .string = true)
    (hcomparison : o.isComparison = true) : o = .equal ∨ o = .notEqual := by
  revert h hcomparison
  cases o <;> decide

theorem Operator.accepts_of_arity_zero {o : Operator} (h : o.arity = 0) (t : DataType) :
    o.accepts t = true := by
  revert h
  cases o <;> cases t <;> decide

namespace Comparison

/-- A row with a cell is kept if and only if the leaf is true of what is read back, where it is
true or false. -/
def AgreesAt (c : Comparison) (t : DataType) (cell : Cell) (v : Value) : Prop :=
  ∀ b, c.answer? v = some b → c.selects (t, cell) = b

variable {c : Comparison} {t : DataType} {cell : Cell} {v low high : Value}

theorem agreesAt_of_not_accepts (h : c.operator.accepts c.dataType = false) :
    c.AgreesAt t cell v := by
  intro b hb
  rw [answer?_of_not_accepts h] at hb
  cases hb

theorem Bounds.dataType? (h : c.Bounds low high) :
    low.dataType? = some c.dataType ∧ high.dataType? = some c.dataType :=
  h.forall fun _ _ _ hw => Value.dataType?_of_coerce? hw

section

variable (hcell : Cell.Reads t cell v)
include hcell

/-- The predicate has an answer for the cell, and it is the truth of the leaf. -/
theorem agreesAt_of_truth {p : Predicate} {b : Bool}
    (htest : ∀ ctx, c.nameless.cell (some ctx) = .ok (some v) →
      c.nameless.isTrue (some ctx) = .ok b)
    (hcompile : c.nameless.compile (some [""]) = .ok p)
    (htruth : p.truth (fun _ => (t, cell)) = some b) : c.AgreesAt t cell v := by
  intro b' hb'
  rw [answer?_of_cell hcell.value_ne_null htest] at hb'
  cases hb'
  rw [selects, hcompile]
  dsimp only
  rw [Predicate.selects, htruth]
  cases b <;> rfl

/-- Tests for null and for the empty text ask for no type. -/
theorem agreesAt_of_arity_zero (harity : c.operator.arity = 0) : c.AgreesAt t cell v := by
  have htype : c.nameless.checkType = .ok () := if_pos (Operator.accepts_of_arity_zero harity _)
  have hcompare := slot_compare_empty hcell
  have hnull := slot_isNull hcell
  obtain ⟨field, operator, dataType, operand⟩ := c
  cases operator with
  | isEmpty =>
    refine agreesAt_of_truth hcell (b := v.text? == some "") (fun ctx hctx => ?_) rfl ?_
    · rw [isTrue, hctx, htype]
      rfl
    · rw [← hcell.order_empty]
      simp only [Predicate.truth, Test.truth, List.map_cons, List.map_nil, hcompare, hnull]
      cases cell.order (.text "") <;> rfl
  | isNotEmpty =>
    refine agreesAt_of_truth hcell (b := v.text? != some "") (fun ctx hctx => ?_) rfl ?_
    · rw [isTrue, hctx, htype]
      rfl
    · rw [bne, ← hcell.order_empty]
      simp only [Predicate.truth, Test.truth, List.map_cons, List.map_nil, hcompare, hnull]
      cases cell.order (.text "") <;> rfl
  | isNull =>
    refine agreesAt_of_truth hcell (b := false) (fun ctx hctx => ?_) rfl ?_
    · rw [isTrue, hctx, htype]
      rfl
    · simp only [Predicate.truth, Test.truth, List.map_cons, List.map_nil, hnull]
      rfl
  | isNotNull =>
    refine agreesAt_of_truth hcell (b := true) (fun ctx hctx => ?_) rfl ?_
    · rw [isTrue, hctx, htype]
      rfl
    · simp only [Predicate.truth, Test.truth, List.map_cons, List.map_nil, hnull]
      rfl
  | _ => cases harity

variable (hbounds : c.Bounds low high) (hcomparison : c.operator.isComparison = true)
include hbounds hcomparison

/-- Where the orders beside the constants give the same, the leaf agrees. -/
theorem agreesAt_of_orders {x y x' y' : Ordering}
    (hx : (c.asDeclared v).compare? low = some x) (hy : (c.asDeclared v).compare? high = some y)
    (hx' : ∀ o, Slot.compare (t, cell) o (.ofValue low) = some (o.accepts x'))
    (hy' : ∀ o, Slot.compare (t, cell) o (.ofValue high) = some (o.accepts y'))
    (hholds : c.operator.holds x' y' = c.operator.holds x y) : c.AgreesAt t cell v := by
  cases haccepts : c.operator.accepts c.dataType with
  | false => exact agreesAt_of_not_accepts haccepts
  | true =>
    intro b hb
    rw [hbounds.answer?_eq hcomparison haccepts hcell.value_ne_null hx hy, Option.some_inj] at hb
    rw [hbounds.selects_eq hcomparison (slot_isNull hcell) hx' hy', hholds, hb]

/-- Where the value does not compare with the constant, the leaf agrees if the cell does not stand
beside it. -/
theorem agreesAt_of_incomparable (hx : (c.asDeclared v).compare? low = none)
    (hselects : c.operator.isOrdering = false →
      c.selects (t, cell) = (c.operator == .notEqual)) : c.AgreesAt t cell v := by
  cases haccepts : c.operator.accepts c.dataType with
  | false => exact agreesAt_of_not_accepts haccepts
  | true =>
    intro b hb
    rw [hbounds.answer?_of_incomparable hcomparison haccepts hcell.value_ne_null hx] at hb
    cases hordering : c.operator.isOrdering with
    | true =>
      rw [if_pos hordering] at hb
      cases hb
    | false =>
      rw [if_neg (Bool.eq_false_iff.mp hordering), Option.some_inj] at hb
      rw [hselects hordering, hb]

theorem selects_of_apart (hordering : c.operator.isOrdering = false) {x : Ordering} (hx : x ≠ .eq)
    (hcompare : ∀ o, Slot.compare (t, cell) o (.ofValue low) = some (o.accepts x)) :
    c.selects (t, cell) = (c.operator == .notEqual) := by
  have hop := Operator.eq_of_not_isOrdering hcomparison hordering
  cases hbounds with
  | single harity hoperand hw =>
    rw [Bounds.selects_eq (.single harity hoperand hw) hcomparison (slot_isNull hcell) hcompare
      hcompare]
    rcases hop with hop | hop <;> rw [hop] <;> revert hx <;> cases x <;> decide
  | range harity => rcases hop with hop | hop <;> rw [hop] at harity <;> cases harity

end

/-- A constant that the column has no number for is equal to nothing. -/
theorem selects_equal_of_null (hbounds : c.Bounds low high) (hoperator : c.operator = .equal)
    {slot : Slot} (hnull : (Cell.ofValue low).compared slot.1 = .null) :
    c.selects slot = false := by
  have hcompare : ∀ o, slot.compare o (.ofValue low) = none := by
    intro o
    rw [Slot.compare, hnull]
    cases slot.2 <;> rfl
  cases hbounds with
  | single _ hoperand hw =>
    have hconstant : c.nameless.constant = .ok _ := constant_eq hoperand hw
    have hcolumn : c.nameless.checkColumn (some [""]) = .ok () := rfl
    have hop : c.nameless.operator = .equal := hoperator
    rw [selects, compile, hcolumn, hop]
    simp only [bind, Except.bind, hconstant, pure, Except.pure, Predicate.selects,
      Predicate.truth, Test.truth, List.map_cons, List.map_nil, hcompare]
    cases slot.isNull <;> rfl
  | range harity =>
    rw [hoperator] at harity
    cases harity

-- ---------------------------------------------------------------------------
-- Pairs of types
-- ---------------------------------------------------------------------------

/-- A double, read as an integer if it is one, is less than an integer exactly if its exact value
is. -/
theorem exists_compare_integer (hdeclared : c.dataType = .integer) {d : Double}
    (hd : d.isNaN = false) (i : Int64) :
    ∃ x, (c.asDeclared (.double d)).compare? (.int i) = some x ∧
      (compare d.signedUnits (i.toInt * Double.unitsPerOne) = .lt ↔ x = .lt) := by
  rw [asDeclared, hdeclared, DataType.coerce?]
  cases hint : d.toInt?.bind int64? with
  | none =>
    have hnan : (d.isNaN || (Double.ofInt i.toInt).isNaN) = false := by
      rw [hd, Double.isNaN_ofInt]
      rfl
    refine ⟨compare d.orderKey (Double.ofInt i.toInt).orderKey, ?_, ?_⟩
    · exact if_neg (Bool.eq_false_iff.mp hnan)
    · rw [compare_lt_iff_lt, compare_lt_iff_lt, Double.lt_ofInt_iff hd hint]
  | some j =>
    obtain ⟨n, hn, hj⟩ := Option.bind_eq_some_iff.mp hint
    have hvalue : j.toInt = n := by
      obtain ⟨⟨hlow, hhigh⟩, hj⟩ := Option.ite_none_right_eq_some.mp hj
      cases hj
      exact Int64.toInt_ofInt_of_le hlow hhigh
    refine ⟨_, rfl, ?_⟩
    rw [Double.signedUnits_of_toInt? hn, ← hvalue, ← Cell.order_int_int]
    rfl

section

variable (hbounds : c.Bounds low high) (hcomparison : c.operator.isComparison = true)
include hbounds hcomparison

/-- Truth values are the numbers 0 and 1, as cells and to a leaf that declares integers. -/
theorem agreesAt_truth_integer (hcell : Cell.Reads .boolean cell v)
    (hdeclared : c.dataType = .integer) : c.AgreesAt .boolean cell v := by
  obtain ⟨hlow, hhigh⟩ := hbounds.dataType?
  rw [hdeclared] at hlow hhigh
  cases low <;> cases hlow
  cases high <;> cases hhigh
  cases hcell with
  | truth b =>
    have hvalue : c.asDeclared (.bool b) = .int (if b then 1 else 0) := by
      rw [asDeclared, hdeclared]
      rfl
    have hcompare : ∀ (i k : Int64) (o : Comparator),
        Slot.compare (.boolean, .int i) o (.ofValue (.int k))
          = some (o.accepts (compare i.toInt k.toInt)) := by
      intro i k o
      rw [← Cell.order_int_int]
      rfl
    exact agreesAt_of_orders (.truth b) hbounds hcomparison (by rw [hvalue]; rfl)
      (by rw [hvalue]; rfl) (hcompare _ _) (hcompare _ _) rfl

/-- No truth value is before or behind a double. -/
theorem agreesAt_truth_double (hcell : Cell.Reads .boolean cell v)
    (hdeclared : c.dataType = .double) (hordering : c.operator.isOrdering = true) :
    c.AgreesAt .boolean cell v := by
  obtain ⟨hlow, -⟩ := hbounds.dataType?
  rw [hdeclared] at hlow
  cases low <;> cases hlow
  refine agreesAt_of_incomparable hcell hbounds hcomparison ?_ fun h => ?_
  · rw [asDeclared, hdeclared]
    cases hcell
    rfl
  · rw [hordering] at h
    cases h

/-- A double is less than an integer to a column and to a leaf that declares integers. -/
theorem agreesAt_double_integer (hcell : Cell.Reads .double cell v)
    (hdeclared : c.dataType = .integer)
    (hoperator : c.operator = .less ∨ c.operator = .greaterOrEqual) :
    c.AgreesAt .double cell v := by
  obtain ⟨hlow, hhigh⟩ := hbounds.dataType?
  rw [hdeclared] at hlow hhigh
  cases low <;> cases hlow
  cases high <;> cases hhigh
  next k k' =>
  cases hcell with
  | @real d hd =>
    have hcompare : ∀ (i : Int64) (o : Comparator),
        Slot.compare (.double, .real d) o (.ofValue (.int i))
          = some (o.accepts (compare d.signedUnits (i.toInt * Double.unitsPerOne))) :=
      fun i o => rfl
    obtain ⟨x, hx, hlt⟩ := exists_compare_integer hdeclared hd k
    obtain ⟨y, hy, -⟩ := exists_compare_integer hdeclared hd k'
    refine agreesAt_of_orders (.real hd) hbounds hcomparison hx hy (hcompare k) (hcompare k') ?_
    have hsame := Operator.beq_congr hlt
    rcases hoperator with h | h
    · rw [h, Operator.holds, Operator.holds, hsame]
    · rw [h, Operator.holds, Operator.holds, bne, bne, hsame]

/-- Numbers stand before written instants and are compared with no instant. -/
theorem agreesAt_number_time (hcell : Cell.Reads t cell v) (hdeclared : c.dataType = .datetime)
    (ht : t ≠ .string) (ht' : t ≠ .datetime) : c.AgreesAt t cell v := by
  obtain ⟨hlow, -⟩ := hbounds.dataType?
  rw [hdeclared] at hlow
  cases low <;> cases hlow
  next b =>
  have hwritten : (Cell.ofValue (.time b)).compared t = .text b.write := Cell.compared_write b t
  refine agreesAt_of_incomparable hcell hbounds hcomparison ?_ fun hordering =>
    selects_of_apart hcell hbounds hcomparison hordering (x := .lt) (by decide) fun o => ?_
  · rw [asDeclared, hdeclared]
    cases hcell with
    | int | real | truth => rfl
    | text => exact absurd rfl ht
    | time | late => exact absurd rfl ht'
  · rw [Slot.compare, hwritten]
    cases hcell with
    | int | real | truth => rfl
    | text => exact absurd rfl ht
    | time | late => exact absurd rfl ht'

/-- Written instants stand behind numbers, with which neither they nor instants are compared. -/
theorem agreesAt_time_number (hcell : Cell.Reads .datetime cell v)
    (hdeclared : c.dataType ≠ .string ∧ c.dataType ≠ .datetime)
    (hlow : low.Plain ∨ c.operator ≠ .notEqual) : c.AgreesAt .datetime cell v := by
  have hkind : low.dataType? ≠ some .string ∧ low.dataType? ≠ some .datetime := by
    rw [hbounds.dataType?.1]
    exact ⟨mt Option.some.inj hdeclared.1, mt Option.some.inj hdeclared.2⟩
  have hincomparable : (c.asDeclared v).compare? low = none := by
    rw [asDeclared, hcell.coerce?_eq_none hdeclared, Option.getD_none]
    cases low with
    | text s => exact absurd rfl hkind.1
    | time b => exact absurd rfl hkind.2
    | _ => cases hcell <;> rfl
  obtain ⟨u, rfl⟩ := hcell.exists_write
  refine agreesAt_of_incomparable hcell hbounds hcomparison hincomparable fun hordering => ?_
  by_cases hplain : low.Plain
  · exact selects_of_apart hcell hbounds hcomparison hordering (by decide)
      (Slot.compare_text_number hbounds.dataType?.1 hdeclared hplain u.write)
  · have hequal : c.operator = .equal := by
      rw [Operator.isComparison, hordering, Bool.false_or, Bool.or_eq_true, beq_iff_eq,
        beq_iff_eq] at hcomparison
      exact hcomparison.resolve_right (hlow.resolve_left hplain)
    have hnull : (Cell.ofValue low).compared .datetime = .null := by
      cases low with
      | text s => exact absurd rfl hkind.1
      | double d =>
        rw [Cell.ofValue, if_pos (Bool.eq_true_of_not_eq_false hplain)]
        rfl
      | _ => exact absurd trivial hplain
    rw [selects_equal_of_null hbounds hequal hnull, hequal]
    rfl

/-- Written instants are the same as a text to a column and to a leaf that declares texts. -/
theorem agreesAt_time_text (hcell : Cell.Reads .datetime cell v)
    (hdeclared : c.dataType = .string) : c.AgreesAt .datetime cell v := by
  obtain ⟨htype, htype'⟩ := hbounds.dataType?
  rw [hdeclared] at htype htype'
  obtain ⟨u, rfl, hvalue⟩ : ∃ u : Instant, cell = .text u.write ∧
      c.asDeclared v = .text u.write := by
    rw [asDeclared, hdeclared]
    cases hcell with
    | time u => exact ⟨u, rfl, congrArg Value.text u.write_truncated⟩
    | late u => exact ⟨u, rfl, rfl⟩
  cases low <;> cases htype
  cases high <;> cases htype'
  next s s' =>
  cases haccepts : c.operator.accepts c.dataType with
  | false => exact agreesAt_of_not_accepts haccepts
  | true =>
    rw [hdeclared] at haccepts
    have hcompare : ∀ s : String, (c.asDeclared v).compare? (.text s)
        = some (Text.order u.write.toList s.toList) := fun s => by rw [hvalue, Value.compare?]
    obtain ⟨x, hx, hx'⟩ := Slot.compare_write_text u s
    obtain ⟨y, -, hy'⟩ := Slot.compare_write_text u s'
    refine agreesAt_of_orders hcell hbounds hcomparison (hcompare s) (hcompare s') hx' hy' ?_
    have hsame := Operator.beq_congr hx
    rcases Operator.equality_of_accepts haccepts hcomparison with h | h
    · rw [h, Operator.holds, Operator.holds, hsame]
    · rw [h, Operator.holds, Operator.holds, bne, bne, hsame]

end

-- ---------------------------------------------------------------------------
-- Searches
-- ---------------------------------------------------------------------------

/-- A search for a text finds the same in a cell and in what is read back, if both are the same
text and neither it nor what is searched for is cut short. -/
theorem agreesAt_of_like (hcell : Cell.Reads t cell v) (hbounds : c.Bounds low high)
    (hdeclared : c.dataType = .string) (hlow : low.Plain) (htext : cell.text? = some v.display)
    (hplain : '\x00' ∉ v.display.toList) (expected openStart openEnd : Bool)
    {relation : List Char → List Char → Bool} (harity : c.operator.arity = 1)
    (hmatch : ∀ p cs, Pattern.matchChars (openPattern openStart openEnd p) cs = relation p cs)
    (hcompile : c.nameless.compile (some [""]) = if expected
      then c.nameless.likeTest openStart openEnd else c.nameless.notLikeTest openStart openEnd)
    (htest : ∀ ctx, c.nameless.isTrue (some ctx) = do
      let v ← c.nameless.cell (some ctx)
      c.nameless.checkType
      c.nameless.testText v relation expected) : c.AgreesAt t cell v := by
  cases haccepts : c.operator.accepts c.dataType with
  | false => exact agreesAt_of_not_accepts haccepts
  | true =>
    cases hbounds with
    | range harity' =>
      rw [harity] at harity'
      cases harity'
    | @single w _ _ hoperand hw =>
      have hconstant : c.nameless.constant = .ok low := constant_eq hoperand hw
      have hpattern : c.nameless.pattern = .ok w.display := pattern_eq hoperand hw
      have htype : c.nameless.checkType = .ok () := if_pos haccepts
      obtain rfl : .text w.display = low := by
        rw [hdeclared] at hw
        cases w <;> cases hw <;> rfl
      have hfound : Pattern.accepts
          (String.ofList (openPattern openStart openEnd w.display.toList)) v.display
          = relation w.display.toList v.display.toList := by
        rw [Pattern.accepts_ofList (not_mem_openPattern hlow _ _) hplain, hmatch]
      have hlike : c.nameless.compile (some [""]) = .ok (.join (if expected then .and else .or)
          [.like "" (!expected) (String.ofList (openPattern openStart openEnd w.display.toList)),
           .null "" expected]) := by
        rw [hcompile, likeTest, notLikeTest, likePattern_eq hpattern]
        cases expected <;> rfl
      refine agreesAt_of_truth hcell
        (b := relation w.display.toList v.display.toList == expected) (fun ctx hctx => ?_) hlike ?_
      · rw [htest, hctx, htype]
        simp only [bind, Except.bind, testText, hconstant]
        rfl
      · simp only [Predicate.truth, Test.truth, Slot.like, htext, hfound, slot_isNull hcell,
          Option.map_some, List.map_cons, List.map_nil]
        cases relation w.display.toList v.display.toList <;> cases expected <;> rfl

/-- Searches agree where a cell is the text that is read back. -/
theorem agreesAt_search (hcell : Cell.Reads t cell v) (hbounds : c.Bounds low high)
    (hdeclared : c.dataType = .string) (hlow : low.Plain) (htext : cell.text? = some v.display)
    (hplain : '\x00' ∉ v.display.toList) (hpattern : c.operator.isPattern = true) :
    c.AgreesAt t cell v := by
  have hlike := agreesAt_of_like hcell hbounds hdeclared hlow htext hplain
  obtain ⟨field, operator, dataType, operand⟩ := c
  cases operator with
  | beginsWith => exact hlike true false true rfl openPattern_atStart rfl fun _ => rfl
  | notBeginsWith => exact hlike false false true rfl openPattern_atStart rfl fun _ => rfl
  | contains => exact hlike true true true rfl openPattern_inside rfl fun _ => rfl
  | notContains => exact hlike false true true rfl openPattern_inside rfl fun _ => rfl
  | endsWith => exact hlike true true false rfl openPattern_atEnd rfl fun _ => rfl
  | notEndsWith => exact hlike false true false rfl openPattern_atEnd rfl fun _ => rfl
  | _ => cases hpattern

/-- Integers and instants are written without a NUL. -/
theorem display_of_reads (hcell : Cell.Reads t cell v) (ht : t = .integer ∨ t = .datetime) :
    cell.text? = some v.display ∧ '\x00' ∉ v.display.toList := by
  have hdigits : ∀ ds : List Char, (∀ c ∈ ds, c.isDigit = true) → '\x00' ∉ ds :=
    fun ds hds hmem => absurd (hds _ hmem) (by decide)
  cases hcell with
  | int i =>
    refine ⟨rfl, ?_⟩
    have hmagnitude : '\x00' ∉ Nat.toDigits 10 i.toInt.natAbs :=
      hdigits _ fun c hc => Nat.isDigit_of_mem_toDigits (by decide) (by decide) hc
    rw [Value.display]
    by_cases hi : i.toInt < 0
    · rw [Json.toList_toString_of_neg hi]
      simp [hmagnitude]
    · rwa [Json.toList_toString_of_nonneg (Int.not_lt.mp hi)]
  | time u =>
    have hdisplay : (Value.time u.truncated).display = u.write := u.write_truncated
    rw [hdisplay]
    exact ⟨rfl, u.nul_not_mem_write⟩
  | late u => exact ⟨rfl, u.nul_not_mem_write⟩
  | real h => rcases ht with ht | ht <;> cases ht
  | truth b => rcases ht with ht | ht <;> cases ht
  | text s => rcases ht with ht | ht <;> cases ht

end Comparison

end MailMerge
