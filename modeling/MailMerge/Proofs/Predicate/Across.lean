import MailMerge.Proofs.Predicate.Declared

/-!
# Types across which leaves agree

For a column of one type, a leaf that declares another and an operator there are two cases. Either
a table keeps exactly the rows of which the leaf is true, whatever the rows hold and whatever the
constants are, or there are a value and constants of which it is not so. Constants that are plain
decide some of the cases by themselves.
-/

namespace MailMerge

/-- Whether leaves that declare a type agree on columns of another one, for all constants or for
plain ones only. -/
def DataType.agreesAcross (plain : Bool) (column declared : DataType) (o : Operator) : Bool :=
  !o.accepts declared || o.arity == 0 ||
    match column, declared with
    | .boolean, .integer => true
    | .boolean, .double => o.isOrdering
    | .double, .integer => o == .less || o == .greaterOrEqual
    | .integer, .string => plain && o.isPattern
    | .integer, .datetime | .double, .datetime | .boolean, .datetime => true
    | .datetime, .integer | .datetime, .boolean => true
    | .datetime, .double => plain || o != .notEqual
    | .datetime, .string => plain || !o.isPattern
    | _, _ => false

/-- The pairs of types that agree, where a constant is compared as the declared type. -/
theorem DataType.agreesAcross_cases {plain : Bool} {column declared : DataType} {o : Operator}
    (haccepts : o.accepts declared = true) (harity : o.arity ≠ 0)
    (h : agreesAcross plain column declared o = true) :
    column = .datetime ∨
    declared = .datetime ∧ column ≠ .string ∨
    column = .boolean ∧ declared = .integer ∨
    column = .boolean ∧ declared = .double ∧ o.isOrdering = true ∨
    column = .double ∧ declared = .integer ∧ (o = .less ∨ o = .greaterOrEqual) ∨
    column = .integer ∧ declared = .string ∧ plain = true ∧ o.isPattern = true := by
  simp only [agreesAcross, haccepts, beq_eq_false_iff_ne.mpr harity] at h
  cases column <;> cases declared <;> simp_all

namespace Comparison

/-- Constants that are plain as values of the declared type. -/
def Plain (c : Comparison) : Prop :=
  ∀ v ∈ c.operand.values, ∀ w ∈ c.dataType.coerce? v, w.Plain

instance (c : Comparison) : Decidable c.Plain :=
  inferInstanceAs (Decidable (∀ v ∈ c.operand.values, ∀ w ∈ c.dataType.coerce? v, w.Plain))

variable {plain : Bool} {c : Comparison} {t : DataType} {cell : Cell} {v : Value}

/-- On columns of instants searches and doubles agree as far as their constants are plain. -/
theorem agreesAt_time {low high : Value} (hbounds : c.Bounds low high)
    (harity : c.operator.arity ≠ 0) (haccepts : c.operator.accepts c.dataType = true)
    (hlow : plain = true → low.Plain)
    (h : DataType.agreesAcross plain .datetime c.dataType c.operator = true)
    (hne : c.dataType ≠ .datetime) (hcell : Cell.Reads .datetime cell v) :
    c.AgreesAt .datetime cell v := by
  simp only [DataType.agreesAcross, haccepts, beq_eq_false_iff_ne.mpr harity, Bool.not_true,
    Bool.false_or] at h
  by_cases hstring : c.dataType = .string
  · rw [hstring, Bool.or_eq_true, Bool.not_eq_true'] at h
    cases hpattern : c.operator.isPattern with
    | false =>
      have hcomparison := Operator.isComparison_of_not_isPattern hpattern harity
      exact agreesAt_time_text hbounds hcomparison hcell hstring
    | true =>
      have hall : plain = true := h.resolve_right (by rw [hpattern]; exact Bool.noConfusion)
      obtain ⟨htext, hclean⟩ := display_of_reads hcell (.inr rfl)
      exact agreesAt_search hcell hbounds hstring (hlow hall) htext hclean hpattern
  · have hcomparison := Operator.isComparison_of_accepts haccepts hstring harity
    refine agreesAt_time_number hbounds hcomparison hcell ⟨hstring, hne⟩ ?_
    by_cases hdouble : c.dataType = .double
    · rw [hdouble, Bool.or_eq_true, bne_iff_ne] at h
      exact h.imp hlow id
    · exact .inl (Value.plain_of_dataType? hbounds.dataType?.1 hstring hdouble)

/-- Each pair of types that agrees does so for a reason of its own. -/
theorem agreesAt_of_agreesAcross (h : t.agreesAcross plain c.dataType c.operator = true)
    (hne : t ≠ c.dataType) (hgiven : c.Given) (hplain : plain = true → c.Plain)
    (hcell : Cell.Reads t cell v) : c.AgreesAt t cell v := by
  by_cases harity : c.operator.arity = 0
  · exact agreesAt_of_arity_zero hcell harity
  cases haccepts : c.operator.accepts c.dataType with
  | false => exact agreesAt_of_not_accepts haccepts
  | true =>
    obtain ⟨low, high, hbounds⟩ := hgiven.bounds harity
    have hlow : plain = true → low.Plain := fun h => (hbounds.forall (hplain h)).1
    have hcomparison : c.dataType ≠ .string → c.operator.isComparison = true := fun hne =>
      Operator.isComparison_of_accepts haccepts hne harity
    rcases DataType.agreesAcross_cases haccepts harity h with rfl | ⟨hdeclared, hcolumn⟩ |
      ⟨rfl, hdeclared⟩ | ⟨rfl, hdeclared, hordering⟩ | ⟨rfl, hdeclared, hoperator⟩ |
      ⟨rfl, hdeclared, hall, hpattern⟩
    · exact agreesAt_time hbounds harity haccepts hlow h hne.symm hcell
    · have hcompares := hcomparison (by rw [hdeclared]; decide)
      exact agreesAt_number_time hbounds hcompares hcell hdeclared hcolumn (hdeclared ▸ hne)
    · have hcompares := hcomparison (by rw [hdeclared]; decide)
      exact agreesAt_truth_integer hbounds hcompares hcell hdeclared
    · have hcompares := hcomparison (by rw [hdeclared]; decide)
      exact agreesAt_truth_double hbounds hcompares hcell hdeclared hordering
    · have hcompares := hcomparison (by rw [hdeclared]; decide)
      exact agreesAt_double_integer hbounds hcompares hcell hdeclared hoperator
    · obtain ⟨htext, hclean⟩ := display_of_reads hcell (.inl rfl)
      exact agreesAt_search hcell hbounds hdeclared (hlow hall) htext hclean hpattern

end Comparison

-- ---------------------------------------------------------------------------
-- Pairs that clash
-- ---------------------------------------------------------------------------

instance (c : Comparison) (t : DataType) (cell : Cell) (v : Value) :
    Decidable (c.AgreesAt t cell v) :=
  inferInstanceAs (Decidable (∀ b, c.answer? v = some b → c.selects (t, cell) = b))

namespace DataType

theorem mem_all (t : DataType) : t ∈ all := by
  cases t <;> decide

/-- For types that do not agree, a value of the column and constants that show it. -/
def clash (column declared : DataType) (o : Operator) : Value × Operand :=
  match column, declared with
  | .integer, .double =>
    -- 2⁵³ + 1 and 2⁵³ + 3 are rounded before a leaf compares them.
    if o == .less || o == .greaterOrEqual then
      (.int 9007199254740995, .single (.int 9007199254740996))
    else if o.arity == 1 then (.int 9007199254740993, .single (.int 9007199254740992))
    else (.int 9007199254740993, .range (.int 0) (.int 9007199254740992))
  | .double, .integer =>
    -- 2⁶³ is no integer, but the largest integer is rounded to it.
    if o.arity == 1 then (.double (.ofInt (2 ^ 63)), .single (.int 9223372036854775807))
    else (.double (.ofInt (2 ^ 63)), .range (.int 0) (.int 9223372036854775807))
  | .string, .integer | .string, .double =>
    -- As texts, 9 is behind 010 and 10 is not the same.
    if o.arity == 2 then (.text "010", .range (.int 9) (.int 11))
    else if o.isOrdering then (.text "010", .single (.int 9))
    else (.text "010", .single (.int 10))
  | .string, .datetime =>
    -- A text may be an instant without being written as one.
    if o.arity == 2 then (.text "2024-01-01 10:00",
      .range (.text "2024-01-01T09:00:00Z") (.text "2024-01-01T11:00:00Z"))
    else if o.isOrdering then (.text "2024-01-01 10:00", .single (.text "2024-01-01T09:00:00Z"))
    else (.text "2024-01-01 10:00", .single (.text "2024-01-01T10:00:00Z"))
  -- Two is not true, and as a number it is not 0.
  | .integer, .boolean => (.int 2, .single (.bool false))
  | .double, .boolean => (.double (.ofInt 2), .single (.bool false))
  | .string, .boolean => (.text "true", .single (.bool true))
  | .boolean, .double => (.bool true, .single (.int 1))
  | .integer, .string =>
    if o.isPattern then (.int 5, .single (.text "5\x00")) else (.int 5, .single (.text "05"))
  | .double, .string => (.double (.ofInt 5), .single (.text "5.0"))
  | .boolean, .string => (.bool true, .single (.text "1"))
  | .datetime, .double => (.time ⟨0, 0⟩, .single (.text "nan"))
  | .datetime, .string => (.time ⟨0, 0⟩, .single (.text "1970-01-01T00:00:00Z\x00"))
  | _, _ => (.null, .none)

/-- A value of the column and constants of which a leaf does not agree. -/
def Clashes (plain : Bool) (column declared : DataType) (o : Operator) : Prop :=
  let v := (column.clash declared o).1
  let c : Comparison := ⟨"", o, declared, (column.clash declared o).2⟩
  let cell := (Cell.ofValue v).stored column
  v.HasType column ∧ c.Given ∧ (plain = true → c.Plain) ∧ cell.toValue column ≠ .null ∧
    ¬c.AgreesAt column cell (cell.toValue column)

instance (plain : Bool) (column declared : DataType) (o : Operator) :
    Decidable (Clashes plain column declared o) :=
  inferInstanceAs (Decidable (_ ∧ _ ∧ _ ∧ _ ∧ _))

theorem clashes_of_not_agreesAcross {plain : Bool} {column declared : DataType} {o : Operator}
    (hne : column ≠ declared) (h : agreesAcross plain column declared o = false) :
    Clashes plain column declared o := by
  have hall : ∀ plain ∈ [true, false], ∀ column ∈ all, ∀ declared ∈ all, column ≠ declared →
      ∀ o ∈ Operator.all, agreesAcross plain column declared o = false →
        Clashes plain column declared o := by
    decide +kernel
  exact hall plain (by cases plain <;> decide) column column.mem_all declared declared.mem_all hne o
    o.mem_all h

end DataType

-- ---------------------------------------------------------------------------
-- Tables
-- ---------------------------------------------------------------------------

namespace Comparison

/-- On all tables with the columns exactly those rows are kept, of those that hold something in
the column of the leaf, of which the leaf is true, where it is true or false. -/
def AgreesOn (columns : List Column) (c : Comparison) : Prop :=
  ∀ (s : Store) (id : Int64), s.Stocked id columns →
    ∃ t keep, s.find? id = some t ∧ s.Keeps id (.leaf c) t keep ∧
      ∀ cells ∈ t.rows, ∀ v, t.Shows cells c.field v →
        ∀ b, (Formula.leaf c).isTrue (some (t.context cells)) = .ok b → keep cells = b

theorem agreesOn_iff {s made : Store} {id : Int64} {columns : List Column}
    (hmade : s.create id columns = .ok made) {d : Column} (hd : d ∈ columns) {c : Comparison}
    (hfield : c.field = d.name) (hgiven : c.Given) :
    c.AgreesOn columns ↔ ∀ v : Value, v.HasType d.dataType →
      ((Cell.ofValue v).stored d.dataType).toValue d.dataType ≠ .null →
      c.AgreesAt d.dataType ((Cell.ofValue v).stored d.dataType)
        (((Cell.ofValue v).stored d.dataType).toValue d.dataType) := by
  have hrows := forall_rows_iff hmade hd hfield hgiven
    (R := fun _ keep answer => ∀ b, answer = some b → keep = b)
  simp only [toOption_eq_some_iff] at hrows
  rw [AgreesOn, hfield]
  exact hrows

end Comparison

namespace Store

/-- Leaves that declare another type than their column agree with the table, whatever is in the
column and whatever the constants are, exactly for the types and operators that agree across. -/
theorem agrees_across_iff {s made : Store} {id : Int64} {columns : List Column}
    (hmade : s.create id columns = .ok made) {d : Column} (hd : d ∈ columns)
    {declared : DataType} (hne : d.dataType ≠ declared) (o : Operator) (plain : Bool) :
    (∀ c : Comparison, c.field = d.name → c.dataType = declared → c.operator = o → c.Given →
      (plain = true → c.Plain) → c.AgreesOn columns) ↔
      d.dataType.agreesAcross plain declared o = true := by
  constructor
  · intro h
    by_contra hnot
    obtain ⟨hv, hgiven, hplain, hnull, hclash⟩ :=
      DataType.clashes_of_not_agreesAcross hne (Bool.eq_false_iff.mpr hnot)
    let c : Comparison := ⟨d.name, o, declared, (d.dataType.clash declared o).2⟩
    have hgiven' : c.Given := ⟨hgiven.arity, hgiven.onClock, hgiven.constants⟩
    have hagrees := (Comparison.agreesOn_iff hmade hd rfl hgiven').mp
      (h c rfl rfl rfl hgiven' hplain)
    exact hclash (hagrees _ hv hnull)
  · rintro h c hfield rfl rfl hgiven hplain
    refine (Comparison.agreesOn_iff hmade hd hfield hgiven).mpr fun v hv hnull => ?_
    exact Comparison.agreesAt_of_agreesAcross h hne hgiven hplain (Cell.reads_stored hv hnull)

def scoreColumns : List Column := [⟨"score", .string, false⟩, ⟨"seat", .integer, false⟩]

def scoreTable : Table where
  columns := scoreColumns
  rows := [[.text "10", .int 7]]

/-- Scores above nine, in a column of texts. -/
def scoreLeaf : Comparison := ⟨"score", .greater, .integer, .single (.int 9)⟩

theorem agrees_across_scores :
    (empty.create 1 scoreColumns = .ok (empty.put 1 { columns := scoreColumns }) ∧
      DataType.string ≠ .integer ∧ DataType.integer ≠ .string) ∧
    (∀ c : Comparison, c.field = "seat" → c.dataType = .string → c.operator = .contains →
      c.Given → c.Plain → c.AgreesOn scoreColumns) ∧
    ¬∀ c : Comparison, c.field = "score" → c.dataType = .integer → c.operator = .greater →
      c.Given → c.AgreesOn scoreColumns := by
  have hmade : empty.create 1 scoreColumns = .ok (empty.put 1 { columns := scoreColumns }) := by
    decide +kernel
  have hscore : (⟨"score", .string, false⟩ : Column) ∈ scoreColumns := List.mem_cons_self
  have hseat : (⟨"seat", .integer, false⟩ : Column) ∈ scoreColumns :=
    List.mem_cons_of_mem _ (List.mem_singleton_self _)
  refine ⟨⟨hmade, by decide, by decide⟩, ?_, fun hagrees => ?_⟩
  · intro c hfield hdeclared hoperator hgiven hplain
    exact (agrees_across_iff hmade hseat (by decide) .contains true).mpr (by decide)
      c hfield hdeclared hoperator hgiven fun _ => hplain
  · have hacross := (agrees_across_iff hmade hscore (by decide) .greater false).mp
      fun c hfield hdeclared hoperator hgiven _ => hagrees c hfield hdeclared hoperator hgiven
    revert hacross
    decide

/-- Ten is a score above nine, and its row is not found. -/
theorem drops_score_ten :
    (empty.put 1 { columns := scoreColumns }).insert 1 [[.text "10", .int 7]]
      = .ok ((empty.put 1 { columns := scoreColumns }).put 1 scoreTable) ∧
    ((empty.put 1 { columns := scoreColumns }).put 1 scoreTable).rows 1
      (some (.leaf scoreLeaf)) ["score"] = .ok [] ∧
    (Formula.leaf scoreLeaf).isTrue (some (scoreTable.context [.text "10", .int 7]))
      = .ok true := by
  decide +kernel

end Store

end MailMerge
