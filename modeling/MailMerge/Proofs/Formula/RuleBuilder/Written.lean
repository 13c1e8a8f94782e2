import MailMerge.Formula.RuleBuilder.Node
import MailMerge.Formula.RuleBuilder.Writer
import MailMerge.Proofs.Document.Json.Written

/-!
# Written formulas

A formula is read back from its rule-builder document as long as its constants are read back.
There is one thing a document does not tell: a comparison with null alone is written like one
that has no constant.
-/

namespace MailMerge

-- ---------------------------------------------------------------------------
-- Constants
-- ---------------------------------------------------------------------------

/-- Whether a document keeps a constant as what it is: it is no double, and no instant, which
would come back as text. -/
def Value.Kept : Value → Prop
  | .double _ => False
  | .time _ => False
  | _ => True

instance : DecidablePred Value.Kept
  | .double _ | .time _ => isFalse id
  | .null | .bool _ | .int _ | .text _ => isTrue trivial

namespace Value

variable {v : Value}

theorem ofScalar_toScalar (h : v.Kept) : ofScalar v.toScalar = v := by
  cases v with
  | int i =>
    have hi : i.toInt < 2 ^ 63 := i.toInt_lt
    rw [toScalar, ofScalar, if_pos hi, Int64.ofInt_toInt]
  | double d => exact h.elim
  | time t => exact h.elim
  | _ => rfl

theorem Kept.exact_toScalar (h : v.Kept) : v.toScalar.Exact := by
  cases v with
  | int i =>
    have hlow : -2 ^ 63 ≤ i.toInt := i.le_toInt
    have hhigh : i.toInt < 2 ^ 63 := i.toInt_lt
    exact ⟨hlow, by omega⟩
  | double d => exact h.elim
  | time t => exact h.elim
  | _ => trivial

theorem value?_toDocument (h : v.Kept) : v.toDocument.value? = some v :=
  congrArg some (ofScalar_toScalar h)

theorem isNull_toDocument (h : v.Kept) : v.toDocument.isNull = v.isNull := by
  cases v with
  | double d => exact h.elim
  | _ => rfl

end Value

-- ---------------------------------------------------------------------------
-- Rules
-- ---------------------------------------------------------------------------

/-- Whether a leaf may stand in a rule builder: it has a name, as many constants as its
operator takes, and each of them is read back as what it is. -/
structure Comparison.Storable (c : Comparison) : Prop where
  named : c.field ≠ ""
  arity : c.operand.values.length = c.operator.arity
  kept : ∀ v ∈ c.operand.values, v.Kept

instance : DecidablePred Comparison.Storable := fun c =>
  decidable_of_iff (c.field ≠ "" ∧ c.operand.values.length = c.operator.arity ∧
      ∀ v ∈ c.operand.values, v.Kept)
    ⟨fun ⟨named, arity, kept⟩ => ⟨named, arity, kept⟩, fun h => ⟨h.named, h.arity, h.kept⟩⟩

/-- What the reader of a rule finds in the place of constants. -/
def Operand.input? : Operand → Option RuleInput
  | .none => .none
  | .single v => if v.isNull then .none else some (.one v)
  | .range low high => some (.many [low, high])

/-- The rule a leaf is written as. -/
def Comparison.toRule (c : Comparison) : Rule :=
  ⟨c.field, c.field, c.dataType, c.operator, c.operand.input?⟩

namespace RuleInput

theorem optional?_toDocument {v : Value} (h : v.Kept) :
    optional? v.toDocument = some (Operand.single v).input? := by
  rw [optional?, Value.isNull_toDocument h, Operand.input?]
  split
  · rfl
  · have hone : ofDocument? v.toDocument = (v.toDocument.value?).map .one := rfl
    rw [hone, Value.value?_toDocument h]
    rfl

theorem optional?_range {low high : Value} (hlow : low.Kept) (hhigh : high.Kept) :
    optional? (.list [low.toDocument, high.toDocument])
      = some (Operand.range low high).input? := by
  have hmany : ofDocument? (.list [low.toDocument, high.toDocument])
      = ([low.toDocument, high.toDocument].mapM Document.value?).map .many := rfl
  have hnull : (Document.list [low.toDocument, high.toDocument]).isNull = false := rfl
  rw [optional?, hnull, hmany]
  simp [Value.value?_toDocument hlow, Value.value?_toDocument hhigh, Operand.input?]

end RuleInput

namespace Comparison

theorem exact_toDocument {c : Comparison} (h : ∀ v ∈ c.operand.values, v.Kept) :
    c.toDocument.Exact := by
  obtain ⟨field, operator, dataType, operand⟩ := c
  cases operand with
  | none => exact ⟨trivial, trivial, trivial, trivial, trivial, trivial⟩
  | single v =>
    have hv : v.Kept := h v List.mem_cons_self
    exact ⟨trivial, trivial, trivial, trivial, trivial, hv.exact_toScalar, trivial⟩
  | range low high =>
    have hlow : low.Kept := h low List.mem_cons_self
    have hhigh : high.Kept := h high (List.mem_cons_of_mem low List.mem_cons_self)
    exact ⟨trivial, trivial, trivial, trivial, trivial,
      ⟨hlow.exact_toScalar, hhigh.exact_toScalar, trivial⟩, trivial⟩

/-- The fields of a leaf, apart from its constants. -/
def fixedFields (c : Comparison) : List (String × Document) :=
  [("id", .text c.field), ("field", .text c.field), ("type", .text c.dataType.name),
    ("input", .text c.dataType.control), ("operator", .text c.operator.name)]

theorem fields?_toDocument (c : Comparison) :
    c.toDocument.fields? .json Rule.fieldNames = some (c.fixedFields ++ c.operand.toFields) := by
  obtain ⟨field, operator, dataType, operand⟩ := c
  cases operand <;> rfl

theorem ofDocument?_toDocument {c : Comparison} (h : ∀ v ∈ c.operand.values, v.Kept) :
    Rule.ofDocument? c.toDocument = some c.toRule := by
  have htype : DataType.ofDocument? .json (.text c.dataType.name) = some c.dataType :=
    DataType.ofName?_name c.dataType
  have hoperator : (Document.text c.operator.name).text?.bind Operator.ofName?
      = some c.operator := Operator.ofName?_name c.operator
  have hinput : Document.Fields.optional? (c.fixedFields ++ c.operand.toFields) "value" none
      RuleInput.optional? = some c.operand.input? := by
    obtain ⟨field, operator, dataType, operand⟩ := c
    cases operand with
    | none => rfl
    | single v => exact RuleInput.optional?_toDocument (h v List.mem_cons_self)
    | range low high =>
      exact RuleInput.optional?_range (h low List.mem_cons_self)
        (h high (List.mem_cons_of_mem low List.mem_cons_self))
  rw [Rule.ofDocument?, fields?_toDocument]
  change (DataType.ofDocument? .json (.text c.dataType.name)).bind _ = _
  rw [htype]
  change ((Document.text c.operator.name).text?.bind Operator.ofName?).bind _ = _
  rw [hoperator]
  change (Document.Fields.optional? (c.fixedFields ++ c.operand.toFields) "value" none
      RuleInput.optional?).bind _ = _
  rw [hinput]
  rfl

/-- A leaf is not taken for a group, as it has no condition. -/
theorem group?_toDocument (c : Comparison) (rules : List (Option (List RuleNode))) :
    RuleNode.group? c.toDocument rules = none := by
  obtain ⟨field, operator, dataType, operand⟩ := c
  cases operand <;> rfl

end Comparison

-- ---------------------------------------------------------------------------
-- Groups
-- ---------------------------------------------------------------------------

namespace Formula

mutual

/-- The node a formula is written as. -/
def toNode : Formula → RuleNode
  | .leaf c => .rule c.toRule
  | .group kind negated children => .group kind.name negated (toNodes children)

def toNodes : List Formula → List RuleNode
  | [] => []
  | f :: fs => toNode f :: toNodes fs

end

mutual

theorem exact_toDocument (f : Formula) (h : ∀ c ∈ f.leaves, ∀ v ∈ c.operand.values, v.Kept) :
    f.toDocument.Exact := by
  match f with
  | .leaf c => exact c.exact_toDocument (h c (List.mem_singleton_self c))
  | .group kind negated children =>
    exact ⟨trivial, trivial, exactItems_toDocuments children h, trivial, trivial⟩

theorem exactItems_toDocuments (fs : List Formula)
    (h : ∀ c ∈ leavesEach fs, ∀ v ∈ c.operand.values, v.Kept) :
    Document.ExactItems (toDocuments fs) := by
  match fs with
  | [] => trivial
  | f :: fs =>
    exact ⟨exact_toDocument f fun c hc => h c (List.mem_append_left _ hc),
      exactItems_toDocuments fs fun c hc => h c (List.mem_append_right _ hc)⟩

end

mutual

/-- A formula is written as the document of its node. -/
theorem ofDocument?_toDocument (f : Formula)
    (h : ∀ c ∈ f.leaves, ∀ v ∈ c.operand.values, v.Kept) :
    RuleNode.ofDocument? f.toDocument = some f.toNode := by
  match f with
  | .leaf c =>
    have hrule := c.ofDocument?_toDocument (h c (List.mem_singleton_self c))
    have hgroup := c.group?_toDocument (RuleNode.fieldLists (c.fixedFields ++ c.operand.toFields))
    rw [Comparison.toDocument] at hrule hgroup
    rw [toDocument, Comparison.toDocument, RuleNode.ofDocument?, hrule]
    change Option.orElse (RuleNode.group? _ (RuleNode.fieldLists (c.fixedFields ++ _))) _ = _
    rw [hgroup]
    rfl
  | .group kind negated children =>
    have heach := each?_toDocuments children h
    rw [toDocument, RuleNode.ofDocument?]
    simp only [RuleNode.fieldLists, RuleNode.list?, heach]
    rfl

theorem each?_toDocuments (fs : List Formula)
    (h : ∀ c ∈ leavesEach fs, ∀ v ∈ c.operand.values, v.Kept) :
    RuleNode.each? (toDocuments fs) = some (toNodes fs) := by
  match fs with
  | [] => rfl
  | f :: fs =>
    have hf := ofDocument?_toDocument f fun c hc => h c (List.mem_append_left _ hc)
    have hfs := each?_toDocuments fs fun c hc => h c (List.mem_append_right _ hc)
    rw [toDocuments, RuleNode.each?, hf, hfs]
    rfl

end

-- ---------------------------------------------------------------------------
-- From nodes back to formulas
-- ---------------------------------------------------------------------------

/-- What stands for some leaves, unless one of them compares with null alone. The first that
does gives the error. -/
def unlessNull {α : Type} (leaves : List Comparison) (x : α) : Except FormulaError α :=
  match leaves.find? fun c => c.operand == .single .null with
  | none => .ok x
  | some c => .error (.ruleArity c.field c.operator)

end Formula

namespace Comparison.Storable

variable {c : Comparison}

theorem operand?_toRule (h : c.Storable) :
    c.toRule.operand? = if c.operand == .single .null then none else some c.operand := by
  obtain ⟨field, operator, dataType, operand⟩ := c
  have harity : (toRule ⟨field, operator, dataType, operand⟩).operator.arity
      = operand.values.length := h.arity.symm
  rw [Rule.operand?, harity]
  cases operand with
  | none => rfl
  | single v => cases v <;> rfl
  | range low high => rfl

theorem toComparison (h : c.Storable) : c.toRule.toComparison = Formula.unlessNull [c] c := by
  have hfield : c.field.isEmpty = false := by simpa using h.named
  have hname : (if c.toRule.field.isEmpty then c.toRule.id else c.toRule.field) = c.field :=
    ite_self c.field
  rw [Rule.toComparison, hname, hfield, h.operand?_toRule, Formula.unlessNull, List.find?_singleton]
  cases c.operand == .single .null <;> rfl

end Comparison.Storable

namespace Formula

theorem unlessNull_append {α β γ : Type} (cs ds : List Comparison) (x : α) (y : β) (f : α → β → γ) :
    (do return f (← unlessNull cs x) (← unlessNull ds y)) = unlessNull (cs ++ ds) (f x y) := by
  rw [unlessNull, unlessNull, unlessNull, List.find?_append]
  cases cs.find? fun c => c.operand == .single .null with
  | some c => rfl
  | none =>
    rw [Option.none_or]
    cases ds.find? fun c => c.operand == .single .null <;> rfl

theorem map_unlessNull {α β : Type} (cs : List Comparison) (x : α) (f : α → β) :
    (unlessNull cs x).map f = unlessNull cs (f x) := by
  rw [unlessNull, unlessNull]
  cases cs.find? fun c => c.operand == .single .null <;> rfl

mutual

theorem toFormula_toNode (f : Formula) (h : ∀ c ∈ f.leaves, c.Storable) :
    f.toNode.toFormula = unlessNull f.leaves f := by
  match f with
  | .leaf c =>
    rw [toNode, RuleNode.toFormula, (h c (List.mem_singleton_self c)).toComparison,
      map_unlessNull]
    rfl
  | .group kind negated children =>
    have hkind : Conjunction.ofName? kind.name = some kind := by cases kind <;> decide
    rw [toNode, RuleNode.toFormula, hkind]
    simp only [toFormulas_toNodes children h, map_unlessNull]
    rfl

theorem toFormulas_toNodes (fs : List Formula) (h : ∀ c ∈ leavesEach fs, c.Storable) :
    RuleNode.toFormulas (toNodes fs) = unlessNull (leavesEach fs) fs := by
  match fs with
  | [] => rfl
  | f :: fs =>
    rw [toNodes, RuleNode.toFormulas,
      toFormula_toNode f fun c hc => h c (List.mem_append_left _ hc),
      toFormulas_toNodes fs fun c hc => h c (List.mem_append_right _ hc)]
    exact unlessNull_append f.leaves (leavesEach fs) f fs List.cons

end

/-- A formula that may stand in a rule builder is read back from its text, unless a leaf
compares with null alone. -/
theorem ofText_toText_eq {f : Formula} (h : ∀ c ∈ f.leaves, c.Storable)
    (hdepth : f.toDocument.depth ≤ Json.maxDepth) : ofText f.toText = unlessNull f.leaves f := by
  have hkept : ∀ c ∈ f.leaves, ∀ v ∈ c.operand.values, v.Kept := fun c hc => (h c hc).kept
  rw [ofText, toText, Json.read?_write (exact_toDocument f hkept) hdepth]
  change ofDocument f.toDocument = _
  rw [ofDocument, ofDocument?_toDocument f hkept]
  exact toFormula_toNode f h

/-- Reading undoes writing. -/
theorem ofText_toText {f : Formula} (h : ∀ c ∈ f.leaves, c.Storable)
    (hnull : ∀ c ∈ f.leaves, c.operand ≠ .single .null)
    (hdepth : f.toDocument.depth ≤ Json.maxDepth) : ofText f.toText = .ok f := by
  have hfind : (f.leaves.find? fun c => c.operand == .single .null) = none := by
    simpa using hnull
  rw [ofText_toText_eq h hdepth, unlessNull, hfind]

/-- Groups inside a group, one of them empty, and texts that need escapes. -/
def invited : Formula :=
  .group .or false
    [.leaf ⟨"home\ttown", .notEqual, .string, .single (.text "\"Zürich\"\n")⟩,
      .group .and true
        [.leaf ⟨"age", .between, .integer, .range (.int (-1)) (.int 30)⟩,
          .leaf ⟨"name", .isNotNull, .string, .none⟩, .group .or false []]]

theorem ofText_toText_invited :
    (∀ c ∈ invited.leaves, c.Storable) ∧ (∀ c ∈ invited.leaves, c.operand ≠ .single .null) ∧
      invited.toDocument.depth ≤ Json.maxDepth ∧ ofText invited.toText = .ok invited :=
  have hstorable : ∀ c ∈ invited.leaves, c.Storable := by decide
  have hnull : ∀ c ∈ invited.leaves, c.operand ≠ .single .null := by decide
  have hdepth : invited.toDocument.depth ≤ Json.maxDepth := by decide
  ⟨hstorable, hnull, hdepth, ofText_toText hstorable hnull hdepth⟩

end Formula

end MailMerge
