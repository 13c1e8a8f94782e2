import MailMerge.Formula.Basic
import MailMerge.Document.Json.Reader
import MailMerge.Table.Column

/-!
# Rule-builder documents

The form in which a visual rule builder stores a formula: groups of rules, and rules
with a field, a type, an operator and what was put in. Reading has two steps. The first
takes the document apart into nodes, and either every node has one of the two shapes or
the whole document has none. The second turns nodes into a formula and checks that the
constants fit the operators.
-/

namespace MailMerge

/-- What a rule holds in the place of its constants. -/
inductive RuleInput where
  | one (v : Value)
  | many (vs : List Value)
deriving DecidableEq, Inhabited

/-- A rule as it is stored. -/
structure Rule where
  id : String
  field : String
  dataType : DataType
  operator : Operator
  input : Option RuleInput
deriving DecidableEq, Inhabited

inductive RuleNode where
  | group (condition : String) (negated : Bool) (rules : List RuleNode)
  | rule (r : Rule)
deriving Inhabited

-- ---------------------------------------------------------------------------
-- From documents to nodes
-- ---------------------------------------------------------------------------

/-- A list of scalars or a scalar. -/
def RuleInput.ofDocument? : Document → Option RuleInput
  | .list xs => (xs.mapM Document.value?).map .many
  | d => d.value?.map .one

/-- Null stands for no input. -/
def RuleInput.optional? (d : Document) : Option (Option RuleInput) :=
  if d.isNull then some none else (RuleInput.ofDocument? d).map some

def Rule.fieldNames : List String := ["id", "field", "type", "input", "operator", "value"]

/-- The name of a form control; it is checked and dropped. -/
def Rule.checkControl? (d : Document) : Option Unit :=
  if d.isNull then some () else d.text?.map fun _ => ()

def Rule.ofDocument? (d : Document) : Option Rule := do
  let fs ← d.fields? .json Rule.fieldNames
  let id ← fs.optional? "id" "" Document.text?
  let field ← fs.optional? "field" "" Document.text?
  let dataType ← fs.required? "type" (DataType.ofDocument? .json)
  fs.optional? "input" () Rule.checkControl?
  let operator ← fs.required? "operator" fun d => d.text?.bind Operator.ofName?
  let input ← fs.optional? "value" none RuleInput.optional?
  some ⟨id, field, dataType, operator, input⟩

namespace RuleNode

def groupFieldNames : List String := ["condition", "not", "rules", "valid"]

/-- A group from its fields, `rules` being what each field gives as a list of nodes. -/
def group? (d : Document) (rules : List (Option (List RuleNode))) : Option RuleNode := do
  let fs ← d.fields? .json groupFieldNames
  let names : List String := match d with
    | .record entries => entries.map (·.1)
    | _ => groupFieldNames
  let condition ← fs.required? "condition" Document.text?
  let negated ← fs.optional? "not" false Document.bool?
  let members ← match List.lookup "rules" (names.zip rules) with
    | none => some []
    | some members => members
  let _ ← fs.optional? "valid" true Document.bool?
  some (.group condition negated members)

mutual

/-- A node: a group if the document can be one, else a rule. -/
def ofDocument? : Document → Option RuleNode
  | .scalar _ => none
  | .plain _ => none
  | .tagged _ _ => none
  | .list xs =>
    (group? (.list xs) (listsOf xs)).orElse fun _ => (Rule.ofDocument? (.list xs)).map .rule
  | .record fs =>
    (group? (.record fs) (fieldLists fs)).orElse fun _ =>
      (Rule.ofDocument? (.record fs)).map .rule

/-- The nodes in a list. -/
def list? : Document → Option (List RuleNode)
  | .list xs => each? xs
  | _ => none

def each? : List Document → Option (List RuleNode)
  | [] => some []
  | x :: xs =>
    match ofDocument? x, each? xs with
    | some n, some ns => some (n :: ns)
    | _, _ => none

/-- What each item gives as a list of nodes. -/
def listsOf : List Document → List (Option (List RuleNode))
  | [] => []
  | x :: xs => list? x :: listsOf xs

/-- What each field gives as a list of nodes. -/
def fieldLists : List (String × Document) → List (Option (List RuleNode))
  | [] => []
  | f :: fs => list? f.2 :: fieldLists fs

end

end RuleNode

-- ---------------------------------------------------------------------------
-- From nodes to formulas
-- ---------------------------------------------------------------------------

/-- The constants of a rule, if they are as many as the operator takes. An operator that
takes none ignores what is left over. -/
def Rule.operand? (r : Rule) : Option Operand :=
  match r.operator.arity, r.input with
  | 0, _ => some .none
  | 1, some (.one v) => some (.single v)
  | 1, some (.many [v]) => some (.single v)
  | 2, some (.many [low, high]) => some (.range low high)
  | _, _ => none

/-- The comparison a rule stands for; its field is named by `field` or else by `id`. -/
def Rule.toComparison (r : Rule) : Except FormulaError Comparison :=
  let field := if r.field.isEmpty then r.id else r.field
  if field.isEmpty then .error .ruleWithoutField
  else
    match r.operand? with
    | some operand => .ok ⟨field, r.operator, r.dataType, operand⟩
    | none => .error (.ruleArity field r.operator)

def Conjunction.ofName? (s : String) : Option Conjunction :=
  if s == "AND" then some .and else if s == "OR" then some .or else none

namespace RuleNode

mutual

/-- The formula a node stands for. -/
def toFormula : RuleNode → Except FormulaError Formula
  | .rule r => r.toComparison.map .leaf
  | .group condition negated rules =>
    match Conjunction.ofName? condition with
    | none => .error (.unknownCondition condition)
    | some kind => (toFormulas rules).map (.group kind negated)

def toFormulas : List RuleNode → Except FormulaError (List Formula)
  | [] => .ok []
  | n :: ns => do return (← toFormula n) :: (← toFormulas ns)

end

end RuleNode

namespace Formula

/-- The formula a rule-builder document stands for. -/
def ofDocument (d : Document) : Except FormulaError Formula :=
  match RuleNode.ofDocument? d with
  | some n => n.toFormula
  | none => .error .unknownShape

/-- The formula a rule-builder text stands for. -/
def ofText (s : String) : Except FormulaError Formula :=
  match Json.read? s with
  | some d => ofDocument d
  | none => .error .malformed

end Formula

end MailMerge
