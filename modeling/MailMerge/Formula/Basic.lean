import MailMerge.Formula.Operator
import MailMerge.Text.Quoted

/-!
# Formulas

A formula is a tree: a leaf compares one variable with constants, a group joins
formulas by AND or OR and may negate the result. Every question asked of a formula
visits all leaves in order, so that the first leaf that fails decides the error.
-/

namespace MailMerge

inductive Conjunction where
  | and
  | or
deriving DecidableEq, Inhabited, Repr

def Conjunction.name : Conjunction → String
  | .and => "AND"
  | .or => "OR"

/-- The constants of a comparison. -/
inductive Operand where
  | none
  | single (v : Value)
  | range (low high : Value)
deriving DecidableEq, Inhabited

/-- The constants of an operand, in order. -/
def Operand.values : Operand → List Value
  | .none => []
  | .single v => [v]
  | .range low high => [low, high]

/-- A leaf: a variable compared with constants that are read as the declared type. -/
structure Comparison where
  field : String
  operator : Operator
  dataType : DataType
  operand : Operand
deriving DecidableEq, Inhabited

inductive Formula where
  | leaf (c : Comparison)
  | group (kind : Conjunction) (negated : Bool) (children : List Formula)
deriving Inhabited

-- ---------------------------------------------------------------------------
-- Errors
-- ---------------------------------------------------------------------------

/-- Why a formula could not be read or evaluated. -/
inductive FormulaError where
  | missingVariable (name : String)
  | typeNotAllowed (operator : Operator) (dataType : DataType)
  | invalidConstant (field : String) (dataType : DataType) (value : String)
  | arity (field : String) (operator : Operator)
  | incomparable (field : String) (found : String) (dataType : DataType)
  | unknownColumn (name : String)
  /-- The text is no JSON. -/
  | malformed
  /-- A node of the text is neither a group nor a rule. -/
  | unknownShape
  | unknownCondition (name : String)
  | ruleWithoutField
  /-- A rule holds constants of the wrong shape. -/
  | ruleArity (field : String) (operator : Operator)
deriving DecidableEq

namespace FormulaError

def arityMessage (field : String) (o : Operator) : String :=
  "operator " ++ o.name ++ " on " ++ field ++ " expects " ++ toString o.arity ++ " operand(s)"

/-- The wording of an error. What is wrong with a text that is no JSON is not said. -/
def message : FormulaError → String
  | .missingVariable name => "no value found for variable " ++ name
  | .typeNotAllowed o t =>
    "evaluation error: type " ++ t.name ++ " not allowed with operator " ++ o.name
  | .invalidConstant field t value =>
    "invalid " ++ t.name ++ " constant for " ++ field ++ ": " ++ Text.quoted value
  | .arity field o => arityMessage field o
  | .incomparable field found t =>
    "cannot compare " ++ field ++ " (" ++ found ++ ") with a " ++ t.name ++ " constant"
  | .unknownColumn name => "unknown column: " ++ name
  | .malformed => "parse error: malformed text"
  | .unknownShape => "parse error: data did not match any variant of untagged enum RawNode"
  | .unknownCondition name => "parse error: parse error: unknown condition: " ++ name
  | .ruleWithoutField => "parse error: parse error: rule without a field"
  | .ruleArity field o => "parse error: " ++ arityMessage field o

end FormulaError

-- ---------------------------------------------------------------------------
-- Operands
-- ---------------------------------------------------------------------------

namespace Comparison

/-- A constant read as the declared type. -/
def coerce (c : Comparison) (v : Value) : Except FormulaError Value :=
  match c.dataType.coerce? v with
  | some w => .ok w
  | none => .error (.invalidConstant c.field c.dataType v.display)

/-- The single constant. -/
def constant (c : Comparison) : Except FormulaError Value :=
  match c.operand with
  | .single v => c.coerce v
  | _ => .error (.arity c.field c.operator)

/-- The two bounds of a range. -/
def range (c : Comparison) : Except FormulaError (Value × Value) :=
  match c.operand with
  | .range low high => do return (← c.coerce low, ← c.coerce high)
  | _ => .error (.arity c.field c.operator)

/-- The text a pattern operator looks for. -/
def pattern (c : Comparison) : Except FormulaError String :=
  match c.operand with
  | .single .null => .error (.invalidConstant c.field c.dataType "")
  | .single v => .ok v.display
  | _ => .error (.arity c.field c.operator)

/-- Fails unless the operator accepts the declared type. -/
def checkType (c : Comparison) : Except FormulaError Unit :=
  if c.operator.accepts c.dataType then .ok () else .error (.typeNotAllowed c.operator c.dataType)

end Comparison

-- ---------------------------------------------------------------------------
-- Trees
-- ---------------------------------------------------------------------------

namespace Formula

/-- Whether all formulas hold together. -/
def and (children : List Formula) : Formula := .group .and false children

/-- Whether some formula holds. -/
def or (children : List Formula) : Formula := .group .or false children

/-- The opposite formula; a leaf is put into a negated group of its own. -/
def negate : Formula → Formula
  | .leaf c => .group .and true [.leaf c]
  | .group kind negated children => .group kind (!negated) children

variable {α : Type}

mutual

/-- Answers a question about a formula from the answers for its leaves. All leaves are
asked, and the first that fails gives the error. -/
def fold (leaf : Comparison → Except FormulaError α) (group : Conjunction → Bool → List α → α) :
    Formula → Except FormulaError α
  | .leaf c => leaf c
  | .group kind negated children => (foldEach leaf group children).map (group kind negated)

def foldEach (leaf : Comparison → Except FormulaError α)
    (group : Conjunction → Bool → List α → α) : List Formula → Except FormulaError (List α)
  | [] => .ok []
  | f :: fs => do return (← fold leaf group f) :: (← foldEach leaf group fs)

end

mutual

/-- The leaves of a formula, in order. -/
def leaves : Formula → List Comparison
  | .leaf c => [c]
  | .group _ _ children => leavesEach children

def leavesEach : List Formula → List Comparison
  | [] => []
  | f :: fs => leaves f ++ leavesEach fs

end

/-- The variables of all leaves, in order and as often as they occur. -/
def variableNames (f : Formula) : List String := f.leaves.map (·.field)

mutual

/-- Whether some leaf compares the variable. -/
def mentions : Formula → String → Bool
  | .leaf c, name => c.field == name
  | .group _ _ children, name => mentionsEach children name

def mentionsEach : List Formula → String → Bool
  | [], _ => false
  | f :: fs, name => mentions f name || mentionsEach fs name

end

mutual

/-- The formula with every leaf changed. -/
def mapLeaves (g : Comparison → Comparison) : Formula → Formula
  | .leaf c => .leaf (g c)
  | .group kind negated children => .group kind negated (mapLeavesEach g children)

def mapLeavesEach (g : Comparison → Comparison) : List Formula → List Formula
  | [] => []
  | f :: fs => mapLeaves g f :: mapLeavesEach g fs

end

/-- The formula with every leaf on one variable moved to another. -/
def rename (old new : String) : Formula → Formula :=
  mapLeaves fun c => if c.field == old then { c with field := new } else c

end Formula

end MailMerge
