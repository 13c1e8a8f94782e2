import MailMerge.Formula.Basic
import MailMerge.Document.Json.Writer

/-!
# Formulas as rule-builder documents

The document of a formula: a group with its rules, or a rule whose constants stand as a
scalar or as a list of two.
-/

namespace MailMerge

/-- The form control in which values of a type are put in. -/
def DataType.control : DataType → String
  | .integer => "number"
  | .double => "number"
  | .boolean => "radio"
  | .string => "text"
  | .datetime => "text"

/-- The field that holds the constants, if there are any. -/
def Operand.toFields : Operand → List (String × Document)
  | .none => []
  | .single v => [("value", v.toDocument)]
  | .range low high => [("value", .list [low.toDocument, high.toDocument])]

def Comparison.toDocument (c : Comparison) : Document :=
  .record ([("id", .text c.field), ("field", .text c.field), ("type", .text c.dataType.name),
    ("input", .text c.dataType.control), ("operator", .text c.operator.name)]
    ++ c.operand.toFields)

namespace Formula

mutual

/-- The document a rule builder reads a formula from. -/
def toDocument : Formula → Document
  | .leaf c => c.toDocument
  | .group kind negated children =>
    .record [("condition", .text kind.name), ("not", .bool negated),
      ("rules", .list (toDocuments children)), ("valid", .bool true)]

def toDocuments : List Formula → List Document
  | [] => []
  | f :: fs => toDocument f :: toDocuments fs

end

/-- The text a rule builder reads a formula from. -/
def toText (f : Formula) : String := Json.write f.toDocument

end Formula

end MailMerge
