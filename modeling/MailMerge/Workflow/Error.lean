import MailMerge.Store.Error
import MailMerge.Template.Render
import MailMerge.Workflow.Names

/-!
# Errors of an action
-/

namespace MailMerge

/-- Why an action cannot be carried out. -/
inductive ActionError where
  /-- The text cannot be read or rendered. -/
  | text
  /-- The subject cannot be read or rendered. -/
  | subject
  | notInput (action : String)
  | isInput (action : String)
  | condition (name : String) (e : FormulaError)
  | reservedName (name : String)
  /-- Two names have one identifier. -/
  | collision (first second identifier : String)
  | missingColumn (name : String)
  | store (e : StoreError)
deriving DecidableEq

namespace ActionError

/-- A failure to render the text of an action. -/
def ofText : RenderError → ActionError
  | .reservedName name => .reservedName name
  | .collision first second identifier => .collision first second identifier
  | .malformed => .text
  | .failed => .text

/-- A failure to render the subject. -/
def ofSubject : RenderError → ActionError
  | .reservedName name => .reservedName name
  | .collision first second identifier => .collision first second identifier
  | .malformed => .subject
  | .failed => .subject

/-- The wording of an error. What is wrong with a template is not said. -/
def message : ActionError → String
  | .text => "Syntax error detected in the action text. "
  | .subject => "Syntax error detected in the subject. "
  | .notInput action => "incorrect type of action: " ++ action ++ " is not an input action"
  | .isInput action => "incorrect type of action: " ++ action ++ " is an input action"
  | .condition name e => "condition " ++ name ++ ": " ++ e.message
  | .reservedName name => (RenderError.reservedName name).message
  | .collision first second identifier => (RenderError.collision first second identifier).message
  | .missingColumn name => "column " ++ name ++ " is not in the row"
  | .store e => e.message

end ActionError

end MailMerge
