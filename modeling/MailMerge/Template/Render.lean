import MailMerge.Template.Node.Run
import MailMerge.Template.Name
import MailMerge.Template.Reference

/-!
# Rendering a text for a row

The names a text refers to are replaced by identifiers, the names of the context in the
same way, and the template that comes of it is rendered. In a text from an HTML editor
names are stored escaped, so those of the context are escaped first. Where an action is
rendered it is bound under a reserved name, together with a counter.
-/

namespace MailMerge

structure RenderOptions where
  /-- Whether texts come from an HTML editor and output is made safe for HTML. -/
  html : Bool := true
  /-- Whether a reference to an unbound name is an error. -/
  strictUndefined : Bool := false
  keepTrailingNewline : Bool := true
deriving DecidableEq, Repr, Inhabited

namespace Render

/-- The name an action is bound under. -/
def actionName : String := "ONTASK_ACTION_CONTEXT_VARIABLE___"

/-- The name the counter of visualizations is bound under. -/
def counterName : String := "ONTASK_VIZ_NUMBER_CONTEXT_VARIABLE___"

def reservedNames : List String := [actionName, counterName]

/-- Whether a reference is to a reserved name, or to a part of what it is bound to. -/
def isReserved (name : String) : Bool :=
  reservedNames.any fun r =>
    r.toList.isPrefixOf name.toList &&
      ((name.toList.drop r.toList.length).head?.all fun c => c == '.')

/-- What a reference is replaced by: references to reserved names stay as they are. -/
def referenceIdentifier (name : String) : String :=
  if isReserved name then name else Name.identifier name

/-- The identifier a name of the context is bound under. -/
def contextIdentifier (options : RenderOptions) (name : String) : String :=
  if options.html then Name.storedIdentifier name else Name.identifier name

/-- What a template finds bound: the context, and the action if there is one. -/
def bindings (options : RenderOptions) (context : Context) (action : Option Datum) :
    Except RenderError (List (String × Datum)) := do
  let own := match action with
    | none => []
    | some a => [(actionName, a), (counterName, Datum.int 0)]
  let named ← context.mapNames (contextIdentifier options)
  return own ++ named.map fun e => (e.1, Datum.ofValue e.2)

/-- Renders a template whose names are identifiers. -/
def renderTemplate (options : RenderOptions) (bound : List (String × Datum)) (template : String) :
    Except RenderError String := do
  let nodes ← Node.read (Token.tokenize options.keepTrailingNewline template)
  Node.render options.strictUndefined options.html bound nodes

/-- Renders a text, with an action bound if one is given. -/
def renderWith (options : RenderOptions) (text : String) (context : Context)
    (action : Option Datum) : Except RenderError String :=
  match (if action.isSome then reservedNames.find? context.contains else none) with
  | some name => .error (.reservedName name)
  | none => do
    let bound ← bindings options context action
    renderTemplate options bound (Reference.substitute referenceIdentifier text)

/-- Renders a text. -/
def render (options : RenderOptions) (text : String) (context : Context) :
    Except RenderError String :=
  renderWith options text context none

/-- Renders a text with an action bound. -/
def renderAction (options : RenderOptions) (text : String) (context : Context) (action : Datum) :
    Except RenderError String :=
  renderWith options text context (some action)

end Render

namespace RenderError

/-- The wording of an error. What is wrong with a template is not said. -/
def message : RenderError → String
  | .reservedName name => "name " ++ name ++ " is reserved"
  | .collision first second identifier =>
    "variable names " ++ Text.quoted first ++ " and " ++ Text.quoted second ++ " collide as "
      ++ identifier
  | .malformed => "malformed template"
  | .failed => "template failed"

end RenderError

end MailMerge
