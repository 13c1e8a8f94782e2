import MailMerge.Document.Fields
import MailMerge.Document.Sorted
import MailMerge.Document.Yaml.Reader
import MailMerge.Document.Yaml.Writer
import MailMerge.Predicate.Text
import MailMerge.Settings.Literal
import MailMerge.Template.Render

/-!
# Settings

Settings come in layers: what is set by default, then a file, then the environment. A
later layer replaces single settings of an earlier one. Settings that are not known are
passed over.
-/

namespace MailMerge

structure Settings where
  render : RenderOptions := {}
  /-- Placeholders in printed predicates. -/
  placeholder : PlaceholderStyle := .question
  /-- What is logged. -/
  logFilter : String := "warn"
deriving DecidableEq, Inhabited

namespace Document

mutual

/-- A document with a later layer on top: records are joined, anything else is
replaced. -/
def overlay (lower upper : Document) : Document :=
  match lower, upper with
  | .record fs, .record gs =>
    .record (overlayFields fs gs ++ gs.filter fun g => !fs.any fun f => f.1 == g.1)
  | _, upper => upper

def overlayFields : List (String × Document) → List (String × Document) →
    List (String × Document)
  | [], _ => []
  | f :: fs, gs =>
    (f.1, match List.lookup f.1 gs with
      | some g => overlay f.2 g
      | none => f.2) :: overlayFields fs gs

end

end Document

def PlaceholderStyle.name : PlaceholderStyle → String
  | .question => "question"
  | .percent => "format"

def PlaceholderStyle.ofName? (s : String) : Option PlaceholderStyle :=
  [question, percent].find? fun p => p.name == s

namespace Settings

-- ---------------------------------------------------------------------------
-- Documents
-- ---------------------------------------------------------------------------

def toDocument (s : Settings) : Document :=
  .record [
    ("render", .record [("html", .bool s.render.html),
      ("strict_undefined", .bool s.render.strictUndefined),
      ("keep_trailing_newline", .bool s.render.keepTrailingNewline)]),
    ("sql", .record [("placeholder", .text s.placeholder.name)]),
    ("log", .record [("filter", .text s.logFilter)])]

def renderOf? (d : Document) : Option RenderOptions := do
  let fs ← d.fields? .settings ["html", "strict_undefined", "keep_trailing_newline"]
  let html ← fs.optional? "html" true Document.bool?
  let strictUndefined ← fs.optional? "strict_undefined" false Document.bool?
  let keepTrailingNewline ← fs.optional? "keep_trailing_newline" true Document.bool?
  some { html, strictUndefined, keepTrailingNewline }

def placeholderOf? (d : Document) : Option PlaceholderStyle := do
  let fs ← d.fields? .settings ["placeholder"]
  fs.optional? "placeholder" .question fun d => (d.choice? .settings).bind PlaceholderStyle.ofName?

def logFilterOf? (d : Document) : Option String := do
  let fs ← d.fields? .settings ["filter"]
  fs.optional? "filter" "warn" Document.text?

def ofDocument? (d : Document) : Option Settings := do
  let fs ← d.fields? .settings ["render", "sql", "log"]
  let render ← fs.optional? "render" {} renderOf?
  let placeholder ← fs.optional? "sql" .question placeholderOf?
  let logFilter ← fs.optional? "log" "warn" logFilterOf?
  some { render, placeholder, logFilter }

-- ---------------------------------------------------------------------------
-- Layers
-- ---------------------------------------------------------------------------

/-- What variables for settings begin with. -/
def variableMark : List Char := "ONTASK_".toList

/-- The parts of a name between double underscores or points, up to the first empty one;
`current` is what was read of a part, latest first. -/
def namePath (current : List Char) : List Char → List String
  | [] => if current.isEmpty then [] else [String.ofList current.reverse]
  | '_' :: '_' :: cs =>
    if current.isEmpty then [] else String.ofList current.reverse :: namePath [] cs
  | '.' :: cs => if current.isEmpty then [] else String.ofList current.reverse :: namePath [] cs
  | c :: cs => namePath (c :: current) cs

/-- The setting a variable names, if it names one. Case does not matter. -/
def settingPath (variableName : String) : List String :=
  let name := (Text.trim variableName.toList).map Char.toLower
  if (variableMark.map Char.toLower).isPrefixOf name then
    namePath [] (name.drop variableMark.length)
  else []

/-- A document that holds nothing but a value at the end of a path. -/
def atPath (value : Document) : List String → Document
  | [] => value
  | name :: rest => .record [(name, atPath value rest)]

/-- A layer with the setting of a variable on top. -/
def addVariable (layer : Document) (v : String × String) : Document :=
  match settingPath v.1 with
  | [] => layer
  | path => layer.overlay (atPath (Literal.read v.2).sorted path)

/-- The layer of the environment. -/
def environmentLayer (environment : List (String × String)) : Document :=
  environment.foldl addVariable (Document.record [])

/-- The layer of a file, which must be a record or empty. -/
def fileLayer? (text : String) : Option Document := do
  if text.isEmpty then return Document.record []
  let d ← Yaml.read? text
  let layer ← (Document.record (← d.entries?)).resolve? fun s => some (Plain.scalar s)
  return layer.sorted

/-- The settings that come of a file, if there is one, and of the environment. -/
def load? (file : Option String) (environment : List (String × String)) : Option Settings := do
  let layer ← fileLayer? (file.getD "")
  ofDocument? ((toDocument {}).overlay layer |>.overlay (environmentLayer environment))

/-- The text of a file with the settings. -/
def write (s : Settings) : String := Yaml.write s.toDocument

/-- The variables that hold settings. -/
def variableNames : List String :=
  ["ONTASK_RENDER", "ONTASK_RENDER__HTML", "ONTASK_RENDER__STRICT_UNDEFINED",
    "ONTASK_RENDER__KEEP_TRAILING_NEWLINE", "ONTASK_SQL", "ONTASK_SQL__PLACEHOLDER", "ONTASK_LOG",
    "ONTASK_LOG__FILTER"]

end Settings

end MailMerge
