import MailMerge.Template.Datum.Basic
import MailMerge.Text.Quoted

/-!
# Written data

A text is written as it is, and nothing is written for a missing datum. Inside a list or
record texts are quoted. The long form gives every item a line of its own.
-/

namespace MailMerge

namespace Datum

/-- What is written for items whose number is not known. -/
def unsizedText : String := "<iterator>"

/-- The value a record has for a name. -/
def valueNamed? (name : String) (entries : List (Datum × Datum)) : Option Datum :=
  (entries.find? fun e => e.1.text? == some name).map (·.2)

/-- What is written for the state of a loop. -/
def writeLoop (entries : List (Datum × Datum)) : String :=
  let number (name : String) : Option Int := (valueNamed? name entries).bind whole?
  let place := match number "index0" with
    | some i => "<loop " ++ toString i
    | Option.none => "<loop "
  match number "length" with
  | some n => place ++ "/" ++ toString n ++ ">"
  | Option.none => place ++ ">"

/-- What is written for a routine. -/
def writeRoutine (entries : List (Datum × Datum)) : String :=
  "<macro " ++ (((valueNamed? "name" entries).bind text?).getD "") ++ ">"

/-- What is written for a function of the engine. -/
def writeFunction (name : String) : String := "minijinja::functions::builtins::" ++ name

mutual

/-- How a datum is shown inside a list or record. -/
def inner : Datum → String
  | .missing _ => "undefined"
  | .none => "None"
  | .bool b => if b then "True" else "False"
  | .int i => toString i
  | .double d => d.write .key
  | .text s _ => Text.quoted s
  | .list (.series false) _ => unsizedText
  | .list _ [] => "[]"
  | .list _ (x :: xs) => "[" ++ inner x ++ innerItems xs
  | .record (.loop _) es => writeLoop es
  | .record (.routine _) es => writeRoutine es
  | .record _ [] => "\x7b\x7d"
  | .record _ (e :: es) => "\x7b" ++ inner e.1 ++ ": " ++ inner e.2 ++ innerEntries es
  | .function name => writeFunction name
  | .invalid reason => "<invalid value: " ++ reason ++ ">"

def innerItems : List Datum → String
  | [] => "]"
  | x :: xs => ", " ++ inner x ++ innerItems xs

def innerEntries : List (Datum × Datum) → String
  | [] => "\x7d"
  | e :: es => ", " ++ inner e.1 ++ ": " ++ inner e.2 ++ innerEntries es

end

/-- How a datum is shown on its own: a text as it is, a missing datum as nothing, and a
double without an exponent. -/
def display : Datum → String
  | .missing _ => ""
  | .text s _ => s
  | .double d => d.write .rendered
  | d => inner d

/-- Blanks at the start of a line. -/
def margin (depth : Nat) : String := String.ofList (List.replicate (4 * depth) ' ')

mutual

/-- The long form of a datum, with every item on a line of its own. -/
def long (depth : Nat) : Datum → String
  | .list (.series false) _ => unsizedText
  | .list _ (x :: xs) =>
    "[\n" ++ margin (depth + 1) ++ long (depth + 1) x ++ ",\n" ++ longItems (depth + 1) xs ++
      margin depth ++ "]"
  | .record (.loop _) es => writeLoop es
  | .record (.routine _) es => writeRoutine es
  | .record _ (e :: es) =>
    "\x7b\n" ++ margin (depth + 1) ++ long (depth + 1) e.1 ++ ": " ++ long (depth + 1) e.2 ++
      ",\n" ++ longEntries (depth + 1) es ++ margin depth ++ "\x7d"
  | d => inner d

def longItems (depth : Nat) : List Datum → String
  | [] => ""
  | x :: xs => margin depth ++ long depth x ++ ",\n" ++ longItems depth xs

def longEntries (depth : Nat) : List (Datum × Datum) → String
  | [] => ""
  | e :: es =>
    margin depth ++ long depth e.1 ++ ": " ++ long depth e.2 ++ ",\n" ++ longEntries depth es

end

end Datum

end MailMerge
