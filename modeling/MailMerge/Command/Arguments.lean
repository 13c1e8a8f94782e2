import MailMerge.Command.Basic

/-!
# Reading a command line

Options have a long name and often a letter; some take a value, which stands behind an
equals sign or is the next argument. Letters without values may be joined. Two hyphens
end the options. What is wrong is noticed from left to right, and so are the requests for
help and for the version; which options go together is looked at last.
-/

namespace MailMerge

/-- Why a command line is not carried out. -/
inductive Stop where
  | help
  | version
  | usage
deriving DecidableEq, Inhabited, Repr

/-- What an option or operand may hold. -/
inductive ValueKind where
  | text
  /-- A path is not empty. -/
  | path
  | number
  | mode
deriving DecidableEq, Inhabited, Repr

/-- Digits with an optional plus sign that denote a number of 64 bits. -/
def readIndex? (s : String) : Option Nat :=
  let digits := match s.toList with
    | '+' :: cs => cs
    | cs => cs
  if digits.isEmpty || !digits.all Char.isDigit then none
  else
    let n := digitsValue digits
    if n < 2 ^ 64 then some n else none

def ValueKind.accepts : ValueKind → String → Bool
  | .text, _ => true
  | .path, s => !s.isEmpty
  | .number, s => (readIndex? s).isSome
  | .mode, s => (FormulaMode.ofName? s).isSome

structure OptionRule where
  name : String
  letter : Option Char := none
  /-- What the value is, `none` for a flag. -/
  value : Option ValueKind := none
  repeatable : Bool := false
deriving DecidableEq, Inhabited, Repr

/-- What may follow a program or one of its commands. -/
structure Grammar where
  options : List OptionRule
  /-- The kind of each operand. -/
  operands : List ValueKind := []
  /-- Whether the last operand may be repeated. -/
  repeatsLast : Bool := false
  commands : List String := []
deriving Inhabited

/-- What was read of a command line. -/
structure Scan where
  options : List (String × String) := []
  operands : List String := []
  /-- A command and its own arguments. -/
  command : Option (String × List String) := none
deriving Inhabited

namespace Scan

/-- The last value given to an option. -/
def value? (s : Scan) (name : String) : Option String := List.lookup name s.options.reverse

/-- All values given to an option, in order. -/
def values (s : Scan) (name : String) : List String :=
  (s.options.filter fun o => o.1 == name).map (·.2)

def has (s : Scan) (name : String) : Bool := s.options.any fun o => o.1 == name

end Scan

namespace Grammar

/-- Adds an option that is there; only some may be repeated. -/
def addOption (rule : OptionRule) (value : String) (s : Scan) : Except Stop Scan :=
  if s.has rule.name && !rule.repeatable then .error .usage
  else if rule.value.all fun kind => kind.accepts value then
    .ok { s with options := s.options ++ [(rule.name, value)] }
  else .error .usage

/-- Adds an operand, if there is a place for it. -/
def addOperand (g : Grammar) (value : String) (s : Scan) : Except Stop Scan :=
  let kind := match g.operands[s.operands.length]? with
    | some k => some k
    | none => if g.repeatsLast then g.operands.getLast? else none
  match kind with
  | some k =>
    if k.accepts value then .ok { s with operands := s.operands ++ [value] } else .error .usage
  | none => .error .usage

def addOperands (g : Grammar) (s : Scan) : List String → Except Stop Scan
  | [] => .ok s
  | v :: vs => do addOperands g (← g.addOperand v s) vs

/-- Whether an argument may be the value of the option before it. -/
def isValue (arg : String) : Bool := !("-".toList.isPrefixOf arg.toList) || arg == "-"

/-- What becomes of an argument: an option that still lacks its value, or none. -/
abbrev Pending := Scan × Option OptionRule

/-- An argument with a long name, without its hyphens. -/
def long (g : Grammar) (s : Scan) (cs : List Char) : Except Stop Pending :=
  let (name, rest) := cs.span (· != '=')
  let name := String.ofList name
  match g.options.find? fun o => o.name == name with
  | none =>
    if !rest.isEmpty then .error .usage
    else if name == "help" then .error .help
    else if name == "version" then .error .version
    else .error .usage
  | some rule =>
    match rule.value, rest with
    | none, [] => (addOption rule "" s).map fun s => (s, none)
    | none, _ :: _ => .error .usage
    | some _, [] => .ok (s, some rule)
    | some _, _ :: value => (addOption rule (String.ofList value) s).map fun s => (s, none)

/-- An argument with letters, without its hyphen. -/
def letters (g : Grammar) (s : Scan) : List Char → Except Stop Pending
  | [] => .ok (s, none)
  | c :: cs =>
    match g.options.find? fun o => o.letter == some c with
    | none =>
      if c == 'h' then .error .help else if c == 'V' then .error .version else .error .usage
    | some rule =>
      match rule.value, cs with
      | none, cs => do letters g (← addOption rule "" s) cs
      | some _, [] => .ok (s, some rule)
      | some _, '=' :: value => (addOption rule (String.ofList value) s).map fun s => (s, none)
      | some _, value => (addOption rule (String.ofList value) s).map fun s => (s, none)

/-- Reads arguments behind what was read so far. An option may wait for its value. -/
def scan (g : Grammar) : Scan → Option OptionRule → List String → Except Stop Scan
  | s, none, [] => .ok s
  | _, some _, [] => .error .usage
  | s, some rule, arg :: args =>
    if isValue arg then do scan g (← addOption rule arg s) none args else .error .usage
  | s, none, arg :: args =>
    match arg.toList with
    | ['-', '-'] => g.addOperands s args
    | '-' :: '-' :: cs => do
      let (s, pending) ← g.long s cs
      scan g s pending args
    | '-' :: c :: cs => do
      let (s, pending) ← g.letters s (c :: cs)
      scan g s pending args
    | _ =>
      if g.commands.isEmpty then do scan g (← g.addOperand arg s) none args
      else if g.commands.contains arg then .ok { s with command := some (arg, args) }
      else .error .usage

/-- Reads the arguments of a command, all of whose operands must be there. -/
def read (g : Grammar) (args : List String) : Except Stop Scan := do
  let s ← g.scan {} none args
  if s.operands.length < g.operands.length then throw .usage
  return s

end Grammar

-- ---------------------------------------------------------------------------
-- The grammar of the program
-- ---------------------------------------------------------------------------

namespace Arguments

def configRule : OptionRule := { name := "config", value := some .path }

/-- Options that may stand before and behind a command. -/
def globalRules : List OptionRule :=
  [configRule, { name := "json" }, { name := "verbose", letter := some 'v' }]

def textRule (name : String) (letter : Option Char) : OptionRule :=
  { name, letter, value := some .text }

def sourceRules : List OptionRule := textRule "action" (some 'a') :: globalRules

def commandNames : List String := ["translate", "formula", "run", "preview", "count"]

def program : Grammar := { options := globalRules, commands := "help" :: commandNames }

def identifiers : Grammar := { options := globalRules, operands := [.text], repeatsLast := true }

def formula : Grammar :=
  { options := [{ name := "mode", letter := some 'm', value := some .mode },
      { name := "context", letter := some 'c', value := some .path }] ++ globalRules
    operands := [.path] }

def run : Grammar :=
  { options := [textRule "subject" (some 's'), textRule "key-column" (some 'k'),
      { name := "exclude", value := some .text, repeatable := true }] ++ sourceRules
    operands := [.path, .path] }

def preview : Grammar :=
  { options := [{ name := "index", letter := some 'i', value := some .number },
      textRule "key" none, textRule "key-column" (some 'k'), textRule "text" (some 't')]
      ++ sourceRules
    operands := [.path, .path] }

def count : Grammar := { options := sourceRules, operands := [.path, .path] }

-- ---------------------------------------------------------------------------
-- Commands
-- ---------------------------------------------------------------------------

/-- The source among what was read. -/
def sourceOf (s : Scan) : Source :=
  { workflow := s.operands.headD "", rows := (s.operands.drop 1).headD ""
    action := s.value? "action" }

def previewOf (s : Scan) : Except Stop Command := do
  if s.has "index" && s.has "key" then throw .usage
  if s.has "key" && !s.has "key-column" then throw .usage
  return .preview (sourceOf s)
    { index := (s.value? "index").bind readIndex?, key := s.value? "key"
      keyColumn := s.value? "key-column", text := s.value? "text" }

/-- What was read of a command, with the command it stands for. -/
def commandOf (name : String) (args : List String) : Except Stop (Scan × Command) := do
  match name with
  | "translate" =>
    let s ← identifiers.read args
    return (s, .identifiers s.operands)
  | "formula" =>
    let s ← formula.read args
    let mode := ((s.value? "mode").bind FormulaMode.ofName?).getD .bool
    return (s, .formula (s.operands.headD "") mode (s.value? "context"))
  | "run" =>
    let s ← run.read args
    return (s, .run (sourceOf s) (s.value? "subject") (s.value? "key-column") (s.values "exclude"))
  | "preview" =>
    let s ← preview.read args
    return (s, ← previewOf s)
  | "count" =>
    let s ← count.read args
    return (s, .count (sourceOf s))
  | _ => throw .usage

/-- Help may be asked for one command. -/
def helpFor (args : List String) : Stop :=
  match args with
  | [] => .help
  | [name] => if program.commands.contains name then .help else .usage
  | _ => .usage

/-- The path of the configuration: of one given in several places the innermost stands,
and where none is given the environment may name one. -/
def configOf (environment : Option String) (scans : List Scan) : Except Stop (Option String) :=
  match environment with
  | none => .ok (scans.reverse.findSome? fun s => s.value? configRule.name)
  | some path =>
    if path.isEmpty && scans.any fun s => !s.has configRule.name then .error .usage
    else .ok (some ((scans.reverse.findSome? fun s => s.value? configRule.name).getD path))

/-- What a request for help or the version, or a mistake, leaves behind; `name` is what the
version is asked of. -/
abbrev Stopped := Stop × String

def stopAs {α : Type} (name : String) (r : Except Stop α) : Except Stopped α :=
  r.mapError fun stop => (stop, name)

def programName : String := "ot"

/-- The invocation a command line stands for. -/
def read (environment : Option String) (args : List String) : Except Stopped Invocation := do
  let outer ← stopAs programName (program.read args)
  match outer.command with
  | none =>
    let config ← stopAs programName (configOf environment [outer])
    return { config, json := outer.has "json" }
  | some ("help", args) => throw (helpFor args, programName)
  | some (name, args) =>
    let full := programName ++ "-" ++ name
    let (inner, command) ← stopAs full (commandOf name args)
    let config ← stopAs full (configOf environment [outer, inner])
    return { config, json := outer.has "json" || inner.has "json", command := some command }

end Arguments

end MailMerge
