import MailMerge.Template.Datum.Part

/-!
# Arguments

A filter, test or function reads its arguments in order: the datum it is applied to
first, and arguments given by name together as the last one. Each is read as what the
parameter takes. Too many arguments fail, and so does one that is no such thing.
-/

namespace MailMerge

/-- How a template is rendered, as far as filters and tests depend on it. -/
structure Mode where
  /-- Whether the use of a missing datum is an error. -/
  strict : Bool
  /-- Whether output is made safe for HTML. -/
  escape : Bool
deriving DecidableEq, Repr

/-- The arguments of a filter, test or function. -/
abbrev ArgumentList := List Datum

namespace Datum

/-- Fails where missing data are errors and this one is missing. -/
def present (mode : Mode) (d : Datum) : Except RenderError Unit :=
  match d with
  | .missing false => require !mode.strict
  | _ => .ok ()

/-- Whether a datum counts as true. -/
def truth (mode : Mode) (d : Datum) : Except RenderError Bool := do
  d.present mode
  return d.isTrue

/-- The items a loop runs over. -/
def loopItems (mode : Mode) (d : Datum) : Except RenderError (List Datum) := do
  d.present mode
  orFail d.items?

end Datum

namespace ArgumentList

/-- Fails if there are more arguments than parameters. -/
def atMost (n : Nat) (args : ArgumentList) : Except RenderError Unit := require (args.length ≤ n)

/-- An argument that must be given. -/
def datum (args : ArgumentList) (place : Nat) : Except RenderError Datum := orFail args[place]?

/-- An argument that may be left out; a missing datum and none count as left out. -/
def datum? (args : ArgumentList) (place : Nat) : Option Datum :=
  match args[place]? with
  | some (.missing _) => none
  | some .none => none
  | d => d

/-- The written form of a datum, where a text is asked for. -/
def writtenText (mode : Mode) (d : Datum) : Except RenderError String := do
  d.present mode
  require !d.isKeywords
  return d.display

/-- An argument taken in its written form. -/
def written (mode : Mode) (args : ArgumentList) (place : Nat) : Except RenderError String := do
  writtenText mode (← datum args place)

/-- An argument taken in its written form, if it is given. -/
def written? (mode : Mode) (args : ArgumentList) (place : Nat) : Except RenderError (Option String) :=
  match datum? args place with
  | none => .ok none
  | some d => some <$> writtenText mode d

/-- An argument that must be a text. -/
def text (args : ArgumentList) (place : Nat) : Except RenderError String := do
  orFail (← datum args place).text?

/-- A text, if the argument is given. -/
def text? (args : ArgumentList) (place : Nat) : Except RenderError (Option String) :=
  match datum? args place with
  | none => .ok none
  | some d => some <$> orFail d.text?

/-- A whole number within bounds. -/
def whole (least most : Int) (args : ArgumentList) (place : Nat) : Except RenderError Int := do
  orFail ((← datum args place).wholeWithin? least most)

/-- A whole number within bounds, if the argument is given. -/
def whole? (least most : Int) (args : ArgumentList) (place : Nat) :
    Except RenderError (Option Int) :=
  match datum? args place with
  | none => .ok none
  | some d => some <$> orFail (d.wholeWithin? least most)

/-- A number of things. -/
def count (args : ArgumentList) (place : Nat) : Except RenderError Nat := do
  orFail (← datum args place).count?

/-- A truth value. -/
def asBool : Datum → Except RenderError Bool
  | .bool b => .ok b
  | _ => .error .failed

/-- A truth value, false if the argument is not given. -/
def flag (args : ArgumentList) (place : Nat) : Except RenderError Bool :=
  match datum? args place with
  | none => .ok false
  | some d => asBool d

-- ---------------------------------------------------------------------------
-- Arguments by name
-- ---------------------------------------------------------------------------

/-- Arguments given by name. -/
abbrev Keywords := List (Datum × Datum)

/-- The arguments given by place, and those given by name. -/
def splitKeywords (args : ArgumentList) : ArgumentList × Keywords :=
  match args.getLast? with
  | some (.record .keywords es) => (args.dropLast, es)
  | _ => (args, [])

/-- Fails if an argument has none of the given names. -/
def Keywords.only (names : List String) (ks : Keywords) : Except RenderError Unit :=
  require (ks.all fun k => k.1.text?.all names.contains)

/-- The argument of a name; a missing datum and none count as left out. -/
def Keywords.get? (ks : Keywords) (name : String) : Option Datum :=
  match Datum.lookup? (Datum.ofText name) ks with
  | some (.missing _) => none
  | some .none => none
  | d => d

/-- A text given by name, if it is given. -/
def Keywords.text? (ks : Keywords) (name : String) : Except RenderError (Option String) :=
  match ks.get? name with
  | none => .ok none
  | some d => some <$> orFail d.text?

/-- A truth value given by name, false if it is not given. -/
def Keywords.flag (ks : Keywords) (name : String) : Except RenderError Bool :=
  match ks.get? name with
  | none => .ok false
  | some d => asBool d

end ArgumentList

end MailMerge
