import MailMerge.Template.Filter.Arguments
import MailMerge.Template.Datum.Arithmetic
import MailMerge.Text.LetterClass

/-!
# Tests

A test asks something of a datum and takes exactly as many arguments as it has
parameters. Comparisons are tests too, under their words and under their signs.
-/

namespace MailMerge

namespace Test

/-- A test: a datum and its arguments to a truth value. -/
abbrev Body := Mode → ArgumentList → Except RenderError Bool

-- ---------------------------------------------------------------------------
-- Shapes of tests
-- ---------------------------------------------------------------------------

/-- A test of one datum. -/
def onDatum (f : Datum → Bool) : Body := fun _ args =>
  match args with
  | [d] => .ok (f d)
  | _ => .error .failed

/-- A test of two data. -/
def onPair (f : Datum → Datum → Bool) : Body := fun _ args =>
  match args with
  | [a, b] => .ok (f a b)
  | _ => .error .failed

/-- A test of one text, which must be one. -/
def onText (f : String → Bool) : Body := fun _ args =>
  match args with
  | [.text s _] => .ok (f s)
  | _ => .error .failed

/-- A test of the written forms of two data. -/
def onWritten (f : List Char → List Char → Bool) : Body := fun mode args => do
  args.atMost 2
  return f (← args.written mode 0).toList (← args.written mode 1).toList

-- ---------------------------------------------------------------------------
-- Questions
-- ---------------------------------------------------------------------------

/-- Whether a datum is a whole number with a remainder by two. -/
def hasParity (remainder : Int) (d : Datum) : Bool := d.whole?.any fun i => i % 2 == remainder

/-- Whether one number is a multiple of another. -/
def divides (a b : Datum) : Bool :=
  match a.number?, b.number? with
  | some (.int x), some (.int y) => y != 0 && x % y == 0
  | some x, some y => (x.toDouble.rem y.toDouble).isZero
  | _, _ => false

/-- Whether two data are the same: whole numbers and doubles are told apart. -/
def sameAs (a b : Datum) : Bool :=
  a.kind == b.kind && a.alike b &&
    (match a, b with
      | .double _, .double _ => true
      | .double _, _ => false
      | _, .double _ => false
      | .record (.space i) _, .record (.space j) _ => i == j
      | .record (.space _) _, _ => false
      | _, .record (.space _) _ => false
      | _, _ => true)

def isIn : Body := fun mode args =>
  match args with
  | [a, b] => do
    b.present mode
    return match b.contains a with
      | .ok r => r
      | .error _ => false
  | _ => .error .failed

/-- Whether a datum is a whole number and not written as anything else. -/
def isWhole : Datum → Bool
  | .int _ => true
  | _ => false

def isDouble : Datum → Bool
  | .double _ => true
  | _ => false

/-- Whether a datum is a given truth value. -/
def isBool (b : Bool) : Datum → Bool
  | .bool c => c == b
  | _ => false

-- ---------------------------------------------------------------------------
-- Names of tests
-- ---------------------------------------------------------------------------

/-- Tests that need to know nothing of other tests, by name. -/
def basic : List (String × Body) :=
  [("defined", onDatum fun d => !d.isMissing),
   ("undefined", onDatum Datum.isMissing),
   ("none", onDatum fun d => d.kind == .none),
   ("safe", onDatum Datum.isSafe),
   ("escaped", onDatum Datum.isSafe),
   ("boolean", onDatum fun d => d.kind == .bool),
   ("true", onDatum (isBool true)),
   ("false", onDatum (isBool false)),
   ("number", onDatum fun d => d.kind == .number),
   ("integer", onDatum isWhole),
   ("int", onDatum isWhole),
   ("float", onDatum isDouble),
   ("odd", onDatum (hasParity 1)),
   ("even", onDatum (hasParity 0)),
   ("divisibleby", onPair divides),
   ("string", onDatum fun d => d.kind == .text),
   ("sequence", onDatum fun d => d.kind == .sequence),
   ("iterable", onDatum fun d => d.items?.isSome),
   ("mapping", onDatum fun d => d.kind == .mapping),
   ("lower", onText fun s => s.toList.all LetterCase.isLower),
   ("upper", onText fun s => s.toList.all LetterCase.isUpper),
   ("startingwith", onWritten fun s t => t.isPrefixOf s),
   ("endingwith", onWritten fun s t => t.isSuffixOf s),
   ("sameas", onPair sameAs),
   ("eq", onPair fun a b => a.alike b),
   ("equalto", onPair fun a b => a.alike b),
   ("==", onPair fun a b => a.alike b),
   ("ne", onPair fun a b => !a.alike b),
   ("!=", onPair fun a b => !a.alike b),
   ("lt", onPair fun a b => (a.order b).isLT),
   ("lessthan", onPair fun a b => (a.order b).isLT),
   ("<", onPair fun a b => (a.order b).isLT),
   ("le", onPair fun a b => (a.order b).isLE),
   ("<=", onPair fun a b => (a.order b).isLE),
   ("gt", onPair fun a b => (a.order b).isGT),
   ("greaterthan", onPair fun a b => (a.order b).isGT),
   (">", onPair fun a b => (a.order b).isGT),
   ("ge", onPair fun a b => (a.order b).isGE),
   (">=", onPair fun a b => (a.order b).isGE),
   ("in", isIn)]

/-- The names of all tests. -/
def names : List String := ["filter", "test"] ++ basic.map (·.1)

/-- The result of a test, among filters of the given names. -/
def apply (filters : List String) (mode : Mode) (name : String) (args : ArgumentList) :
    Except RenderError Bool :=
  match name with
  | "filter" => onText filters.contains mode args
  | "test" => onText names.contains mode args
  | name => do (← orFail (basic.lookup name)) mode args

end Test

end MailMerge
