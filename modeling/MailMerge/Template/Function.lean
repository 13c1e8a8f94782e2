import MailMerge.Template.Filter.Arguments

/-!
# Functions

The functions every template knows. What a namespace starts with is told here; that it
can be changed later is a matter of the state of a rendering.
-/

namespace MailMerge

namespace Function

def names : List String := ["range", "dict", "namespace", "debug"]

/-- A function by its name. -/
def named? (name : String) : Option Datum :=
  if names.contains name then some (.function name) else none

/-- The number of steps from one whole number up or down to another, which is left out. -/
def stepsBetween (lower upper step : Int) : Nat :=
  if 0 < step then ((upper - lower + step - 1) / step).toNat
  else ((lower - upper - step - 1) / (-step)).toNat

/-- The most items of a range. -/
def mostItems : Nat := 100000

/-- The whole numbers from one up or down to another, which is left out. -/
def range (args : ArgumentList) : Except RenderError Datum := do
  args.atMost 3
  let first ← args.whole (-2 ^ 63) (2 ^ 63 - 1) 0
  let second ← args.whole? (-2 ^ 63) (2 ^ 63 - 1) 1
  let step := (← args.whole? (-2 ^ 63) (2 ^ 63 - 1) 2).getD 1
  require (step != 0)
  let (lower, upper) := match second with
    | some upper => (first, upper)
    | none => (0, first)
  let n := stepsBetween lower upper step
  require (n ≤ mostItems)
  return .list (.series true) ((List.range n).map fun (i : Nat) => .int (lower + step * i))

/-- The entries of a mapping that may be left out. -/
def entriesGiven (args : ArgumentList) (place : Nat) : Except RenderError (List (Datum × Datum)) :=
  match args.datum? place with
  | none => .ok []
  | some d => orFail d.entries?

/-- A mapping with more entries. -/
def dict (args : ArgumentList) : Except RenderError Datum := do
  let (places, ks) := args.splitKeywords
  places.atMost 1
  let entries ← entriesGiven places 0
  return .record .stored (Datum.mergeEntries (Datum.sortEntries entries) ks)

/-- What a namespace starts with: names with what they are bound to. -/
def namespaceEntries (args : ArgumentList) : Except RenderError (List (Datum × Datum)) := do
  args.atMost 1
  let entries ← entriesGiven args 0
  require (entries.all fun e => e.1.text?.isSome)
  return Datum.sortEntries entries

/-- The long written form of one datum, or of several as a list. -/
def debug (args : ArgumentList) : Except RenderError Datum :=
  match args with
  | [] => .error .failed
  | [d] => .ok (Datum.ofText (d.long 0))
  | ds => .ok (Datum.ofText ((Datum.ofList ds).long 0))

/-- The result of a function that leaves the state as it is. -/
def apply (name : String) (args : ArgumentList) : Except RenderError Datum :=
  match name with
  | "range" => range args
  | "dict" => dict args
  | "debug" => debug args
  | _ => .error .failed

end Function

end MailMerge
