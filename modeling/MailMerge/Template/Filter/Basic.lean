import MailMerge.Template.Filter.Layout
import MailMerge.Template.Filter.List
import MailMerge.Template.Filter.Number
import MailMerge.Template.Filter.Test

/-!
# Filters

Every filter under its name. Some apply other filters, or tests, to the items of a list;
those are given by name as arguments, so that applying a filter ends with the arguments.
-/

namespace MailMerge

namespace Filter

/-- A filter: a datum and its arguments to a datum. -/
abbrev Body := Mode → ArgumentList → Except RenderError Datum

/-- Filters that apply no other filter or test, by name. -/
def basic : List (String × Body) :=
  [("safe", markSafe),
   ("escape", escape),
   ("e", escape),
   ("lower", onText LetterCase.lowerText),
   ("upper", onText LetterCase.upperText),
   ("title", onText (titleFrom true)),
   ("capitalize", onText capitalize),
   ("replace", replace),
   ("trim", trim),
   ("split", split),
   ("lines", splitLines),
   ("indent", indented),
   ("format", layout),
   ("join", join),
   ("string", toText),
   ("int", toInt),
   ("float", toDouble),
   ("abs", fun _ => abs),
   ("round", fun _ => round),
   ("sum", sum),
   ("bool", toBool),
   ("list", toList),
   ("length", fun _ => length),
   ("count", fun _ => length),
   ("first", fun _ => first),
   ("last", fun _ => last),
   ("min", minimum),
   ("max", maximum),
   ("reverse", reverse),
   ("sort", sort),
   ("unique", unique),
   ("batch", batch),
   ("slice", slice),
   ("groupby", groupBy),
   ("chain", chain),
   ("zip", zip),
   ("items", fun _ => items),
   ("dictsort", fun _ => sortedItems),
   ("attr", fun _ => partUnder),
   ("default", fun _ => default),
   ("d", fun _ => default),
   ("pprint", fun _ => longForm)]

/-- Filters that apply other filters or tests. -/
def applying : List String := ["map", "select", "reject", "selectattr", "rejectattr"]

/-- The names of all filters. -/
def names : List String := applying ++ basic.map (·.1)

/-- The result of a test. -/
def test (mode : Mode) (name : String) (args : ArgumentList) : Except RenderError Bool :=
  Test.apply names mode name args

-- ---------------------------------------------------------------------------
-- Items chosen by a test
-- ---------------------------------------------------------------------------

/-- What items are asked: a test by its name, or without one whether they are true. -/
def question (mode : Mode) (args : ArgumentList) : Except RenderError (Datum → Except RenderError Bool) :=
  match ArgumentList.datum? args 0 with
  | none => .ok fun d => .ok d.isTrue
  | some name => do
    let name ← ArgumentList.writtenText mode name
    require (Test.names.contains name)
    return fun d => test mode name (d :: args.tail)

/-- The items of which a part passes a test, or fails it. -/
def choose (mode : Mode) (keep : Bool) (part : Datum → Except RenderError Datum)
    (source : Datum) (args : ArgumentList) : Except RenderError Datum := do
  let passes ← question mode args
  let chosen ← (← source.loopItems mode).filterM fun d => do
    return (← passes (← part d)) == keep
  return Datum.ofList chosen

/-- Chooses items by what they are. -/
def chooseItems (keep : Bool) (mode : Mode) (args : ArgumentList) : Except RenderError Datum := do
  choose mode keep .ok (← args.datum 0) args.tail

/-- Chooses items by one of their attributes. -/
def chooseByAttribute (keep : Bool) (mode : Mode) (args : ArgumentList) :
    Except RenderError Datum := do
  let name ← args.written mode 1
  choose mode keep (fun d => d.path name) (← args.datum 0) (args.drop 2)

-- ---------------------------------------------------------------------------
-- Items made of others
-- ---------------------------------------------------------------------------

/-- The attribute a name leads to, or the part under any other key. -/
def partNamed (name d : Datum) : Except RenderError Datum :=
  match name with
  | .text s _ => d.path s
  | name => d.partOf (d.item? name)

/-- The attribute of an item; what is missing is replaced by another datum. -/
def partOr (other name d : Datum) : Except RenderError Datum :=
  match partNamed name d with
  | .ok (.missing _) => .ok other
  | .ok x => .ok x
  | .error e => if other.isMissing then .error e else .ok other

/-- One attribute of every item. -/
def mapAttribute (mode : Mode) (ks : ArgumentList.Keywords) (name source : Datum) :
    Except RenderError Datum := do
  ks.only ["attribute", "default"]
  let other := (Datum.lookup? (Datum.ofText "default") ks).getD (.missing false)
  return Datum.ofList (← (← source.loopItems mode).mapM (partOr other name))

/-- Applies a filter by its name, of which at most so many apply others. -/
def applyWithin : Nat → Mode → String → ArgumentList → Except RenderError Datum
  | depth, mode, name, args =>
    match name, depth with
    | "select", _ => chooseItems true mode args
    | "reject", _ => chooseItems false mode args
    | "selectattr", _ => chooseByAttribute true mode args
    | "rejectattr", _ => chooseByAttribute false mode args
    | "map", 0 => .error .failed
    | "map", depth + 1 => do
      let source ← args.datum 0
      let (places, ks) := ArgumentList.splitKeywords args.tail
      match ks.get? "attribute" with
      | some key => do
        require places.isEmpty
        mapAttribute mode ks key source
      | none => do
        let inner ← ArgumentList.text places 0
        require (names.contains inner)
        let results ← (← source.loopItems mode).mapM fun d =>
          applyWithin depth mode inner (d :: places.tail)
        return Datum.ofList results
    | name, _ => do (← orFail (basic.lookup name)) mode args

/-- Applies a filter by its name. -/
def apply (mode : Mode) (name : String) (args : ArgumentList) : Except RenderError Datum :=
  applyWithin (args.length + 1) mode name args

end Filter

end MailMerge
