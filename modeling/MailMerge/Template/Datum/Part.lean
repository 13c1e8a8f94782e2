import MailMerge.Template.Datum.Order

/-!
# Parts of data

Attributes, items, paths and slices. Places count from zero, and from the end where they
are negative. What is not there is missing; of what is missing nothing can be asked.
-/

namespace MailMerge

namespace Datum

/-- The place an index means among so many items; negative ones count from the end. -/
def place? (length : Nat) (i : Int) : Option Nat :=
  if 0 ≤ i then some i.toNat
  else if i.natAbs ≤ length then some (length - i.natAbs) else Option.none

/-- The item at an index. Without a known number of items none counts from the end. -/
def itemAt? (sized : Bool) (xs : List Datum) (key : Datum) : Option Datum :=
  (key.int64?.bind fun i => if sized || 0 ≤ i then place? xs.length i else Option.none).bind
    fun i => xs[i]?

/-- The key, or the items, of a group. -/
def groupPart? (parts : List Datum) (name : String) : Option Datum :=
  if name == "grouper" then parts[0]? else if name == "list" then parts[1]? else Option.none

/-- The attribute of a record or a group. -/
def attribute? (d : Datum) (name : String) : Option Datum :=
  match d with
  | .record _ entries => lookup? (ofText name) entries
  | .list .group parts => groupPart? parts name
  | _ => Option.none

/-- The part of a datum under a key or at an index. -/
def item? (d key : Datum) : Option Datum :=
  match d with
  | .record _ entries => lookup? key entries
  | .list form xs =>
    match key with
    | .text name _ => attribute? (.list form xs) name
    | key => itemAt? form.isSized xs key
  | .text s _ => itemAt? true (s.toList.map fun c => ofText c.toString) key
  | _ => Option.none

/-- A part that was looked for: missing data have none, and not even missing ones. -/
def partOf (d : Datum) (part : Option Datum) : Except RenderError Datum :=
  match part, d with
  | some (.invalid _), _ => .error .failed
  | some x, _ => .ok x
  | Option.none, .missing _ => .error .failed
  | Option.none, _ => .ok (.missing false)

-- ---------------------------------------------------------------------------
-- Paths
-- ---------------------------------------------------------------------------

/-- The parts of a text between occurrences of a character. -/
def splitAtChar (separator : Char) : List Char → List (List Char)
  | [] => [[]]
  | c :: cs =>
    if c == separator then [] :: splitAtChar separator cs
    else
      match splitAtChar separator cs with
      | [] => [[c]]
      | part :: parts => (c :: part) :: parts

/-- The place a step of a path names: digits, with a plus sign at most. -/
def stepPlace? (cs : List Char) : Option Nat :=
  let digits := match cs with
    | '+' :: ds => ds
    | ds => ds
  if !digits.isEmpty && digits.all Char.isDigit then
    let n := digitsValue digits
    if n < 2 ^ 64 then some n else Option.none
  else Option.none

/-- One step of a path: to a place, or to an attribute. -/
def step (d : Datum) (name : List Char) : Except RenderError Datum :=
  match d with
  | .missing _ => .error .failed
  | d =>
    match stepPlace? name with
    | some n => .ok ((d.item? (.int n)).getD (.missing false))
    | Option.none => .ok ((d.attribute? (String.ofList name)).getD (.missing false))

/-- What a path of attributes and places with points between them leads to. -/
def path (d : Datum) (name : String) : Except RenderError Datum :=
  (splitAtChar '.' name.toList).foldlM step d

/-- What a path leads to, or another datum where it leads nowhere. -/
def pathOr (other d : Datum) (name : String) : Datum :=
  match d.path name with
  | .ok (.missing _) => other
  | .ok x => x
  | .error _ => other

-- ---------------------------------------------------------------------------
-- Slices
-- ---------------------------------------------------------------------------

/-- Every `step`-th item. -/
def everyNth {α : Type} (step : Nat) (xs : List α) : List α :=
  (xs.zipIdx.filter fun x => x.2 % step == 0).map (·.1)

/-- The items from one place up to another, every `step`-th of them. -/
def sliceForward {α : Type} (xs : List α) (start stop : Option Int) (step : Nat) : List α :=
  let n : Int := xs.length
  let clamp (i : Int) : Nat := (max 0 (min n (if i < 0 then n + i else i))).toNat
  everyNth step ((xs.take (clamp (stop.getD n))).drop (clamp (start.getD 0)))

/-- The items from one place down to the one above another, every `step`-th of them. Down
to the first place means that the item there is taken too. -/
def sliceBackward {α : Type} (xs : List α) (start stop : Option Int) (step : Nat) : List α :=
  let n : Int := xs.length
  let first : Int := match start with
    | some i => if n ≤ i then n - 1 else if 0 ≤ i then i else max 0 (n + i)
    | Option.none => n - 1
  let last : Int := match stop with
    | some i => if i < 0 then max 0 (n + i) else i
    | Option.none => 0
  let last := if last == 0 then -1 else last
  everyNth step ((xs.take (first + 1).toNat).drop (last + 1).toNat).reverse

/-- The items of a slice; a negative step goes backwards. -/
def sliceItems {α : Type} (xs : List α) (start stop : Option Int) (step : Int) : List α :=
  if 0 < step then sliceForward xs start stop step.toNat
  else sliceBackward xs start stop step.natAbs

/-- A bound of a slice, which may be left out. -/
def bound? : Datum → Except RenderError (Option Int)
  | .none => .ok Option.none
  | d => match d.int64? with
    | some i => .ok (some i)
    | Option.none => .error .failed

/-- The part of a text or list between two bounds. -/
def slice (d start stop step : Datum) : Except RenderError Datum := do
  let start ← start.bound?
  let stop ← stop.bound?
  let step := (← step.bound?).getD 1
  require (step != 0)
  match d with
  | .text s _ => return ofText (String.ofList (sliceItems s.toList start stop step))
  | .list form xs => return .list (.series (form.isSized || step < 0)) (sliceItems xs start stop step)
  | .missing _ => return ofList []
  | .none => return ofList []
  | _ => .error .failed

end Datum

end MailMerge
