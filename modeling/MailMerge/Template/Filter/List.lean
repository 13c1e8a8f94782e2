import MailMerge.Template.Filter.Arguments
import MailMerge.Text.LetterClass

/-!
# Filters of lists and records
-/

namespace MailMerge

namespace Filter

/-- The items of the datum a filter is applied to. -/
def itemsOf (mode : Mode) (args : ArgumentList) : Except RenderError (List Datum) := do
  (← args.datum 0).loopItems mode

-- ---------------------------------------------------------------------------
-- Order
-- ---------------------------------------------------------------------------

/-- A text without regard to the case of ASCII letters. -/
def foldCase (d : Datum) : Datum :=
  match d with
  | .text s safe => .text (String.ofList (s.toList.map Char.toLower)) safe
  | d => d

/-- The order of two data; the case of texts counts only where it is to. -/
def compareItems (caseCounts : Bool) (a b : Datum) : Ordering :=
  if caseCounts then Datum.order a b else Datum.order (foldCase a) (foldCase b)

/-- Items in order; those at one place keep their order. -/
def sortBy (compare : Datum → Datum → Ordering) (items : List Datum) : List Datum :=
  items.mergeSort fun a b => (compare a b).isLE

/-- Attributes with commas between them. -/
def attributeNames (s : String) : List String :=
  (Datum.splitAtChar ',' s.toList).map fun cs => String.ofList (Text.trim cs)

/-- The order of two items by one of their attributes; items without it have no order. -/
def compareAttribute (caseCounts : Bool) (name : String) (a b : Datum) : Ordering :=
  match a.path name, b.path name with
  | .ok x, .ok y => compareItems caseCounts x y
  | _, _ => .eq

/-- The order of two items by their attributes in turn. -/
def compareAttributes (caseCounts : Bool) (names : List String) (a b : Datum) : Ordering :=
  names.foldl (fun o name => o.then (compareAttribute caseCounts name a b)) .eq

def backwards (compare : Datum → Datum → Ordering) (a b : Datum) : Ordering := (compare a b).swap

def sort (mode : Mode) (args : ArgumentList) : Except RenderError Datum := do
  let (args, ks) := args.splitKeywords
  args.atMost 1
  ks.only ["case_sensitive", "attribute", "reverse"]
  let items ← itemsOf mode args
  let caseCounts ← ks.flag "case_sensitive"
  let compare := match ← ks.text? "attribute" with
    | some s => compareAttributes caseCounts (attributeNames s)
    | none => compareItems caseCounts
  let compare := if ← ks.flag "reverse" then backwards compare else compare
  return Datum.ofList (sortBy compare items)

/-- The first of the least items, or the last of the greatest. -/
def least (items : List Datum) : Datum :=
  match items with
  | [] => .missing false
  | x :: xs => xs.foldl (fun best y => if Datum.order y best == .lt then y else best) x

def greatest (items : List Datum) : Datum :=
  match items with
  | [] => .missing false
  | x :: xs => xs.foldl (fun best y => if Datum.order y best == .lt then best else y) x

/-- What two items must agree in to count as the same. -/
def identity (caseCounts : Bool) (d : Datum) : Datum :=
  match d with
  | .text s _ =>
    if caseCounts then d else Datum.ofText (String.ofList (LetterCase.lowerText s.toList))
  | d => d

/-- The items without those that are the same as an earlier one. -/
def distinct (key : Datum → Datum) (items : List Datum) : List Datum :=
  (items.foldl (fun (r : List Datum × List Datum) x =>
    let k := key x
    if r.2.any fun y => Datum.order y k == .eq then r else (x :: r.1, k :: r.2)) ([], [])).1.reverse

def unique (mode : Mode) (args : ArgumentList) : Except RenderError Datum := do
  let (args, ks) := args.splitKeywords
  args.atMost 1
  ks.only ["case_sensitive", "attribute"]
  let items ← itemsOf mode args
  let caseCounts ← ks.flag "case_sensitive"
  let name? ← ks.text? "attribute"
  let key (d : Datum) : Datum := match name? with
    | some name => identity caseCounts (Datum.pathOr (.missing false) d name)
    | none => identity caseCounts d
  return Datum.ofList (distinct key items)

-- ---------------------------------------------------------------------------
-- Groups
-- ---------------------------------------------------------------------------

/-- Neighbours with one key put together, under the key of the last of them. -/
def groupNeighbours (same : Datum → Datum → Bool) : List (Datum × Datum) → List (Datum × List Datum)
  | [] => []
  | (key, x) :: rest =>
    match groupNeighbours same rest with
    | [] => [(key, [x])]
    | (next, xs) :: groups =>
      match rest with
      | (neighbour, _) :: _ =>
        if same key neighbour then (next, x :: xs) :: groups
        else (key, [x]) :: (next, xs) :: groups
      | [] => [(key, [x])]

/-- Items sorted and put together by an attribute. -/
def groupBy (mode : Mode) (args : ArgumentList) : Except RenderError Datum := do
  let (args, ks) := args.splitKeywords
  args.atMost 2
  let items ← itemsOf mode args
  let other := (ks.get? "default").getD (.missing false)
  let caseCounts ← ks.flag "case_sensitive"
  let name ← match ← args.text? 1 with
    | some name => do
      ks.only ["default", "case_sensitive"]
      pure name
    | none => do
      ks.only ["default", "case_sensitive", "attribute"]
      orFail (← ks.text? "attribute")
  let key (d : Datum) : Datum := Datum.pathOr other d name
  let sorted := sortBy (fun a b => compareItems caseCounts (key a) (key b)) items
  let same (a b : Datum) : Bool := compareItems caseCounts a b == .eq
  let groups := groupNeighbours same (sorted.map fun d => (key d, d))
  return Datum.ofList (groups.map fun g => .list .group [g.1, .list (.series true) g.2])

/-- Rows of a number of items, the last one filled up if there is something to fill it
with. -/
def rowsOf (n : Nat) (filler : Option Datum) : Nat → List Datum → List Datum
  | 0, _ => []
  | _, [] => []
  | fuel + 1, items =>
    let row := items.take n
    let row := match filler with
      | some f => row ++ List.replicate (n - row.length) f
      | none => row
    Datum.ofList row :: rowsOf n filler fuel (items.drop n)

def batch (mode : Mode) (args : ArgumentList) : Except RenderError Datum := do
  args.atMost 3
  let items ← itemsOf mode args
  let n ← args.count 1
  require (n != 0)
  return Datum.ofList (rowsOf n (args.datum? 2) items.length items)

/-- The items in so many columns. Columns that are one short get the filler. -/
def columnsOf (n : Nat) (filler : Option Datum) (items : List Datum) : List Datum :=
  let each := items.length / n
  let longer := items.length % n
  (List.range n).map fun i =>
    let start := i * each + min i longer
    let column := (items.drop start).take (if i < longer then each + 1 else each)
    Datum.ofList (match filler with
      | some f => if longer ≤ i then column ++ [f] else column
      | none => column)

def slice (mode : Mode) (args : ArgumentList) : Except RenderError Datum := do
  args.atMost 3
  let items ← itemsOf mode args
  let n ← args.count 1
  require (n != 0)
  return Datum.ofList (columnsOf n (args.datum? 2) items)

-- ---------------------------------------------------------------------------
-- Lists
-- ---------------------------------------------------------------------------

def toList (mode : Mode) (args : ArgumentList) : Except RenderError Datum := do
  args.atMost 1
  return Datum.ofList (← itemsOf mode args)

def length (args : ArgumentList) : Except RenderError Datum := do
  args.atMost 1
  return .int (← orFail (← args.datum 0).size?)

def first (args : ArgumentList) : Except RenderError Datum := do
  args.atMost 1
  let d ← args.datum 0
  require (d.text?.isSome || d.members?.isSome)
  return ((← orFail d.items?).head?).getD (.missing false)

def last (args : ArgumentList) : Except RenderError Datum := do
  args.atMost 1
  let d ← args.datum 0
  require (d.text?.isSome || d.isListing)
  return ((← orFail d.items?).getLast?).getD (.missing false)

def reverse (mode : Mode) (args : ArgumentList) : Except RenderError Datum := do
  args.atMost 1
  let d ← args.datum 0
  d.present mode
  match d with
  | .missing quiet => return .missing quiet
  | .none => return .none
  | .text s _ => return Datum.ofText (String.ofList s.toList.reverse)
  | d => return .list (.series true) (← orFail d.members?).reverse

def minimum (mode : Mode) (args : ArgumentList) : Except RenderError Datum := do
  args.atMost 1
  return least (← itemsOf mode args)

def maximum (mode : Mode) (args : ArgumentList) : Except RenderError Datum := do
  args.atMost 1
  return greatest (← itemsOf mode args)

/-- Lists put together. Kept lists give a kept list, mappings a mapping. -/
def chain (mode : Mode) (args : ArgumentList) : Except RenderError Datum := do
  (← args.datum 0).present mode
  match args.mapM Datum.entries? with
  | some (es :: rest) => return .record .stored ((es :: rest).foldl Datum.mergeEntries [])
  | _ =>
    let members (d : Datum) : List Datum :=
      d.items?.getD [.invalid "invalid operation: value is not iterable"]
    let items := args.flatMap members
    if args.all fun d => d.kind == .sequence then return Datum.ofList items
    else return .list (.series false) items

/-- The first items together, the second items together, and so on. -/
def transposed : List (List Datum) → Nat → List Datum
  | _, 0 => []
  | lists, fuel + 1 =>
    match lists.mapM List.head? with
    | some row => Datum.ofList row :: transposed (lists.map List.tail) fuel
    | none => []

def zip (mode : Mode) (args : ArgumentList) : Except RenderError Datum := do
  let lists ← args.mapM fun d => d.loopItems mode
  let longest := ((lists.head?).getD []).length
  return .list (.series false) (transposed lists longest)

-- ---------------------------------------------------------------------------
-- Records
-- ---------------------------------------------------------------------------

def entriesOf (args : ArgumentList) : Except RenderError (List (Datum × Datum)) := do
  orFail (← args.datum 0).entries?

def pairs (entries : List (Datum × Datum)) : Datum :=
  Datum.ofList (entries.map fun e => Datum.pair e.1 e.2)

def items (args : ArgumentList) : Except RenderError Datum := do
  args.atMost 1
  return pairs (← entriesOf args)

/-- The entries of a mapping, sorted by key or by value. -/
def sortedItems (args : ArgumentList) : Except RenderError Datum := do
  let (args, ks) := args.splitKeywords
  args.atMost 1
  ks.only ["by", "case_sensitive", "reverse"]
  let entries ← entriesOf args
  let byValue := (← ks.text? "by") == some "value"
  let caseCounts ← ks.flag "case_sensitive"
  let part (e : Datum × Datum) : Datum := if byValue then e.2 else e.1
  let compare (a b : Datum × Datum) : Ordering := compareItems caseCounts (part a) (part b)
  let reverse ← ks.flag "reverse"
  return pairs (entries.mergeSort fun a b =>
    (if reverse then (compare a b).swap else compare a b).isLE)

/-- The part of a datum under a key. -/
def partUnder (args : ArgumentList) : Except RenderError Datum := do
  args.atMost 2
  let d ← args.datum 0
  require !d.isMissing
  return (d.item? (← args.datum 1)).getD (.missing false)

-- ---------------------------------------------------------------------------
-- Any data
-- ---------------------------------------------------------------------------

/-- Another datum in the place of a missing one, or also of one that is not true. -/
def default (args : ArgumentList) : Except RenderError Datum := do
  args.atMost 3
  let d ← args.datum 0
  let other := (args.datum? 1).getD (Datum.ofText "")
  let lax ← args.flag 2
  return if d.isMissing || (lax && !d.isTrue) then other else d

def toBool (mode : Mode) (args : ArgumentList) : Except RenderError Datum := do
  args.atMost 1
  return .bool (← (← args.datum 0).truth mode)

/-- A datum in its long written form. -/
def longForm (args : ArgumentList) : Except RenderError Datum := do
  args.atMost 1
  return Datum.ofText ((← args.datum 0).long 0)

end Filter

end MailMerge
