import MailMerge.Template.Datum.Written
import MailMerge.Value.Basic

/-!
# Equality and order of data

Two data are alike when they say the same: numbers by value, truth values as zero and
one, containers by what they hold. The order is finer: it tells the kinds apart first,
so that a truth value is never in the place of a number. Records that a template makes
are kept in the order of their keys, those of a document in its own order.
-/

namespace MailMerge

namespace Datum

/-- The order of two numbers. Minus zero comes before zero, and what is no number last. -/
def Number.order (a b : Number) : Ordering :=
  match a, b with
  | .int a, .int b => compare a b
  | a, b =>
    let x := a.toDouble
    let y := b.toDouble
    match x.compare? y with
    | some .eq => compare y.isNegative.toNat x.isNegative.toNat
    | some o => o
    | Option.none => compare x.isNaN.toNat y.isNaN.toNat

/-- Whether two numbers are equal; a whole number and a double are when they agree
exactly. -/
def Number.alike (a b : Number) : Bool :=
  match a, b with
  | .int a, .int b => a == b
  | .double a, .double b => a.compare? b == some .eq
  | .int a, .double b => b.toInt? == some a
  | .double a, .int b => a.toInt? == some b

mutual

/-- The order of any two data: by kind, then by value. -/
def order : Datum → Datum → Ordering
  | .text a _, .text b _ => Text.order a.toList b.toList
  | .list f xs, .list g ys =>
    (compare f.isStored.not.toNat g.isStored.not.toNat).then (orderItems xs ys)
  | .record f es, .record g fs =>
    if f.isMapping && g.isMapping then orderEntries es fs
    else
      (compare f.isMapping.not.toNat g.isMapping.not.toNat).then
        (Text.order (inner (.record f es)).toList (inner (.record g fs)).toList)
  | a, b =>
    (compare a.kind.rank b.kind.rank).then
      (match a.number?, b.number? with
        | some x, some y => x.order y
        | _, _ => if a.kind == .object then Text.order (inner a).toList (inner b).toList else .eq)

def orderItems : List Datum → List Datum → Ordering
  | [], [] => .eq
  | [], _ :: _ => .lt
  | _ :: _, [] => .gt
  | x :: xs, y :: ys => (order x y).then (orderItems xs ys)

def orderEntries : List (Datum × Datum) → List (Datum × Datum) → Ordering
  | [], [] => .eq
  | [], _ :: _ => .lt
  | _ :: _, [] => .gt
  | e :: es, f :: fs => ((order e.1 f.1).then (order e.2 f.2)).then (orderEntries es fs)

end

mutual

/-- Equality: of numbers by value, of containers by what they hold. -/
def alike : Datum → Datum → Bool
  | .missing _, .missing _ => true
  | .none, .none => true
  | .text a _, .text b _ => a == b
  | .list _ xs, .list _ ys => alikeItems xs ys
  | .record f es, .record g fs =>
    if f.isMapping && g.isMapping then es.length == fs.length && alikeEntries es fs
    else f.isMapping == g.isMapping && inner (.record f es) == inner (.record g fs)
  | a, b =>
    match a.number?, b.number? with
    | some x, some y => x.alike y
    | _, _ => a.kind == .object && b.kind == .object && inner a == inner b

def alikeItems : List Datum → List Datum → Bool
  | [], [] => true
  | x :: xs, y :: ys => alike x y && alikeItems xs ys
  | _, _ => false

/-- Whether each entry has an equal one among the others. -/
def alikeEntries : List (Datum × Datum) → List (Datum × Datum) → Bool
  | [], _ => true
  | e :: es, fs =>
    fs.any (fun f => order e.1 f.1 == .eq && alike e.2 f.2) && alikeEntries es fs

end

-- ---------------------------------------------------------------------------
-- Records in the order of their keys
-- ---------------------------------------------------------------------------

/-- The value under a key. -/
def lookup? (key : Datum) (entries : List (Datum × Datum)) : Option Datum :=
  (entries.find? fun e => order e.1 key == .eq).map (·.2)

/-- Puts an entry at its place; the value of a key that is there is replaced. -/
def insertEntry (key value : Datum) : List (Datum × Datum) → List (Datum × Datum)
  | [] => [(key, value)]
  | e :: es =>
    match order key e.1 with
    | .lt => (key, value) :: e :: es
    | .eq => (e.1, value) :: es
    | .gt => e :: insertEntry key value es

/-- Entries put to others, later ones replacing earlier ones. -/
def mergeEntries (lower upper : List (Datum × Datum)) : List (Datum × Datum) :=
  upper.foldl (fun es e => insertEntry e.1 e.2 es) lower

/-- Entries in the order of their keys. -/
def sortEntries (entries : List (Datum × Datum)) : List (Datum × Datum) := mergeEntries [] entries

-- ---------------------------------------------------------------------------
-- From values and documents
-- ---------------------------------------------------------------------------

/-- The datum of a value; an instant is its text. -/
def ofValue (v : Value) : Datum :=
  match v with
  | .null => .none
  | .bool b => .bool b
  | .int i => .int i.toInt
  | .double d => .double d
  | .text s => .text s false
  | .time t => .text t.write false

def ofScalar : Scalar → Datum
  | .null => .none
  | .bool b => .bool b
  | .int i => .int i
  | .double d => .double d
  | .text s => .text s false

mutual

/-- The datum of a document. -/
def ofDocument : Document → Datum
  | .scalar v => ofScalar v
  | .plain s => .text s false
  | .tagged _ d => ofDocument d
  | .list xs => .list .stored (ofItems xs)
  | .record fs => .record .stored (ofFields fs)

def ofItems : List Document → List Datum
  | [] => []
  | x :: xs => ofDocument x :: ofItems xs

def ofFields : List (String × Document) → List (Datum × Datum)
  | [] => []
  | f :: fs => (.text f.1 false, ofDocument f.2) :: ofFields fs

end

end Datum

end MailMerge
