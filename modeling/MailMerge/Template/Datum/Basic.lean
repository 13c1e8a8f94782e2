import MailMerge.Document.Basic
import MailMerge.Double.Arithmetic

/-!
# Data in templates

What an expression of a template evaluates to. A missing datum is what an unbound name
gives; it is quiet when the template itself chose to have none. A text is safe when it
is HTML already. Lists and records come in several forms: what a filter makes of a list
is handed out item by item, and the state of a loop is seen as a record.
-/

namespace MailMerge

/-- What a list stands for. -/
inductive ListForm where
  /-- Items that are kept. -/
  | stored
  /-- Items that are handed out one by one; their number may not be known beforehand. -/
  | series (sized : Bool)
  /-- A key and the items that share it. -/
  | group
deriving DecidableEq, Repr, Inhabited

/-- What a record stands for. -/
inductive RecordForm where
  | stored
  /-- Arguments given by name. -/
  | keywords
  /-- A namespace: a record that statements can change. -/
  | space (id : Nat)
  /-- The state of a loop. -/
  | loop (id : Nat)
  /-- A routine the template declares. -/
  | routine (id : Nat)
deriving DecidableEq, Repr, Inhabited

inductive Datum where
  | missing (quiet : Bool)
  | none
  | bool (b : Bool)
  | int (i : Int)
  | double (d : Double)
  | text (s : String) (safe : Bool)
  | list (form : ListForm) (items : List Datum)
  | record (form : RecordForm) (entries : List (Datum × Datum))
  /-- A function of the engine, by its name. -/
  | function (name : String)
  /-- An item that could not be handed out, and why. -/
  | invalid (reason : String)
deriving Inhabited

/-- Why a template could not be rendered. -/
inductive RenderError where
  /-- The context binds a name that the renderer binds itself. -/
  | reservedName (name : String)
  /-- Two names of the context have one identifier. -/
  | collision (first second identifier : String)
  /-- The template cannot be read. -/
  | malformed
  /-- The template was read and failed as it was rendered. -/
  | failed
deriving DecidableEq, Repr

/-- What an attempt gives, or the failure of the template. -/
def orFail {α : Type} : Option α → Except RenderError α
  | some x => .ok x
  | none => .error .failed

/-- Fails the template unless a condition holds. -/
def require (condition : Bool) : Except RenderError Unit :=
  if condition then .ok () else .error .failed

namespace ListForm

/-- Whether the number of items is known before they are handed out. -/
def isSized : ListForm → Bool
  | .series sized => sized
  | _ => true

/-- Whether the list is kept, so that its places can be asked for. -/
def isStored : ListForm → Bool
  | .series _ => false
  | _ => true

end ListForm

namespace RecordForm

/-- Whether the record is one of keys and values, not the inside of something else. -/
def isMapping : RecordForm → Bool
  | .stored => true
  | .keywords => true
  | .space _ => true
  | _ => false

end RecordForm

namespace Datum

/-- A text that is no HTML yet. -/
def ofText (s : String) : Datum := .text s false

/-- A list of items that are kept. -/
def ofList (items : List Datum) : Datum := .list .stored items

/-- Two data in a list. -/
def pair (a b : Datum) : Datum := ofList [a, b]

-- ---------------------------------------------------------------------------
-- Kinds
-- ---------------------------------------------------------------------------

/-- The kinds of data, in the order in which data of different kinds are sorted. -/
inductive Kind where
  | missing
  | none
  | bool
  | number
  | text
  | sequence
  | mapping
  | series
  | object
  | invalid
deriving DecidableEq, Repr

/-- The place of a kind among the others. -/
def Kind.rank : Kind → Nat
  | .missing => 0
  | .none => 1
  | .bool => 2
  | .number => 3
  | .text => 4
  | .sequence => 5
  | .mapping => 6
  | .series => 7
  | .object => 8
  | .invalid => 9

def kind : Datum → Kind
  | .missing _ => .missing
  | .none => .none
  | .bool _ => .bool
  | .int _ => .number
  | .double _ => .number
  | .text _ _ => .text
  | .list form _ => if form.isStored then .sequence else .series
  | .record form _ => if form.isMapping then .mapping else .object
  | .function _ => .object
  | .invalid _ => .invalid

def isMissing : Datum → Bool
  | .missing _ => true
  | _ => false

/-- Whether a datum is a list, kept or handed out. -/
def isListing : Datum → Bool
  | .list _ _ => true
  | _ => false

/-- Whether a datum consists of arguments given by name. -/
def isKeywords : Datum → Bool
  | .record .keywords _ => true
  | _ => false

def isSafe : Datum → Bool
  | .text _ safe => safe
  | _ => false

-- ---------------------------------------------------------------------------
-- Views
-- ---------------------------------------------------------------------------

def text? : Datum → Option String
  | .text s _ => some s
  | _ => Option.none

/-- The keys and values of a mapping. -/
def entries? : Datum → Option (List (Datum × Datum))
  | .record form es => if form.isMapping then some es else Option.none
  | _ => Option.none

/-- The items of a list, or the names in a record. -/
def members? : Datum → Option (List Datum)
  | .list _ xs => some xs
  | .record _ es => some (es.map (·.1))
  | _ => Option.none

/-- What a loop runs over: the items of a list, the names in a record, the characters of
a text, and nothing where there is nothing. -/
def items? : Datum → Option (List Datum)
  | .missing _ => some []
  | .none => some []
  | .text s _ => some (s.toList.map fun c => ofText c.toString)
  | d => d.members?

/-- The number of items or characters, if it is known beforehand. -/
def size? : Datum → Option Nat
  | .text s _ => some s.length
  | .list form xs => if form.isSized then some xs.length else Option.none
  | .record _ es => some es.length
  | _ => Option.none

/-- Numbers other than zero, texts and containers other than empty ones, and all other
objects are true. -/
def isTrue : Datum → Bool
  | .missing _ => false
  | .none => false
  | .bool b => b
  | .int i => i != 0
  | .double d => !d.isZero
  | .text s _ => !s.isEmpty
  | .list form xs => !form.isSized || !xs.isEmpty
  | .record _ es => !es.isEmpty
  | .function _ => true
  | .invalid _ => false

-- ---------------------------------------------------------------------------
-- Numbers
-- ---------------------------------------------------------------------------

/-- Whole numbers have at most 128 bits. -/
def leastInt : Int := -2 ^ 127

def mostInt : Int := 2 ^ 127 - 1

/-- A number; truth values count as zero and one. -/
inductive Number where
  | int (i : Int)
  | double (d : Double)
deriving DecidableEq

def number? : Datum → Option Number
  | .bool b => some (.int (if b then 1 else 0))
  | .int i => some (.int i)
  | .double d => some (.double d)
  | _ => Option.none

def Number.toDouble : Number → Double
  | .int i => Double.ofInt i
  | .double d => d

/-- The whole number a double is, if it has at most 64 bits. -/
def wholeOfDouble? (d : Double) : Option Int :=
  d.toInt?.bind fun i =>
    if -2 ^ 63 ≤ i ∧ i < 2 ^ 63 then some i
    else if i == 2 ^ 63 then some (2 ^ 63 - 1)
    else Option.none

/-- A whole number, also in the form of a truth value or a double. -/
def whole? : Datum → Option Int
  | .bool b => some (if b then 1 else 0)
  | .int i => if i ≤ mostInt then some i else Option.none
  | .double d => wholeOfDouble? d
  | _ => Option.none

/-- A whole number within bounds, both included. -/
def wholeWithin? (least most : Int) (d : Datum) : Option Int :=
  d.whole?.bind fun i => if least ≤ i ∧ i ≤ most then some i else Option.none

/-- A whole number of 64 bits. -/
def int64? (d : Datum) : Option Int := wholeWithin? (-2 ^ 63) (2 ^ 63 - 1) d

/-- A number of things. -/
def count? (d : Datum) : Option Nat := (wholeWithin? 0 (2 ^ 64 - 1) d).map Int.toNat

end Datum

end MailMerge
