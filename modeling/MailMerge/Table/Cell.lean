import MailMerge.Double.Rounded
import MailMerge.Value.DataType

/-!
# Cells

What a table stores: nothing, a number or a text. A column converts what is put into
it: a text that denotes a number becomes one in a column of numbers, a number becomes
text in a column of texts. Cells of all kinds stand in one order, null before numbers
before texts, and numbers of both kinds compare by their exact value.
-/

namespace MailMerge

inductive Cell where
  | null
  | int (i : Int64)
  | real (d : Double)
  | text (s : String)
deriving DecidableEq, Inhabited

namespace Cell

/-- The form a value is stored in. Truth values are the numbers 0 and 1, instants are
texts, and what is no number is null. -/
def ofValue : Value → Cell
  | .null => .null
  | .bool b => .int (if b then 1 else 0)
  | .int i => .int i
  | .double d => if d.isNaN then .null else .real d
  | .text s => .text s
  | .time t => .text t.write

/-- The value a cell of a column holds. -/
def toValue (t : DataType) : Cell → Value
  | .null => .null
  | .int i => if t == .boolean then .bool (i != 0) else .int i
  | .real d => .double d
  | .text s => if t == .datetime then ((Instant.read? s).map .time).getD (.text s) else .text s

-- ---------------------------------------------------------------------------
-- Order
-- ---------------------------------------------------------------------------

/-- The exact value of a number, in units of a double. -/
def units : Cell → Int
  | .int i => i.toInt * Double.unitsPerOne
  | .real d => if d.isNegative then -(d.units : Int) else d.units
  | _ => 0

/-- The order of cells. -/
def order : Cell → Cell → Ordering
  | .null, .null => .eq
  | .null, _ => .lt
  | _, .null => .gt
  | .text a, .text b => Text.order a.toList b.toList
  | .text _, _ => .gt
  | _, .text _ => .lt
  | a, b => compare a.units b.units

-- ---------------------------------------------------------------------------
-- Conversion
-- ---------------------------------------------------------------------------

/-- White space that may stand around a number. -/
def isSpace (c : Char) : Bool := c == ' ' || (9 ≤ c.toNat && c.toNat ≤ 13)

/-- The text without the white space at its two ends. -/
def trimSpaces (cs : List Char) : List Char :=
  ((cs.dropWhile isSpace).reverse.dropWhile isSpace).reverse

/-- A double that is a whole number strictly inside the integer range is stored as one. -/
def ofDouble (d : Double) : Cell :=
  match d.toInt? with
  | some i => if -2 ^ 63 < i ∧ i < 2 ^ 63 - 1 then .int (Int64.ofInt i) else .real d
  | none => .real d

/-- The number a text denotes: digits, or a decimal with a point or an exponent. -/
def number? (s : String) : Option Cell :=
  let cs := trimSpaces s.toList
  match (readInt? cs).bind int64? with
  | some i => some (.int i)
  | none =>
    let (negative, digits) := Double.splitSign cs
    (Double.readDigits? negative digits).map ofDouble

/-- The cell as a column of numbers holds it. -/
def toNumber : Cell → Cell
  | .real d => ofDouble d
  | .text s => (number? s).getD (.text s)
  | c => c

/-- The text of a cell, which null does not have. -/
def text? : Cell → Option String
  | .null => none
  | .int i => some (toString i.toInt)
  | .real d => some d.writeRounded
  | .text s => some s

/-- The cell as a column of texts holds it. -/
def toText (c : Cell) : Cell := (c.text?.map .text).getD .null

/-- The cell as it is compared with those of a column. -/
def compared (t : DataType) (c : Cell) : Cell :=
  match t with
  | .string => c.toText
  | _ => c.toNumber

/-- The cell as a column stores it; a column of doubles has no whole numbers. -/
def stored (t : DataType) (c : Cell) : Cell :=
  match t, c.compared t with
  | .double, .int i => .real (Double.ofInt i.toInt)
  | _, c => c

end Cell

end MailMerge
