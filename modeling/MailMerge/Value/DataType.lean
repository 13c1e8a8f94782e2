import MailMerge.Value.Basic

/-!
# Data types

A column, and a constant of a rule, declares one of five types. A value coerces to
a type when it can be read as one of its values: forms filled in by hand hold
numbers, truth values and dates as text.
-/

namespace MailMerge

inductive DataType where
  | integer
  | double
  | boolean
  | string
  | datetime
deriving DecidableEq, Inhabited, Repr

namespace DataType

/-- All types, in the order they are listed. -/
def all : List DataType := [.integer, .double, .boolean, .string, .datetime]

def name : DataType → String
  | .integer => "integer"
  | .double => "double"
  | .boolean => "boolean"
  | .string => "string"
  | .datetime => "datetime"

/-- The type of a given name. -/
def ofName? (s : String) : Option DataType := all.find? fun t => t.name == s

/-- The message for a text that names no type. -/
def unknownMessage (s : String) : String := "unknown value type: " ++ s

/-- Whether values of the type can be put in order by a rule. -/
def isOrdered : DataType → Bool
  | .integer | .double | .datetime => true
  | .boolean | .string => false

theorem ofName?_name (t : DataType) : ofName? t.name = some t := by
  cases t <;> decide

end DataType

-- ---------------------------------------------------------------------------
-- Whole numbers
-- ---------------------------------------------------------------------------

/-- A whole number within the range of integer cells. -/
def int64? (i : Int) : Option Int64 :=
  if -2 ^ 63 ≤ i ∧ i < 2 ^ 63 then some (Int64.ofInt i) else none

/-- The whole number an optional sign and decimal digits denote. -/
def readInt? (cs : List Char) : Option Int :=
  let (negative, digits) := Double.splitSign cs
  if digits.isEmpty || !digits.all Char.isDigit then none
  else
    let n : Int := digitsValue digits
    some (if negative then -n else n)

namespace DataType

/-- The integer a text denotes: digits, or else a double that is a whole number. -/
def integerOfText? (s : String) : Option Int64 :=
  let cs := Text.trim s.toList
  match (readInt? cs).bind int64? with
  | some i => some i
  | none => (Double.read? (String.ofList cs)).bind fun d => d.toInt?.bind int64?

/-- The truth value a text denotes. -/
def booleanOfText? (s : String) : Option Bool :=
  let word := String.ofList ((Text.trim s.toList).map Char.toLower)
  if word == "1" || word == "true" then some true
  else if word == "0" || word == "false" then some false
  else none

/-- Reads a value as one of the type. Null never coerces. -/
def coerce? : DataType → Value → Option Value
  | _, .null => none
  | .integer, .int i => some (.int i)
  | .integer, .double d => (d.toInt?.bind int64?).map .int
  | .integer, .bool b => some (.int (if b then 1 else 0))
  | .integer, .text s => (integerOfText? s).map .int
  | .integer, .time _ => none
  | .double, .int i => some (.double (Double.ofInt i.toInt))
  | .double, .double d => some (.double d)
  | .double, .text s => (Double.read? (String.ofList (Text.trim s.toList))).map .double
  | .double, .bool _ => none
  | .double, .time _ => none
  | .boolean, .bool b => some (.bool b)
  | .boolean, .int i => some (.bool (i == 1))
  | .boolean, .double d => some (.bool (d.compare? (Double.ofInt 1) == some .eq))
  | .boolean, .text s => (booleanOfText? s).map .bool
  | .boolean, .time _ => none
  | .string, v => some (.text v.display)
  | .datetime, .time t => some (.time t)
  | .datetime, .text s => (Instant.read? s).map .time
  | .datetime, .bool _ => none
  | .datetime, .int _ => none
  | .datetime, .double _ => none

end DataType

end MailMerge
