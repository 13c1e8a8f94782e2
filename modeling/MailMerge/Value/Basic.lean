import MailMerge.Double.Writing
import MailMerge.Double.Reading
import MailMerge.Instant.Writing
import MailMerge.Instant.Reading

/-!
# Values

What a table cell, a named constant of a workflow or the outcome of a condition
holds, and the order of two values. Numbers compare with numbers, instants also with
texts that denote one; nothing compares with null.
-/

namespace MailMerge

/-- A scalar. Equality is that of the stored data: a value that is no number equals
itself, and 0 differs from -0. -/
inductive Value where
  | null
  | bool (b : Bool)
  | int (i : Int64)
  | double (d : Double)
  | text (s : String)
  | time (t : Instant)
deriving DecidableEq, Inhabited

/-- Values by name. A name stands once; the order of the entries means nothing. -/
abbrev Context := List (String × Value)

namespace Text

/-- Texts in the order of their code points, which is that of their UTF-8 bytes. -/
def order : List Char → List Char → Ordering
  | [], [] => .eq
  | [], _ :: _ => .lt
  | _ :: _, [] => .gt
  | a :: as, b :: bs => (compare a.toNat b.toNat).then (order as bs)

end Text

namespace Value

def isNull : Value → Bool
  | .null => true
  | _ => false

/-- What a text value holds. -/
def text? : Value → Option String
  | .text s => some s
  | _ => none

/-- The name messages use for the kind of a value. -/
def kindName : Value → String
  | .null => "null"
  | .bool _ => "boolean"
  | .int _ => "integer"
  | .double _ => "double"
  | .text _ => "string"
  | .time _ => "datetime"

/-- The form in which a value is shown; null shows nothing. -/
def display : Value → String
  | .null => ""
  | .bool b => if b then "true" else "false"
  | .int i => toString i.toInt
  | .double d => d.write .plain
  | .text s => s
  | .time t => t.write

-- ---------------------------------------------------------------------------
-- Order
-- ---------------------------------------------------------------------------

/-- The order of two values that can be compared. A whole number is rounded to a double
before it is compared with one. -/
def compare? : Value → Value → Option Ordering
  | .int a, .int b => some (compare a.toInt b.toInt)
  | .int a, .double b => (Double.ofInt a.toInt).compare? b
  | .double a, .int b => a.compare? (Double.ofInt b.toInt)
  | .double a, .double b => a.compare? b
  | .bool a, .bool b => some (compare a.toNat b.toNat)
  | .text a, .text b => some (Text.order a.toList b.toList)
  | .time a, .time b => some (a.order b)
  | .time a, .text b => (Instant.read? b).map fun b => a.order b
  | .text a, .time b => (Instant.read? a).map fun a => a.order b
  | _, _ => none

/-- Values are alike when they compare as equal. -/
def alike (a b : Value) : Bool := a.compare? b == some .eq

end Value

-- ---------------------------------------------------------------------------
-- Contexts
-- ---------------------------------------------------------------------------

namespace Context

/-- The value bound to a name. -/
def get? (c : Context) (name : String) : Option Value := List.lookup name c

theorem get?_cons (e : String × Value) (c : Context) (m : String) :
    Context.get? (e :: c) m = if m = e.1 then some e.2 else c.get? m := by
  rw [get?, List.lookup_cons]
  by_cases h : m = e.1
  · rw [if_pos h, beq_iff_eq.mpr h]
  · rw [if_neg h, beq_eq_false_iff_ne.mpr h, get?]

def contains (c : Context) (name : String) : Bool := (c.get? name).isSome

/-- Binds a name, in place of what it was bound to. -/
def insert (name : String) (v : Value) : Context → Context
  | [] => [(name, v)]
  | (n, w) :: rest => if n == name then (n, v) :: rest else (n, w) :: insert name v rest

theorem get?_insert (n m : String) (v : Value) (c : Context) :
    (Context.insert n v c).get? m = if m = n then some v else c.get? m := by
  induction c with
  | nil => rw [Context.insert, get?_cons]
  | cons e c ih =>
    rw [Context.insert]
    split
    · next heq =>
      rw [get?_cons, get?_cons, beq_iff_eq.mp heq]
      split <;> rfl
    · next hne =>
      have hne : e.1 ≠ n := by simpa using hne
      rw [get?_cons, ih, get?_cons]
      by_cases h : m = e.1
      · rw [if_pos h, if_neg (h ▸ hne), if_pos h]
      · rw [if_neg h, if_neg h]

/-- Binds several names in turn; the last binding of a name stands. -/
def insertAll (c : Context) (entries : List (String × Value)) : Context :=
  entries.foldl (fun c e => insert e.1 e.2 c) c

/-- The context that holds the given entries. -/
def ofEntries (entries : List (String × Value)) : Context := insertAll [] entries

end Context

end MailMerge
