import MailMerge.Value.Basic

/-!
# Documents

The tree a structured text denotes, whichever notation it is written in: scalars,
lists, and records whose fields keep their order. A record may hold a name twice; what
that means is for the reader of the record to say. A scalar written without quotes in
block notation is kept as it is spelled, because a name may be spelled like a number,
and a tag is kept because only some readers look at it.
-/

namespace MailMerge

/-- A scalar of a document. Whole numbers reach from `-2 ^ 63` to `2 ^ 64 - 1`. -/
inductive Scalar where
  | null
  | bool (b : Bool)
  | int (i : Int)
  | double (d : Double)
  | text (s : String)
deriving DecidableEq, Inhabited

inductive Document where
  | scalar (v : Scalar)
  /-- An unquoted scalar of block notation, as it is spelled. -/
  | plain (spelling : String)
  /-- A document of block notation that is said to be of some kind. -/
  | tagged (tag : String) (content : Document)
  | list (items : List Document)
  | record (fields : List (String × Document))
deriving Inhabited

namespace Document

def null : Document := .scalar .null

def bool (b : Bool) : Document := .scalar (.bool b)

def int (i : Int) : Document := .scalar (.int i)

def text (s : String) : Document := .scalar (.text s)

/-- The last field of a given name. -/
def lastField? (fields : List (String × Document)) (name : String) : Option Document :=
  List.lookup name fields.reverse

end Document

-- ---------------------------------------------------------------------------
-- Values and scalars
-- ---------------------------------------------------------------------------

namespace Value

/-- The value a scalar denotes; a whole number too large for an integer is a double. -/
def ofScalar : Scalar → Value
  | .null => .null
  | .bool b => .bool b
  | .int i => if i < 2 ^ 63 then .int (Int64.ofInt i) else .double (Double.ofInt i)
  | .double d => .double d
  | .text s => .text s

/-- The scalar a value is stored as; an instant is stored as text. -/
def toScalar : Value → Scalar
  | .null => .null
  | .bool b => .bool b
  | .int i => .int i.toInt
  | .double d => .double d
  | .text s => .text s
  | .time t => .text t.write

def toDocument (v : Value) : Document := .scalar v.toScalar

end Value

end MailMerge
