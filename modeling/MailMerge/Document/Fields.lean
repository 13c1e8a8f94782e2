import MailMerge.Document.Plain

/-!
# Taking a document apart

A typed value is read from a record by the names of its fields. A field it knows may
stand once, and fields it does not know are passed over. Where the notation allows it,
a list gives the same fields by position.
-/

namespace MailMerge

namespace Document

/-- Notations a document may come in. -/
inductive Format where
  /-- Records may also be lists of their fields. -/
  | json
  /-- Records are block or flow maps; unquoted scalars count as text where text is due. -/
  | yaml
  /-- Records may also be lists of their fields; what else there is is passed over. -/
  | settings
deriving DecidableEq, Repr

/-- The scalar a document is, unquoted ones by their meaning. -/
def scalar? : Document → Option Scalar
  | .scalar v => some v
  | .plain s => Plain.scalar? s
  | .tagged tag (.plain s) => Plain.taggedScalar? tag s
  | .tagged tag (.scalar (.text s)) => Plain.taggedScalar? tag s
  | _ => none

/-- The scalar a document is for a reader that knows what is due. A tag does not count, but
only unquoted scalars may have one. -/
def dueScalar? : Document → Option Scalar
  | .tagged _ (.plain s) => Plain.scalar? s
  | .tagged _ _ => none
  | d => d.scalar?

/-- A text, or the spelling of an unquoted scalar. -/
def text? : Document → Option String
  | .scalar (.text s) => some s
  | .plain s => some s
  | .tagged _ d => text? d
  | _ => none

def bool? (d : Document) : Option Bool :=
  match d.dueScalar? with
  | some (.bool b) => some b
  | _ => none

/-- A whole number within the given bounds, both included. -/
def intWithin? (least most : Int) (d : Document) : Option Int :=
  match d.dueScalar? with
  | some (.int i) => if least ≤ i ∧ i ≤ most then some i else none
  | _ => none

def int64? (d : Document) : Option Int64 :=
  (intWithin? (-2 ^ 63) (2 ^ 63 - 1) d).map Int64.ofInt

def isNull (d : Document) : Bool := d.scalar? == some .null

/-- The value a scalar document denotes. -/
def value? (d : Document) : Option Value := d.scalar?.map Value.ofScalar

/-- The items of a list; an empty unquoted scalar is an empty list. -/
def items? : Document → Option (List Document)
  | .list xs => some xs
  | .plain "" => some []
  | .tagged _ d => items? d
  | _ => none

/-- The entries of a record; an empty unquoted scalar is an empty record. -/
def entries? : Document → Option (List (String × Document))
  | .record fs => some fs
  | .plain "" => some []
  | .tagged _ d => entries? d
  | _ => none

-- ---------------------------------------------------------------------------
-- Records with known fields
-- ---------------------------------------------------------------------------

/-- Known fields of a record, in order. -/
abbrev Fields := List (String × Document)

/-- Whether a list holds one of the given names twice. -/
def repeatsKnown (names : List String) : List (String × Document) → Bool
  | [] => false
  | f :: fs =>
    (names.contains f.1 && fs.any fun g => g.1 == f.1) || repeatsKnown names fs

/-- The fields a record gives by name, or a list by position. -/
def fields? (format : Format) (names : List String) (d : Document) : Option Fields :=
  match format, d with
  | .json, .list xs => if xs.length ≤ names.length then some (names.zip xs) else none
  | .settings, .list xs => some (names.zip xs)
  | _, d => d.entries?.bind fun fs => if repeatsKnown names fs then none else some fs

/-- A field that must be there. -/
def Fields.required? {α : Type} (fs : Fields) (name : String) (read : Document → Option α) :
    Option α :=
  (List.lookup name fs).bind read

/-- A field that has a default. -/
def Fields.optional? {α : Type} (fs : Fields) (name : String) (default : α)
    (read : Document → Option α) : Option α :=
  match List.lookup name fs with
  | none => some default
  | some d => read d

/-- Reads every item of a list. -/
def listOf? {α : Type} (read : Document → Option α) (d : Document) : Option (List α) :=
  d.items?.bind fun xs => xs.mapM read

/-- One of several names. In JSON it may also stand as the one field of a record, in
settings as the first one, and in block notation as the tag of nothing. -/
def choice? (format : Format) (d : Document) : Option String :=
  match format, d with
  | .json, .record [(name, d)] => if d.isNull then some name else none
  | .settings, .record ((name, d) :: _) => if d.isNull then some name else none
  | .yaml, .tagged tag d =>
    match tag.toList with
    | '!' :: name => if d.isNull then some (String.ofList name) else none
    | _ => d.text?
  | _, d => d.text?

end Document

end MailMerge
