import MailMerge.Document.Basic

/-!
# Unquoted scalars

What an unquoted scalar of block notation stands for: null, a truth value or a number
when it is spelled like one, and otherwise the text itself. Digits behind a leading
zero are text. A tag before a scalar may say which of these it has to be.
-/

namespace MailMerge

namespace Plain

-- ---------------------------------------------------------------------------
-- Numbers
-- ---------------------------------------------------------------------------

/-- The value of a digit in a base up to sixteen. -/
def digitInBase? (base : Nat) (c : Char) : Option Nat :=
  let v :=
    if '0' ≤ c ∧ c ≤ '9' then c.toNat - '0'.toNat
    else if 'a' ≤ c ∧ c ≤ 'f' then c.toNat - 'a'.toNat + 10
    else if 'A' ≤ c ∧ c ≤ 'F' then c.toNat - 'A'.toNat + 10
    else base
  if v < base then some v else none

/-- The number digits of a base denote; there must be one at least. -/
def natInBase? (base : Nat) : List Char → Option Nat
  | [] => none
  | cs => cs.foldl (fun acc c => do return base * (← acc) + (← digitInBase? base c)) (some 0)

/-- Digits with a mark for their base, or decimal digits. -/
def nat? : List Char → Option Nat
  | '0' :: 'x' :: cs => natInBase? 16 cs
  | '0' :: 'o' :: cs => natInBase? 8 cs
  | '0' :: 'b' :: cs => natInBase? 2 cs
  | ['0'] => some 0
  | '0' :: c :: cs => if (c :: cs).all Char.isDigit then none else natInBase? 10 ('0' :: c :: cs)
  | cs => natInBase? 10 cs

/-- A whole number of at most 128 bits. -/
def int? : List Char → Option Int
  | '-' :: cs => (nat? cs).bind fun n => if n ≤ 2 ^ 127 then some (-(n : Int)) else none
  | '+' :: cs => (nat? cs).bind fun n => if n < 2 ^ 128 then some (n : Int) else none
  | cs => (nat? cs).bind fun n => if n < 2 ^ 128 then some (n : Int) else none

/-- Whether a whole number has at most 64 bits. -/
def isShort (i : Int) : Bool := -2 ^ 63 ≤ i && i < 2 ^ 64

/-- Decimal digits behind a zero, with or without a sign. -/
def isZeroLed (cs : List Char) : Bool :=
  match (Double.splitSign cs).2 with
  | '0' :: c :: cs => (c :: cs).all Char.isDigit
  | _ => false

/-- A finite number, or one of the words for infinity and for no number. -/
def double? (s : String) : Option Double :=
  if s ∈ [".inf", ".Inf", ".INF", "+.inf", "+.Inf", "+.INF"] then some (Double.infinity false)
  else if s ∈ ["-.inf", "-.Inf", "-.INF"] then some (Double.infinity true)
  else if s ∈ [".nan", ".NaN", ".NAN"] then some Double.nan
  else (Double.read? s).bind fun d => if d.isFinite then some d else none

-- ---------------------------------------------------------------------------
-- Scalars
-- ---------------------------------------------------------------------------

def isNull (s : String) : Bool := ["~", "null", "Null", "NULL"].contains s

def bool? (s : String) : Option Bool :=
  if s ∈ ["true", "True", "TRUE"] then some true
  else if s ∈ ["false", "False", "FALSE"] then some false
  else none

/-- A scalar that is neither null nor a whole number. -/
def otherScalar (s : String) : Scalar :=
  match bool? s with
  | some b => .bool b
  | none =>
    match if isZeroLed s.toList then none else double? s with
    | some d => .double d
    | none => .text s

/-- The scalar an unquoted spelling stands for. A whole number of more than 64 bits is a
double. -/
def scalar (s : String) : Scalar :=
  if s.isEmpty || isNull s then .null
  else
    match int? s.toList with
    | some i => if isShort i then .int i else .double (Double.ofInt i)
    | none => otherScalar s

/-- The scalar an unquoted spelling stands for, unless it is a whole number of more than 64
bits. -/
def scalar? (s : String) : Option Scalar :=
  if (int? s.toList).all isShort then some (scalar s) else none

/-- Whether a tag has no meaning outside its document. -/
def isLocal (tag : String) : Bool := tag.toList.head? == some '!'

/-- The scalar a spelling with a tag stands for. What the tag says must be true, and a tag
that says nothing about scalars makes a text. -/
def taggedScalar? (tag s : String) : Option Scalar :=
  match tag with
  | "tag:yaml.org,2002:null" => if isNull s then some .null else none
  | "tag:yaml.org,2002:bool" => (bool? s).map .bool
  | "tag:yaml.org,2002:int" => ((int? s.toList).filter isShort).map .int
  | "tag:yaml.org,2002:float" => (double? s).map .double
  | tag => if isLocal tag then none else some (.text s)

end Plain

namespace Document

mutual

/-- The document with every unquoted scalar replaced by what it stands for, and without
tags. This fails where a tag is not true. -/
def resolve? (scalar? : String → Option Scalar) : Document → Option Document
  | .scalar v => some (.scalar v)
  | .plain s => (scalar? s).map .scalar
  | .tagged tag (.plain s) => (Plain.taggedScalar? tag s).map .scalar
  | .tagged tag (.scalar (.text s)) => (Plain.taggedScalar? tag s).map .scalar
  | .tagged tag d => if Plain.isLocal tag then none else resolve? scalar? d
  | .list xs => (resolveItems? scalar? xs).map .list
  | .record fs => (resolveFields? scalar? fs).map .record

def resolveItems? (scalar? : String → Option Scalar) : List Document → Option (List Document)
  | [] => some []
  | x :: xs => do return (← resolve? scalar? x) :: (← resolveItems? scalar? xs)

def resolveFields? (scalar? : String → Option Scalar) :
    List (String × Document) → Option (List (String × Document))
  | [] => some []
  | f :: fs => do return (f.1, ← resolve? scalar? f.2) :: (← resolveFields? scalar? fs)

end

end Document

end MailMerge
