import MailMerge.Template.Datum.Order
import MailMerge.Text.Search

/-!
# Operations on data

Whole numbers stay whole and must not outgrow 128 bits; an operation with a double is
one on doubles. Lists are put together with a sum, texts and lists repeated with a
product.
-/

namespace MailMerge

namespace Datum

/-- A whole number, unless it is beyond 128 bits. -/
def ofInt? (i : Int) : Except RenderError Datum :=
  if leastInt ≤ i ∧ i ≤ mostInt then .ok (.int i) else .error .failed

/-- An operation on numbers: on whole ones, or on doubles if one of them is. -/
def arithmetic (onInts : Int → Int → Except RenderError Datum)
    (onDoubles : Double → Double → Double) (a b : Datum) : Except RenderError Datum :=
  match a.number?, b.number? with
  | some (.int x), some (.int y) =>
    if x ≤ mostInt ∧ y ≤ mostInt then onInts x y else .error .failed
  | some x, some y => .ok (.double (onDoubles x.toDouble y.toDouble))
  | _, _ => .error .failed

/-- The sum of numbers, or texts or lists put together. -/
def add (a b : Datum) : Except RenderError Datum :=
  match a, b with
  | .text s _, .text t _ => .ok (ofText (s ++ t))
  | .list f xs, .list g ys => .ok (.list (.series (f.isSized && g.isSized)) (xs ++ ys))
  | a, b => arithmetic (fun x y => ofInt? (x + y)) Double.add a b

def sub (a b : Datum) : Except RenderError Datum :=
  arithmetic (fun x y => ofInt? (x - y)) Double.sub a b

/-- A list, or the names in a record, repeated. -/
def repeatMembers (d n : Datum) : Except RenderError Datum := do
  let n ← orFail n.count?
  require d.size?.isSome
  return .list (.series true) (List.replicate n (← orFail d.members?)).flatten

/-- The product of numbers, or a text or list repeated. -/
def mul (a b : Datum) : Except RenderError Datum :=
  let repeatText (s : String) (n : Datum) := do
    return ofText (String.join (List.replicate (← orFail n.count?) s))
  match a, b with
  | .text s _, n => repeatText s n
  | n, .text s _ => repeatText s n
  | .list f xs, n => repeatMembers (.list f xs) n
  | .record f es, n => repeatMembers (.record f es) n
  | n, .list f xs => repeatMembers (.list f xs) n
  | n, .record f es => repeatMembers (.record f es) n
  | a, b => arithmetic (fun x y => ofInt? (x * y)) Double.mul a b

/-- The quotient, always a double. -/
def div (a b : Datum) : Except RenderError Datum :=
  match a.number?, b.number? with
  | some x, some y => .ok (.double (x.toDouble.div y.toDouble))
  | _, _ => .error .failed

/-- The whole quotient that leaves no negative remainder. -/
def floorDiv (a b : Datum) : Except RenderError Datum :=
  arithmetic (fun x y => if y == 0 then .error .failed else ofInt? (Int.ediv x y)) Double.divFloor
    a b

/-- The remainder: never negative for whole numbers, with the sign of the dividend for
doubles. -/
def rem (a b : Datum) : Except RenderError Datum :=
  arithmetic (fun x y => if y == 0 then .error .failed else ofInt? (Int.emod x y)) Double.rem a b

def pow (a b : Datum) : Except RenderError Datum :=
  let whole (x y : Int) : Except RenderError Datum :=
    if y < 0 || 2 ^ 32 ≤ y then .error .failed
    else if x.natAbs ≤ 1 then ofInt? (x ^ (y.toNat % 2 + (if y == 0 then 0 else 2)))
    else if 127 < y then .error .failed
    else ofInt? (x ^ y.toNat)
  arithmetic whole Double.pow a b

def negate : Datum → Except RenderError Datum
  | .int i => ofInt? (-i)
  | .double d => .ok (.double d.neg)
  | _ => .error .failed

/-- The written forms of two data, one behind the other. -/
def concat (a b : Datum) : Datum := ofText (a.display ++ b.display)

/-- Whether a text occurs in a text, a key in a record or an item in a list. -/
def contains (container item : Datum) : Except RenderError Bool :=
  match container with
  | .missing _ => .ok false
  | .text s _ => .ok (Text.occursIn item.display.toList s.toList)
  | .list _ xs => .ok (xs.any fun x => alike x item)
  | .record form es => .ok (form.isMapping && (lookup? item es).isSome)
  | .function _ => .ok false
  | _ => .error .failed

end Datum

end MailMerge
