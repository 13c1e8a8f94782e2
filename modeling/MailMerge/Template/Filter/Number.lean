import MailMerge.Template.Filter.Arguments
import MailMerge.Template.Datum.Arithmetic
import MailMerge.Value.DataType

/-!
# Filters of numbers
-/

namespace MailMerge

namespace Filter

/-- The whole number nearest to zero from a double; beyond 128 bits the outermost one. -/
def wholeOf (x : Double) : Int :=
  if x.isNaN then 0
  else if x.isInfinite then (if x.isNegative then Datum.leastInt else Datum.mostInt)
  else max Datum.leastInt (min Datum.mostInt (x.trunc.toInt?.getD 0))

/-- A datum as a whole number; the fraction of a double is dropped. -/
def toInt (mode : Mode) (args : ArgumentList) : Except RenderError Datum := do
  args.atMost 1
  let d ← args.datum 0
  d.present mode
  match d with
  | .missing _ => return .int 0
  | .none => return .int 0
  | .bool b => return .int (if b then 1 else 0)
  | .int i => return .int i
  | .double x => return .int (wholeOf x)
  | .text s _ =>
    match (readInt? s.toList).filter fun i => Datum.leastInt ≤ i && i ≤ Datum.mostInt with
    | some i => return .int i
    | none => return .int (wholeOf (← orFail (Double.read? s)))
  | _ => .error .failed

def toDouble (mode : Mode) (args : ArgumentList) : Except RenderError Datum := do
  args.atMost 1
  let d ← args.datum 0
  d.present mode
  match d with
  | .missing _ => return .double Double.zero
  | .none => return .double Double.zero
  | .text s _ => return .double (← orFail (Double.read? s))
  | d => return .double (← orFail d.number?).toDouble

def abs (args : ArgumentList) : Except RenderError Datum := do
  args.atMost 1
  match ← args.datum 0 with
  | .int i => if 0 ≤ i then return .int i else Datum.ofInt? (-i)
  | .double x => return .double (Double.ofSign false x.magnitude)
  | _ => .error .failed

/-- The whole number nearest to a double; a half goes away from zero. -/
def roundDouble (x : Double) : Double :=
  if x.isFinite then
    Double.ofRatio x.isNegative ((2 * x.units + Double.unitsPerOne) / (2 * Double.unitsPerOne)) 1
  else x

/-- A number rounded to so many places; whole numbers stay what they are. -/
def round (args : ArgumentList) : Except RenderError Datum := do
  args.atMost 2
  let places := (← args.whole? (-2 ^ 31) (2 ^ 31 - 1) 1).getD 0
  match ← args.datum 0 with
  | .int i => return .int i
  | .double x =>
    let scale := Double.ofDecimal false 1 places
    return .double ((roundDouble (x.mul scale)).div scale)
  | _ => .error .failed

/-- The sum of numbers; missing ones do not count. -/
def sum (mode : Mode) (args : ArgumentList) : Except RenderError Datum := do
  args.atMost 1
  (← (← args.datum 0).loopItems mode).foldlM (fun total x =>
    if x.isMissing then .ok total
    else if x.kind == .number then total.add x
    else .error .failed) (.int 0)

end Filter

end MailMerge
