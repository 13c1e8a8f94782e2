import MailMerge.Double.Basic

/-!
# Arithmetic on doubles

Each operation on finite numbers computes the exact result in units and rounds once.
What has no value (infinity less infinity, zero by zero, a remainder by zero) is no
number.
-/

namespace MailMerge

namespace Double

/-- The value of a finite double, in units and with its sign. -/
def signedUnits (d : Double) : Int := if d.isNegative then -(d.units : Int) else d.units

/-- The double nearest to a whole number of units; `zeroSign` is the sign of a zero. -/
def ofSignedUnits (zeroSign : Bool) (n : Int) : Double :=
  if n == 0 then ofSign zeroSign 0 else ofRatio (n < 0) n.natAbs unitsPerOne

def add (a b : Double) : Double :=
  if a.isNaN || b.isNaN then nan
  else if a.isInfinite then (if b.isInfinite && a.isNegative != b.isNegative then nan else a)
  else if b.isInfinite then b
  else ofSignedUnits (a.isNegative && b.isNegative) (a.signedUnits + b.signedUnits)

def sub (a b : Double) : Double := add a b.neg

def mul (a b : Double) : Double :=
  let negative := a.isNegative != b.isNegative
  if a.isNaN || b.isNaN then nan
  else if a.isInfinite || b.isInfinite then
    if a.isZero || b.isZero then nan else infinity negative
  else ofRatio negative (a.units * b.units) (unitsPerOne * unitsPerOne)

def div (a b : Double) : Double :=
  let negative := a.isNegative != b.isNegative
  if a.isNaN || b.isNaN || (a.isInfinite && b.isInfinite) || (a.isZero && b.isZero) then nan
  else if a.isInfinite || b.isZero then infinity negative
  else if b.isInfinite then ofSign negative 0
  else ofRatio negative a.units b.units

/-- The whole part of a quotient, toward zero. -/
def trunc (a : Double) : Double :=
  if a.isFinite then ofRatio a.isNegative (a.units / unitsPerOne) 1 else a

/-- What division toward zero leaves; it has the sign of the dividend. -/
def rem (a b : Double) : Double :=
  if a.isNaN || b.isNaN || a.isInfinite || b.isZero then nan
  else if b.isInfinite then a
  else ofRatio a.isNegative (a.units % b.units) unitsPerOne

def isBelowZero (a : Double) : Bool := !a.isNaN && !a.isZero && a.isNegative

/-- The whole quotient that leaves a remainder never below zero. -/
def divFloor (a b : Double) : Double :=
  let q := (a.div b).trunc
  if (a.rem b).isBelowZero then
    (if b.isNegative then q.add (ofInt 1) else q.sub (ofInt 1))
  else q

/-- The power, by the machine's own function. -/
def pow (a b : Double) : Double := ⟨(Float.pow (Float.ofBits a.bits) (Float.ofBits b.bits)).toBits⟩

end Double

end MailMerge
