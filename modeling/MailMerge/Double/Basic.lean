/-!
# Double-precision numbers

A `Double` is the bit pattern of an IEEE 754 binary64 number. Every finite one is
a whole multiple of 2⁻¹⁰⁷⁴, so its absolute value is a natural number of such
units: conversion, comparison and printing are exact arithmetic on that number.
-/

-- Powers of whole numbers are core's, whatever else is imported.
attribute [instance (20000), default_instance (20000)] instPowNat

namespace MailMerge

/-- A binary64 number, as its bit pattern. Equality tells 0 from -0. -/
structure Double where
  bits : UInt64
deriving DecidableEq, Inhabited, Repr

namespace Double

/-- The bit pattern of positive infinity; larger magnitudes are no numbers. -/
def infinityBits : Nat := 0x7FF0000000000000

/-- Units in one: finite doubles are multiples of 2⁻¹⁰⁷⁴. -/
def unitsPerOne : Nat := 2 ^ 1074

/-- The pattern without its sign. -/
def magnitude (d : Double) : Nat := d.bits.toNat % 2 ^ 63

/-- Whether the sign bit is set. -/
def isNegative (d : Double) : Bool := 2 ^ 63 ≤ d.bits.toNat

def isNaN (d : Double) : Bool := infinityBits < d.magnitude

def isInfinite (d : Double) : Bool := d.magnitude == infinityBits

def isFinite (d : Double) : Bool := d.magnitude < infinityBits

def isZero (d : Double) : Bool := d.magnitude == 0

/-- The double with the given sign and magnitude pattern. -/
def ofSign (negative : Bool) (magnitude : Nat) : Double :=
  ⟨UInt64.ofNat (if negative then 2 ^ 63 + magnitude else magnitude)⟩

def zero : Double := ofSign false 0

def infinity (negative : Bool) : Double := ofSign negative infinityBits

def nan : Double := ofSign false 0x7FF8000000000000

/-- The number with its sign bit flipped. -/
def neg (d : Double) : Double := ofSign (!d.isNegative) d.magnitude

-- ---------------------------------------------------------------------------
-- The value of a finite double
-- ---------------------------------------------------------------------------

/-- Power of two by which the significand is scaled, in units. -/
def shift (d : Double) : Nat := d.magnitude / 2 ^ 52 - 1

/-- The significand with its implicit leading bit. -/
def significand (d : Double) : Nat :=
  if d.magnitude / 2 ^ 52 = 0 then d.magnitude else 2 ^ 52 + d.magnitude % 2 ^ 52

/-- The absolute value of a finite double, in units. -/
def units (d : Double) : Nat := d.significand * 2 ^ d.shift

-- ---------------------------------------------------------------------------
-- Rounding a quotient
-- ---------------------------------------------------------------------------

/-- The whole number nearest to `n / d`; a tie goes to the even neighbour. -/
def roundQuotient (n d : Nat) : Nat :=
  let q := n / d
  let r := n % d
  if d < 2 * r || (2 * r == d && q % 2 == 1) then q + 1 else q

/-- Magnitude pattern of the double nearest to `num / den`; a tie goes to the even
significand, and what is too large becomes infinity. -/
def roundMagnitude (num den : Nat) : Nat :=
  let scaled := num * unitsPerOne
  let s := Nat.log2 (scaled / den) - 52
  min (s * 2 ^ 52 + roundQuotient scaled (den * 2 ^ s)) infinityBits

/-- The double nearest to `± num / den`. -/
def ofRatio (negative : Bool) (num den : Nat) : Double :=
  ofSign negative (roundMagnitude num den)

/-- The double nearest to a whole number. -/
def ofInt (i : Int) : Double := ofRatio (i < 0) i.natAbs 1

/-- The double nearest to `± digits * 10 ^ exponent`. -/
def ofDecimal (negative : Bool) (digits : Nat) (exponent : Int) : Double :=
  let order := (Nat.toDigits 10 digits).length + exponent
  if digits == 0 || order < -400 then ofSign negative 0
  else if 400 < order then infinity negative
  else if 0 ≤ exponent then ofRatio negative (digits * 10 ^ exponent.toNat) 1
  else ofRatio negative digits (10 ^ (-exponent).toNat)

-- ---------------------------------------------------------------------------
-- Whole numbers and order
-- ---------------------------------------------------------------------------

/-- The whole number a double is, if it is one. -/
def toInt? (d : Double) : Option Int :=
  if d.isFinite && d.units % unitsPerOne == 0 then
    let n : Int := d.units / unitsPerOne
    some (if d.isNegative then -n else n)
  else none

/-- Position on the number line; the two zeros share one. -/
def orderKey (d : Double) : Int :=
  if d.isNegative then -(d.magnitude : Int) else d.magnitude

/-- The order of two numbers; nothing compares with a pattern that is no number. -/
def compare? (a b : Double) : Option Ordering :=
  if a.isNaN || b.isNaN then none else some (compare a.orderKey b.orderKey)

end Double

end MailMerge
