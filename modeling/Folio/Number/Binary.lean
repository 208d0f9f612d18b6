/-!
# Binary floating point formats

The numbers of a layout are kept in the 32-bit binary format and the numbers of a style document
are read in the 64-bit one. This module holds what ties those formats to exact arithmetic: the
value that a magnitude (the bits of a number without its sign) stands for, as a dyadic number, and
the magnitude nearest to a quotient or a decimal, ties to the even neighbour. Everything is done
on natural numbers, so the results can be computed by hand.
-/

namespace Folio.Number

-- A power of a number is the built-in one, whatever other powers are in scope.
attribute [local instance (high)] instPowNat

/-- A binary interchange format, by the widths of its two fields beside the sign. -/
structure Format where
  fractionBits : Nat
  exponentBits : Nat
  deriving DecidableEq, Repr

/-- A natural number times a power of two. -/
structure Dyadic where
  significand : Nat
  unit : Int
  deriving DecidableEq, Repr

/-- A natural number times a power of ten. -/
structure Decimal where
  digits : Nat
  exponent : Int
  deriving DecidableEq, Repr

/-- The quotient rounded to the nearest integer, a half to the even neighbour. -/
def divideToNearest (numerator denominator : Nat) : Nat :=
  let quotient := numerator / denominator
  let rest := numerator % denominator
  if 2 * rest < denominator then quotient
  else if denominator < 2 * rest then quotient + 1
  else quotient + quotient % 2

/-- Numerator and denominator of a quotient measured in units of a power of two. -/
def inUnits (numerator denominator : Nat) (unit : Int) : Nat × Nat :=
  if 0 ≤ unit then (numerator, denominator * 2 ^ unit.toNat)
  else (numerator * 2 ^ (-unit).toNat, denominator)

/-- The exponent of the greatest power of two that a positive quotient reaches. -/
def floorLog2 (numerator denominator : Nat) : Int :=
  let guess : Int := (numerator.log2 : Int) - denominator.log2
  let (n, d) := inUnits numerator denominator guess
  if d ≤ n then guess else guess - 1

/-- How many decimal digits a number has. -/
def digitCount (n : Nat) : Nat :=
  (Nat.toDigits 10 n).length

namespace Format

/-- The 32-bit format. -/
def binary32 : Format := ⟨23, 8⟩

/-- The 64-bit format. -/
def binary64 : Format := ⟨52, 11⟩

/-- The exponent of the smallest positive number. -/
def leastUnit (f : Format) : Int :=
  2 - 2 ^ (f.exponentBits - 1) - f.fractionBits

/-- The magnitude that stands for infinity; every greater one is not a number. -/
def infinity (f : Format) : Nat :=
  (2 ^ f.exponentBits - 1) * 2 ^ f.fractionBits

/-- The bit that marks a negative number. -/
def signBit (f : Format) : Nat :=
  2 ^ (f.fractionBits + f.exponentBits)

/-- The value of a finite magnitude. -/
def value (f : Format) (magnitude : Nat) : Dyadic :=
  let exponent := magnitude / 2 ^ f.fractionBits
  let fraction := magnitude % 2 ^ f.fractionBits
  if exponent = 0 then ⟨fraction, f.leastUnit⟩
  else ⟨fraction + 2 ^ f.fractionBits, f.leastUnit + exponent - 1⟩

/-- The magnitude nearest to a quotient. A significand that rounds up to the next power of two
carries into the exponent field, and a quotient beyond the greatest finite number is infinite. -/
def nearest (f : Format) (numerator denominator : Nat) : Nat :=
  if numerator = 0 then 0
  else
    let unit := max (floorLog2 numerator denominator - f.fractionBits) f.leastUnit
    let (n, d) := inUnits numerator denominator unit
    min ((unit - f.leastUnit).toNat * 2 ^ f.fractionBits + divideToNearest n d) f.infinity

/-- The magnitude nearest to a dyadic number. -/
def nearestDyadic (f : Format) (x : Dyadic) : Nat :=
  if 0 ≤ x.unit then f.nearest (x.significand * 2 ^ x.unit.toNat) 1
  else f.nearest x.significand (2 ^ (-x.unit).toNat)

/-- The magnitude nearest to a decimal. A decimal far outside the range of the format is decided
by its order of magnitude, so that a huge exponent costs nothing. -/
def nearestDecimal (f : Format) (x : Decimal) : Nat :=
  let reach : Int := 2 ^ f.exponentBits
  if x.digits = 0 then 0
  else if reach < x.exponent then f.infinity
  else if digitCount x.digits + x.exponent < -reach then 0
  else if 0 ≤ x.exponent then f.nearest (x.digits * 10 ^ x.exponent.toNat) 1
  else f.nearest x.digits (10 ^ (-x.exponent).toNat)

end Format

/-! ## The two formats in use -/

/-- The 32-bit number with a sign and a magnitude. -/
def single (negative : Bool) (magnitude : Nat) : Float32 :=
  Float32.ofBits (UInt32.ofNat (magnitude + if negative then Format.binary32.signBit else 0))

/-- The 64-bit number with a sign and a magnitude. -/
def double (negative : Bool) (magnitude : Nat) : Float :=
  Float.ofBits (UInt64.ofNat (magnitude + if negative then Format.binary64.signBit else 0))

/-- Whether the sign bit of a 32-bit number is set. -/
def singleNegative (x : Float32) : Bool :=
  Format.binary32.signBit ≤ x.toBits.toNat

/-- The magnitude of a 32-bit number. -/
def singleMagnitude (x : Float32) : Nat :=
  x.toBits.toNat % Format.binary32.signBit

/-- Whether the sign bit of a 64-bit number is set. -/
def doubleNegative (x : Float) : Bool :=
  Format.binary64.signBit ≤ x.toBits.toNat

/-- The magnitude of a 64-bit number. -/
def doubleMagnitude (x : Float) : Nat :=
  x.toBits.toNat % Format.binary64.signBit

/-- The 32-bit number nearest to a natural number. -/
def singleOfNat (n : Nat) : Float32 :=
  single false (Format.binary32.nearest n 1)

/-- The 32-bit number nearest to an integer. -/
def singleOfInt (n : Int) : Float32 :=
  single (n < 0) (Format.binary32.nearest n.natAbs 1)

/-- The 64-bit number nearest to a natural number. -/
def doubleOfNat (n : Nat) : Float :=
  double false (Format.binary64.nearest n 1)

/-- The 32-bit number nearest to a 64-bit one; infinities and what is not a number stay so. -/
def singleOfDouble (x : Float) : Float32 :=
  let magnitude := doubleMagnitude x
  if magnitude < Format.binary64.infinity then
    single (doubleNegative x) (Format.binary32.nearestDyadic (Format.binary64.value magnitude))
  else if magnitude = Format.binary64.infinity then
    single (doubleNegative x) Format.binary32.infinity
  else single false (Format.binary32.infinity + 1)

/-- The greater of two numbers, where what is not a number counts for nothing. -/
def greater (x y : Float32) : Float32 :=
  if x.isNaN then y
  else if y.isNaN then x
  else if x < y then y
  else x

/-- The nearest integer to a finite number, a half away from zero; beyond 64 bits the nearest
64-bit integer, and zero for what is not a number. -/
def roundToInt64 (x : Float32) : Int :=
  let magnitude := singleMagnitude x
  let ⟨significand, unit⟩ := Format.binary32.value magnitude
  let size : Nat :=
    if magnitude > Format.binary32.infinity then 0
    else if 0 ≤ unit then significand * 2 ^ unit.toNat
    else (2 * significand + 2 ^ (-unit).toNat) / (2 * 2 ^ (-unit).toNat)
  if singleNegative x then max (-(size : Int)) (-(2 ^ (63 : Nat)))
  else min (size : Int) (2 ^ (63 : Nat) - 1)

end Folio.Number
