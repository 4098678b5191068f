import FieldCheck.Decimal

/-!
# The nearest binary fraction

A binary format holds the numbers `m * 2 ^ q` where `m` has a bounded number
of binary digits and `q` lies between two bounds.  A decimal fraction becomes
the nearest of them, and of two equally near ones that with an even `m`; one
that is too large becomes infinite.  All of it is exact arithmetic on natural
numbers.
-/

namespace FieldCheck.Decimal

structure BinaryFormat where
  precision : Nat
  leastExponent : Int
  greatestExponent : Int

namespace BinaryFormat

def single : BinaryFormat :=
  ⟨24, -149, 104⟩

def double : BinaryFormat :=
  ⟨53, -1074, 971⟩

/-- The least whole number that has too many digits for a format. -/
def limit (format : BinaryFormat) : Nat :=
  Nat.pow 2 format.precision

end BinaryFormat

structure Binary where
  significand : Nat
  exponent : Int
deriving DecidableEq

/-- The quotient of two numbers, rounded to the nearest number and in the
middle to the even one. -/
def roundedQuotient (numerator denominator : Nat) : Nat :=
  let quotient := numerator / denominator
  let twice := 2 * (numerator % denominator)
  if twice < denominator then quotient
  else if denominator < twice then quotient + 1
  else quotient + quotient % 2

def significandAt (numerator denominator : Nat) (exponent : Int) : Nat :=
  if 0 ≤ exponent then
    roundedQuotient numerator (denominator * Nat.pow 2 exponent.toNat)
  else
    roundedQuotient (numerator * Nat.pow 2 (-exponent).toNat) denominator

/-- The least exponent at which the whole part of a fraction has no more
digits than the format holds. -/
def exponentFor (format : BinaryFormat) (numerator denominator : Nat) : Int :=
  let digits : Int := (numerator.log2 : Int) - (denominator.log2 : Int) + 1
  let candidate := digits - format.precision - 1
  let fits (exponent : Int) : Bool :=
    if 0 ≤ exponent then
      numerator < denominator * Nat.pow 2 exponent.toNat * format.limit
    else
      numerator * Nat.pow 2 (-exponent).toNat < denominator * format.limit
  let exponent :=
    if fits candidate then candidate
    else if fits (candidate + 1) then candidate + 1
    else candidate + 2
  if exponent < format.leastExponent then format.leastExponent else exponent

def nearest? (format : BinaryFormat) (numerator denominator : Nat) :
    Option Binary :=
  let exponent := exponentFor format numerator denominator
  let significand := significandAt numerator denominator exponent
  let rounded : Binary :=
    if significand = format.limit then
      ⟨Nat.pow 2 (format.precision - 1), exponent + 1⟩
    else ⟨significand, exponent⟩
  if format.greatestExponent < rounded.exponent then none else some rounded

/-- A power of ten beyond which every number is infinite or zero in the binary
formats. -/
def horizon : Int :=
  400

/-- The number of a format that is nearest to the size of a decimal fraction;
none if the fraction is too large. -/
def toBinary? (format : BinaryFormat) (decimal : Decimal) : Option Binary :=
  let size : Int := (Nat.toDigits 10 decimal.digits).length + decimal.exponent
  if decimal.digits = 0 || size < -horizon then
    some ⟨0, format.leastExponent⟩
  else if horizon < size then none
  else if 0 ≤ decimal.exponent then
    nearest? format (decimal.digits * Nat.pow 10 decimal.exponent.toNat) 1
  else
    nearest? format decimal.digits (Nat.pow 10 (-decimal.exponent).toNat)

def doubleBits (binary : Binary) : Nat :=
  if binary.significand = 0 then 0
  else
    let room := 52 - binary.significand.log2
    let shift := min room
      (binary.exponent - BinaryFormat.double.leastExponent).toNat
    let significand := binary.significand * Nat.pow 2 shift
    let exponent := binary.exponent - shift
    if significand < Nat.pow 2 52 then significand
    else (exponent + 1075).toNat * Nat.pow 2 52 + (significand - Nat.pow 2 52)

def infinityBits : Nat :=
  0x7FF * Nat.pow 2 52

def withSign (negative : Bool) (bits : Nat) : Float :=
  Float.ofBits (UInt64.ofNat (if negative then bits + Nat.pow 2 63 else bits))

def Reading.toFloat (format : BinaryFormat) : Reading → Float
  | .notANumber => withSign false (infinityBits + Nat.pow 2 51)
  | .infinite negative => withSign negative infinityBits
  | .finite decimal =>
      withSign decimal.negative
        (((decimal.toBinary? format).map doubleBits).getD infinityBits)

end FieldCheck.Decimal
