/-
This file holds binary floating point numbers of 64 and 32 bits and the nearest such number to a ratio.
-/

namespace QueryTree

/-- A binary interchange format: its width, its precision and the exponent of its smallest step. -/
structure BinaryFormat where
  width : Nat
  precision : Nat
  lowestExponent : Int
deriving DecidableEq, Repr

namespace BinaryFormat

def double : BinaryFormat := ⟨64, 53, -1074⟩

def single : BinaryFormat := ⟨32, 24, -149⟩

/-- The count of numbers between two powers of two. -/
def stride (format : BinaryFormat) : Nat := Nat.pow 2 (format.precision - 1)

/-- The bits of infinity without its sign. -/
def infinity (format : BinaryFormat) : Nat :=
  (Nat.pow 2 (format.width - format.precision) - 1) * format.stride

/-- The bits of the number that is not a number, without its sign. -/
def notANumber (format : BinaryFormat) : Nat := format.infinity + format.stride / 2

/-- The bit of the sign. -/
def signBit (format : BinaryFormat) : Nat := Nat.pow 2 (format.width - 1)

/-- The whole mantissa and the exponent of a finite number given by its bits without the sign. -/
def parts (format : BinaryFormat) (magnitude : Nat) : Nat × Int :=
  let exponent := magnitude / format.stride
  if exponent = 0 then (magnitude, format.lowestExponent)
  else (format.stride + magnitude % format.stride, format.lowestExponent + exponent - 1)

/-- A quotient is rounded to the nearest whole number, a half to the even one. -/
def divideToEven (numerator denominator : Nat) : Nat :=
  let quotient := numerator / denominator
  let twice := 2 * (numerator % denominator)
  if twice < denominator ∨ (twice = denominator ∧ quotient % 2 = 0) then quotient else quotient + 1

/-- A ratio times a power of two, rounded to a whole number of steps of the given exponent. -/
def stepsAt (numerator denominator : Nat) (exponent : Int) : Nat :=
  if exponent ≥ 0 then divideToEven numerator (denominator * Nat.pow 2 exponent.toNat)
  else divideToEven (numerator * Nat.pow 2 (-exponent).toNat) denominator

/-- The exponent of the steps in which the ratio is counted with the full precision. -/
def stepExponent (format : BinaryFormat) (numerator denominator : Nat) : Int :=
  let guess : Int := (numerator.log2 : Int) - denominator.log2 - format.precision
  let reached : Bool :=
    if guess + format.precision ≥ 0 then
      denominator * Nat.pow 2 (guess + format.precision).toNat ≤ numerator
    else denominator ≤ numerator * Nat.pow 2 (-(guess + format.precision)).toNat
  max format.lowestExponent (if reached then guess + 1 else guess)

/-- The bits, without the sign, of the number nearest to a ratio; a half goes to the even neighbour. -/
def nearest (format : BinaryFormat) (numerator denominator : Nat) : Nat :=
  if numerator = 0 then 0
  else
    let exponent := format.stepExponent numerator denominator
    min format.infinity
      ((exponent - format.lowestExponent).toNat * format.stride
        + stepsAt numerator denominator exponent)

/-- The bits, without the sign, of the number nearest to a whole number times a power of two. -/
def nearestScaled (format : BinaryFormat) (mantissa : Nat) (exponent : Int) : Nat :=
  if exponent ≥ 0 then format.nearest (mantissa * Nat.pow 2 exponent.toNat) 1
  else format.nearest mantissa (Nat.pow 2 (-exponent).toNat)

/-- The bits of a number of one format in another format, rounded to the nearest. -/
def convert (source target : BinaryFormat) (bits : Nat) : Nat :=
  let sign := if bits / source.signBit % 2 = 1 then target.signBit else 0
  let magnitude := bits % source.signBit
  if magnitude > source.infinity then sign + target.notANumber
  else if magnitude = source.infinity then sign + target.infinity
  else
    let (mantissa, exponent) := source.parts magnitude
    sign + target.nearestScaled mantissa exponent

end BinaryFormat

/-- A floating point number of 64 bits, held by its bits. -/
structure Binary64 where
  bits : UInt64
deriving DecidableEq, Repr

namespace Binary64

open BinaryFormat

def ofSigned (negative : Bool) (magnitude : Nat) : Binary64 :=
  ⟨UInt64.ofNat ((if negative then double.signBit else 0) + magnitude)⟩

def isNegative (number : Binary64) : Bool := number.bits.toNat ≥ double.signBit

/-- The bits without the sign. -/
def magnitude (number : Binary64) : Nat := number.bits.toNat % double.signBit

def isNotANumber (number : Binary64) : Bool := number.magnitude > double.infinity

def isInfinite (number : Binary64) : Bool := number.magnitude = double.infinity

def isFinite (number : Binary64) : Bool := number.magnitude < double.infinity

/-- The whole mantissa and the exponent of a finite number. -/
def parts (number : Binary64) : Nat × Int := double.parts number.magnitude

def zero : Binary64 := ⟨0⟩

def infinity (negative : Bool) : Binary64 := ofSigned negative double.infinity

def notANumber (negative : Bool) : Binary64 := ofSigned negative double.notANumber

/-- The number nearest to a signed ratio. -/
def ofRatio (negative : Bool) (numerator denominator : Nat) : Binary64 :=
  ofSigned negative (double.nearest numerator denominator)

/-- The number nearest to an integer. -/
def ofInt (number : Int) : Binary64 := ofRatio (number < 0) number.natAbs 1

/-- The number is rounded to 32 bits. -/
def toSingle (number : Binary64) : UInt32 :=
  UInt32.ofNat (convert double single number.bits.toNat)

/-- A number of 32 bits is widened, which loses nothing. -/
def ofSingle (bits : UInt32) : Binary64 :=
  ⟨UInt64.ofNat (convert single double bits.toNat)⟩

/-- The magnitude of the product of two finite magnitudes, rounded to the nearest. -/
def multiplyMagnitudes (left right : Nat) : Nat :=
  let (leftMantissa, leftExponent) := double.parts left
  let (rightMantissa, rightExponent) := double.parts right
  double.nearestScaled (leftMantissa * rightMantissa) (leftExponent + rightExponent)

/-- The magnitude of the quotient of two finite magnitudes, rounded to the nearest. -/
def divideMagnitudes (left right : Nat) : Nat :=
  let (leftMantissa, leftExponent) := double.parts left
  let (rightMantissa, rightExponent) := double.parts right
  let exponent := leftExponent - rightExponent
  if exponent ≥ 0 then double.nearest (leftMantissa * Nat.pow 2 exponent.toNat) rightMantissa
  else double.nearest leftMantissa (rightMantissa * Nat.pow 2 (-exponent).toNat)

/-- Equality of numbers: no number equals one that is not a number, and the two zeros are equal. -/
def same (left right : Binary64) : Bool :=
  !left.isNotANumber && !right.isNotANumber
    && (left.bits == right.bits || (left.magnitude == 0 && right.magnitude == 0))

end Binary64

end QueryTree
