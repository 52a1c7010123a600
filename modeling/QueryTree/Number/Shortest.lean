/-
This file finds the shortest decimal digits that read back as a given binary floating point number
and writes them with or without an exponent.
-/
import QueryTree.Number.Binary

namespace QueryTree

/-- A whole number times a power of ten. -/
structure Scientific where
  digits : Nat
  exponent : Int
deriving DecidableEq, Repr

/-- Where a value goes that lies in the middle of two decimal neighbours. -/
inductive Tie where
  | up
  | toEven
deriving DecidableEq, Repr

namespace Scientific

/-- A factor of ten in the exponent becomes a factor of the numerator or of the denominator. -/
def scaleRatio (numerator denominator : Nat) (exponent : Int) : Nat × Nat :=
  if exponent ≥ 0 then (numerator * Nat.pow 10 exponent.toNat, denominator)
  else (numerator, denominator * Nat.pow 10 (-exponent).toNat)

/-- The exponent of the first digit of a positive ratio. -/
def leadingExponent (numerator denominator : Nat) : Int :=
  let guess : Int := (((numerator.log2 : Int) - denominator.log2 - 1) * 30103) / 100000
  let atLeast (exponent : Int) : Bool :=
    let (scaled, base) := scaleRatio 1 1 exponent
    scaled * denominator ≤ numerator * base
  if atLeast (guess + 2) then guess + 2
  else if atLeast (guess + 1) then guess + 1
  else if atLeast guess then guess
  else guess - 1

/-- The interval of ratios over a common denominator that read back as the same number. -/
structure Interval where
  lower : Nat
  value : Nat
  upper : Nat
  denominator : Nat
  closed : Bool
deriving DecidableEq, Repr

/-- The interval around a whole mantissa times a power of two; below the smallest mantissa of a
binade the neighbour is nearer. -/
def Interval.around (format : BinaryFormat) (mantissa : Nat) (exponent : Int) : Interval :=
  let narrow := mantissa = format.stride ∧ exponent > format.lowestExponent
  let up := if exponent ≥ 2 then Nat.pow 2 (exponent - 2).toNat else 1
  let down := if exponent ≥ 2 then 1 else Nat.pow 2 (2 - exponent).toNat
  { lower := (4 * mantissa - (if narrow then 1 else 2)) * up
    value := 4 * mantissa * up
    upper := (4 * mantissa + 2) * up
    denominator := down
    closed := mantissa % 2 = 0 }

def Interval.contains (interval : Interval) (candidate : Scientific) : Bool :=
  let (scaled, base) := scaleRatio candidate.digits 1 candidate.exponent
  let left := scaled * interval.denominator
  if interval.closed then interval.lower * base ≤ left ∧ left ≤ interval.upper * base
  else interval.lower * base < left ∧ left < interval.upper * base

/-- The neighbours of the value on the grid of a power of ten are tried, the nearer one first. -/
def Interval.onGrid? (interval : Interval) (tie : Tie) (exponent : Int) : Option Scientific :=
  let (numerator, denominator) := scaleRatio interval.value interval.denominator (-exponent)
  let quotient := numerator / denominator
  let twice := 2 * (numerator % denominator)
  let below : Scientific := ⟨quotient, exponent⟩
  let above : Scientific := ⟨quotient + 1, exponent⟩
  let nearerBelow : Bool :=
    twice < denominator
      || (twice = denominator && (match tie with | .up => false | .toEven => quotient % 2 = 0))
  let first := if nearerBelow then below else above
  let second := if nearerBelow then above else below
  if interval.contains first then some first
  else if interval.contains second then some second
  else none

/-- Zeros at the end of the digits move into the exponent. -/
def trimmed : Nat → Scientific → Scientific
  | 0, number => number
  | fuel + 1, number =>
      if number.digits ≠ 0 ∧ number.digits % 10 = 0 then
        trimmed fuel ⟨number.digits / 10, number.exponent + 1⟩
      else number

/-- The grids are tried from the coarsest to the finest. -/
def Interval.search (interval : Interval) (tie : Tie) (leading : Int) : Nat → Nat → Scientific
  | 0, count => trimmed 20 ((interval.onGrid? tie (leading - count)).getD ⟨0, 0⟩)
  | fuel + 1, count =>
      match interval.onGrid? tie (leading - count) with
      | some found => trimmed 20 found
      | none => interval.search tie leading fuel (count + 1)

/-- The shortest digits that read back as a positive finite number, the nearest ones of those. -/
def shortest (tie : Tie) (number : Binary64) : Scientific :=
  let (mantissa, exponent) := number.parts
  let interval := Interval.around .double mantissa exponent
  interval.search tie (leadingExponent interval.value interval.denominator) 17 0

/-- The digits as characters. -/
def characters (number : Scientific) : List Char := Nat.toDigits 10 number.digits

/-- The exponent of the first digit. -/
def leading (number : Scientific) : Int :=
  number.exponent + number.characters.length - 1

/-- The digits around a decimal point, which is left out of a whole number. -/
def positional (number : Scientific) : List Char :=
  let digits := number.characters
  if number.exponent ≥ 0 then digits ++ List.replicate number.exponent.toNat '0'
  else
    let places := (-number.exponent).toNat
    if digits.length > places then
      digits.take (digits.length - places) ++ '.' :: digits.drop (digits.length - places)
    else '0' :: '.' :: List.replicate (places - digits.length) '0' ++ digits

/-- One digit before the point and a signed exponent. -/
def exponential (number : Scientific) : List Char :=
  let fraction := number.characters.drop 1
  number.characters.take 1
    ++ (if fraction.isEmpty then [] else '.' :: fraction)
    ++ 'e' :: (if number.leading < 0 then '-' else '+') :: Nat.toDigits 10 number.leading.natAbs

end Scientific

namespace Binary64

/-- The plain text of a number: shortest digits, a tie going up, and never an exponent. -/
def plainText (number : Binary64) : String :=
  let sign := if number.isNegative then ['-'] else []
  if number.isNotANumber then "NaN"
  else if number.isInfinite then String.ofList (sign ++ "inf".toList)
  else if number.magnitude = 0 then String.ofList (sign ++ ['0'])
  else String.ofList (sign ++ (Scientific.shortest .up number).positional)

/-- The text of a finite number in a document: positional while the first digit stands between the
fifth place after the point and the sixteenth before it, with a fraction even when that is zero. -/
def documentText (number : Binary64) : String :=
  let sign := if number.isNegative then ['-'] else []
  if number.magnitude = 0 then String.ofList (sign ++ "0.0".toList)
  else
    let decimal := Scientific.shortest .toEven number
    let body :=
      if -5 ≤ decimal.leading ∧ decimal.leading ≤ 15 then
        decimal.positional ++ (if decimal.exponent ≥ 0 then ".0".toList else [])
      else decimal.exponential
    String.ofList (sign ++ body)

end Binary64

end QueryTree
