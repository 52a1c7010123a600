/-
This file holds decimal numbers with a mantissa of 96 bits and at most 28 places after the point,
their text and their conversion from binary floating point numbers.
-/
import QueryTree.Number.Binary

namespace QueryTree

/-- The mantissa of a decimal number stays below this bound. -/
def Decimal.mantissaBound : Nat := 79228162514264337593543950336

/-- A signed mantissa and the count of its places after the point. -/
structure Decimal where
  negative : Bool
  mantissa : Nat
  scale : Nat
  mantissaLt : mantissa < Decimal.mantissaBound
  scaleLe : scale ≤ 28
deriving DecidableEq, Repr

namespace Decimal

/-- A decimal number is formed when the mantissa and the scale are in range. -/
def ofParts? (negative : Bool) (mantissa scale : Nat) : Option Decimal :=
  if inRange : mantissa < mantissaBound ∧ scale ≤ 28 then
    some ⟨negative, mantissa, scale, inRange.1, inRange.2⟩
  else none

/-- As `ofParts?`, but zero has no sign. -/
def ofUnsignedZero? (negative : Bool) (mantissa scale : Nat) : Option Decimal :=
  ofParts? (negative && mantissa != 0) mantissa scale

/-- A machine integer is a decimal number without places. -/
def ofInt64 (number : Int64) : Decimal where
  negative := number.toInt < 0
  mantissa := number.toInt.natAbs
  scale := 0
  mantissaLt := by
    have low := number.le_toInt
    have high := number.toInt_lt
    unfold mantissaBound
    omega
  scaleLe := by decide

/-- The signed mantissa. -/
def signedMantissa (number : Decimal) : Int :=
  if number.negative then -(number.mantissa : Int) else number.mantissa

/-- Two decimal numbers of the same value are equal whatever their scales are. -/
def same (left right : Decimal) : Bool :=
  left.signedMantissa * Nat.pow 10 right.scale == right.signedMantissa * Nat.pow 10 left.scale

/-- The digits with a point before the last `scale` ones and at least one digit before it. -/
def characters (number : Decimal) : List Char :=
  let digits := Nat.toDigits 10 number.mantissa
  let padded := List.replicate (number.scale + 1 - digits.length) '0' ++ digits
  let whole := padded.take (padded.length - number.scale)
  let fraction := padded.drop (padded.length - number.scale)
  (if number.negative then ['-'] else []) ++ whole
    ++ (if number.scale = 0 then [] else '.' :: fraction)

def text (number : Decimal) : String := String.ofList number.characters

/-- The value of a decimal digit. -/
def digitValue? (digit : Char) : Option Nat :=
  if '0' ≤ digit ∧ digit ≤ '9' then some (digit.toNat - '0'.toNat) else none

/-- Digits are dropped from the end of a mantissa; the last one dropped rounds a half up. -/
def dropDigits : (count : Nat) → (mantissa : Nat) → Nat
  | 0, mantissa => mantissa
  | count + 1, mantissa =>
      let dropped := mantissa / Nat.pow 10 count
      dropped / 10 + (if dropped % 10 ≥ 5 then 1 else 0)

/-- What may follow the digit that rounds: further digits, which do not count, and separators. -/
def isRemainder (characters : List Char) : Bool :=
  characters.all fun next => next.isDigit || next == '_'

/-- The digit after the last one kept rounds a half up; when that overflows, the last place is
given up. -/
def rounded? (negative : Bool) (mantissa scale digit : Nat) (rest : List Char) : Option Decimal :=
  if !isRemainder rest then none
  else if digit < 5 then ofUnsignedZero? negative mantissa scale
  else if mantissa + 1 < mantissaBound then ofUnsignedZero? negative (mantissa + 1) scale
  else if scale = 0 then none
  else ofUnsignedZero? negative ((mantissa + 5) / 10) (scale - 1)

/-- Whether the digits before the last one leave no room in a machine word for another digit. -/
def isWide (mantissa : Nat) : Bool := mantissa / 10 ≥ 1844674407370954906

/-- The character after the last place there is room for is a digit, which rounds, or a separator,
which counts as a zero. Behind a wide mantissa separators are passed over, and only a digit may
follow them. -/
def readBeyond? (negative : Bool) (mantissa scale : Nat) (next : Char) (rest : List Char) :
    Option Decimal :=
  if next = '_' ∧ isWide mantissa then
    match rest.dropWhile (· == '_') with
    | [] => ofUnsignedZero? negative mantissa scale
    | next :: rest => do rounded? negative mantissa scale (← digitValue? next) rest
  else if next = '_' then rounded? negative mantissa scale 0 rest
  else do rounded? negative mantissa scale (← digitValue? next) rest

/-- Digits, separators after the first digit and one point are read into a mantissa; places that
do not fit are rounded away, digits before the point that do not fit are refused. -/
def readDigits? (negative : Bool) :
    List Char → (mantissa scale : Nat) → (afterPoint hasDigit : Bool) → Option Decimal
  | [], mantissa, scale, _, hasDigit =>
      if hasDigit then ofUnsignedZero? negative mantissa scale else none
  | next :: rest, mantissa, scale, afterPoint, hasDigit =>
      if afterPoint ∧ scale ≥ 28 then readBeyond? negative mantissa scale next rest
      else match digitValue? next with
      | some digit =>
          if 10 * mantissa + digit < mantissaBound then
            readDigits? negative rest (10 * mantissa + digit)
              (if afterPoint then scale + 1 else scale) afterPoint true
          else if afterPoint then rounded? negative mantissa scale digit rest
          else none
      | none =>
          if next = '.' ∧ ¬afterPoint then readDigits? negative rest mantissa scale true hasDigit
          else if next = '_' ∧ hasDigit then
            readDigits? negative rest mantissa scale afterPoint hasDigit
          else none

/-- A decimal number with an optional sign. -/
def readPlain? : List Char → Option Decimal
  | '-' :: rest => readDigits? true rest 0 0 false false
  | '+' :: rest => readDigits? false rest 0 0 false false
  | characters => readDigits? false characters 0 0 false false

/-- An unsigned number below a bound, with an optional plus sign. -/
def readNatBelow? (bound : Nat) (characters : List Char) : Option Nat := do
  let digits := match characters with
    | '+' :: rest => rest
    | _ => characters
  if digits.isEmpty then none
  else
    let number ← digits.foldlM (fun total digit => do
      let value ← digitValue? digit
      return 10 * total + value) 0
    if number < bound then some number else none

/-- The point moves to the left; digits that end up behind the 28th place are dropped. -/
def shiftedLeft? (number : Decimal) (places : Nat) : Option Decimal :=
  if places > 28 then none
  else
    let scale := number.scale + places
    ofParts? number.negative (dropDigits (scale - 28) number.mantissa) (min scale 28)

/-- The point moves to the right; behind the last digit it must leave a number in range. -/
def shiftedRight? (number : Decimal) (places : Nat) : Option Decimal :=
  if places ≤ number.scale then ofParts? number.negative number.mantissa (number.scale - places)
  else if places > 28 then none
  else ofParts? number.negative (number.mantissa * Nat.pow 10 (places - number.scale)) 0

/-- The point moves by an exponent, whose digits may have a plus sign even after a minus sign. -/
def shifted? (number : Decimal) (exponent : List Char) : Option Decimal := do
  match exponent with
  | '-' :: digits => number.shiftedLeft? (← readNatBelow? (Nat.pow 2 32) digits)
  | digits => number.shiftedRight? (← readNatBelow? (Nat.pow 2 32) digits)

/-- A decimal number before an exponent. -/
def readExponential? (characters : List Char) : Option Decimal := do
  let isMark := fun (next : Char) => next == 'e' || next == 'E'
  match characters.dropWhile (fun next => !isMark next) with
  | [] => none
  | _ :: exponent =>
      let number ← readPlain? (characters.takeWhile (fun next => !isMark next))
      number.shifted? exponent

/-- A text is read as a plain number, else as a number with an exponent. -/
def ofText? (text : String) : Option Decimal :=
  (readPlain? text.toList).or (readExponential? text.toList)

/-- Powers of five leave the exponent and enter the mantissa while it has room for them. -/
def absorbFives : Nat → (mantissa : Nat) → (tens : Int) → Nat × Int
  | 0, mantissa, tens => (mantissa, tens)
  | fives + 1, mantissa, tens =>
      if mantissa % 2 = 0 then absorbFives fives (mantissa / 2) (tens + 1)
      else if 5 * mantissa < mantissaBound then absorbFives fives (5 * mantissa) tens
      else absorbFives fives (mantissa / 2) (tens + 1)

/-- Powers of five leave the mantissa, which is doubled while it has room. -/
def releaseFives : Nat → (mantissa : Nat) → (tens : Int) → Option (Nat × Int)
  | 0, mantissa, tens => some (mantissa, tens)
  | fives + 1, mantissa, tens =>
      if 2 * mantissa < mantissaBound then releaseFives fives (2 * mantissa) (tens - 1)
      else if 2 * tens > fives + 1 then none
      else releaseFives fives (mantissa / 5) tens

/-- Digits beyond the 28th place are dropped one by one, each rounding the next; a mantissa that
becomes zero ends this. -/
def dropPlaces : Nat → (mantissa : Nat) → (scale : Nat) → Nat × Nat
  | 0, mantissa, scale => (mantissa, scale)
  | excess + 1, mantissa, scale =>
      if mantissa / 10 = 0 then (0, 0)
      else dropPlaces excess (mantissa / 10 + (if mantissa % 10 ≥ 5 then 1 else 0)) (scale - 1)

/-- Digits beyond the precision of the binary number are dropped, each rounding the next. -/
def dropNoise : Nat → (mantissa : Nat) → Nat × Nat
  | 0, mantissa => (mantissa, 0)
  | scale + 1, mantissa =>
      if mantissa ≥ Nat.pow 2 52 then
        dropNoise scale (mantissa / 10 + (if mantissa % 10 ≥ 5 then 1 else 0))
      else (mantissa, scale + 1)

/-- Zeros at the end of the places are dropped. -/
def dropZeros : Nat → (mantissa : Nat) → Nat × Nat
  | 0, mantissa => (mantissa, 0)
  | scale + 1, mantissa =>
      if mantissa % 10 = 0 then dropZeros scale (mantissa / 10) else (mantissa, scale + 1)

/-- A binary number becomes the decimal number of about the same precision. -/
def ofBinary64? (number : Binary64) : Option Decimal :=
  if !number.isFinite then none
  else if number.magnitude = 0 then ofParts? number.isNegative 0 0
  else do
    let (mantissa, exponent) := number.parts
    let (mantissa, tens) ←
      if exponent ≤ 0 then some (absorbFives (-exponent).toNat mantissa exponent)
      else releaseFives exponent.toNat mantissa exponent
    let mantissa := mantissa * Nat.pow 10 tens.toNat
    if mantissa ≥ mantissaBound then none
    else
      let scale := (-tens).toNat
      let (mantissa, scale) := dropPlaces (scale - 28) mantissa scale
      let (mantissa, scale) := dropNoise scale mantissa
      let (mantissa, scale) := dropZeros scale mantissa
      ofParts? number.isNegative mantissa scale

end Decimal

end QueryTree
