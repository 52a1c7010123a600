/-
This file holds the binary form of decimal numbers: groups of four decimal digits with the weight of
the first group, a sign and a count of places.
-/
import QueryTree.Bytes
import QueryTree.Number.Decimal

namespace QueryTree.Postgres

/-- The groups of a number: its value is the sum of the groups, each times a power of ten thousand
that starts at the weight and goes down. -/
structure Numeric where
  groups : List Nat
  weight : Int
  negative : Bool
  scale : Nat
deriving DecidableEq, Repr

namespace Numeric

/-- The digits of a number to the base of ten thousand, the highest first. -/
def groupsOf : Nat → Nat → List Nat
  | 0, _ => []
  | fuel + 1, number =>
      if number = 0 then [] else groupsOf fuel (number / 10000) ++ [number % 10000]

/-- Zeros at the end of groups are dropped, but not from the first so many. -/
def dropZeros (kept : Nat) (groups : List Nat) : List Nat :=
  groups.take kept ++ ((groups.drop kept).reverse.dropWhile (· = 0)).reverse

/-- The groups of a decimal number. -/
def ofDecimal (number : Decimal) : Numeric :=
  if number.mantissa = 0 then ⟨[], 0, false, 0⟩
  else
    let fractionGroups := (number.scale + 3) / 4
    let aligned := number.mantissa * Nat.pow 10 (4 * fractionGroups - number.scale)
    let groups := groupsOf 20 aligned
    let weight : Int := groups.length - fractionGroups - 1
    { groups := if weight ≥ 0 then dropZeros (weight.toNat + 1) groups else groups
      weight := weight
      negative := number.negative
      scale := number.scale }

/-- The bytes of a number. -/
def bytes (number : Numeric) : Bytes :=
  Bytes.bigEndian 2 number.groups.length ++ Bytes.ofInt 2 number.weight
    ++ Bytes.bigEndian 2 (if number.negative then 0x4000 else 0) ++ Bytes.bigEndian 2 number.scale
    ++ number.groups.flatMap (Bytes.bigEndian 2)

/-- So many groups of two bytes; bytes after them are passed over. -/
def readGroups? : Nat → Bytes → Option (List Nat)
  | 0, _ => some []
  | count + 1, high :: low :: rest => do
      let groups ← readGroups? count rest
      return Bytes.toNat [high, low] :: groups
  | _ + 1, _ => none

/-- The number that bytes hold; one with a mark of not being finite has none. -/
def ofBytes? : Bytes → Option Numeric
  | count1 :: count2 :: weight1 :: weight2 :: sign1 :: sign2 :: scale1 :: scale2 :: rest => do
      let sign := Bytes.toNat [sign1, sign2]
      if sign / 0x4000 = 3 then none
      else
        let groups ← readGroups? (Bytes.toNat [count1, count2]) rest
        return { groups := groups
                 weight := Bytes.toInt [weight1, weight2]
                 negative := sign = 0x4000
                 scale := Bytes.toNat [scale1, scale2] }
  | _ => none

/-- A sum of ten-thousandfold digits before the point stays in range, or there is none. -/
def wholePart? : (total : Nat) → List Nat → Option Nat
  | total, [] => some total
  | total, group :: rest =>
      if total * 10000 + group < Decimal.mantissaBound then wholePart? (total * 10000 + group) rest
      else none

/-- A mantissa with places that is too large gives up its last places, with rounding to the nearest
and a half to the even neighbour. -/
def fitted? : (spare : Nat) → (mantissa scale : Nat) → Option (Nat × Nat)
  | spare, mantissa, scale =>
      let rounded := BinaryFormat.divideToEven mantissa (Nat.pow 10 (scale - spare))
      if rounded < Decimal.mantissaBound then some (rounded, spare)
      else
        match spare with
        | 0 => none
        | spare + 1 => fitted? spare mantissa scale

/-- A fraction of so many places is added. -/
def addPlaces? (mantissa scale digits places : Nat) : Option (Nat × Nat) :=
  let common := max scale places
  fitted? common
    (mantissa * Nat.pow 10 (common - scale) + digits * Nat.pow 10 (common - places)) common

/-- The groups after the point are added one by one. Those beyond the 28th place are passed over,
but for the first of them, which rounds the 28th place. -/
def addFraction? : (mantissa scale : Nat) → (places : Nat) → List Nat → Option (Nat × Nat)
  | mantissa, scale, _, [] => some (mantissa, scale)
  | mantissa, scale, places, group :: rest =>
      if places ≤ 28 then
        match addPlaces? mantissa scale group places with
        | some (mantissa, scale) => addFraction? mantissa scale (places + 4) rest
        | none => none
      else if places = 32 ∧ group ≥ 5000 then
        match addPlaces? mantissa scale 1 28 with
        | some (mantissa, scale) => addFraction? mantissa scale (places + 4) rest
        | none => none
      else addFraction? mantissa scale (places + 4) rest

/-- Places are added as far as the mantissa has room for them. -/
def padPlaces : (missing : Nat) → (mantissa scale : Nat) → Nat × Nat
  | 0, mantissa, scale => (mantissa, scale)
  | missing + 1, mantissa, scale =>
      if mantissa * 10 < Decimal.mantissaBound then padPlaces missing (mantissa * 10) (scale + 1)
      else (mantissa, scale)

/-- The number is brought to a count of places; a half is rounded up. -/
def rescale (mantissa scale target : Nat) : Nat × Nat :=
  if scale ≤ target then padPlaces (target - scale) mantissa scale
  else (Decimal.dropDigits (scale - target) mantissa, target)

/-- So many groups of zeros follow before the point. More than seven are refused even after zero:
the power of ten that they stand for is itself out of range. -/
def shiftGroups? (whole missing : Nat) : Option Nat :=
  if missing > 7 then none
  else
    let shifted := whole * Nat.pow 10000 missing
    if shifted < Decimal.mantissaBound then some shifted else none

/-- The decimal number of groups; one that is too large has none. -/
def toDecimal? (number : Numeric) : Option Decimal := do
  let wholeGroups := (number.weight + 1).toNat
  let whole ← wholePart? 0 (number.groups.take wholeGroups)
  let whole ← shiftGroups? whole (wholeGroups - number.groups.length)
  let firstPlace := (4 * max 1 (-number.weight)).toNat
  let (mantissa, scale) ← addFraction? whole 0 firstPlace (number.groups.drop wholeGroups)
  let (mantissa, scale) := rescale mantissa scale (min number.scale 28)
  Decimal.ofParts? number.negative mantissa scale

end Numeric

end QueryTree.Postgres
