/-
This file gives the numerals of documents their values. A numeral without fraction and exponent
is an integer as long as it fits a machine word; every other numeral is a real number.
-/
import QueryTree.Json.Basic

namespace QueryTree

/-- A numeral as it is written: its sign, its digits, the digits after a point and its exponent,
which is true for a negative one. -/
structure JsonNumeral where
  negative : Bool
  whole : List Nat
  fraction : Option (List Nat)
  exponent : Option (Bool × List Nat)
deriving DecidableEq, Repr

namespace JsonNumeral

/-- A significand stays below this bound. -/
def significandBound : Nat := 18446744073709551616

/-- Digits are taken into a significand as long as it fits 64 bits; the digits left over follow. -/
def absorb : (significand : Nat) → List Nat → Nat × List Nat
  | significand, [] => (significand, [])
  | significand, digit :: rest =>
      if 10 * significand + digit < significandBound then absorb (10 * significand + digit) rest
      else (significand, digit :: rest)

/-- The significand and the power of ten of a numeral, without its exponent. Digits that do not
fit are dropped, before the point at the price of a higher power of ten. -/
def significand (numeral : JsonNumeral) : Nat × Int :=
  let (whole, excess) := absorb 0 numeral.whole
  match numeral.fraction with
  | none => (whole, excess.length)
  | some fraction =>
      let (significand, dropped) := absorb whole fraction
      (significand, (excess.length : Int) - (fraction.length - dropped.length : Nat))

/-- A significand is scaled by a power of ten in steps of at most 308. The significand, the power
and every product or quotient are rounded; a result beyond the finite numbers is refused. -/
def scale : Nat → (magnitude : Nat) → (exponent : Int) → Option Nat
  | 0, magnitude, _ => some magnitude
  | fuel + 1, magnitude, exponent =>
      let power (places : Nat) := BinaryFormat.double.nearest (Nat.pow 10 places) 1
      if exponent.natAbs ≤ 308 then
        if exponent ≥ 0 then
          let product := Binary64.multiplyMagnitudes magnitude (power exponent.toNat)
          if product = BinaryFormat.double.infinity then none else some product
        else some (Binary64.divideMagnitudes magnitude (power exponent.natAbs))
      else if magnitude = 0 then some 0
      else if exponent ≥ 0 then none
      else scale fuel (Binary64.divideMagnitudes magnitude (power 308)) (exponent + 308)

/-- The real number of a significand and a power of ten. -/
def real? (negative : Bool) (significand : Nat) (exponent : Int) : Option Binary64 :=
  (scale 5 (BinaryFormat.double.nearest significand 1) exponent).map (Binary64.ofSigned negative)

/-- The exponent is written with digits; `none` stands for one beyond 31 bits. -/
def exponentValue : (total : Nat) → List Nat → Option Nat
  | total, [] => some total
  | total, digit :: rest =>
      if 10 * total + digit < 2147483648 then exponentValue (10 * total + digit) rest else none

/-- The value of a numeral; `none` when it is too large for a real number. -/
def value? (numeral : JsonNumeral) : Option Json :=
  let (significand, tens) := numeral.significand
  match numeral.exponent with
  | some (below, digits) =>
      match exponentValue 0 digits with
      | some places =>
          let exponent := if below then tens - places else tens + places
          (real? numeral.negative significand exponent).map .real
      | none =>
          if significand ≠ 0 ∧ !below then none else some (.real (.ofSigned numeral.negative 0))
  | none =>
      let whole : Nat := numeral.whole.foldl (fun total digit => 10 * total + digit) 0
      if numeral.fraction.isNone ∧ tens = 0 ∧ !numeral.negative then some (.integer whole)
      else if numeral.fraction.isNone ∧ tens = 0 then
        if 0 < whole ∧ whole ≤ 9223372036854775808 then some (.integer (-(whole : Int)))
        else some (.real (.ofSigned true (BinaryFormat.double.nearest whole 1)))
      else (real? numeral.negative significand tens).map .real

end JsonNumeral

end QueryTree
