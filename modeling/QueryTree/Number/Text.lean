/-
This file reads the text of a floating point number: digits with a point and an exponent, or the
names of infinity and of what is not a number.
-/
import QueryTree.Number.Binary

namespace QueryTree.Binary64

/-- The number of a run of decimal digits. -/
def digitsValue (digits : List Char) : Nat :=
  digits.foldl (fun total digit => 10 * total + (digit.toNat - '0'.toNat)) 0

/-- The exponent of a text after its mark: an optional sign and at least one digit. -/
def exponent? (characters : List Char) : Option Int :=
  let (negative, digits) := match characters with
    | '-' :: rest => (true, rest)
    | '+' :: rest => (false, rest)
    | rest => (false, rest)
  if digits.isEmpty ∨ !digits.all Char.isDigit then none
  else some (if negative then -(digitsValue digits : Int) else digitsValue digits)

/-- A whole number times a power of ten. A power far beyond the range is not computed. -/
def ofScientific (negative : Bool) (mantissa : Nat) (exponent : Int) : Binary64 :=
  let size : Int := (Nat.toDigits 10 mantissa).length
  if mantissa = 0 ∨ exponent + size < -400 then ofSigned negative 0
  else if exponent + size > 400 then infinity negative
  else if exponent ≥ 0 then ofRatio negative (mantissa * Nat.pow 10 exponent.toNat) 1
  else ofRatio negative mantissa (Nat.pow 10 (-exponent).toNat)

/-- Digits with at most one point among them, and an exponent. -/
def ofDigits? (negative : Bool) (characters : List Char) : Option Binary64 := do
  let whole := characters.takeWhile Char.isDigit
  let (fraction, rest) := match characters.dropWhile Char.isDigit with
    | '.' :: rest => (rest.takeWhile Char.isDigit, rest.dropWhile Char.isDigit)
    | rest => ([], rest)
  if whole.isEmpty ∧ fraction.isEmpty then none
  else
    let exponent ← match rest with
      | [] => some 0
      | mark :: rest => if mark = 'e' ∨ mark = 'E' then exponent? rest else none
    return ofScientific negative (digitsValue (whole ++ fraction)) (exponent - fraction.length)

/-- The number nearest to the text, or a named one; names are read in any case. -/
def ofText? (text : String) : Option Binary64 :=
  let (negative, characters) := match text.toList with
    | '-' :: rest => (true, rest)
    | '+' :: rest => (false, rest)
    | rest => (false, rest)
  let lower := String.ofList (characters.map Char.toLower)
  if lower = "inf" ∨ lower = "infinity" then some (infinity negative)
  else if lower = "nan" then some (notANumber negative)
  else ofDigits? negative characters

end QueryTree.Binary64
