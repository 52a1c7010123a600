/-
This file holds byte sequences: numbers written with the highest byte first, and hexadecimal text.
-/

namespace QueryTree

/-- Bytes on their way to or from a server. -/
abbrev Bytes := List UInt8

namespace Bytes

/-- The number is written in the given count of bytes, the highest first; what does not fit is cut off. -/
def bigEndian : Nat → Nat → Bytes
  | 0, _ => []
  | width + 1, number => UInt8.ofNat (number / Nat.pow 256 width) :: bigEndian width number

/-- The number that the bytes write, the highest first. -/
def toNat (bytes : Bytes) : Nat :=
  bytes.foldl (fun total byte => total * 256 + byte.toNat) 0

/-- An integer is written in two's complement. -/
def ofInt (width : Nat) (number : Int) : Bytes :=
  bigEndian width (number % Nat.pow 256 width).toNat

/-- The integer that the bytes write in two's complement. -/
def toInt (bytes : Bytes) : Int :=
  Int.bmod bytes.toNat (Nat.pow 256 bytes.length)

@[simp] theorem bigEndian_length (width number : Nat) : (bigEndian width number).length = width := by
  induction width with
  | zero => rfl
  | succ width ih => simp [bigEndian, ih]

@[simp] theorem ofInt_length (width : Nat) (number : Int) : (ofInt width number).length = width :=
  bigEndian_length width _

/-- The hexadecimal digit of a value below sixteen, in lower case. -/
def hexDigit (value : Nat) : Char :=
  if value < 10 then Char.ofNat ('0'.toNat + value) else Char.ofNat ('a'.toNat + (value - 10))

/-- The value of a hexadecimal digit in either case. -/
def hexValue? (digit : Char) : Option Nat :=
  if '0' ≤ digit ∧ digit ≤ '9' then some (digit.toNat - '0'.toNat)
  else if 'a' ≤ digit ∧ digit ≤ 'f' then some (digit.toNat - 'a'.toNat + 10)
  else if 'A' ≤ digit ∧ digit ≤ 'F' then some (digit.toNat - 'A'.toNat + 10)
  else none

/-- Two hexadecimal digits for every byte. -/
def hexDigits (bytes : Bytes) : List Char :=
  bytes.flatMap fun byte => [hexDigit (byte.toNat / 16), hexDigit (byte.toNat % 16)]

/-- The bytes as hexadecimal text. -/
def hexText (bytes : Bytes) : String := String.ofList bytes.hexDigits

/-- The bytes that hexadecimal digits stand for, two digits a byte. -/
def ofHexDigits? : List Char → Option Bytes
  | [] => some []
  | high :: low :: rest => do
      let highValue ← hexValue? high
      let lowValue ← hexValue? low
      let bytes ← ofHexDigits? rest
      return UInt8.ofNat (16 * highValue + lowValue) :: bytes
  | [_] => none

/-- The bytes that hexadecimal text stands for. -/
def ofHexText? (text : String) : Option Bytes := ofHexDigits? text.toList

/-- The bytes of a text in UTF-8. -/
def ofText (text : String) : Bytes := text.toUTF8.toList

/-- The text that the bytes hold in UTF-8. -/
def toText? (bytes : Bytes) : Option String := String.fromUTF8? ⟨bytes.toArray⟩

end Bytes

end QueryTree
