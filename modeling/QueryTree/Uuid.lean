/-
This file holds universally unique identifiers and their text.
-/
import QueryTree.Bytes

namespace QueryTree

/-- An identifier of 128 bits. -/
structure Uuid where
  bits : BitVec 128
deriving DecidableEq, Repr

namespace Uuid

/-- The sixteen bytes, the highest first. -/
def bytes (uuid : Uuid) : Bytes := .bigEndian 16 uuid.bits.toNat

/-- The identifier of sixteen bytes. -/
def ofBytes? (bytes : Bytes) : Option Uuid :=
  if bytes.length = 16 then some ⟨BitVec.ofNat 128 bytes.toNat⟩ else none

/-- The digits in groups of eight, four, four, four and twelve. -/
def characters (uuid : Uuid) : List Char :=
  let digits := uuid.bytes.hexDigits
  digits.take 8 ++ '-' :: (digits.drop 8).take 4 ++ '-' :: (digits.drop 12).take 4
    ++ '-' :: (digits.drop 16).take 4 ++ '-' :: digits.drop 20

def text (uuid : Uuid) : String := String.ofList uuid.characters

/-- Thirty-two digits. -/
def ofDigits? (digits : List Char) : Option Uuid := do
  let bytes ← Bytes.ofHexDigits? digits
  ofBytes? bytes

/-- Digits in groups with hyphens between them. -/
def ofGroups? (characters : List Char) : Option Uuid :=
  if characters.length = 36 ∧ characters[8]? = some '-' ∧ characters[13]? = some '-'
      ∧ characters[18]? = some '-' ∧ characters[23]? = some '-' then
    ofDigits? (characters.take 8 ++ (characters.drop 9).take 4 ++ (characters.drop 14).take 4
      ++ (characters.drop 19).take 4 ++ characters.drop 24)
  else none

/-- Digits are read alone or in groups, the groups also in braces or as a uniform resource name,
whose start is written in any case. -/
def ofText? (text : String) : Option Uuid :=
  let characters := text.toList
  if characters.length = 32 then ofDigits? characters
  else if characters.length = 38 ∧ characters.head? = some '\x7b'
      ∧ characters.getLast? = some '\x7d' then
    ofGroups? ((characters.drop 1).take 36)
  else if characters.length = 45
      ∧ (characters.take 9).map Char.toLower = "urn:uuid:".toList then
    ofGroups? (characters.drop 9)
  else ofGroups? characters

end Uuid

end QueryTree
