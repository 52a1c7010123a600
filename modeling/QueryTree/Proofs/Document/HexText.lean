/-
This file proves that bytes and identifiers are read back from their hexadecimal text.
-/
import QueryTree.Proofs.Postgres.ScalarBytes

namespace QueryTree

namespace Bytes

theorem hexValue?_hexDigit : ∀ value < 16, hexValue? (hexDigit value) = some value := by decide

/-- Bytes are read back from their digits. -/
theorem ofHexDigits?_hexDigits (bytes : Bytes) : ofHexDigits? bytes.hexDigits = some bytes := by
  induction bytes with
  | nil => rfl
  | cons byte rest ih =>
    have size : byte.toNat < 256 := byte.toNat_lt
    have joined : 16 * (byte.toNat / 16) + byte.toNat % 16 = byte.toNat := Nat.div_add_mod _ _
    rw [hexDigits] at ih ⊢
    rw [List.flatMap_cons, List.cons_append, List.cons_append, List.nil_append, ofHexDigits?,
      hexValue?_hexDigit _ (by omega), hexValue?_hexDigit _ (by omega), ih]
    simp only [Option.bind_eq_bind, Option.bind_some, joined, UInt8.ofNat_toNat]
    rfl

theorem hexDigits_length (bytes : Bytes) : bytes.hexDigits.length = 2 * bytes.length := by
  induction bytes with
  | nil => rfl
  | cons byte rest ih =>
    rw [hexDigits, List.flatMap_cons, List.length_append, ← hexDigits, ih, List.length_cons,
      List.length_cons, List.length_cons, List.length_nil]
    omega

end Bytes

namespace Uuid

/-- Thirty-two digits in groups, with hyphens between them, are read as the digits. -/
theorem ofGroups?_groups {first second third fourth last : List Char} (firstLength : first.length = 8)
    (secondLength : second.length = 4) (thirdLength : third.length = 4) (fourthLength : fourth.length = 4)
    (lastLength : last.length = 12) :
    ofGroups? (first ++ '-' :: second ++ '-' :: third ++ '-' :: fourth ++ '-' :: last) =
      ofDigits? (first ++ second ++ third ++ fourth ++ last) := by
  rw [ofGroups?, if_pos]
  · simp (disch := omega) [List.drop_append, List.drop_of_length_le, firstLength, secondLength,
      thirdLength, fourthLength]
  · simp [firstLength, secondLength, thirdLength, fourthLength, lastLength]

/-- The groups of the digits are all of them. -/
theorem groups_joined (digits : List Char) :
    digits.take 8 ++ (digits.drop 8).take 4 ++ (digits.drop 12).take 4 ++ (digits.drop 16).take 4
      ++ digits.drop 20 = digits := by
  have twelve : digits.take 8 ++ (digits.drop 8).take 4 = digits.take 12 := List.take_add.symm
  have sixteen : digits.take 12 ++ (digits.drop 12).take 4 = digits.take 16 := List.take_add.symm
  have twenty : digits.take 16 ++ (digits.drop 16).take 4 = digits.take 20 := List.take_add.symm
  rw [twelve, sixteen, twenty, List.take_append_drop]

/-- An identifier is read back from its text. -/
theorem ofText?_text (uuid : Uuid) : ofText? uuid.text = some uuid := by
  have length : uuid.bytes.hexDigits.length = 32 := by
    rw [Bytes.hexDigits_length, bytes, Bytes.bigEndian_length]
  have written : uuid.characters.length = 36 := by
    simp [characters, length]
  have read : ofGroups? uuid.characters = some uuid := by
    rw [characters, ofGroups?_groups (by simp [length]) (by simp [length]) (by simp [length])
      (by simp [length]) (by simp [length]), groups_joined, ofDigits?, Bytes.ofHexDigits?_hexDigits]
    exact ofBytes?_bytes uuid
  simp [ofText?, text, written, read]

end Uuid

end QueryTree
