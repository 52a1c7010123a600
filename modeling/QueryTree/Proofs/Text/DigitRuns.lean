/-
This file says where a run of digits ends, and what the digits of a number begin with and add up to.
-/
import Mathlib.Data.List.Basic
import QueryTree.Text.Blank
import QueryTree.Text.Digits

namespace QueryTree

/-- No digit follows. -/
def EndsDigits (text : List Char) : Prop := ∀ character ∈ text.head?, character.isDigit = false

/-- Where no digit follows, digits are cut off as a whole. -/
theorem EndsDigits.cut {digits rest : List Char} (ends : EndsDigits rest)
    (number : ∀ character ∈ digits, character.isDigit = true) :
    (digits ++ rest).takeWhile Char.isDigit = digits ∧
      (digits ++ rest).dropWhile Char.isDigit = rest := by
  have stops : rest.takeWhile Char.isDigit = [] ∧ rest.dropWhile Char.isDigit = rest := by
    cases rest with
    | nil => exact ⟨rfl, rfl⟩
    | cons next others => simp [ends next rfl]
  rw [List.takeWhile_append_of_pos number, List.dropWhile_append_of_pos number, stops.1, stops.2,
    List.append_nil]
  exact ⟨rfl, rfl⟩

namespace Text

theorem toNat_of_isDigit {character : Char} (digit : character.isDigit = true) :
    48 ≤ character.toNat ∧ character.toNat ≤ 57 := by
  simpa [Char.isDigit, UInt32.le_iff_toNat_le] using digit

theorem isBlank_of_isDigit {character : Char} (digit : character.isDigit = true) :
    isBlank character = false := by
  have range := toNat_of_isDigit digit
  simp only [isBlank, blanks, List.contains_eq_mem, decide_eq_false_iff_not, List.mem_cons,
    List.not_mem_nil, or_false]
  omega

/-- A number has a first digit. -/
theorem toDigits_eq_cons (number : Nat) :
    ∃ first rest, Nat.toDigits 10 number = first :: rest ∧ first.isDigit = true := by
  obtain ⟨first, rest, parts⟩ := List.exists_cons_of_ne_nil (Nat.toDigits_ne_nil (n := number) (b := 10))
  exact ⟨first, rest, parts, isDigit_of_mem_toDigits number first (by rw [parts]; exact List.mem_cons_self)⟩

/-- Zeros in front of a number are digits as well. -/
theorem isDigit_of_mem_leadingZeros (count number : Nat) :
    ∀ character ∈ List.replicate count '0' ++ Nat.toDigits 10 number, character.isDigit = true := by
  intro character member
  rcases List.mem_append.mp member with zero | digit
  · rw [List.eq_of_mem_replicate zero]
    rfl
  · exact isDigit_of_mem_toDigits number character digit

/-- Zeros in front of a number leave it as it is. -/
theorem ofDigitChars_leadingZeros (count number : Nat) :
    Nat.ofDigitChars 10 (List.replicate count '0' ++ Nat.toDigits 10 number) 0 = number := by
  simp [Nat.ofDigitChars_append, Nat.ofDigitChars_replicate_zero, Nat.ofDigitChars_toDigits]

/-- The digits of a number do not begin with a zero, unless it is zero. -/
theorem head?_toDigits {number : Nat} (positive : number ≠ 0) :
    (Nat.toDigits 10 number).head? ≠ some '0' := by
  induction number using Nat.strongRecOn with
  | ind number ih =>
    rw [Nat.toDigits_eq_if (by decide)]
    split
    next small =>
      have digit : ∀ value < 10, value ≠ 0 → Nat.digitChar value ≠ '0' := by decide
      simpa using digit number small positive
    next large =>
      rw [List.head?_append_of_ne_nil _ Nat.toDigits_ne_nil]
      exact ih (number / 10) (by omega) (by omega)

/-- Digits only add to a number. -/
theorem le_ofDigitChars (digits : List Char) (number : Nat) :
    number ≤ Nat.ofDigitChars 10 digits number := by
  induction digits generalizing number with
  | nil => exact Nat.le_refl number
  | cons digit digits ih =>
    rw [Nat.ofDigitChars_cons]
    exact Nat.le_trans (by omega) (ih _)

end Text

end QueryTree
