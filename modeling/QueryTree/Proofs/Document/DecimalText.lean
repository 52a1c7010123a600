/-
This file proves that a decimal number is read back from its text with all its places. Only the sign of a
zero is lost.
-/
import QueryTree.Number.Decimal
import QueryTree.Proofs.Text.DigitRuns

namespace QueryTree

namespace Decimal

/-- The number with the sign of a zero left out. -/
def unsignedZero (number : Decimal) : Decimal :=
  { number with negative := number.negative && number.mantissa != 0 }

theorem same_unsignedZero (number : Decimal) : number.unsignedZero.same number = true := by
  have signed : number.unsignedZero.signedMantissa = number.signedMantissa := by
    unfold signedMantissa unsignedZero
    cases number.negative <;> by_cases zero : number.mantissa = 0 <;> simp [zero]
  rw [same, signed]
  exact beq_self_eq_true _

theorem digitValue?_of_isDigit {digit : Char} (isDigit : digit.isDigit = true) :
    digitValue? digit = some (digit.toNat - '0'.toNat) := by
  have range := Text.toNat_of_isDigit isDigit
  exact if_pos ⟨UInt32.le_iff_toNat_le.mpr range.1, UInt32.le_iff_toNat_le.mpr range.2⟩

/-- Digits for which there is room enter the mantissa, and behind the point they count as places. -/
theorem readDigits?_run (negative afterPoint : Bool) {run : List Char} {mantissa scale : Nat}
    (digits : ∀ character ∈ run, character.isDigit = true)
    (fits : Nat.ofDigitChars 10 run mantissa < mantissaBound)
    (room : afterPoint = true → scale + run.length ≤ 28) (rest : List Char) (hasDigit : Bool) :
    readDigits? negative (run ++ rest) mantissa scale afterPoint hasDigit =
      readDigits? negative rest (Nat.ofDigitChars 10 run mantissa)
        (if afterPoint then scale + run.length else scale) afterPoint (hasDigit || !run.isEmpty) := by
  induction run generalizing mantissa scale hasDigit with
  | nil => simp
  | cons digit run ih =>
    obtain ⟨isDigit, others⟩ := List.forall_mem_cons.mp digits
    rw [Nat.ofDigitChars_cons] at fits ⊢
    have next : 10 * mantissa + (digit.toNat - '0'.toNat) < mantissaBound :=
      Nat.lt_of_le_of_lt (Text.le_ofDigitChars run _) fits
    have inside : ¬ (afterPoint = true ∧ scale ≥ 28) := by
      rintro ⟨behind, full⟩
      have most := room behind
      rw [List.length_cons] at most
      omega
    rw [List.cons_append, readDigits?, if_neg inside, digitValue?_of_isDigit isDigit]
    dsimp only
    rw [if_pos next, ih others fits]
    · cases afterPoint <;> simp [Nat.add_comm, Nat.add_left_comm]
    · intro behind
      have most := room behind
      rw [List.length_cons] at most
      rw [if_pos behind]
      omega

/-- The digits of the mantissa, with zeros in front of them so that one stands before the point. -/
def paddedDigits (number : Decimal) : List Char :=
  let digits := Nat.toDigits 10 number.mantissa
  List.replicate (number.scale + 1 - digits.length) '0' ++ digits

theorem paddedDigits_isDigit (number : Decimal) :
    ∀ character ∈ number.paddedDigits, character.isDigit = true :=
  Text.isDigit_of_mem_leadingZeros _ _

theorem ofDigitChars_paddedDigits (number : Decimal) :
    Nat.ofDigitChars 10 number.paddedDigits 0 = number.mantissa :=
  Text.ofDigitChars_leadingZeros _ _

theorem scale_lt_paddedDigits (number : Decimal) : number.scale < number.paddedDigits.length := by
  simp only [paddedDigits, List.length_append, List.length_replicate]
  omega

/-- The parts before and behind the point are the digits of the mantissa. -/
theorem characters_parts (number : Decimal) :
    ∃ whole fraction, whole ≠ [] ∧ fraction.length = number.scale ∧
      whole ++ fraction = number.paddedDigits ∧
      number.characters = (if number.negative then ['-'] else []) ++
        (whole ++ if number.scale = 0 then [] else '.' :: fraction) := by
  have length := number.scale_lt_paddedDigits
  refine ⟨number.paddedDigits.take (number.paddedDigits.length - number.scale),
    number.paddedDigits.drop (number.paddedDigits.length - number.scale), ?_, ?_,
    List.take_append_drop _ _, ?_⟩
  · intro nothing
    have none := congrArg List.length nothing
    rw [List.length_take, List.length_nil] at none
    omega
  · rw [List.length_drop]
    omega
  · exact List.append_assoc _ _ _

/-- The digits around the point are read as the mantissa and its places. -/
theorem readDigits?_parts (number : Decimal) {whole fraction : List Char} (nonempty : whole ≠ [])
    (places : fraction.length = number.scale) (parts : whole ++ fraction = number.paddedDigits) :
    readDigits? number.negative (whole ++ if number.scale = 0 then [] else '.' :: fraction) 0 0 false false =
      some number.unsignedZero := by
  have digits := number.paddedDigits_isDigit
  rw [← parts] at digits
  have total := number.ofDigitChars_paddedDigits
  rw [← parts, Nat.ofDigitChars_append] at total
  have fits := number.mantissaLt
  have wholeFits : Nat.ofDigitChars 10 whole 0 < mantissaBound :=
    Nat.lt_of_le_of_lt (Text.le_ofDigitChars fraction _) (total ▸ fits)
  have finished : ofUnsignedZero? number.negative number.mantissa number.scale =
      some number.unsignedZero := dif_pos ⟨fits, number.scaleLe⟩
  have read : (!whole.isEmpty) = true := by simpa using nonempty
  rw [readDigits?_run _ false (fun character member => digits character (List.mem_append_left _ member))
    wholeFits (by simp), read]
  by_cases integral : number.scale = 0
  · have none : fraction = [] := List.eq_nil_of_length_eq_zero (places.trans integral)
    rw [none, Nat.ofDigitChars_nil] at total
    rw [if_pos integral, readDigits?, total, ← finished, integral]
    rfl
  · have behind := readDigits?_run number.negative true
      (fun character member => digits character (List.mem_append_right _ member))
      (total.symm ▸ fits) (fun _ => by rw [Nat.zero_add, places]; exact number.scaleLe) [] true
    rw [List.append_nil, total, places] at behind
    have ends : readDigits? number.negative [] number.mantissa (0 + number.scale) true true =
        some number.unsignedZero := by
      rw [Nat.zero_add]
      exact finished
    rw [if_neg integral, readDigits?, if_neg (by simp)]
    exact behind.trans ends

theorem readPlain?_characters (number : Decimal) :
    readPlain? number.characters = some number.unsignedZero := by
  obtain ⟨whole, fraction, nonempty, places, parts, written⟩ := number.characters_parts
  have read := number.readDigits?_parts nonempty places parts
  rw [written]
  cases sign : number.negative with
  | true =>
    rw [sign] at read
    exact read
  | false =>
    rw [sign] at read
    obtain ⟨first, others, rfl⟩ := List.exists_cons_of_ne_nil nonempty
    have digit : first.isDigit = true :=
      number.paddedDigits_isDigit first (by rw [← parts]; exact List.mem_cons_self)
    unfold readPlain?
    split
    next rest signed =>
      cases (List.cons.inj signed).1
      cases digit
    next rest signed =>
      cases (List.cons.inj signed).1
      cases digit
    next => exact read

/-- A decimal number is read back from its text. -/
theorem ofText?_text (number : Decimal) : ofText? number.text = some number.unsignedZero := by
  rw [ofText?, text, String.toList_ofList, readPlain?_characters]
  rfl

end Decimal

end QueryTree
