/-
This file proves that the text of an integer is read as a numeral that has the integer as its value, and says
of which real numbers this is so.
-/
import QueryTree.Json.Reader
import QueryTree.Proofs.Text.DigitRuns

namespace QueryTree

/-- The values of decimal digits. -/
def digitValues (digits : List Char) : List Nat := digits.map fun digit => digit.toNat - '0'.toNat

/-- The numeral that is written for an integer. -/
def JsonNumeral.ofInt (number : Int) : JsonNumeral :=
  ⟨number < 0, digitValues (Nat.toDigits 10 number.natAbs), none, none⟩

/-- The numeral that is written for a real number. -/
def JsonNumeral.ofReal (number : Binary64) : JsonNumeral :=
  match JsonSource.numeral? number.documentText.toList with
  | some (numeral, _) => numeral
  | none => .ofInt 0

/-- The text of a real number is a numeral that has the number as its value. There are numbers of which this
is not so, although the text has enough digits: the value of a numeral is rounded more than once. -/
structure Binary64.IsReadBack (number : Binary64) : Prop where
  finite : number.isFinite = true
  written : JsonSource.numeral? number.documentText.toList = some (.ofReal number, [])
  read : (JsonNumeral.ofReal number).value? = some (.real number)

/-- The text `1e-23` is read as one divided by a rounded power of ten, which is the next number. -/
example : (⟨0x3b282db34012b251⟩ : Binary64).documentText = "1e-23" ∧
    ¬ (⟨0x3b282db34012b251⟩ : Binary64).IsReadBack := by
  have value : (JsonNumeral.ofReal ⟨0x3b282db34012b251⟩).value? = some (.real ⟨0x3b282db34012b252⟩) := rfl
  refine ⟨by decide, fun readBack => ?_⟩
  cases value.symm.trans readBack.read

theorem Binary64.IsReadBack.same_self {number : Binary64} (readBack : number.IsReadBack) :
    number.same number = true := by
  have isNumber : number.isNotANumber = false := by
    have finite : number.magnitude < BinaryFormat.double.infinity := of_decide_eq_true readBack.finite
    exact decide_eq_false (Nat.not_lt_of_lt finite)
  rw [Binary64.same, isNumber, beq_self_eq_true]
  rfl

namespace JsonSource

/-- What may follow a value: a mark of the array or object around it, or the end. -/
def EndsValue (text : List Char) : Prop :=
  ∀ character ∈ text.head?, character = ',' ∨ character = ']' ∨ character = '\x7d'

theorem EndsValue.endsDigits {text : List Char} (ends : EndsValue text) : EndsDigits text := by
  intro character head
  rcases ends character head with rfl | rfl | rfl <;> rfl

/-- Digits that end are read with their values. -/
theorem digitRun_digits {digits rest : List Char} (number : ∀ character ∈ digits, character.isDigit = true)
    (ends : EndsDigits rest) : digitRun (digits ++ rest) = (digitValues digits, rest) := by
  rw [digitRun, (ends.cut number).1, (ends.cut number).2]
  rfl

/-- The digits of a number are read as digits in front of a point. -/
theorem wholePart?_toDigits (number : Nat) :
    wholePart? (Nat.toDigits 10 number) = some (digitValues (Nat.toDigits 10 number), []) := by
  have digits := Text.isDigit_of_mem_toDigits number
  have run := @digitRun_digits _ [] digits nofun
  rw [List.append_nil] at run
  rw [wholePart?, run]
  split
  next nothing =>
    have none : digitValues (Nat.toDigits 10 number) = [] := congrArg Prod.fst nothing
    exact absurd (List.map_eq_nil_iff.mp none) Nat.toDigits_ne_nil
  next second others _ zero =>
    -- A second digit behind a zero would be a digit of a number other than zero.
    have values : digitValues (Nat.toDigits 10 number) = 0 :: second :: others := congrArg Prod.fst zero
    obtain ⟨first, behind, parts, value, follows⟩ := List.map_eq_cons_iff.mp values
    have range := Text.toNat_of_isDigit (digits first (by rw [parts]; exact List.mem_cons_self))
    have leading : first = '0' := Char.ext_iff.mpr (UInt32.toNat_inj.mp (by
      change first.toNat - 48 = 0 at value
      change first.toNat = 48
      omega))
    by_cases positive : number = 0
    · rw [positive, Nat.toDigits_zero] at parts
      cases parts
      cases follows
    · exact absurd (by rw [parts, leading]; rfl) (Text.head?_toDigits positive)
  next => rfl

theorem toList_toString (number : Int) : (toString number).toList =
    (if number < 0 then ['-'] else []) ++ Nat.toDigits 10 number.natAbs := by
  rw [Int.toString_eq_repr, Int.repr_eq_if]
  by_cases negative : number < 0
  · rw [if_neg (by omega), if_pos negative, String.toList_append, Nat.toList_repr]
    congr 2
    omega
  · rw [if_pos (by omega), if_neg negative, Nat.toList_repr]
    congr 1
    omega

/-- A run of digits is the same one where no digit follows the text. -/
theorem digitRun_append (characters : List Char) {rest : List Char} (ends : EndsDigits rest) :
    digitRun (characters ++ rest) = ((digitRun characters).1, (digitRun characters).2 ++ rest) := by
  induction characters with
  | nil => exact digitRun_digits nofun ends
  | cons character others ih =>
    have first := congrArg Prod.fst ih
    have second := congrArg Prod.snd ih
    by_cases digit : character.isDigit = true
    · simpa [digitRun, digit] using ⟨first, second⟩
    · simp [digitRun, digit]

theorem wholePart?_append {characters left rest : List Char} {whole : List Nat} (ends : EndsDigits rest)
    (read : wholePart? characters = some (whole, left)) :
    wholePart? (characters ++ rest) = some (whole, left ++ rest) := by
  rw [wholePart?] at read ⊢
  rw [digitRun_append characters ends]
  rcases run : digitRun characters with ⟨digits, behind⟩
  rw [run] at read
  cases digits with
  | nil => cases read
  | cons first others =>
    cases first with
    | zero =>
      cases others with
      | nil => cases read; rfl
      | cons second others => cases read
    | succ first => cases read; rfl

theorem fractionPart?_append {characters left rest : List Char} {fraction : Option (List Nat)}
    (ends : EndsValue rest) (read : fractionPart? characters = some (fraction, left)) :
    fractionPart? (characters ++ rest) = some (fraction, left ++ rest) := by
  unfold fractionPart? at read
  split at read
  next others =>
    rw [List.cons_append, fractionPart?, digitRun_append others ends.endsDigits]
    rcases run : digitRun others with ⟨digits, behind⟩
    rw [run] at read
    cases digits with
    | nil => cases read
    | cons => cases read; rfl
  next plain =>
    cases read
    unfold fractionPart?
    split
    next others point =>
      cases characters with
      | nil =>
        have marks := ends '.' (by rw [← List.nil_append rest, point]; rfl)
        simp at marks
      | cons first characters =>
        cases (List.cons.inj point).1
        exact absurd rfl (plain characters)
    next => rfl

theorem exponentDigits?_append {negative : Bool} {characters left rest : List Char}
    {exponent : Option (Bool × List Nat)} (ends : EndsDigits rest)
    (read : exponentDigits? negative characters = some (exponent, left)) :
    exponentDigits? negative (characters ++ rest) = some (exponent, left ++ rest) := by
  rw [exponentDigits?] at read ⊢
  rw [digitRun_append characters ends]
  rcases run : digitRun characters with ⟨digits, behind⟩
  rw [run] at read
  cases digits with
  | nil => cases read
  | cons => cases read; rfl

theorem exponentPart?_append {characters left rest : List Char} {exponent : Option (Bool × List Nat)}
    (ends : EndsValue rest) (read : exponentPart? characters = some (exponent, left)) :
    exponentPart? (characters ++ rest) = some (exponent, left ++ rest) := by
  cases characters with
  | nil =>
    cases read
    rw [List.nil_append]
    unfold exponentPart?
    split
    next mark others =>
      have marks := ends mark rfl
      rw [if_neg]
      rintro (rfl | rfl) <;> simp at marks
    next => rfl
  | cons mark others =>
    unfold exponentPart? at read
    unfold exponentPart?
    dsimp only [List.cons_append] at read ⊢
    split at read
    next exponential =>
      rw [if_pos exponential]
      split at read
      next digits => exact exponentDigits?_append ends.endsDigits read
      next digits => exact exponentDigits?_append ends.endsDigits read
      next minus plus =>
        split
        next digits signed =>
          cases others with
          | nil => cases read
          | cons first others =>
            cases (List.cons.inj signed).1
            exact absurd rfl (minus others)
        next digits signed =>
          cases others with
          | nil => cases read
          | cons first others =>
            cases (List.cons.inj signed).1
            exact absurd rfl (plus others)
        next => exact exponentDigits?_append ends.endsDigits read
    next plain =>
      cases read
      rw [if_neg plain]
      rfl

/-- The parts of a numeral behind its sign. -/
def unsignedNumeral? (negative : Bool) (characters : List Char) : Option (JsonNumeral × List Char) := do
  let (whole, rest) ← wholePart? characters
  let (fraction, rest) ← fractionPart? rest
  let (exponent, rest) ← exponentPart? rest
  return (⟨negative, whole, fraction, exponent⟩, rest)

theorem unsignedNumeral?_append {negative : Bool} {characters left rest : List Char}
    {numeral : JsonNumeral} (ends : EndsValue rest)
    (read : unsignedNumeral? negative characters = some (numeral, left)) :
    unsignedNumeral? negative (characters ++ rest) = some (numeral, left ++ rest) := by
  obtain ⟨⟨whole, behindWhole⟩, wholeRead, read⟩ := Option.bind_eq_some_iff.mp read
  obtain ⟨⟨fraction, behindFraction⟩, fractionRead, read⟩ := Option.bind_eq_some_iff.mp read
  obtain ⟨⟨exponent, behindExponent⟩, exponentRead, read⟩ := Option.bind_eq_some_iff.mp read
  cases read
  simp only [unsignedNumeral?, wholePart?_append ends.endsDigits wholeRead,
    fractionPart?_append ends fractionRead, exponentPart?_append ends exponentRead, Option.bind_eq_bind,
    Option.bind_some]
  rfl

theorem numeral?_unsigned {first : Char} (unsigned : first ≠ '-') (rest : List Char) :
    numeral? (first :: rest) = unsignedNumeral? false (first :: rest) := by
  unfold numeral?
  split
  next split =>
  split at split
  next signed => exact absurd (List.cons.inj signed).1 unsigned
  next =>
    cases split
    rfl

/-- A numeral begins with a sign or a digit. -/
theorem numeral?_begins {characters left : List Char} {numeral : JsonNumeral}
    (read : numeral? characters = some (numeral, left)) :
    ∃ first rest, characters = first :: rest ∧ (first = '-' ∨ first.isDigit = true) := by
  cases characters with
  | nil => cases read
  | cons first rest =>
    refine ⟨first, rest, rfl, ?_⟩
    by_cases sign : first = '-'
    · exact .inl sign
    · rw [numeral?_unsigned sign] at read
      obtain ⟨⟨whole, behind⟩, wholeRead, -⟩ := Option.bind_eq_some_iff.mp read
      refine .inr ?_
      by_contra other
      rw [wholePart?, digitRun, List.takeWhile_cons_of_neg other] at wholeRead
      cases wholeRead

/-- A numeral is read where a value may end behind it. -/
theorem numeral?_append {characters left rest : List Char} {numeral : JsonNumeral}
    (ends : EndsValue rest) (read : numeral? characters = some (numeral, left)) :
    numeral? (characters ++ rest) = some (numeral, left ++ rest) := by
  obtain ⟨first, others, rfl, -⟩ := numeral?_begins read
  by_cases sign : first = '-'
  · subst sign
    exact unsignedNumeral?_append ends read
  · rw [numeral?_unsigned sign] at read
    exact (numeral?_unsigned sign _).trans (unsignedNumeral?_append ends read)

/-- An integer is read as its numeral. -/
theorem numeral?_integer (number : Int) :
    numeral? (toString number).toList = some (.ofInt number, []) := by
  have whole := wholePart?_toDigits number.natAbs
  have read (negative : Bool) : unsignedNumeral? negative (Nat.toDigits 10 number.natAbs) =
      some (⟨negative, digitValues (Nat.toDigits 10 number.natAbs), none, none⟩, []) := by
    simp only [unsignedNumeral?, whole, Option.bind_eq_bind, Option.bind_some]
    rfl
  rw [toList_toString]
  by_cases negative : number < 0
  · rw [if_pos negative, JsonNumeral.ofInt, decide_eq_true negative]
    exact read true
  · obtain ⟨first, others, parts, digit⟩ := Text.toDigits_eq_cons number.natAbs
    rw [if_neg negative, JsonNumeral.ofInt, decide_eq_false negative, List.nil_append, ← read false, parts]
    exact numeral?_unsigned (by rintro rfl; cases digit) others

end JsonSource

namespace JsonNumeral

/-- A run of digits whose number fits a machine word is taken in as a whole. -/
theorem absorb_digitValues (digits : List Char) {significand : Nat}
    (fits : Nat.ofDigitChars 10 digits significand < significandBound) :
    absorb significand (digitValues digits) = (Nat.ofDigitChars 10 digits significand, []) := by
  induction digits generalizing significand with
  | nil => rfl
  | cons digit digits ih =>
    rw [Nat.ofDigitChars_cons] at fits ⊢
    have next : 10 * significand + (digit.toNat - '0'.toNat) < significandBound :=
      Nat.lt_of_le_of_lt (Text.le_ofDigitChars digits _) fits
    exact (if_pos next).trans (ih fits)

/-- The numeral of an integer of a machine word, signed or not, has that integer as its value. -/
theorem value?_ofInt {number : Int} (low : -9223372036854775808 ≤ number)
    (high : number < 18446744073709551616) : (ofInt number).value? = some (.integer number) := by
  have total : Nat.ofDigitChars 10 (Nat.toDigits 10 number.natAbs) 0 = number.natAbs :=
    Nat.ofDigitChars_ten_toDigits
  have folded : (ofInt number).whole.foldl (fun total digit => 10 * total + digit) 0 = number.natAbs := by
    rw [ofInt, digitValues, List.foldl_map]
    exact total
  have whole : (ofInt number).significand = (number.natAbs, 0) := by
    have fits : number.natAbs < significandBound := by
      unfold significandBound
      omega
    have taken := absorb_digitValues (Nat.toDigits 10 number.natAbs) (by rw [total]; exact fits)
    simp only [significand, ofInt, taken, total]
    rfl
  have plain : (ofInt number).fraction.isNone = true ∧ (ofInt number).exponent = none := ⟨rfl, rfl⟩
  simp only [value?, whole, folded, plain.1, plain.2]
  by_cases negative : number < 0
  · have sign : (ofInt number).negative = true := decide_eq_true negative
    rw [if_neg (by simp [sign]), if_pos (by simp), if_pos (by omega)]
    congr 2
    omega
  · have sign : (ofInt number).negative = false := decide_eq_false negative
    rw [if_pos (by simp [sign])]
    congr 2
    omega

end JsonNumeral

end QueryTree
