/-
This file reads decimal numbers back from the bytes that write them, with the same mantissa and the same
places.
-/
import Mathlib.Data.List.TakeWhile
import QueryTree.Proofs.Postgres.ScalarBytes

namespace QueryTree.Postgres.Numeric

/-- The number that groups write behind the groups of a total. -/
def joined (total : Nat) (groups : List Nat) : Nat :=
  groups.foldl (fun total group => total * 10000 + group) total

@[simp] theorem joined_nil (total : Nat) : joined total [] = total := rfl

@[simp] theorem joined_cons (total group : Nat) (rest : List Nat) :
    joined total (group :: rest) = joined (total * 10000 + group) rest := rfl

@[simp] theorem joined_append (total : Nat) (first second : List Nat) :
    joined total (first ++ second) = joined (joined total first) second := List.foldl_append

theorem joined_zeros (total count : Nat) :
    joined total (List.replicate count 0) = total * 10000 ^ count := by
  induction count generalizing total with
  | zero => simp
  | succ count ih =>
    rw [List.replicate_succ, joined_cons, ih, pow_succ]
    ring

/-- Groups behind a total move it to the left. -/
theorem le_joined (total : Nat) (groups : List Nat) :
    total * 10000 ^ groups.length ≤ joined total groups := by
  induction groups generalizing total with
  | nil => simp
  | cons group rest ih =>
    calc
      total * 10000 ^ (rest.length + 1)
      _ = total * 10000 * 10000 ^ rest.length := by rw [pow_succ]; ring
      _ ≤ (total * 10000 + group) * 10000 ^ rest.length :=
        Nat.mul_le_mul_right _ (Nat.le_add_right ..)
      _ ≤ joined (total * 10000 + group) rest := ih _

theorem total_le_joined (total : Nat) (groups : List Nat) : total ≤ joined total groups :=
  (Nat.le_mul_of_pos_right total (Nat.pow_pos (by decide))).trans (le_joined total groups)

/-- The groups of a number write it, and there are no more of them than asked for. -/
theorem joined_groupsOf {fuel number : Nat} (fits : number < 10000 ^ fuel) :
    joined 0 (groupsOf fuel number) = number := by
  induction fuel generalizing number with
  | zero =>
    rw [pow_zero] at fits
    rw [groupsOf, joined_nil]
    omega
  | succ fuel ih =>
    rw [groupsOf]
    split
    next zero => exact zero.symm
    next =>
      have shorter : number / 10000 < 10000 ^ fuel := by
        rw [Nat.div_lt_iff_lt_mul (by decide), ← pow_succ]
        exact fits
      rw [joined_append, ih shorter, joined_cons, joined_nil]
      omega

theorem groupsOf_length (fuel number : Nat) : (groupsOf fuel number).length ≤ fuel := by
  induction fuel generalizing number with
  | zero => exact Nat.zero_le 0
  | succ fuel ih =>
    rw [groupsOf]
    split
    · exact Nat.zero_le _
    · rw [List.length_append]
      exact Nat.succ_le_succ (ih _)

theorem groupsOf_lt (fuel number : Nat) : ∀ group ∈ groupsOf fuel number, group < 10000 := by
  induction fuel generalizing number with
  | zero => exact nofun
  | succ fuel ih =>
    rw [groupsOf]
    split
    · exact nofun
    · refine List.forall_mem_append.mpr ⟨ih _, List.forall_mem_singleton.mpr ?_⟩
      exact Nat.mod_lt _ (by decide)

/-- What is dropped from groups is zeros behind those that are kept. -/
theorem dropZeros_append (kept : Nat) (groups : List Nat) :
    ∃ fraction zeros, dropZeros kept groups = groups.take kept ++ fraction ∧
      groups.drop kept = fraction ++ List.replicate zeros 0 := by
  let behind := (groups.drop kept).reverse
  have zeros : behind.takeWhile (· = 0) =
      List.replicate (behind.takeWhile (· = 0)).length 0 := by
    refine List.eq_replicate_iff.mpr ⟨rfl, fun group member => ?_⟩
    simpa using List.mem_takeWhile_imp member
  refine ⟨(behind.dropWhile (· = 0)).reverse, (behind.takeWhile (· = 0)).length, rfl, ?_⟩
  calc
    groups.drop kept
    _ = (behind.takeWhile (· = 0) ++ behind.dropWhile (· = 0)).reverse := by
      rw [List.takeWhile_append_dropWhile, List.reverse_reverse]
    _ = (behind.dropWhile (· = 0)).reverse ++ (behind.takeWhile (· = 0)).reverse :=
      List.reverse_append
    _ = _ := by
      conv_lhs => rw [zeros, List.reverse_replicate]

theorem dropZeros_prefix (kept : Nat) (groups : List Nat) : dropZeros kept groups <+: groups := by
  obtain ⟨fraction, zeros, dropped, behind⟩ := dropZeros_append kept groups
  refine ⟨List.replicate zeros 0, ?_⟩
  rw [dropped, List.append_assoc, ← behind, List.take_append_drop]

section Bytes

/-- The parts of a number fit into the bytes for them. -/
structure Fits (number : Numeric) : Prop where
  length : number.groups.length < 65536
  groups : ∀ group ∈ number.groups, group < 65536
  low : -32768 ≤ number.weight
  high : number.weight ≤ 32767
  scale : number.scale < 65536

theorem readGroups?_flatMap {groups : List Nat} (fits : ∀ group ∈ groups, group < 65536) :
    readGroups? groups.length (groups.flatMap (Bytes.bigEndian 2)) = some groups := by
  induction groups with
  | nil => rfl
  | cons group rest ih =>
    rw [List.forall_mem_cons] at fits
    have written : Bytes.bigEndian 2 group =
        [UInt8.ofNat (group / Nat.pow 256 1), UInt8.ofNat (group / Nat.pow 256 0)] := rfl
    have read : Bytes.toNat (Bytes.bigEndian 2 group) = group := Bytes.toNat_bigEndian_of_lt fits.1
    rw [List.flatMap_cons, written, List.length_cons]
    change (do
      let groups ← readGroups? rest.length (rest.flatMap (Bytes.bigEndian 2))
      return Bytes.toNat (Bytes.bigEndian 2 group) :: groups) = _
    rw [ih fits.2, read]
    rfl

/-- The parts of a number are read back from its bytes. -/
theorem ofBytes?_bytes {number : Numeric} (fits : number.Fits) :
    ofBytes? number.bytes = some number := by
  obtain ⟨groups, weight, negative, scale⟩ := number
  obtain ⟨length, groupsFit, low, high, scaleFits⟩ := fits
  dsimp only at length groupsFit low high scaleFits
  let mark := if negative then 0x4000 else 0
  have marked : mark < 65536 ∧ mark / 0x4000 ≠ 3 ∧ decide (mark = 0x4000) = negative := by
    cases negative <;> decide
  have counted : Bytes.toNat (Bytes.bigEndian 2 groups.length) = groups.length :=
    Bytes.toNat_bigEndian_of_lt length
  have weighed : Bytes.toInt (Bytes.ofInt 2 weight) = weight := Bytes.toInt_ofInt low (by omega)
  have signed : Bytes.toNat (Bytes.bigEndian 2 mark) = mark := Bytes.toNat_bigEndian_of_lt marked.1
  have scaled : Bytes.toNat (Bytes.bigEndian 2 scale) = scale := Bytes.toNat_bigEndian_of_lt scaleFits
  have read := readGroups?_flatMap groupsFit
  change (if Bytes.toNat (Bytes.bigEndian 2 mark) / 0x4000 = 3 then none
    else do
      let read ← readGroups? (Bytes.toNat (Bytes.bigEndian 2 groups.length))
        (groups.flatMap (Bytes.bigEndian 2))
      return (⟨read, Bytes.toInt (Bytes.ofInt 2 weight), Bytes.toNat (Bytes.bigEndian 2 mark) = 0x4000,
        Bytes.toNat (Bytes.bigEndian 2 scale)⟩ : Numeric)) = _
  rw [signed, if_neg marked.2.1, counted, read, weighed, scaled, marked.2.2]
  rfl

end Bytes

section Reading

/-- Groups before the point are added up as far as the sum stays in range. -/
theorem wholePart?_joined {total : Nat} {groups : List Nat}
    (fits : joined total groups < Decimal.mantissaBound) :
    wholePart? total groups = some (joined total groups) := by
  induction groups generalizing total with
  | nil => rfl
  | cons group rest ih =>
    have next : total * 10000 + group < Decimal.mantissaBound :=
      (total_le_joined _ rest).trans_lt fits
    rw [wholePart?, if_pos next, ih fits, joined_cons]

theorem divideToEven_mul (quotient : Nat) {divisor : Nat} (positive : 0 < divisor) :
    BinaryFormat.divideToEven (quotient * divisor) divisor = quotient := by
  rw [BinaryFormat.divideToEven, Nat.mul_mod_left, Nat.mul_div_cancel _ positive]
  exact if_pos (.inl positive)

/-- A mantissa that is in range without its last places is done with them. -/
theorem fitted?_rounded {spare mantissa scale : Nat}
    (fits : BinaryFormat.divideToEven mantissa (10 ^ (scale - spare)) < Decimal.mantissaBound) :
    fitted? spare mantissa scale =
      some (BinaryFormat.divideToEven mantissa (10 ^ (scale - spare)), spare) := by
  rw [fitted?.eq_def]
  exact if_pos fits

/-- A mantissa that is out of range gives up another place. -/
theorem fitted?_further {spare mantissa scale : Nat}
    (large : ¬ BinaryFormat.divideToEven mantissa (10 ^ (scale - (spare + 1))) <
      Decimal.mantissaBound) :
    fitted? (spare + 1) mantissa scale = fitted? spare mantissa scale := by
  rw [fitted?.eq_def]
  exact if_neg large

/-- A mantissa with zeros behind digits that fit gives up nothing but some of the zeros. -/
theorem fitted?_zeros {digits zeros scale : Nat} (fits : digits < Decimal.mantissaBound)
    (within : zeros ≤ scale) {left : Nat} (fewer : left ≤ zeros) :
    ∃ kept ≤ left, fitted? (scale - (zeros - left)) (digits * 10 ^ zeros) scale =
      some (digits * 10 ^ kept, scale - (zeros - kept)) := by
  have rounded (left : Nat) (fewer : left ≤ zeros) :
      BinaryFormat.divideToEven (digits * 10 ^ zeros) (10 ^ (scale - (scale - (zeros - left)))) =
        digits * 10 ^ left := by
    have given : scale - (scale - (zeros - left)) = zeros - left := by omega
    have parted : digits * 10 ^ zeros = digits * 10 ^ left * 10 ^ (zeros - left) := by
      rw [Nat.mul_assoc, ← pow_add, Nat.add_sub_cancel' fewer]
    rw [given, parted, divideToEven_mul _ (Nat.pow_pos (by decide))]
  induction left with
  | zero =>
    have inRange := rounded 0 fewer
    rw [pow_zero, Nat.mul_one] at inRange
    refine ⟨0, Nat.le_refl 0, ?_⟩
    rw [fitted?_rounded (inRange.trans_lt fits), inRange, pow_zero, Nat.mul_one]
  | succ left ih =>
    have same := rounded (left + 1) fewer
    by_cases inRange : digits * 10 ^ (left + 1) < Decimal.mantissaBound
    · refine ⟨left + 1, Nat.le_refl _, ?_⟩
      rw [fitted?_rounded (same.trans_lt inRange), same]
    · obtain ⟨kept, bounded, done⟩ := ih (Nat.le_of_succ_le fewer)
      have spare : scale - (zeros - (left + 1)) = scale - (zeros - left) + 1 := by omega
      rw [spare] at same ⊢
      refine ⟨kept, Nat.le_succ_of_le bounded, ?_⟩
      rw [fitted?_further (same ▸ inRange), done]

/-- A group behind the last place is added without a change of what is there. -/
theorem addPlaces?_group {mantissa scale places : Nat}
    (behind : mantissa = 0 ∧ scale ≤ places ∨ scale + 4 = places) (group : Nat) :
    addPlaces? mantissa scale group places = fitted? places (mantissa * 10000 + group) places := by
  have common : max scale places = places := by omega
  have moved : mantissa * Nat.pow 10 (places - scale) = mantissa * 10000 := by
    rcases behind with ⟨rfl, -⟩ | rfl
    · rw [Nat.zero_mul, Nat.zero_mul]
    · rw [Nat.add_sub_cancel_left]
  rw [addPlaces?, common, moved, Nat.sub_self]
  simp

/-- With another group behind it, what has been added up has fewer digits than the whole. -/
theorem total_le_of_joined {total next digits zeros : Nat} {rest : List Nat}
    (value : joined total (next :: rest) = digits * 10 ^ zeros) (few : zeros ≤ 3) : total ≤ digits := by
  have moved : total * 10000 ≤ digits * 1000 :=
    calc
      total * 10000
      _ ≤ total * 10000 + next := Nat.le_add_right ..
      _ ≤ joined total (next :: rest) := total_le_joined _ rest
      _ = digits * 10 ^ zeros := value
      _ ≤ digits * 1000 := Nat.mul_le_mul_left digits (Nat.pow_le_pow_right (by decide) few)
  omega

/-- Groups behind the point are added up. Of zeros at the end some may be given up. -/
theorem addFraction?_joined {mantissa scale places : Nat} {groups : List Nat} {digits zeros : Nat}
    (behind : mantissa = 0 ∧ scale ≤ places ∨ scale + 4 = places) (first : 4 ≤ places)
    (last : places + 4 * groups.length ≤ 32) (value : joined mantissa groups = digits * 10 ^ zeros)
    (positive : 0 < digits) (fits : digits < Decimal.mantissaBound) (few : zeros ≤ 3) :
    ∃ kept ≤ zeros, addFraction? mantissa scale places groups =
      some (digits * 10 ^ kept, places + 4 * groups.length - 4 - (zeros - kept)) := by
  induction groups generalizing mantissa scale places with
  | nil =>
    rw [joined_nil] at value
    refine ⟨zeros, Nat.le_refl zeros, ?_⟩
    rcases behind with ⟨rfl, -⟩ | rfl
    · have some : 0 < digits * 10 ^ zeros := Nat.mul_pos positive (Nat.pow_pos (by decide))
      omega
    · rw [addFraction?, value]
      simp
  | cons group rest ih =>
    rw [List.length_cons] at last ⊢
    rw [addFraction?, if_pos (by omega), addPlaces?_group behind]
    rw [joined_cons] at value
    cases rest with
    | nil =>
      obtain ⟨kept, bounded, done⟩ :=
        fitted?_zeros fits (show zeros ≤ places by omega) (Nat.le_refl zeros)
      rw [Nat.sub_self, Nat.sub_zero] at done
      rw [joined_nil] at value
      refine ⟨kept, bounded, ?_⟩
      rw [value, done]
      simp [addFraction?]
    | cons next rest =>
      have inRange := (total_le_of_joined value few).trans_lt fits
      obtain ⟨kept, bounded, done⟩ := fitted?_zeros inRange (Nat.zero_le places) (Nat.le_refl 0)
      obtain rfl := Nat.le_zero.mp bounded
      rw [pow_zero, Nat.mul_one, Nat.sub_self, Nat.sub_zero] at done
      have behindNext : mantissa * 10000 + group = 0 ∧ places ≤ places + 4 ∨ places + 4 = places + 4 :=
        .inr rfl
      obtain ⟨kept, bounded, added⟩ := ih behindNext (by omega) (by omega) value
      have places : places + 4 * ((next :: rest).length + 1) - 4 =
          places + 4 + 4 * (next :: rest).length - 4 := by omega
      refine ⟨kept, bounded, ?_⟩
      rw [done, places]
      exact added

theorem dropDigits_zeros (digits zeros : Nat) :
    Decimal.dropDigits zeros (digits * 10 ^ zeros) = digits := by
  cases zeros with
  | zero => simp [Decimal.dropDigits]
  | succ zeros =>
    have dropped : digits * 10 ^ (zeros + 1) / Nat.pow 10 zeros = digits * 10 := by
      rw [pow_succ, Nat.mul_comm (10 ^ zeros), ← Nat.mul_assoc, Nat.pow_eq,
        Nat.mul_div_cancel _ (Nat.pow_pos (by decide))]
    rw [Decimal.dropDigits, dropped, Nat.mul_div_cancel _ (by decide), Nat.mul_mod_left]
    rfl

theorem padPlaces_zeros {mantissa missing : Nat} (scale : Nat)
    (fits : mantissa * 10 ^ missing < Decimal.mantissaBound) :
    padPlaces missing mantissa scale = (mantissa * 10 ^ missing, scale + missing) := by
  induction missing generalizing mantissa scale with
  | zero => simp [padPlaces]
  | succ missing ih =>
    have moved : mantissa * 10 ^ (missing + 1) = mantissa * 10 * 10 ^ missing := by
      rw [pow_succ]
      ring
    rw [moved] at fits
    have next : mantissa * 10 < Decimal.mantissaBound :=
      (Nat.le_mul_of_pos_right _ (Nat.pow_pos (by decide))).trans_lt fits
    rw [padPlaces, if_pos next, ih (scale + 1) fits, moved, Nat.add_assoc, Nat.add_comm 1]

/-- Zeros at the end are taken away until the places are those that are wanted. -/
theorem rescale_zeros (digits zeros scale : Nat) :
    rescale (digits * 10 ^ zeros) (scale + zeros) scale = (digits, scale) := by
  cases zeros with
  | zero => simp [rescale, padPlaces]
  | succ zeros =>
    rw [rescale, if_neg (by omega), Nat.add_sub_cancel_left, dropDigits_zeros]

/-- Zeros are added until the places are those that are wanted. -/
theorem rescale_missing {mantissa missing : Nat} (scale : Nat)
    (fits : mantissa * 10 ^ missing < Decimal.mantissaBound) :
    rescale mantissa scale (scale + missing) = (mantissa * 10 ^ missing, scale + missing) := by
  rw [rescale, if_pos (Nat.le_add_right ..), Nat.add_sub_cancel_left, padPlaces_zeros scale fits]

end Reading

/-- The count of groups behind the point. -/
def fractionGroups (number : Decimal) : Nat := (number.scale + 3) / 4

/-- The count of zeros that fill the last group. -/
def fillers (number : Decimal) : Nat := 4 * fractionGroups number - number.scale

theorem fillers_le (number : Decimal) : fillers number ≤ 3 := by
  rw [fillers, fractionGroups]
  omega

/-- How the groups of a number are parted by the point: groups before it, and behind it zero groups that
are left out, groups, and again zero groups that are left out. -/
structure Parts (number : Decimal) (written : Numeric) (whole fraction : List Nat)
    (lead zeros : Nat) : Prop where
  groups : written.groups = whole ++ fraction
  weight : (written.weight + 1).toNat = whole.length
  first : (4 * max 1 (-written.weight)).toNat = 4 * (lead + 1)
  places : lead + fraction.length + zeros = fractionGroups number
  leading : lead = 0 ∨ whole = []
  value : joined 0 (whole ++ fraction) * 10000 ^ zeros = number.mantissa * 10 ^ fillers number

/-- The mantissa of a number, filled up to whole groups, takes no more than twenty groups. -/
theorem joined_aligned (number : Decimal) :
    joined 0 (groupsOf 20 (number.mantissa * 10 ^ fillers number)) =
      number.mantissa * 10 ^ fillers number := by
  refine joined_groupsOf ?_
  calc
    number.mantissa * 10 ^ fillers number
    _ ≤ number.mantissa * 10 ^ 3 :=
      Nat.mul_le_mul_left _ (Nat.pow_le_pow_right (by decide) (fillers_le number))
    _ < Decimal.mantissaBound * 10 ^ 3 := (Nat.mul_lt_mul_right (by decide)).mpr number.mantissaLt
    _ < 10000 ^ 20 := by decide

theorem ofDecimal_parts {number : Decimal} (nonzero : number.mantissa ≠ 0) :
    ∃ whole fraction lead zeros, Parts number (ofDecimal number) whole fraction lead zeros := by
  have value := joined_aligned number
  have written : ofDecimal number =
      let groups := groupsOf 20 (number.mantissa * 10 ^ fillers number)
      let weight : Int := groups.length - fractionGroups number - 1
      ⟨if weight ≥ 0 then dropZeros (weight.toNat + 1) groups else groups, weight, number.negative,
        number.scale⟩ := if_neg nonzero
  rw [written]
  generalize groupsOf 20 (number.mantissa * 10 ^ fillers number) = groups at value
  by_cases ahead : (groups.length : Int) - fractionGroups number - 1 ≥ 0
  · have kept : ((groups.length : Int) - fractionGroups number - 1).toNat + 1 =
        groups.length - fractionGroups number := by omega
    obtain ⟨fraction, zeros, dropped, behind⟩ :=
      dropZeros_append (groups.length - fractionGroups number) groups
    have length := congrArg List.length behind
    rw [List.length_drop, List.length_append, List.length_replicate] at length
    refine ⟨groups.take (groups.length - fractionGroups number), fraction, 0, zeros, ?_⟩
    exact {
      groups := by
        dsimp only
        rw [if_pos ahead, kept, dropped]
      weight := by
        rw [List.length_take]
        dsimp only
        omega
      first := by
        dsimp only
        omega
      places := by omega
      leading := .inl rfl
      value := by
        rw [← joined_zeros, ← joined_append, List.append_assoc, ← behind, List.take_append_drop, value] }
  · refine ⟨[], groups, fractionGroups number - groups.length, 0, ?_⟩
    exact {
      groups := if_neg ahead
      weight := by
        dsimp only
        rw [List.length_nil]
        omega
      first := by
        dsimp only
        omega
      places := by omega
      leading := .inr rfl
      value := by rw [List.nil_append, value, pow_zero, Nat.mul_one] }

namespace Parts

variable {number : Decimal} {written : Numeric} {whole fraction : List Nat} {lead zeros : Nat}

/-- What is before the point stays in range. -/
theorem whole_lt (parts : Parts number written whole fraction lead zeros) :
    joined 0 whole < Decimal.mantissaBound := by
  refine Nat.lt_of_le_of_lt ?_ number.mantissaLt
  rcases parts.leading with rfl | rfl
  · have places := parts.places
    have moved : joined 0 whole * 10000 ^ fractionGroups number ≤
        number.mantissa * 10000 ^ fractionGroups number :=
      calc
        joined 0 whole * 10000 ^ fractionGroups number
        _ = joined 0 whole * 10000 ^ fraction.length * 10000 ^ zeros := by
          rw [Nat.mul_assoc, ← pow_add, ← places, Nat.zero_add]
        _ ≤ joined (joined 0 whole) fraction * 10000 ^ zeros :=
          Nat.mul_le_mul_right _ (le_joined _ fraction)
        _ = number.mantissa * 10 ^ fillers number := by rw [← joined_append, parts.value]
        _ ≤ number.mantissa * 10000 ^ fractionGroups number := by
          rw [show 10000 = 10 ^ 4 from rfl, ← pow_mul]
          exact Nat.mul_le_mul_left _ (Nat.pow_le_pow_right (by decide) (Nat.sub_le ..))
    exact Nat.le_of_mul_le_mul_right moved (Nat.pow_pos (by decide))
  · exact Nat.zero_le _

/-- What is behind the point is read so that, with the places of the number, it is the number. -/
theorem read_fraction (parts : Parts number written whole fraction lead zeros)
    (nonzero : number.mantissa ≠ 0) :
    ∃ mantissa scale, addFraction? (joined 0 whole) 0 (4 * (lead + 1)) fraction =
        some (mantissa, scale) ∧
      rescale mantissa scale number.scale = (number.mantissa, number.scale) := by
  have scaleLe := number.scaleLe
  have fits := number.mantissaLt
  have places := parts.places
  have filled : number.scale + fillers number = 4 * fractionGroups number := by
    rw [fillers, fractionGroups]
    omega
  have few := fillers_le number
  have behind : joined 0 whole = 0 ∧ 0 ≤ 4 * (lead + 1) ∨ 0 + 4 = 4 * (lead + 1) := by
    rcases parts.leading with rfl | rfl
    · exact .inr rfl
    · exact .inl ⟨rfl, Nat.zero_le _⟩
  have value := parts.value
  rw [joined_append] at value
  cases zeros with
  | zero =>
    rw [pow_zero, Nat.mul_one] at value
    obtain ⟨kept, bounded, added⟩ := addFraction?_joined behind (by omega) (by omega) value
      (Nat.pos_of_ne_zero nonzero) fits few
    have reached : 4 * (lead + 1) + 4 * fraction.length - 4 - (fillers number - kept) =
        number.scale + kept := by omega
    rw [reached] at added
    exact ⟨_, _, added, rescale_zeros ..⟩
  | succ zeros =>
    obtain ⟨missing, counted⟩ : ∃ missing, 4 * (zeros + 1) = missing + fillers number :=
      ⟨4 * (zeros + 1) - fillers number, by omega⟩
    have digits : joined (joined 0 whole) fraction * 10 ^ missing = number.mantissa := by
      rw [show 10000 = 10 ^ 4 from rfl, ← pow_mul, counted, pow_add, ← Nat.mul_assoc] at value
      exact Nat.eq_of_mul_eq_mul_right (Nat.pow_pos (by decide)) value
    have positive : 0 < joined (joined 0 whole) fraction := by
      refine Nat.pos_of_ne_zero fun none => nonzero ?_
      rw [← digits, none, Nat.zero_mul]
    have smaller : joined (joined 0 whole) fraction < Decimal.mantissaBound := by
      refine lt_of_le_of_lt ?_ fits
      rw [← digits]
      exact Nat.le_mul_of_pos_right _ (Nat.pow_pos (by decide))
    have unfilled : joined (joined 0 whole) fraction = joined (joined 0 whole) fraction * 10 ^ 0 :=
      (Nat.mul_one _).symm
    obtain ⟨kept, bounded, added⟩ := addFraction?_joined behind (by omega) (by omega) unfilled
      positive smaller (Nat.zero_le 3)
    obtain rfl := Nat.le_zero.mp bounded
    have reached : number.scale = 4 * (lead + 1) + 4 * fraction.length - 4 - (0 - 0) + missing := by
      omega
    rw [pow_zero, Nat.mul_one] at added
    refine ⟨_, _, added, ?_⟩
    rw [reached, rescale_missing _ (digits ▸ fits), digits]

end Parts

/-- A number other than zero is read back from its groups as it is. -/
theorem toDecimal?_ofDecimal {number : Decimal} (nonzero : number.mantissa ≠ 0) :
    (ofDecimal number).toDecimal? = some number := by
  obtain ⟨whole, fraction, lead, zeros, parts⟩ := ofDecimal_parts nonzero
  obtain ⟨mantissa, scale, added, scaled⟩ := parts.read_fraction nonzero
  have signed : (ofDecimal number).negative = number.negative := by rw [ofDecimal, if_neg nonzero]
  have placed : (ofDecimal number).scale = number.scale := by rw [ofDecimal, if_neg nonzero]
  have shifted : shiftGroups? (joined 0 whole) 0 = some (joined 0 whole) := by
    simpa [shiftGroups?] using parts.whole_lt
  have nothing : whole.length - (whole ++ fraction).length = 0 := by
    rw [List.length_append]
    omega
  rw [toDecimal?]
  simp only [parts.groups, parts.weight, parts.first, List.take_left, List.drop_left, nothing,
    wholePart?_joined parts.whole_lt, shifted, added, signed, placed, Option.bind_eq_bind,
    Option.bind_some, min_eq_left number.scaleLe, scaled]
  exact dif_pos ⟨number.mantissaLt, number.scaleLe⟩

/-- Zero is read back without its places and its sign. -/
theorem toDecimal?_zero {number : Decimal} (zero : number.mantissa = 0) :
    (ofDecimal number).toDecimal? = some (.ofInt64 0) := by
  rw [ofDecimal, if_pos zero]
  rfl

/-- The parts of a decimal number fit into the bytes for them. -/
theorem ofDecimal_fits (number : Decimal) : (ofDecimal number).Fits := by
  have scaleLe := number.scaleLe
  have fraction : fractionGroups number ≤ 7 := by
    rw [fractionGroups]
    omega
  by_cases zero : number.mantissa = 0
  · rw [ofDecimal, if_pos zero]
    exact ⟨by decide, nofun, by decide, by decide, by decide⟩
  · let groups := groupsOf 20 (number.mantissa * 10 ^ fillers number)
    have length : groups.length ≤ 20 := groupsOf_length 20 _
    have written : (ofDecimal number).groups <+: groups := by
      rw [ofDecimal, if_neg zero]
      dsimp only
      split
      · exact dropZeros_prefix _ _
      · exact List.prefix_rfl
    have weight : (ofDecimal number).weight = groups.length - fractionGroups number - 1 := by
      rw [ofDecimal, if_neg zero]
      rfl
    have scale : (ofDecimal number).scale = number.scale := by
      rw [ofDecimal, if_neg zero]
    refine ⟨?_, fun group member => ?_, by omega, by omega, by omega⟩
    · have shorter := written.length_le
      omega
    · have small := groupsOf_lt 20 _ group (written.subset member)
      omega

/-- A decimal number is read back from its bytes as a number of the same value. -/
theorem read_decimal (number : Decimal) :
    ∃ back : Decimal, (ofBytes? (ofDecimal number).bytes).bind toDecimal? = some back ∧
      back.same number = true := by
  rw [ofBytes?_bytes (ofDecimal_fits number), Option.bind_some]
  by_cases zero : number.mantissa = 0
  · have none : (Decimal.ofInt64 0).mantissa = 0 := by decide
    refine ⟨_, toDecimal?_zero zero, ?_⟩
    simp [Decimal.same, Decimal.signedMantissa, zero, none]
  · exact ⟨number, toDecimal?_ofDecimal zero, beq_self_eq_true _⟩

end QueryTree.Postgres.Numeric
