/-
This file reads integers, text, identifiers, dates and moments back from the bytes that write them.
-/
import Mathlib.Data.Int.DivMod
import Mathlib.Tactic.Ring
import QueryTree.Postgres.ColumnValue
import QueryTree.Postgres.Parameter

namespace QueryTree

namespace Bytes

/-- The first byte counts for the most. -/
theorem toNat_cons (byte : UInt8) (rest : Bytes) :
    toNat (byte :: rest) = byte.toNat * 256 ^ rest.length + toNat rest := by
  have started (total : Nat) :
      rest.foldl (fun total byte => total * 256 + byte.toNat) total =
        total * 256 ^ rest.length + toNat rest := by
    unfold toNat
    induction rest generalizing total with
    | nil => simp
    | cons next rest ih =>
      rw [List.foldl_cons, List.foldl_cons, ih, ih (0 * 256 + next.toNat), List.length_cons, pow_succ]
      ring
  rw [toNat, List.foldl_cons, started, Nat.zero_mul, Nat.zero_add]

/-- The bytes of a number write it, up to what is cut off. -/
theorem toNat_bigEndian (width number : Nat) :
    toNat (bigEndian width number) = number % 256 ^ width := by
  induction width with
  | zero => simp [bigEndian, toNat, Nat.mod_one]
  | succ width ih =>
    rw [bigEndian, toNat_cons, ih, bigEndian_length, pow_succ, Nat.mod_mul]
    have digit : (UInt8.ofNat (number / Nat.pow 256 width)).toNat = number / 256 ^ width % 256 :=
      UInt8.toNat_ofNat'
    rw [digit]
    ring

theorem toNat_bigEndian_of_lt {width number : Nat} (fits : number < 256 ^ width) :
    toNat (bigEndian width number) = number := by
  rw [toNat_bigEndian, Nat.mod_eq_of_lt fits]

/-- An integer in the range of so many bytes is read back from them. -/
theorem toInt_ofInt {width : Nat} {number : Int} (low : -((256 ^ width : Nat) / 2) ≤ number)
    (high : number < ((256 ^ width : Nat) + 1) / 2) : toInt (ofInt width number) = number := by
  have positive : 0 < 256 ^ width := Nat.pow_pos (by decide)
  have cut : ((number % (256 ^ width : Nat)).toNat : Int) = number % (256 ^ width : Nat) :=
    Int.toNat_of_nonneg (Int.emod_nonneg _ (by omega))
  have fits : (number % (256 ^ width : Nat)).toNat < 256 ^ width := by
    have below := Int.emod_lt_of_pos number (b := (256 ^ width : Nat)) (by omega)
    omega
  have written : toNat (ofInt width number) = (number % (256 ^ width : Nat)).toNat :=
    toNat_bigEndian_of_lt fits
  rw [toInt, written, ofInt_length, Nat.pow_eq, cut, Int.emod_bmod, Int.bmod_eq_of_le low high]

/-- An array of bytes is listed from an index on behind what has been listed before. -/
theorem toList_loop (bytes : ByteArray) (index : Nat) (listed : List UInt8) :
    ByteArray.toList.loop bytes index listed = listed.reverse ++ bytes.data.toList.drop index := by
  fun_induction ByteArray.toList.loop bytes index listed with
  | case1 index listed inside ih =>
    have next : bytes.data.toList.drop index = bytes.get! index :: bytes.data.toList.drop (index + 1) := by
      rw [List.drop_eq_getElem_cons inside]
      congr 1
      exact (getElem!_pos bytes.data index inside).symm
    rw [ih, next]
    simp
  | case2 index listed outside =>
    have done : bytes.data.toList.drop index = [] := List.drop_eq_nil_of_le (Nat.le_of_not_lt outside)
    rw [done, List.append_nil]

/-- A text is read back from its bytes. -/
theorem toText?_ofText (text : String) : toText? (ofText text) = some text := by
  have kept : (⟨(ofText text).toArray⟩ : ByteArray) = text.toUTF8 := by
    rw [ofText, ByteArray.toList, toList_loop]
    rfl
  have valid : text.toUTF8.IsValidUTF8 := text.isValidUTF8
  rw [toText?, kept, String.fromUTF8?, dif_pos valid]
  rfl

end Bytes

/-- An identifier is read back from its bytes. -/
theorem Uuid.ofBytes?_bytes (uuid : Uuid) : ofBytes? uuid.bytes = some uuid := by
  have fits : uuid.bits.toNat < 256 ^ 16 := uuid.bits.isLt
  rw [ofBytes?, bytes, Bytes.toNat_bigEndian_of_lt fits, if_pos (Bytes.bigEndian_length ..),
    BitVec.ofNat_toNat, BitVec.setWidth_eq]

namespace Timestamp

/-- The moment is a whole count of microseconds, and no leap second. -/
structure IsWhole (timestamp : Timestamp) : Prop where
  ordinary : timestamp.time.nanosecond < 1000000000
  whole : timestamp.time.nanosecond % 1000 = 0

theorem microseconds_of_whole {timestamp : Timestamp} (whole : timestamp.IsWhole) :
    timestamp.microseconds =
      (timestamp.date.day * 86400 + timestamp.time.second) * 1000000 +
        timestamp.time.nanosecond / 1000 := by
  have exact := whole.whole
  have counted : timestamp.nanoseconds =
      ((timestamp.date.day * 86400 + timestamp.time.second) * 1000000 +
        timestamp.time.nanosecond / 1000) * 1000 := by
    rw [nanoseconds]
    omega
  rw [microseconds, counted, Int.mul_tdiv_cancel _ (by decide)]

/-- A moment of whole microseconds is read back from their count. -/
theorem ofMicroseconds?_microseconds {timestamp : Timestamp} (whole : timestamp.IsWhole) :
    ofMicroseconds? timestamp.microseconds = some timestamp := by
  obtain ⟨ordinary, exact⟩ := whole
  obtain ⟨⟨day, lowest, highest⟩, ⟨second, nanosecond, secondLt, nanosecondLt, leapAtEnd⟩⟩ := timestamp
  rw [microseconds_of_whole ⟨ordinary, exact⟩]
  dsimp only at ordinary exact ⊢
  generalize counted : (day * 86400 + second) * 1000000 + (nanosecond : Int) / 1000 = count
  have seconds : count / 1000000 = day * 86400 + second := by omega
  have rest : (count % 1000000).toNat * 1000 = nanosecond := by omega
  have dated : (day * 86400 + second) / 86400 = day := by omega
  have timed : ((day * 86400 + second) % 86400).toNat = second := by omega
  rw [ofMicroseconds?, ofSeconds?, seconds, rest, dated, timed, Date.ofDay?, dif_pos ⟨lowest, highest⟩,
    TimeOfDay.ofParts?, dif_pos ⟨secondLt, nanosecondLt, leapAtEnd⟩]
  rfl

/-- The count of microseconds fits a machine word. -/
theorem microseconds_bounds {timestamp : Timestamp} (whole : timestamp.IsWhole) :
    -9223372036854775808 ≤ timestamp.microseconds ∧ timestamp.microseconds ≤ 9223372036854775807 := by
  rw [microseconds_of_whole whole]
  have ordinary := whole.ordinary
  have lowest := timestamp.date.lowest
  have highest := timestamp.date.highest
  have second := timestamp.time.secondLt
  omega

end Timestamp

end QueryTree
