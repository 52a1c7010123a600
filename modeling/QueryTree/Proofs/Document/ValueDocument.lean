/-
This file proves that a value is read back from its form in a document with its kind and its content.
-/
import QueryTree.Proofs.Document.DecimalText
import QueryTree.Proofs.Document.DocumentValue
import QueryTree.Proofs.Document.TimeText
import QueryTree.Value.Document

namespace QueryTree.Value

/-- The values whose real numbers are read back from their text: every value that is neither a floating
point number nor a document, every document without real numbers, and those numbers and documents that do
not lose a digit. -/
def IsExact : Value → Prop
  | float number => number.IsReadBack
  | json document => document.Legible ∧ document.Proper
  | _ => True

/-- The value with the sign of a decimal zero left out. -/
def unsignedZero : Value → Value
  | decimal number => decimal number.unsignedZero
  | value => value

theorem same_unsignedZero {value : Value} (exact : value.IsExact) : value.unsignedZero.same value = true := by
  cases value with
  | float number => exact exact.same_self
  | decimal number => exact number.same_unsignedZero
  | json document => exact Json.same_self exact.1
  | _ => simp [unsignedZero, same]

theorem eq_null {value : Value} (isNull : value.isNull = true) : value = null := by
  cases value with
  | null => rfl
  | _ => cases isNull

theorem byte?_toNat (byte : UInt8) : byte? (.integer byte.toNat) = some byte := by
  have small := byte.toNat_lt
  rw [byte?, if_pos (by omega), Int.toNat_natCast, UInt8.ofNat_toNat]

theorem mapM_byte? (bytes : Bytes) :
    (bytes.map fun byte => Json.integer byte.toNat).mapM byte? = some bytes := by
  induction bytes with
  | nil => rfl
  | cons byte others ih =>
    rw [List.map_cons, List.mapM_cons, byte?_toNat, ih]
    rfl

/-- A value other than null is an object whose one field is named for the kind and holds what the value of
that kind is read from. -/
theorem toJson_eq_object {value : Value} (exact : value.IsExact) (present : value.isNull = false) :
    ∃ kind content, value.toJson = .object [(kind, content)] ∧ content.Legible ∧ content.Proper ∧
      ofTagged? kind content = some value.unsignedZero := by
  cases value with
  | null => cases present
  | bool value => exact ⟨_, _, rfl, .bool _, .bool _, rfl⟩
  | int number =>
    have low := number.le_toInt
    have high := number.toInt_lt
    exact ⟨_, _, rfl, .integer _, .integer (by omega) (by omega), ofInt?_toInt number⟩
  | float number => exact ⟨_, _, rfl, .real exact, .real _, rfl⟩
  | decimal number =>
    refine ⟨_, _, rfl, .text _, .text _, ?_⟩
    rw [ofTagged?, decimal?, number.ofText?_text]
    rfl
  | text value => exact ⟨_, _, rfl, .text _, .text _, rfl⟩
  | bytes value =>
    refine ⟨_, _, rfl, .array ?_, .array ?_, congrArg (Option.map bytes) (mapM_byte? value)⟩
    · intro item member
      obtain ⟨byte, -, rfl⟩ := List.mem_map.mp member
      exact .integer _
    · intro item member
      obtain ⟨byte, -, rfl⟩ := List.mem_map.mp member
      have small := byte.toNat_lt
      exact .integer (by omega) (by omega)
  | date value =>
    refine ⟨_, _, rfl, .text _, .text _, ?_⟩
    rw [ofTagged?, value.ofText?_text]
    rfl
  | timestamp value =>
    refine ⟨_, _, rfl, .text _, .text _, ?_⟩
    rw [ofTagged?, value.ofText?_text]
    rfl
  | universalTimestamp value =>
    refine ⟨_, _, rfl, .text _, .text _, ?_⟩
    rw [ofTagged?, value.ofUniversalText?_universalText]
    rfl
  | uuid value =>
    refine ⟨_, _, rfl, .text _, .text _, ?_⟩
    rw [ofTagged?, value.ofText?_text]
    rfl
  | json document => exact ⟨_, _, rfl, exact.1, exact.2, rfl⟩

theorem toJson_legible {value : Value} (exact : value.IsExact) : value.toJson.Legible := by
  cases null : value.isNull with
  | true =>
    rw [eq_null null]
    exact .text "null"
  | false =>
    obtain ⟨kind, content, form, legible, -⟩ := toJson_eq_object exact null
    rw [form]
    exact .object (by simpa using legible)

/-- A value is read back from its form. -/
theorem ofSource?_toJson {value : Value} (exact : value.IsExact) {levels : Nat}
    (shallow : value.toJson.depth ≤ levels) :
    ofSource? levels value.toJson.source = some value.unsignedZero := by
  cases null : value.isNull with
  | true =>
    rw [eq_null null]
    rfl
  | false =>
    obtain ⟨kind, content, form, legible, proper, read⟩ := toJson_eq_object exact null
    rw [form] at shallow ⊢
    simp only [Json.depth, Json.fieldDepth, Nat.max_zero] at shallow
    obtain ⟨levels, rfl⟩ := Nat.exists_eq_succ_of_ne_zero (Nat.ne_zero_of_lt shallow)
    have content := JsonSource.toJson?_source legible proper (Nat.le_of_succ_le_succ shallow)
    simp only [Json.source, Json.fieldSources, ofSource?, content, Option.bind_eq_bind, Option.bind_some, read]

end QueryTree.Value
