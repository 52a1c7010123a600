/-
This file proves that a value that has been bound to a parameter is read from a column of the same type as
the same value, or is refused when it is bound.
-/
import QueryTree.Proofs.Postgres.NumericBytes

namespace QueryTree

namespace Value

/-- The forms of values that the bytes of a column hold without a loss: moments are whole counts of
microseconds, and documents are read back from their text. -/
def IsHeld : Value → Prop
  | timestamp moment => moment.IsWhole
  | universalTimestamp moment => moment.IsWhole
  | json document => ∃ back, Json.ofText? Json.nestingLimit document.toText = some back ∧
      back.same document = true
  | _ => True

/-- The value as it is in a column: an integer among decimal numbers is one of them, and a moment is one
of the kind of the column. -/
def storedIn (type : Postgres.ColumnType) : Value → Value
  | int number => if type = .numeric then decimal (.ofInt64 number) else int number
  | timestamp moment => if type = .timestamptz then universalTimestamp moment else timestamp moment
  | universalTimestamp moment =>
      if type = .timestamp then timestamp moment else universalTimestamp moment
  | value => value

end Value

namespace Postgres

/-- The integers that a parameter of a type takes. -/
def TakesInt (number : Int) : ColumnType → Prop
  | .int2 => -32768 ≤ number ∧ number ≤ 32767
  | .int4 => -2147483648 ≤ number ∧ number ≤ 2147483647
  | .oid => 0 ≤ number ∧ number ≤ 4294967295
  | .int8 => True
  | .numeric => True
  | _ => False

/-- The values that a parameter of a type takes. Binary numbers, and types of them, are left out. -/
inductive Takes : ColumnType → Value → Prop where
  | null (type) : Takes type .null
  | bool (value) : Takes .bool (.bool value)
  | int {type : ColumnType} {number : Int64} : TakesInt number.toInt type → Takes type (.int number)
  | decimal (number) : Takes .numeric (.decimal number)
  | text {type : ColumnType} (text) : type.isText = true → Takes type (.text text)
  | bytes (bytes) : Takes .bytea (.bytes bytes)
  | date (date) : Takes .date (.date date)
  | timestamp {type : ColumnType} (moment) : type = .timestamp ∨ type = .timestamptz →
      Takes type (.timestamp moment)
  | universalTimestamp {type : ColumnType} (moment) : type = .timestamp ∨ type = .timestamptz →
      Takes type (.universalTimestamp moment)
  | uuid (uuid) : Takes .uuid (.uuid uuid)
  | json {type : ColumnType} (document) : type = .json ∨ type = .jsonb → Takes type (.json document)

namespace ColumnValue

/-- A column has the value that its bytes hold. -/
theorem decode_held {type : ColumnType} {bytes : Bytes} {value : Value}
    (held : ofBytes? type bytes = some value) (position : Nat) (column : String) :
    decode position column type (some bytes) = .ok value := by
  cases type with
  | other => cases held
  | _ =>
    simp only [decode]
    rw [held]

theorem decode_none {type : ColumnType} (supported : type ∈ ColumnType.supported) (position : Nat)
    (column : String) : decode position column type none = .ok .null := by
  cases type with
  | other label => simp [ColumnType.supported] at supported
  | _ => rfl

/-- An integer takes the bytes that are asked for. -/
theorem exactly_ofInt (width : Nat) (number : Int) :
    exactly width (Bytes.ofInt width number) = some (Bytes.ofInt width number) :=
  if_pos (Bytes.ofInt_length width number)

/-- An integer in the range of so many bytes is read back from them. -/
theorem int?_ofInt {width : Nat} {number : Int64}
    (low : -((256 ^ width : Nat) / 2) ≤ number.toInt)
    (high : number.toInt < ((256 ^ width : Nat) + 1) / 2) :
    int? width (Bytes.ofInt width number.toInt) = some (.int number) := by
  simp only [int?, exactly_ofInt, Option.bind_eq_bind, Option.bind_some, Bytes.toInt_ofInt low high,
    Value.ofInt?_toInt]

theorem ofBytes?_oid {number : Int64} (low : 0 ≤ number.toInt) (high : number.toInt ≤ 4294967295) :
    ofBytes? .oid (Bytes.ofInt 4 number.toInt) = some (.int number) := by
  have kept : (number.toInt % (256 ^ 4 : Nat)).toNat = number.toInt.toNat := by omega
  have read : Bytes.toNat (Bytes.ofInt 4 number.toInt) = number.toInt.toNat := by
    rw [Bytes.ofInt, Nat.pow_eq, kept]
    exact Bytes.toNat_bigEndian_of_lt (by omega)
  simp only [ofBytes?, exactly_ofInt, Option.bind_eq_bind, Option.bind_some, read,
    Int.toNat_of_nonneg low, Value.ofInt?_toInt]

theorem ofBytes?_numeric (number : Decimal) :
    ∃ back : Decimal, ofBytes? .numeric (Numeric.ofDecimal number).bytes = some (.decimal back) ∧
      back.same number = true := by
  obtain ⟨back, read, same⟩ := Numeric.read_decimal number
  obtain ⟨groups, first, second⟩ := Option.bind_eq_some_iff.mp read
  refine ⟨back, ?_, same⟩
  simp [ofBytes?, first, second]

theorem ofBytes?_text {type : ColumnType} (isText : type.isText = true) (text : String) :
    ofBytes? type (Bytes.ofText text) = some (.text text) := by
  cases type with
  | text | varchar | bpchar | name | unknown => simp [ofBytes?, Bytes.toText?_ofText]
  | _ => cases isText

theorem ofBytes?_date (date : Date) :
    ofBytes? .date (Parameter.ofDate date) = some (.date date) := by
  have lowest := date.lowest
  have highest := date.highest
  have read : Bytes.toInt (Bytes.ofInt 4 date.day) = date.day :=
    Bytes.toInt_ofInt (by omega) (by omega)
  have kept : Date.ofDay? date.day = some date := dif_pos ⟨lowest, highest⟩
  rw [ofBytes?, Parameter.ofDate, exactly_ofInt, Option.bind_eq_bind, Option.bind_some, read, kept]
  rfl

/-- A moment is read back as one of the kind of the column. -/
theorem ofBytes?_moment {moment : Timestamp} (whole : moment.IsWhole) :
    ofBytes? .timestamp (Parameter.ofTimestamp moment) = some (.timestamp moment) ∧
      ofBytes? .timestamptz (Parameter.ofTimestamp moment) = some (.universalTimestamp moment) := by
  obtain ⟨low, high⟩ := Timestamp.microseconds_bounds whole
  have read : Bytes.toInt (Bytes.ofInt 8 moment.microseconds) = moment.microseconds :=
    Bytes.toInt_ofInt (by omega) (by omega)
  have counted := Timestamp.ofMicroseconds?_microseconds whole
  constructor
  · rw [ofBytes?, Parameter.ofTimestamp, exactly_ofInt, Option.bind_eq_bind, Option.bind_some, read,
      counted]
    rfl
  · rw [ofBytes?, Parameter.ofTimestamp, exactly_ofInt, Option.bind_eq_bind, Option.bind_some, read,
      counted]
    rfl

theorem document?_ofText {document back : Json}
    (read : Json.ofText? Json.nestingLimit document.toText = some back) :
    document? (Bytes.ofText document.toText) = some (.json back) := by
  rw [document?, Bytes.toText?_ofText]
  simp [read]

end ColumnValue

namespace Parameter

/-- The bytes that are written for a value are read from a column of the type as a value that is the same
as the one that the column is to hold. -/
def ReadBack (type : ColumnType) (value : Value) : Prop :=
  ∃ bytes back, encode value type = .ok (some bytes) ∧
    ColumnValue.ofBytes? type bytes = some back ∧ back.same (value.storedIn type) = true

/-- An integer in the bounds of a narrower type is written in full. -/
theorem bounded_ok {lowest highest number : Int} (width : Nat) (low : lowest ≤ number)
    (high : number ≤ highest) :
    bounded lowest highest width number = .ok (Bytes.ofInt width number) := by
  rw [bounded, if_neg (by omega), if_neg (by omega)]

/-- An integer out of the bounds of a narrower type is not written. -/
theorem bounded_error {lowest highest number : Int} (width : Nat)
    (outside : ¬ (lowest ≤ number ∧ number ≤ highest)) :
    ∃ fault, bounded lowest highest width number = .error fault := by
  by_cases large : number > highest
  · exact ⟨.tooLarge, if_pos large⟩
  · have small : number < lowest := by omega
    exact ⟨.tooSmall, by rw [bounded, if_neg large, if_pos small]⟩

/-- An integer is read back from every type that takes it. -/
theorem readBack_int {type : ColumnType} {number : Int64} (takes : TakesInt number.toInt type) :
    ReadBack type (.int number) := by
  cases type with
  | int2 =>
    obtain ⟨low, high⟩ := takes
    refine ⟨_, .int number, ?_, ColumnValue.int?_ofInt low (by omega), beq_self_eq_true _⟩
    rw [encode, ofInt, bounded_ok 2 low high]
    rfl
  | int4 =>
    obtain ⟨low, high⟩ := takes
    refine ⟨_, .int number, ?_, ColumnValue.int?_ofInt low (by omega), beq_self_eq_true _⟩
    rw [encode, ofInt, bounded_ok 4 low high]
    rfl
  | int8 =>
    have low := number.le_toInt
    have high := number.toInt_lt
    exact ⟨_, .int number, rfl, ColumnValue.int?_ofInt (by omega) (by omega), beq_self_eq_true _⟩
  | oid =>
    obtain ⟨low, high⟩ := takes
    refine ⟨_, .int number, ?_, ColumnValue.ofBytes?_oid low high, beq_self_eq_true _⟩
    rw [encode, ofInt, bounded_ok 4 low high]
    rfl
  | numeric =>
    obtain ⟨back, read, same⟩ := ColumnValue.ofBytes?_numeric (.ofInt64 number)
    exact ⟨_, .decimal back, rfl, read, same⟩
  | _ => exact absurd takes id

/-- Every value that a type takes is read back from it. -/
theorem readBack_takes {type : ColumnType} {value : Value} (takes : Takes type value)
    (present : value ≠ .null) (held : value.IsHeld) : ReadBack type value := by
  cases takes with
  | null => exact absurd rfl present
  | bool value =>
    refine ⟨_, .bool value, rfl, ?_, beq_self_eq_true _⟩
    cases value <;> rfl
  | int takes => exact readBack_int takes
  | decimal number =>
    obtain ⟨back, read, same⟩ := ColumnValue.ofBytes?_numeric number
    exact ⟨_, .decimal back, rfl, read, same⟩
  | text text isText =>
    exact ⟨_, .text text, if_pos isText, ColumnValue.ofBytes?_text isText text, beq_self_eq_true _⟩
  | bytes bytes => exact ⟨bytes, .bytes bytes, rfl, rfl, beq_self_eq_true _⟩
  | date date => exact ⟨_, .date date, rfl, ColumnValue.ofBytes?_date date, beq_self_eq_true _⟩
  | timestamp moment timed =>
    obtain ⟨plain, universal⟩ := ColumnValue.ofBytes?_moment held
    rcases timed with rfl | rfl
    · exact ⟨_, .timestamp moment, rfl, plain, beq_self_eq_true _⟩
    · exact ⟨_, .universalTimestamp moment, rfl, universal, beq_self_eq_true _⟩
  | universalTimestamp moment timed =>
    obtain ⟨plain, universal⟩ := ColumnValue.ofBytes?_moment held
    rcases timed with rfl | rfl
    · exact ⟨_, .timestamp moment, rfl, plain, beq_self_eq_true _⟩
    · exact ⟨_, .universalTimestamp moment, rfl, universal, beq_self_eq_true _⟩
  | uuid uuid =>
    refine ⟨_, .uuid uuid, rfl, ?_, beq_self_eq_true _⟩
    simp [ColumnValue.ofBytes?, Uuid.ofBytes?_bytes]
  | json document stored =>
    obtain ⟨back, read, same⟩ := held
    rcases stored with rfl | rfl
    · exact ⟨_, .json back, rfl, ColumnValue.document?_ofText read, same⟩
    · exact ⟨_, .json back, rfl, ColumnValue.document?_ofText read, same⟩

/-- An integer is refused by every type that does not take it. -/
theorem encode_int_refused {type : ColumnType} {number : Int64}
    (refused : ¬ TakesInt number.toInt type) (single : type ≠ .float4) (double : type ≠ .float8) :
    ∃ fault, encode (.int number) type = .error fault := by
  have passed {bytes : Except EncodeFault Bytes} (written : ofInt number type = bytes)
      (fails : ∃ fault, bytes = .error fault) : ∃ fault, encode (.int number) type = .error fault := by
    obtain ⟨fault, rfl⟩ := fails
    exact ⟨fault, by rw [encode, written]; rfl⟩
  cases type with
  | int2 => exact passed rfl (bounded_error 2 refused)
  | int4 => exact passed rfl (bounded_error 4 refused)
  | oid => exact passed rfl (bounded_error 4 refused)
  | int8 => exact absurd trivial refused
  | numeric => exact absurd trivial refused
  | float4 => exact absurd rfl single
  | float8 => exact absurd rfl double
  | _ => exact passed rfl ⟨_, rfl⟩

/-- A value is refused by every type that does not take it. -/
theorem encode_refused {type : ColumnType} {value : Value} (refused : ¬ Takes type value)
    (notFloat : ∀ number, value ≠ .float number) (single : type ≠ .float4) (double : type ≠ .float8) :
    ∃ fault, encode value type = .error fault := by
  cases value with
  | null => exact absurd (.null type) refused
  | bool value =>
    have other : type ≠ .bool := by
      rintro rfl
      exact refused (.bool value)
    exact ⟨_, if_neg other⟩
  | int number => exact encode_int_refused (fun takes => refused (.int takes)) single double
  | float number => exact absurd rfl (notFloat number)
  | decimal number =>
    have other : type ≠ .numeric := by
      rintro rfl
      exact refused (.decimal number)
    exact ⟨_, if_neg other⟩
  | text text => exact ⟨_, if_neg fun isText => refused (.text text isText)⟩
  | bytes bytes =>
    have other : type ≠ .bytea := by
      rintro rfl
      exact refused (.bytes bytes)
    exact ⟨_, if_neg other⟩
  | date date =>
    have other : type ≠ .date := by
      rintro rfl
      exact refused (.date date)
    exact ⟨_, if_neg other⟩
  | timestamp moment => exact ⟨_, if_neg fun timed => refused (.timestamp moment timed)⟩
  | universalTimestamp moment =>
    exact ⟨_, if_neg fun timed => refused (.universalTimestamp moment timed)⟩
  | uuid uuid =>
    have other : type ≠ .uuid := by
      rintro rfl
      exact refused (.uuid uuid)
    exact ⟨_, if_neg other⟩
  | json document =>
    have plain : type ≠ .json := fun same => refused (.json document (.inl same))
    have binary : type ≠ .jsonb := fun same => refused (.json document (.inr same))
    exact ⟨_, (if_neg plain).trans (if_neg binary)⟩

/-- A statement of which a value is refused has no bytes for any of its values. -/
theorem encodeAll_refused {type : ColumnType} {value : Value} {fault : EncodeFault}
    (refused : encode value type = .error fault) {bindings : List (Value × ColumnType)}
    (member : (value, type) ∈ bindings) (position : Nat) :
    ∃ failed, encodeAll position bindings = .error (.parameterNotEncodable failed) := by
  induction bindings generalizing position with
  | nil => cases member
  | cons binding rest ih =>
    rw [encodeAll]
    cases encoded : encode binding.1 binding.2 with
    | error => exact ⟨position, rfl⟩
    | ok bytes =>
      rcases List.mem_cons.mp member with rfl | member
      · cases refused.symm.trans encoded
      · obtain ⟨failed, others⟩ := ih member (position + 1)
        exact ⟨failed, by rw [others]; rfl⟩

end Parameter

/-- Binding and reading agree. A value is taken by its types, and then a column of the type that holds what
has been written has the same value; otherwise nothing is written, for it and for the values with it. Null
is no bytes in every type, and integers are taken where they are in range. -/
theorem values_stored :
    (∀ value type, type ∈ ColumnType.supported → type ≠ .float4 → type ≠ .float8 →
      (∀ number, value ≠ .float number) → value.IsHeld →
      (Takes type value ∧ ∃ bytes back, Parameter.encode value type = .ok bytes ∧
        (∀ position column, ColumnValue.decode position column type bytes = .ok back) ∧
        back.same (value.storedIn type) = true) ∨
      (¬ Takes type value ∧ ∃ fault, Parameter.encode value type = .error fault ∧
        ∀ bindings, (value, type) ∈ bindings → ∀ position,
          ∃ failed, Parameter.encodeAll position bindings = .error (.parameterNotEncodable failed))) ∧
    (∀ type, Parameter.encode .null type = .ok none ∧
      (type ∈ ColumnType.supported → ∀ position column,
        ColumnValue.decode position column type none = .ok .null)) ∧
    ∀ (number : Int64) type, type ≠ .float4 → type ≠ .float8 →
      ((∃ bytes, Parameter.encode (.int number) type = .ok bytes) ↔ TakesInt number.toInt type) := by
  refine ⟨fun value type supported single double notFloat held => ?_, fun type => ⟨rfl, fun supported => ?_⟩,
    fun number type single double => ⟨?_, ?_⟩⟩
  · by_cases takes : Takes type value
    · refine .inl ⟨takes, ?_⟩
      by_cases missing : value = .null
      · subst missing
        exact ⟨none, .null, rfl, ColumnValue.decode_none supported, rfl⟩
      · obtain ⟨bytes, back, written, read, same⟩ := Parameter.readBack_takes takes missing held
        exact ⟨some bytes, back, written, ColumnValue.decode_held read, same⟩
    · obtain ⟨fault, refused⟩ := Parameter.encode_refused takes notFloat single double
      exact .inr ⟨takes, fault, refused, fun bindings member position =>
        Parameter.encodeAll_refused refused member position⟩
  · exact ColumnValue.decode_none supported
  · rintro ⟨bytes, written⟩
    by_contra outside
    obtain ⟨fault, refused⟩ := Parameter.encode_int_refused outside single double
    cases refused.symm.trans written
  · intro takes
    obtain ⟨bytes, back, written, -, -⟩ := Parameter.readBack_int takes
    exact ⟨some bytes, written⟩

/-- A document with a number, a text with a quote in it, null and an object. -/
def nestedDocument : Json :=
  .array [.integer (-5), .text "a\"b", .null, .object [("k", .bool true)]]

theorem nestedDocument_held : (Value.json nestedDocument).IsHeld := by
  refine ⟨nestedDocument, ?_, by decide⟩
  rw [Json.ofText?, JsonSource.ofText?, Json.toText, String.toList_ofList]
  rfl

/-- The last microsecond of the day before the first day of 2000. -/
def lastMoment : Timestamp :=
  ⟨⟨-1, by decide, by decide⟩, ⟨86399, 999999000, by decide, by decide, by decide⟩⟩

/-- The document is stored in binary form, and the moment as one in universal time. -/
theorem values_stored_document :
    (Value.json nestedDocument).IsHeld ∧ (Value.timestamp lastMoment).IsHeld ∧
      (∃ bytes back, Parameter.encode (.json nestedDocument) .jsonb = .ok bytes ∧
        (∀ position column, ColumnValue.decode position column .jsonb bytes = .ok back) ∧
        back.same (.json nestedDocument) = true) ∧
      ∃ bytes back, Parameter.encode (.timestamp lastMoment) .timestamptz = .ok bytes ∧
        (∀ position column, ColumnValue.decode position column .timestamptz bytes = .ok back) ∧
        back.same (.universalTimestamp lastMoment) = true := by
  have whole : (Value.timestamp lastMoment).IsHeld := ⟨by decide, by decide⟩
  have document := values_stored.1 (.json nestedDocument) .jsonb (by decide) nofun nofun nofun
    nestedDocument_held
  have moment := values_stored.1 (.timestamp lastMoment) .timestamptz (by decide) nofun nofun nofun whole
  refine ⟨nestedDocument_held, whole, ?_, ?_⟩
  · exact (document.resolve_right fun refused => refused.1 (.json _ (.inr rfl))).2
  · exact (moment.resolve_right fun refused => refused.1 (.timestamp _ (.inr rfl))).2

end Postgres

end QueryTree
