/-
This file binds values to parameters: the bytes that are sent for a value where the server expects a
given type.
-/
import QueryTree.Json.Printer
import QueryTree.Postgres.ColumnType
import QueryTree.Postgres.Numeric
import QueryTree.SqlError

namespace QueryTree.Postgres

/-- Why a value is not bound to a parameter of a type. -/
inductive EncodeFault where
  | unaccepted (form : String) (type : ColumnType)
  | tooLarge
  | tooSmall
  | notDecimal
deriving DecidableEq, Repr

def EncodeFault.message : EncodeFault → String
  | unaccepted form type =>
      "cannot bind a " ++ form ++ " value to a parameter of type " ++ type.label
  | tooLarge => "number too large to fit in target type"
  | tooSmall => "number too small to fit in target type"
  | notDecimal => "Error while converting to Decimal"

namespace Parameter

/-- The names that messages use for the forms of values. -/
def form : Value → String
  | .null => "null"
  | .bool _ => "bool"
  | .int _ => "i64"
  | .float _ => "f64"
  | .decimal _ => "rust_decimal::decimal::Decimal"
  | .text _ => "alloc::string::String"
  | .bytes _ => "alloc::vec::Vec<u8>"
  | .date _ => "chrono::naive::date::NaiveDate"
  | .timestamp _ => "chrono::naive::datetime::NaiveDateTime"
  | .universalTimestamp _ => "chrono::datetime::DateTime<chrono::offset::utc::Utc>"
  | .uuid _ => "uuid::Uuid"
  | .json _ => "serde_json::value::Value"

/-- An integer in the bounds of a narrower type. -/
def bounded (lowest highest : Int) (width : Nat) (number : Int) : Except EncodeFault Bytes :=
  if number > highest then .error .tooLarge
  else if number < lowest then .error .tooSmall
  else .ok (Bytes.ofInt width number)

/-- The bits of the number of 32 bits that is nearest to an integer. -/
def singleOfInt (number : Int) : Nat :=
  (if number < 0 then BinaryFormat.single.signBit else 0)
    + BinaryFormat.single.nearest number.natAbs 1

def ofInt (number : Int64) (type : ColumnType) : Except EncodeFault Bytes :=
  match type with
  | .int2 => bounded (-32768) 32767 2 number.toInt
  | .int4 => bounded (-2147483648) 2147483647 4 number.toInt
  | .oid => bounded 0 4294967295 4 number.toInt
  | .int8 => .ok (Bytes.ofInt 8 number.toInt)
  | .float4 => .ok (Bytes.bigEndian 4 (singleOfInt number.toInt))
  | .float8 => .ok (Bytes.bigEndian 8 (Binary64.ofInt number.toInt).bits.toNat)
  | .numeric => .ok (Numeric.ofDecimal (.ofInt64 number)).bytes
  | type => .error (.unaccepted (form (.int number)) type)

def ofFloat (number : Binary64) (type : ColumnType) : Except EncodeFault Bytes :=
  match type with
  | .float4 => .ok (Bytes.bigEndian 4 number.toSingle.toNat)
  | .float8 => .ok (Bytes.bigEndian 8 number.bits.toNat)
  | .numeric =>
      match Decimal.ofBinary64? number with
      | some decimal => .ok (Numeric.ofDecimal decimal).bytes
      | none => .error .notDecimal
  | type => .error (.unaccepted (form (.float number)) type)

/-- Days since the first of January 2000. -/
def ofDate (date : Date) : Bytes := Bytes.ofInt 4 date.day

/-- Microseconds since the first moment of 2000. -/
def ofTimestamp (timestamp : Timestamp) : Bytes := Bytes.ofInt 8 timestamp.microseconds

/-- The bytes for a value where a type is expected; null has none. -/
def encode (value : Value) (type : ColumnType) : Except EncodeFault (Option Bytes) :=
  let accepted (bytes : Bytes) : Except EncodeFault (Option Bytes) := .ok (some bytes)
  let refused : Except EncodeFault (Option Bytes) := .error (.unaccepted (form value) type)
  match value with
  | .null => .ok none
  | .bool value => if type = .bool then accepted [if value then 1 else 0] else refused
  | .int number => (ofInt number type).map some
  | .float number => (ofFloat number type).map some
  | .decimal number => if type = .numeric then accepted (Numeric.ofDecimal number).bytes else refused
  | .text text => if type.isText then accepted (Bytes.ofText text) else refused
  | .bytes bytes => if type = .bytea then accepted bytes else refused
  | .date date => if type = .date then accepted (ofDate date) else refused
  | .timestamp timestamp =>
      if type = .timestamp ∨ type = .timestamptz then accepted (ofTimestamp timestamp) else refused
  | .universalTimestamp timestamp =>
      if type = .timestamp ∨ type = .timestamptz then accepted (ofTimestamp timestamp) else refused
  | .uuid uuid => if type = .uuid then accepted uuid.bytes else refused
  | .json document =>
      if type = .json then accepted (Bytes.ofText document.toText)
      else if type = .jsonb then accepted (1 :: Bytes.ofText document.toText)
      else refused

/-- The bytes for all parameters of a statement, or the position of the first that is not bound. -/
def encodeAll : (position : Nat) → List (Value × ColumnType) → Except BackendFault (List (Option Bytes))
  | _, [] => .ok []
  | position, (value, type) :: rest =>
      match encode value type with
      | .error _ => .error (.parameterNotEncodable position)
      | .ok bytes => do
          let others ← encodeAll (position + 1) rest
          return bytes :: others

end Parameter

end QueryTree.Postgres
