/-
This file reads the values of columns from their bytes.
-/
import QueryTree.Json.Reader
import QueryTree.Postgres.ColumnType
import QueryTree.Postgres.Numeric
import QueryTree.SqlError

namespace QueryTree.Postgres

namespace ColumnValue

/-- Exactly so many bytes. -/
def exactly (width : Nat) (bytes : Bytes) : Option Bytes :=
  if bytes.length = width then some bytes else none

def int? (width : Nat) (bytes : Bytes) : Option Value := do
  Value.ofInt? (← exactly width bytes).toInt

def document? (bytes : Bytes) : Option Value := do
  let text ← bytes.toText?
  return .json (← Json.ofText? Json.nestingLimit text)

/-- The value of a supported type that bytes hold. Any byte but zero is true. -/
def ofBytes? (type : ColumnType) (bytes : Bytes) : Option Value :=
  match type with
  | .bool =>
      match bytes with
      | [byte] => some (.bool (byte != 0))
      | _ => none
  | .int2 => int? 2 bytes
  | .int4 => int? 4 bytes
  | .int8 => int? 8 bytes
  | .oid => do Value.ofInt? (← exactly 4 bytes).toNat
  | .float4 => do return .float (.ofSingle (UInt32.ofNat (← exactly 4 bytes).toNat))
  | .float8 => do return .float ⟨UInt64.ofNat (← exactly 8 bytes).toNat⟩
  | .numeric => do
      let number ← Numeric.ofBytes? bytes
      return .decimal (← number.toDecimal?)
  | .text | .varchar | .bpchar | .name | .unknown => bytes.toText?.map .text
  | .bytea => some (.bytes bytes)
  | .date => do
      let date ← Date.ofDay? (← exactly 4 bytes).toInt
      return .date date
  | .timestamp => do
      let timestamp ← Timestamp.ofMicroseconds? (← exactly 8 bytes).toInt
      return .timestamp timestamp
  | .timestamptz => do
      let timestamp ← Timestamp.ofMicroseconds? (← exactly 8 bytes).toInt
      return .universalTimestamp timestamp
  | .uuid => (Uuid.ofBytes? bytes).map .uuid
  | .json => document? bytes
  | .jsonb =>
      match bytes with
      | 1 :: rest => document? rest
      | _ => none
  | .other _ => none

/-- The value of a column at a position. A missing value is null, but not in an unsupported type. -/
def decode (position : Nat) (column : String) (type : ColumnType) (bytes : Option Bytes) :
    Except SqlError Value :=
  match type, bytes with
  | .other label, _ => .error (.decode column (.unsupportedType label))
  | _, none => .ok .null
  | type, some bytes =>
      match ofBytes? type bytes with
      | some value => .ok value
      | none => .error (.decode column (.malformedColumn position))

end ColumnValue

end QueryTree.Postgres
