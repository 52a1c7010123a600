/-
This file gives values their form in documents: an object whose one field is named for the kind.
-/
import QueryTree.Json.Reader
import QueryTree.Number.Text
import QueryTree.Value.Text

namespace QueryTree.Value

/-- The form of a value; null is a bare word. -/
def toJson : Value → Json
  | null => .text "null"
  | bool value => .object [("bool", .bool value)]
  | int value => .object [("int", .integer value.toInt)]
  | float value => .object [("float", .real value)]
  | decimal value => .object [("decimal", .text value.text)]
  | text value => .object [("text", .text value)]
  | bytes value => .object [("bytes", .array (value.map fun byte => .integer byte.toNat))]
  | date value => .object [("date", .text value.text)]
  | timestamp value => .object [("timestamp", .text value.text)]
  | universalTimestamp value => .object [("timestamp_tz", .text (value.universalText "Z"))]
  | uuid value => .object [("uuid", .text value.text)]
  | json value => .object [("json", value)]

/-- A byte of a document. -/
def byte? : Json → Option UInt8
  | .integer number => if 0 ≤ number ∧ number < 256 then some (UInt8.ofNat number.toNat) else none
  | _ => none

/-- A number of a document as a floating point number. -/
def binary64? : Json → Option Binary64
  | .integer number => some (.ofInt number)
  | .real number => some number
  | _ => none

/-- A decimal number is a text or a number; a real number is read by its shortest digits. -/
def decimal? : Json → Option Decimal
  | .text characters => Decimal.ofText? characters
  | .integer number => Decimal.ofParts? (number < 0) number.natAbs 0
  | .real number => (Decimal.readPlain? number.plainText.toList)
  | _ => none

/-- The value of a kind's name and content. -/
def ofTagged? (kind : String) (content : Json) : Option Value :=
  match kind, content with
  | "null", .null => some null
  | "bool", .bool value => some (bool value)
  | "int", .integer number => ofInt? number
  | "float", number => (binary64? number).map float
  | "decimal", number => (decimal? number).map decimal
  | "text", .text value => some (text value)
  | "bytes", .array items => (items.mapM byte?).map bytes
  | "date", .text value => (Date.ofText? value).map date
  | "timestamp", .text value => (Timestamp.ofText? value).map timestamp
  | "timestamp_tz", .text value => (Timestamp.ofUniversalText? value).map universalTimestamp
  | "uuid", .text value => (Uuid.ofText? value).map uuid
  | "json", document => some (json document)
  | _, _ => none

/-- The value of a document as it is written: a bare word for null, or an object with one field. -/
def ofSource? (levels : Nat) : JsonSource → Option Value
  | .text (some "null") => some null
  | .object [(some kind, source)] =>
      match levels with
      | 0 => none
      | levels + 1 => do
          let content ← source.toJson? levels
          ofTagged? kind content
  | _ => none

end QueryTree.Value
