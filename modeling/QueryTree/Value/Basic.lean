/-
This file holds the scalar values that nodes carry.
-/
import QueryTree.Json.Basic
import QueryTree.Number.Decimal
import QueryTree.Time.Calendar
import QueryTree.Uuid

namespace QueryTree

/-- A scalar of one of eleven kinds, or null. A universal timestamp is a moment in universal time. -/
inductive Value where
  | null
  | bool (value : Bool)
  | int (value : Int64)
  | float (value : Binary64)
  | decimal (value : Decimal)
  | text (value : String)
  | bytes (value : Bytes)
  | date (value : Date)
  | timestamp (value : Timestamp)
  | universalTimestamp (value : Timestamp)
  | uuid (value : Uuid)
  | json (value : Json)
deriving Inhabited

namespace Value

/-- The name of the kind in messages. -/
def kind : Value → String
  | null => "null"
  | bool _ => "bool"
  | int _ => "int"
  | float _ => "float"
  | decimal _ => "decimal"
  | text _ => "text"
  | bytes _ => "bytes"
  | date _ => "date"
  | timestamp _ => "timestamp"
  | universalTimestamp _ => "timestamptz"
  | uuid _ => "uuid"
  | json _ => "json"

def isNull : Value → Bool
  | null => true
  | _ => false

def asInt? : Value → Option Int64
  | int value => some value
  | _ => none

def asBool? : Value → Option Bool
  | bool value => some value
  | _ => none

def asText? : Value → Option String
  | text value => some value
  | _ => none

/-- Equality of values: values of different kinds are never equal, and numbers are equal by value. -/
def same : Value → Value → Bool
  | null, null => true
  | bool left, bool right => left == right
  | int left, int right => left == right
  | float left, float right => left.same right
  | decimal left, decimal right => left.same right
  | text left, text right => left == right
  | bytes left, bytes right => left == right
  | date left, date right => left == right
  | timestamp left, timestamp right => left == right
  | universalTimestamp left, universalTimestamp right => left == right
  | uuid left, uuid right => left == right
  | json left, json right => left.same right
  | _, _ => false

/-- The integer of a machine word, if it fits one. -/
def ofInt? (number : Int) : Option Value :=
  if -9223372036854775808 ≤ number ∧ number ≤ 9223372036854775807 then
    some (.int (Int64.ofInt number))
  else none

/-- A machine integer is a value. -/
theorem ofInt?_toInt (number : Int64) : ofInt? number.toInt = some (.int number) := by
  have low := number.le_toInt
  have high := number.toInt_lt
  rw [ofInt?, if_pos (by omega), Int64.ofInt_toInt]

/-- A count of rows as an integer, which cannot exceed the largest one. -/
def ofCount (count : Nat) : Value := .int (Int64.ofNat (min count 9223372036854775807))

/-- A value that may be missing is null when it is. -/
def ofOption (convert : α → Value) : Option α → Value
  | none => null
  | some value => convert value

end Value

end QueryTree
