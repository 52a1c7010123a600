/-
This file writes values for messages and logs.
-/
import QueryTree.Json.Printer
import QueryTree.Time.Text
import QueryTree.Value.Basic

namespace QueryTree.Value

/-- The text of a value. Bytes are counted and not shown. -/
def shown : Value → String
  | null => "null"
  | bool true => "true"
  | bool false => "false"
  | int value => toString value.toInt
  | float value => value.plainText
  | decimal value => value.text
  | text value => value
  | bytes value => "<" ++ toString value.length ++ " bytes>"
  | date value => value.text
  | timestamp value => value.spacedText
  | universalTimestamp value => value.universalText "+00:00"
  | uuid value => value.text
  | json value => value.toText

end QueryTree.Value
