/-
This file writes documents without any white space.
-/
import QueryTree.Bytes
import QueryTree.Json.Basic

namespace QueryTree.Json

/-- A character inside quotes: quotes, backslashes and control characters are escaped. -/
def escaped (character : Char) : List Char :=
  if character = '"' then ['\\', '"']
  else if character = '\\' then ['\\', '\\']
  else if character = '\x08' then ['\\', 'b']
  else if character = '\x09' then ['\\', 't']
  else if character = '\x0a' then ['\\', 'n']
  else if character = '\x0c' then ['\\', 'f']
  else if character = '\x0d' then ['\\', 'r']
  else if character.toNat < 32 then
    ['\\', 'u', '0', '0', Bytes.hexDigit (character.toNat / 16), Bytes.hexDigit (character.toNat % 16)]
  else [character]

/-- A text between quotes. -/
def quoted (text : String) : List Char := '"' :: text.toList.flatMap escaped ++ ['"']

mutual

def characters : Json → List Char
  | .null => "null".toList
  | .bool true => "true".toList
  | .bool false => "false".toList
  | .integer value => (toString value).toList
  | .real value => if value.isFinite then value.documentText.toList else "null".toList
  | .text value => quoted value
  | .array items => '[' :: itemCharacters items ++ [']']
  | .object fields => '{' :: fieldCharacters fields ++ ['}']

/-- The items with commas between them. -/
def itemCharacters : List Json → List Char
  | [] => []
  | [item] => item.characters
  | item :: rest => item.characters ++ ',' :: itemCharacters rest

/-- The fields with commas between them. -/
def fieldCharacters : List (String × Json) → List Char
  | [] => []
  | [(name, value)] => quoted name ++ ':' :: value.characters
  | (name, value) :: rest => quoted name ++ ':' :: value.characters ++ ',' :: fieldCharacters rest

end

/-- The document as text. -/
def toText (document : Json) : String := String.ofList document.characters

end QueryTree.Json
