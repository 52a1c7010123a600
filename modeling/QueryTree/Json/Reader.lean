/-
This file reads documents. A document is first read as it is written, so that what a reader of a
fixed shape passes over need not have a value; then numerals and texts get their values and the
levels of nesting are counted.
-/
import QueryTree.Bytes
import QueryTree.Json.Numeral

namespace QueryTree

/-- A document as it is written. A text with half of a surrogate pair has no value. -/
inductive JsonSource where
  | null
  | bool (value : Bool)
  | number (numeral : JsonNumeral)
  | text (value : Option String)
  | array (items : List JsonSource)
  | object (fields : List (Option String × JsonSource))
deriving Repr, Inhabited

namespace JsonSource

/-- The white space of documents. -/
def isSpace (character : Char) : Bool :=
  character = ' ' || character = '\n' || character = '\t' || character = '\r'

def skipSpaces (characters : List Char) : List Char := characters.dropWhile isSpace

/-- The values of a run of digits, and the rest. -/
def digitRun (characters : List Char) : List Nat × List Char :=
  ((characters.takeWhile Char.isDigit).map fun digit => digit.toNat - '0'.toNat,
    characters.dropWhile Char.isDigit)

/-- The digits before the point: a zero stands alone. -/
def wholePart? (characters : List Char) : Option (List Nat × List Char) :=
  match digitRun characters with
  | ([], _) => none
  | (0 :: _ :: _, _) => none
  | run => some run

/-- A point and at least one digit, if there is a point. -/
def fractionPart? (characters : List Char) : Option (Option (List Nat) × List Char) :=
  match characters with
  | '.' :: rest =>
      match digitRun rest with
      | ([], _) => none
      | (digits, rest) => some (some digits, rest)
  | _ => some (none, characters)

/-- The digits of an exponent, of which there is at least one. -/
def exponentDigits? (negative : Bool) (characters : List Char) :
    Option (Option (Bool × List Nat) × List Char) :=
  match digitRun characters with
  | ([], _) => none
  | (digits, rest) => some (some (negative, digits), rest)

/-- An exponent with an optional sign, if there is its mark. -/
def exponentPart? (characters : List Char) : Option (Option (Bool × List Nat) × List Char) :=
  match characters with
  | mark :: rest =>
      if mark = 'e' ∨ mark = 'E' then
        match rest with
        | '-' :: rest => exponentDigits? true rest
        | '+' :: rest => exponentDigits? false rest
        | rest => exponentDigits? false rest
      else some (none, characters)
  | [] => some (none, [])

/-- A numeral. -/
def numeral? (characters : List Char) : Option (JsonNumeral × List Char) := do
  let (negative, rest) := match characters with
    | '-' :: rest => (true, rest)
    | _ => (false, characters)
  let (whole, rest) ← wholePart? rest
  let (fraction, rest) ← fractionPart? rest
  let (exponent, rest) ← exponentPart? rest
  return (⟨negative, whole, fraction, exponent⟩, rest)

/-- The code of four hexadecimal digits. -/
def hexCode? (characters : List Char) : Option (Nat × List Char) :=
  match characters with
  | first :: second :: third :: fourth :: rest => do
      let firstValue ← Bytes.hexValue? first
      let secondValue ← Bytes.hexValue? second
      let thirdValue ← Bytes.hexValue? third
      let fourthValue ← Bytes.hexValue? fourth
      return (((firstValue * 16 + secondValue) * 16 + thirdValue) * 16 + fourthValue, rest)
  | _ => none

/-- The character of a code after its backslash and letter, together with the second half of a
surrogate pair; half a pair gives no character. -/
def codedCharacter? (characters : List Char) : Option (Option Char × List Char) := do
  let (code, rest) ← hexCode? characters
  if 0xd800 ≤ code ∧ code < 0xdc00 then
    match rest with
    | '\\' :: 'u' :: second =>
        let (low, afterPair) ← hexCode? second
        if 0xdc00 ≤ low ∧ low < 0xe000 then
          return (some (Char.ofNat (0x10000 + (code - 0xd800) * 1024 + (low - 0xdc00))), afterPair)
        else return (none, rest)
    | _ => return (none, rest)
  else if 0xdc00 ≤ code ∧ code < 0xe000 then return (none, rest)
  else return (some (Char.ofNat code), rest)

/-- The character that follows a backslash. -/
def escapedCharacter? (characters : List Char) : Option (Option Char × List Char) :=
  match characters with
  | '"' :: rest => some (some '"', rest)
  | '\\' :: rest => some (some '\\', rest)
  | '/' :: rest => some (some '/', rest)
  | 'b' :: rest => some (some '\x08', rest)
  | 'f' :: rest => some (some '\x0c', rest)
  | 'n' :: rest => some (some '\n', rest)
  | 'r' :: rest => some (some '\r', rest)
  | 't' :: rest => some (some '\t', rest)
  | 'u' :: rest => codedCharacter? rest
  | _ => none

/-- The characters up to the closing quote. -/
def quotedRest? : Nat → List Char → Option (Option (List Char) × List Char)
  | 0, _ => none
  | _ + 1, [] => none
  | fuel + 1, next :: rest =>
      if next = '"' then some (some [], rest)
      else if next = '\\' then do
        let (character, rest) ← escapedCharacter? rest
        let (characters, rest) ← quotedRest? fuel rest
        return ((do return (← character) :: (← characters)), rest)
      else if next.toNat < 32 then none
      else do
        let (characters, rest) ← quotedRest? fuel rest
        return (characters.map (next :: ·), rest)

/-- A text after its opening quote. -/
def text? (characters : List Char) : Option (Option String × List Char) := do
  let (value, rest) ← quotedRest? characters.length characters
  return (value.map String.ofList, rest)

/-- A fixed word. -/
def word? (word : String) (characters : List Char) : Option (List Char) :=
  if word.toList.isPrefixOf characters then some (characters.drop word.length) else none

/-- A name and the colon after it. -/
def fieldName? (characters : List Char) : Option (Option String × List Char) :=
  match characters with
  | '"' :: rest => do
      let (name, rest) ← text? rest
      match skipSpaces rest with
      | ':' :: rest => return (name, skipSpaces rest)
      | _ => none
  | _ => none

mutual

/-- A value at the start of the text, with no white space before it. -/
def value? : Nat → List Char → Option (JsonSource × List Char)
  | 0, _ => none
  | fuel + 1, characters =>
      match characters with
      | 'n' :: _ => do return (.null, ← word? "null" characters)
      | 't' :: _ => do return (.bool true, ← word? "true" characters)
      | 'f' :: _ => do return (.bool false, ← word? "false" characters)
      | '"' :: rest => do
          let (value, rest) ← text? rest
          return (.text value, rest)
      | '[' :: rest =>
          match skipSpaces rest with
          | ']' :: rest => some (.array [], rest)
          | rest => do
              let (items, rest) ← items? fuel rest
              return (.array items, rest)
      | '{' :: rest =>
          match skipSpaces rest with
          | '}' :: rest => some (.object [], rest)
          | rest => do
              let (fields, rest) ← fields? fuel rest
              return (.object fields, rest)
      | _ => do
          let (numeral, rest) ← numeral? characters
          return (.number numeral, rest)

/-- One or more values with commas between them, up to the closing bracket. -/
def items? : Nat → List Char → Option (List JsonSource × List Char)
  | 0, _ => none
  | fuel + 1, characters => do
      let (item, rest) ← value? fuel characters
      match skipSpaces rest with
      | ']' :: rest => return ([item], rest)
      | ',' :: rest =>
          let (items, rest) ← items? fuel (skipSpaces rest)
          return (item :: items, rest)
      | _ => none

/-- One or more fields with commas between them, up to the closing brace. -/
def fields? : Nat → List Char → Option (List (Option String × JsonSource) × List Char)
  | 0, _ => none
  | fuel + 1, characters => do
      let (name, rest) ← fieldName? characters
      let (value, rest) ← value? fuel rest
      match skipSpaces rest with
      | '}' :: rest => return ([(name, value)], rest)
      | ',' :: rest =>
          let (fields, rest) ← fields? fuel (skipSpaces rest)
          return ((name, value) :: fields, rest)
      | _ => none

end

/-- The document that a text holds, with nothing but white space around it. -/
def ofText? (text : String) : Option JsonSource := do
  let characters := text.toList
  let (document, rest) ← value? (characters.length + 1) (skipSpaces characters)
  if (skipSpaces rest).isEmpty then some document else none

mutual

/-- The document with its values, nested at most as deep as the count of levels allows. Of two
fields with one name the last one counts. -/
def toJson? : (levels : Nat) → JsonSource → Option Json
  | _, .null => some .null
  | _, .bool value => some (.bool value)
  | _, .number numeral => numeral.value?
  | _, .text value => value.map .text
  | 0, .array _ => none
  | levels + 1, .array items => (itemsToJson? levels items).map .array
  | 0, .object _ => none
  | levels + 1, .object fields => (fieldsToJson? levels [] fields).map .object

def itemsToJson? : (levels : Nat) → List JsonSource → Option (List Json)
  | _, [] => some []
  | levels, item :: rest => do
      let value ← toJson? levels item
      let values ← itemsToJson? levels rest
      return value :: values

def fieldsToJson? : (levels : Nat) → List (String × Json) → List (Option String × JsonSource) →
    Option (List (String × Json))
  | _, collected, [] => some collected
  | levels, collected, (name, source) :: rest => do
      let name ← name
      let value ← toJson? levels source
      fieldsToJson? levels (Json.insertField name value collected) rest

end

end JsonSource

namespace Json

/-- The levels of nesting that a document from outside may have. -/
def nestingLimit : Nat := 127

/-- The document that a text holds, nested at most as deep as the count of levels allows. -/
def ofText? (levels : Nat) (text : String) : Option Json := do
  let source ← JsonSource.ofText? text
  source.toJson? levels

end Json

end QueryTree
