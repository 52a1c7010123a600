/-
This file proves that a document is read from its text as it is written, if each of its real numbers is.
-/
import QueryTree.Json.Printer
import QueryTree.Proofs.Document.HexText
import QueryTree.Proofs.Document.NumeralText

namespace QueryTree

namespace Json

/-- The documents whose real numbers are read back. A document without real numbers is one. -/
inductive Legible : Json → Prop where
  | null : Legible .null
  | bool (value : Bool) : Legible (.bool value)
  | integer (value : Int) : Legible (.integer value)
  | real {value : Binary64} : value.IsReadBack → Legible (.real value)
  | text (value : String) : Legible (.text value)
  | array {items : List Json} : (∀ item ∈ items, Legible item) → Legible (.array items)
  | object {fields : List (String × Json)} :
      (∀ field ∈ fields, Legible field.2) → Legible (.object fields)

mutual

/-- A document as it is written. -/
def source : Json → JsonSource
  | .null => .null
  | .bool value => .bool value
  | .integer value => .number (.ofInt value)
  | .real value => .number (.ofReal value)
  | .text value => .text (some value)
  | .array items => .array (itemSources items)
  | .object fields => .object (fieldSources fields)

def itemSources : List Json → List JsonSource
  | [] => []
  | item :: rest => item.source :: itemSources rest

def fieldSources : List (String × Json) → List (Option String × JsonSource)
  | [] => []
  | (name, value) :: rest => (some name, value.source) :: fieldSources rest

end

end Json

namespace JsonSource

/-- A control character is read from its code. -/
theorem codedCharacter?_control {character : Char} (control : character.toNat < 32) (rest : List Char) :
    codedCharacter? ('0' :: '0' :: Bytes.hexDigit (character.toNat / 16) ::
      Bytes.hexDigit (character.toNat % 16) :: rest) = some (some character, rest) := by
  have high := Bytes.hexValue?_hexDigit (character.toNat / 16) (by omega)
  have low := Bytes.hexValue?_hexDigit (character.toNat % 16) (by omega)
  have zero : Bytes.hexValue? '0' = some 0 := rfl
  have code : ((0 * 16 + 0) * 16 + character.toNat / 16) * 16 + character.toNat % 16 = character.toNat := by
    omega
  simp only [codedCharacter?, hexCode?, high, low, zero, code, Option.bind_eq_bind, Option.bind_some,
    pure]
  rw [if_neg (by omega), if_neg (by omega), Char.ofNat_toNat]

/-- A character stands in quotes with a backslash and a code from which it is read, or as it is. -/
theorem escaped_cases (character : Char) :
    (∃ code, Json.escaped character = '\\' :: code ∧
      ∀ rest, escapedCharacter? (code ++ rest) = some (some character, rest)) ∨
    (Json.escaped character = [character] ∧ character ≠ '"' ∧ character ≠ '\\' ∧
      ¬ character.toNat < 32) := by
  unfold Json.escaped
  repeat' split
  next quote => exact .inl ⟨_, rfl, fun rest => by rw [quote]; rfl⟩
  next backslash => exact .inl ⟨_, rfl, fun rest => by rw [backslash]; rfl⟩
  next backspace => exact .inl ⟨_, rfl, fun rest => by rw [backspace]; rfl⟩
  next tabulator => exact .inl ⟨_, rfl, fun rest => by rw [tabulator]; rfl⟩
  next newline => exact .inl ⟨_, rfl, fun rest => by rw [newline]; rfl⟩
  next formFeed => exact .inl ⟨_, rfl, fun rest => by rw [formFeed]; rfl⟩
  next carriageReturn => exact .inl ⟨_, rfl, fun rest => by rw [carriageReturn]; rfl⟩
  next control => exact .inl ⟨_, rfl, fun rest => codedCharacter?_control control rest⟩
  next visible => exact .inr ⟨rfl, ‹_›, ‹_›, visible⟩

/-- A character in quotes is read back. -/
theorem quotedRest?_escaped (character : Char) (fuel : Nat) (rest : List Char) :
    quotedRest? (fuel + 1) (Json.escaped character ++ rest) =
      (quotedRest? fuel rest).map fun (characters, rest) => (characters.map (character :: ·), rest) := by
  rcases escaped_cases character with ⟨code, coded, read⟩ | ⟨plain, quote, backslash, visible⟩
  · rw [coded, List.cons_append, quotedRest?, if_neg (by decide), if_pos rfl, read rest]
    simp only [Option.bind_eq_bind, Option.bind_some]
    cases quotedRest? fuel rest with
    | none => rfl
    | some result =>
      obtain ⟨characters, behind⟩ := result
      cases characters <;> rfl
  · rw [plain, List.singleton_append, quotedRest?, if_neg quote, if_neg backslash, if_neg visible]
    cases quotedRest? fuel rest <;> rfl

theorem quotedRest?_flatMap (characters : List Char) {fuel : Nat} (enough : characters.length < fuel)
    (rest : List Char) : quotedRest? fuel (characters.flatMap Json.escaped ++ '"' :: rest) =
      some (some characters, rest) := by
  induction characters generalizing fuel with
  | nil =>
    obtain ⟨fuel, rfl⟩ := Nat.exists_eq_add_of_lt enough
    simp [quotedRest?]
  | cons character others ih =>
    obtain ⟨less, rfl⟩ := Nat.exists_eq_add_of_lt enough
    rw [List.flatMap_cons, List.append_assoc, quotedRest?_escaped, ih]
    · rfl
    · rw [List.length_cons]
      omega

theorem length_le_flatMap (characters : List Char) :
    characters.length ≤ (characters.flatMap Json.escaped).length := by
  induction characters with
  | nil => exact Nat.le_refl 0
  | cons character others ih =>
    have one : 0 < (Json.escaped character).length := by
      rcases escaped_cases character with ⟨code, coded, -⟩ | ⟨plain, -⟩
      · rw [coded]; exact Nat.succ_pos _
      · rw [plain]; exact Nat.succ_pos _
    rw [List.flatMap_cons, List.length_append, List.length_cons]
    omega

/-- A text in quotes is read back. -/
theorem text?_quoted (value : String) (rest : List Char) :
    text? (value.toList.flatMap Json.escaped ++ '"' :: rest) = some (some value, rest) := by
  have length := length_le_flatMap value.toList
  rw [text?, quotedRest?_flatMap value.toList (by rw [List.length_append, List.length_cons]; omega)]
  simp

/-- What is read behind white space, where there is none. -/
theorem skipSpaces_cons {first : Char} (visible : isSpace first = false) (rest : List Char) :
    skipSpaces (first :: rest) = first :: rest :=
  List.dropWhile_cons_of_neg (by simp [visible])

/-- A text begins neither with white space nor with the end of an array, so that a value can be read. -/
def StartsValue (text : List Char) : Prop :=
  ∃ first rest, text = first :: rest ∧ isSpace first = false ∧ first ≠ ']'

theorem StartsValue.skipSpaces {text : List Char} (starts : StartsValue text) (rest : List Char) :
    skipSpaces (text ++ rest) = text ++ rest := by
  obtain ⟨first, others, rfl, visible, -⟩ := starts
  exact skipSpaces_cons visible _

theorem StartsValue.append {text : List Char} (starts : StartsValue text) (rest : List Char) :
    StartsValue (text ++ rest) := by
  obtain ⟨first, others, rfl, begins⟩ := starts
  exact ⟨first, others ++ rest, rfl, begins⟩

theorem startsValue_numeral {characters left : List Char} {numeral : JsonNumeral}
    (read : numeral? characters = some (numeral, left)) : StartsValue characters := by
  obtain ⟨first, rest, rfl, mark⟩ := numeral?_begins read
  refine ⟨first, rest, rfl, ?_⟩
  rcases mark with rfl | digit
  · decide
  · refine ⟨?_, ?_⟩
    · cases space : isSpace first with
      | false => rfl
      | true =>
        simp only [isSpace, Bool.or_eq_true, decide_eq_true_eq] at space
        rcases space with ((rfl | rfl) | rfl) | rfl <;> cases digit
    · rintro rfl
      cases digit

theorem characters_starts {document : Json} (legible : document.Legible) :
    StartsValue document.characters := by
  cases legible with
  | null => exact ⟨'n', _, rfl, rfl, by decide⟩
  | bool value =>
    cases value with
    | true => exact ⟨'t', _, rfl, rfl, by decide⟩
    | false => exact ⟨'f', _, rfl, rfl, by decide⟩
  | integer value => exact startsValue_numeral (numeral?_integer value)
  | @real value readBack =>
    rw [Json.characters, if_pos readBack.finite]
    exact startsValue_numeral readBack.written
  | text value => exact ⟨'"', _, rfl, rfl, by decide⟩
  | array inner => exact ⟨'[', _, rfl, rfl, by decide⟩
  | object inner => exact ⟨'\x7b', _, rfl, rfl, by decide⟩

/-- A document is read from its text, whatever follows it. Enough fuel is one unit for each character. -/
def Rereads (document : Json) : Prop :=
  ∀ fuel rest, document.characters.length ≤ fuel → EndsValue rest →
    value? fuel (document.characters ++ rest) = some (document.source, rest)

/-- A value that begins with a sign or a digit is a numeral. -/
theorem value?_numeral {first : Char} (mark : first = '-' ∨ first.isDigit = true) (fuel : Nat)
    (rest : List Char) : value? (fuel + 1) (first :: rest) =
      (numeral? (first :: rest)).map fun (numeral, rest) => (.number numeral, rest) := by
  have other : first ≠ 'n' ∧ first ≠ 't' ∧ first ≠ 'f' ∧ first ≠ '"' ∧ first ≠ '[' ∧ first ≠ '\x7b' := by
    refine ⟨?_, ?_, ?_, ?_, ?_, ?_⟩ <;> rintro rfl <;> revert mark <;> decide
  obtain ⟨null, true, false, quote, bracket, brace⟩ := other
  unfold value?
  split
  next names => exact absurd (List.cons.inj names).1 null
  next names => exact absurd (List.cons.inj names).1 true
  next names => exact absurd (List.cons.inj names).1 false
  next names => exact absurd (List.cons.inj names).1 quote
  next names => exact absurd (List.cons.inj names).1 bracket
  next names => exact absurd (List.cons.inj names).1 brace
  next => cases numeral? (first :: rest) <;> rfl

theorem rereads_numeral {document : Json} {numeral : JsonNumeral}
    (written : numeral? document.characters = some (numeral, []))
    (isNumeral : document.source = .number numeral) : Rereads document := by
  intro fuel rest enough ends
  have read := numeral?_append ends written
  obtain ⟨first, others, parts, mark⟩ := numeral?_begins written
  rw [parts] at enough read ⊢
  cases fuel with
  | zero => cases enough
  | succ fuel =>
    rw [List.cons_append, value?_numeral mark, ← List.cons_append, read, isNumeral]
    rfl

theorem itemCharacters_cons_cons (item second : Json) (others : List Json) :
    Json.itemCharacters (item :: second :: others) =
      item.characters ++ ',' :: Json.itemCharacters (second :: others) := by
  rw [Json.itemCharacters]
  exact List.cons_ne_nil _ _

/-- Items begin as the first one does. -/
theorem itemCharacters_starts {item : Json} {others : List Json} (legible : item.Legible) :
    StartsValue (Json.itemCharacters (item :: others)) := by
  cases others with
  | nil => exact characters_starts legible
  | cons second others =>
    rw [itemCharacters_cons_cons]
    exact (characters_starts legible).append _

/-- The items of an array are read up to its closing bracket. -/
theorem items?_itemCharacters {items : List Json} (nonempty : items ≠ [])
    (legible : ∀ item ∈ items, item.Legible) (each : ∀ item ∈ items, Rereads item) {fuel : Nat}
    (enough : (Json.itemCharacters items).length < fuel) (rest : List Char) :
    items? fuel (Json.itemCharacters items ++ ']' :: rest) = some (Json.itemSources items, rest) := by
  induction items generalizing fuel with
  | nil => exact absurd rfl nonempty
  | cons item others ih =>
    obtain ⟨fuel, rfl⟩ := Nat.exists_eq_succ_of_ne_zero (Nat.ne_zero_of_lt enough)
    have first := each item List.mem_cons_self
    cases others with
    | nil =>
      have ends : EndsValue (']' :: rest) := by simp [EndsValue]
      have read := first fuel (']' :: rest) (Nat.le_of_lt_succ enough) ends
      simp only [Json.itemCharacters, items?, read, Option.bind_eq_bind, Option.bind_some]
      rfl
    | cons second others =>
      rw [itemCharacters_cons_cons, List.length_append, List.length_cons] at enough
      have starts : StartsValue (Json.itemCharacters (second :: others)) :=
        itemCharacters_starts (legible second (.tail _ List.mem_cons_self))
      have behind := @ih (List.cons_ne_nil _ _) (fun item member => legible item (.tail _ member))
        (fun item member => each item (.tail _ member)) fuel (by omega)
      have ends : EndsValue (',' :: (Json.itemCharacters (second :: others) ++ ']' :: rest)) := by
        simp [EndsValue]
      have read := first fuel _ (by omega) ends
      have comma := @skipSpaces_cons ',' rfl
      rw [itemCharacters_cons_cons, List.append_assoc, List.cons_append, items?]
      simp only [read, comma, starts.skipSpaces, behind, Option.bind_eq_bind, Option.bind_some]
      rfl

/-- A name in quotes is read with the colon behind it. -/
theorem fieldName?_quoted (name : String) {text : List Char} (starts : StartsValue text) :
    fieldName? (Json.quoted name ++ ':' :: text) = some (some name, text) := by
  obtain ⟨first, others, rfl, visible, -⟩ := starts
  have colon := @skipSpaces_cons ':' rfl
  rw [Json.quoted, List.cons_append, List.cons_append, List.append_assoc, List.singleton_append, fieldName?]
  simp only [text?_quoted, colon, skipSpaces_cons visible, Option.bind_eq_bind, Option.bind_some]
  rfl

theorem fieldCharacters_cons_cons (name : String) (value : Json) (second : String × Json)
    (others : List (String × Json)) : Json.fieldCharacters ((name, value) :: second :: others) =
      Json.quoted name ++ ':' :: value.characters ++ ',' :: Json.fieldCharacters (second :: others) := by
  rw [Json.fieldCharacters]
  exact List.cons_ne_nil _ _

/-- Fields begin with the quote of the first name. -/
theorem fieldCharacters_starts (field : String × Json) (others : List (String × Json)) :
    ∃ rest, Json.fieldCharacters (field :: others) = '"' :: rest := by
  cases others with
  | nil => exact ⟨_, rfl⟩
  | cons second others =>
    rw [fieldCharacters_cons_cons]
    exact ⟨_, rfl⟩

/-- The fields of an object are read up to its closing brace. -/
theorem fields?_fieldCharacters {fields : List (String × Json)} (nonempty : fields ≠ [])
    (legible : ∀ field ∈ fields, field.2.Legible) (each : ∀ field ∈ fields, Rereads field.2) {fuel : Nat}
    (enough : (Json.fieldCharacters fields).length < fuel) (rest : List Char) :
    fields? fuel (Json.fieldCharacters fields ++ '\x7d' :: rest) = some (Json.fieldSources fields, rest) := by
  induction fields generalizing fuel with
  | nil => exact absurd rfl nonempty
  | cons field others ih =>
    obtain ⟨fuel, rfl⟩ := Nat.exists_eq_succ_of_ne_zero (Nat.ne_zero_of_lt enough)
    obtain ⟨name, value⟩ := field
    have first : Rereads value := each _ List.mem_cons_self
    have starts := characters_starts (legible _ List.mem_cons_self)
    cases others with
    | nil =>
      rw [Json.fieldCharacters, List.length_append, List.length_cons] at enough
      have ends : EndsValue ('\x7d' :: rest) := by simp [EndsValue]
      have read := first fuel ('\x7d' :: rest) (by omega) ends
      have named := fieldName?_quoted name (starts.append ('\x7d' :: rest))
      rw [Json.fieldCharacters, List.append_assoc, List.cons_append, fields?]
      simp only [named, read, Option.bind_eq_bind, Option.bind_some]
      rfl
    | cons second others =>
      rw [fieldCharacters_cons_cons, List.length_append, List.length_append, List.length_cons,
        List.length_cons] at enough
      have behind := @ih (List.cons_ne_nil _ _) (fun field member => legible field (.tail _ member))
        (fun field member => each field (.tail _ member)) fuel (by omega)
      obtain ⟨text, begins⟩ := fieldCharacters_starts second others
      rw [begins, List.cons_append] at behind
      have ends : EndsValue (',' :: '"' :: (text ++ '\x7d' :: rest)) := by simp [EndsValue]
      have read := first fuel _ (by omega) ends
      have named := fieldName?_quoted name (starts.append (',' :: '"' :: (text ++ '\x7d' :: rest)))
      have comma := @skipSpaces_cons ',' rfl
      have quote := @skipSpaces_cons '"' rfl
      rw [fieldCharacters_cons_cons, begins, List.append_assoc, List.append_assoc, List.cons_append,
        List.cons_append, List.cons_append, fields?]
      simp only [named, read, comma, quote, behind, Option.bind_eq_bind, Option.bind_some]
      rfl

/-- An array is read as its items are. -/
theorem rereads_array {items : List Json} (legible : ∀ item ∈ items, item.Legible)
    (each : ∀ item ∈ items, Rereads item) : Rereads (.array items) := by
  intro fuel rest enough ends
  rw [Json.characters, List.cons_append, List.length_cons, List.length_append] at enough
  obtain ⟨fuel, rfl⟩ := Nat.exists_eq_succ_of_ne_zero (Nat.ne_zero_of_lt enough)
  rw [Json.characters, List.cons_append, List.cons_append, List.append_assoc, List.singleton_append]
  cases items with
  | nil =>
    have bracket := @skipSpaces_cons ']' rfl
    simp only [Json.itemCharacters, List.nil_append, value?, bracket]
    rfl
  | cons item others =>
    have starts : StartsValue (Json.itemCharacters (item :: others)) :=
      itemCharacters_starts (legible item List.mem_cons_self)
    have read := items?_itemCharacters (List.cons_ne_nil _ _) legible each
      (Nat.lt_of_succ_le (Nat.le_of_succ_le_succ enough)) rest
    obtain ⟨first, behind, parts, visible, opens⟩ := starts.append (']' :: rest)
    rw [parts] at read ⊢
    simp only [value?, skipSpaces_cons visible]
    split
    next closes => exact absurd (List.cons.inj closes).1 opens
    next =>
      rw [read]
      rfl

/-- An object is read as its fields are. -/
theorem rereads_object {fields : List (String × Json)} (legible : ∀ field ∈ fields, field.2.Legible)
    (each : ∀ field ∈ fields, Rereads field.2) : Rereads (.object fields) := by
  intro fuel rest enough ends
  rw [Json.characters, List.cons_append, List.length_cons, List.length_append] at enough
  obtain ⟨fuel, rfl⟩ := Nat.exists_eq_succ_of_ne_zero (Nat.ne_zero_of_lt enough)
  rw [Json.characters, List.cons_append, List.cons_append, List.append_assoc, List.singleton_append]
  cases fields with
  | nil =>
    have brace := @skipSpaces_cons '\x7d' rfl
    simp only [Json.fieldCharacters, List.nil_append, value?, brace]
    rfl
  | cons field others =>
    obtain ⟨text, begins⟩ := fieldCharacters_starts field others
    have read := fields?_fieldCharacters (List.cons_ne_nil _ _) legible each
      (Nat.lt_of_succ_le (Nat.le_of_succ_le_succ enough)) rest
    rw [begins, List.cons_append] at read ⊢
    have quote := @skipSpaces_cons '"' rfl
    simp only [value?, quote]
    split
    next closes => cases (List.cons.inj closes).1
    next =>
      rw [read]
      rfl

/-- A text is read between its quotes. -/
theorem rereads_text (value : String) : Rereads (.text value) := by
  intro fuel rest enough ends
  rw [Json.characters, Json.quoted, List.cons_append, List.length_cons] at enough
  obtain ⟨fuel, rfl⟩ := Nat.exists_eq_succ_of_ne_zero (Nat.ne_zero_of_lt enough)
  rw [Json.characters, Json.quoted, List.cons_append, List.cons_append, List.append_assoc,
    List.singleton_append]
  simp only [value?, text?_quoted, Option.bind_eq_bind, Option.bind_some]
  rfl

/-- A fixed word is read as it stands. -/
theorem word?_append (word : String) (rest : List Char) : word? word (word.toList ++ rest) = some rest := by
  rw [word?, if_pos (List.isPrefixOf_iff_prefix.mpr (List.prefix_append _ _)), ← String.length_toList,
    List.drop_left]

/-- Every part of a document is read in its place, by induction on the document. -/
theorem rereads_of_legible {document : Json} (legible : document.Legible) : Rereads document := by
  induction legible with
  | null =>
    intro fuel rest enough ends
    obtain ⟨fuel, rfl⟩ := Nat.exists_eq_succ_of_ne_zero (Nat.ne_zero_of_lt enough)
    exact congrArg (Option.map fun rest => (JsonSource.null, rest)) (word?_append "null" rest)
  | bool value =>
    intro fuel rest enough ends
    cases value with
    | true =>
      obtain ⟨fuel, rfl⟩ := Nat.exists_eq_succ_of_ne_zero (Nat.ne_zero_of_lt enough)
      exact congrArg (Option.map fun rest => (JsonSource.bool true, rest)) (word?_append "true" rest)
    | false =>
      obtain ⟨fuel, rfl⟩ := Nat.exists_eq_succ_of_ne_zero (Nat.ne_zero_of_lt enough)
      exact congrArg (Option.map fun rest => (JsonSource.bool false, rest)) (word?_append "false" rest)
  | integer value => exact rereads_numeral (numeral?_integer value) rfl
  | @real value readBack =>
    refine rereads_numeral ?_ rfl
    rw [Json.characters, if_pos readBack.finite]
    exact readBack.written
  | text value => exact rereads_text value
  | array inner ih => exact rereads_array inner ih
  | object inner ih => exact rereads_object inner ih

/-- A document whose real numbers are read back is read from its text as it is written. -/
theorem ofText?_toText {document : Json} (legible : document.Legible) :
    ofText? document.toText = some document.source := by
  have ends : EndsValue [] := by simp [EndsValue]
  have read := rereads_of_legible legible (document.characters.length + 1) [] (Nat.le_succ _) ends
  have spaces := (characters_starts legible).skipSpaces []
  rw [List.append_nil] at read spaces
  rw [ofText?, Json.toText]
  simp only [String.toList_ofList, spaces, read, Option.bind_eq_bind, Option.bind_some]
  rfl

end JsonSource

end QueryTree
