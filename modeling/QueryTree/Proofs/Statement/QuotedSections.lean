/-
This file proves that no text of a request escapes its quotes: between quotes a statement has names
that the request states, and outside of them it has fixed words, placeholders and bounds only.
-/
import QueryTree.Proofs.Statement.RequestNames

namespace QueryTree

/-- A character that may stand outside of quotes: a part of a name, a blank or a mark. -/
def isPlain (character : Char) : Bool :=
  isNamePart character || [' ', '.', ',', '(', ')', '*', '=', '<', '>', '$', '@'].contains character

theorem isPlain_of_isNamePart {character : Char} (part : isNamePart character = true) :
    isPlain character = true := by
  simp [isPlain, part]

theorem isPlain_of_isDigit {character : Char} (digit : character.isDigit = true) :
    isPlain character = true :=
  isPlain_of_isNamePart (by simp [isNamePart, Char.isAlphanum, digit])

/-- A quote that no statement needs otherwise is none of the characters outside of quotes. -/
theorem isPlain_other {quote character : Char} (foreign : isPlain quote = false)
    (plain : isPlain character = true) : character ≠ quote := by
  rintro rfl
  rw [plain] at foreign
  cases foreign

theorem Name.quote_not_mem {quote : Char} (foreign : isPlain quote = false) (name : Name) :
    quote ∉ name.characters := fun member =>
  isPlain_other foreign (isPlain_of_isNamePart (name.isNamePart_of_mem _ member)) rfl

theorem Keyword.text_plain (word : Keyword) :
    ∀ character ∈ word.text.toList, isPlain character = true := by
  have plain : word.text.toList.all isPlain = true := by cases word <;> decide
  exact List.all_eq_true.mp plain

theorem toDigits_plain (number : Nat) :
    ∀ character ∈ Nat.toDigits 10 number, isPlain character = true :=
  fun _ member => isPlain_of_isDigit (Text.isDigit_of_mem_toDigits number _ member)

theorem Dialect.placeholder_plain (dialect : Dialect) (position : Nat) :
    ∀ character ∈ dialect.placeholderCharacters position, isPlain character = true := by
  unfold placeholderCharacters
  cases dialect.placeholderStyle with
  | dollar => exact List.forall_mem_cons.mpr ⟨by decide, toDigits_plain _⟩
  | «at» =>
    exact List.forall_mem_cons.mpr ⟨by decide, List.forall_mem_cons.mpr ⟨by decide, toDigits_plain _⟩⟩

/-- A text of fixed words and marks, the first placeholders of a dialect, and given numbers. -/
inductive Unquoted (dialect : Dialect) (placeholders : Nat) (numbers : List Nat) :
    List Char → Prop where
  | nothing : Unquoted dialect placeholders numbers []
  | keyword (word : Keyword) {rest : List Char} : Unquoted dialect placeholders numbers rest →
      Unquoted dialect placeholders numbers (word.text.toList ++ rest)
  | point {rest : List Char} : Unquoted dialect placeholders numbers rest →
      Unquoted dialect placeholders numbers ('.' :: rest)
  | wildcard {rest : List Char} : Unquoted dialect placeholders numbers rest →
      Unquoted dialect placeholders numbers ('*' :: rest)
  | placeholder {position : Nat} {rest : List Char} : position < placeholders →
      Unquoted dialect placeholders numbers rest →
      Unquoted dialect placeholders numbers (dialect.placeholderCharacters position ++ rest)
  | numeral {number : Nat} {rest : List Char} : number ∈ numbers →
      Unquoted dialect placeholders numbers rest →
      Unquoted dialect placeholders numbers (Nat.toDigits 10 number ++ rest)

/-- A text that is a segment of one of the identifiers, and a name. -/
def QuotedName (identifiers : List String) (text : List Char) : Prop :=
  isName text = true ∧ ∃ identifier ∈ identifiers, text ∈ Identifier.segments identifier.toList

theorem Unquoted.plain {dialect : Dialect} {placeholders : Nat} {numbers : List Nat}
    {text : List Char} (unquoted : Unquoted dialect placeholders numbers text) :
    ∀ character ∈ text, isPlain character = true := by
  induction unquoted with
  | nothing => simp
  | keyword word _ ih => exact List.forall_mem_append.mpr ⟨word.text_plain, ih⟩
  | point _ ih => exact List.forall_mem_cons.mpr ⟨by decide, ih⟩
  | wildcard _ ih => exact List.forall_mem_cons.mpr ⟨by decide, ih⟩
  | placeholder _ _ ih => exact List.forall_mem_append.mpr ⟨dialect.placeholder_plain _, ih⟩
  | numeral _ _ ih => exact List.forall_mem_append.mpr ⟨toDigits_plain _, ih⟩

theorem QuotedName.plain {identifiers : List String} {text : List Char}
    (quoted : QuotedName identifiers text) : ∀ character ∈ text, isPlain character = true :=
  fun character member => isPlain_of_isNamePart (Name.isNamePart_of_mem ⟨text, quoted.1⟩ character member)

/-- Sections of a text that stand outside and inside of quotes in turn. -/
inductive Alternating (outside inside : List Char → Prop) : List (List Char) → Prop where
  | last {section_ : List Char} : outside section_ → Alternating outside inside [section_]
  | more {before quoted : List Char} {rest : List (List Char)} : outside before → inside quoted →
      Alternating outside inside rest → Alternating outside inside (before :: quoted :: rest)

namespace Alternating

variable {outside inside : List Char → Prop} {sections : List (List Char)}

/-- What stands in front of a text belongs to its first section. -/
theorem modifyHead (alternating : Alternating outside inside sections)
    {change : List Char → List Char} (kept : ∀ text, outside text → outside (change text)) :
    Alternating outside inside (sections.modifyHead change) := by
  cases alternating with
  | last first => exact .last (kept _ first)
  | more first quoted rest => exact .more (kept _ first) quoted rest

theorem length_odd (alternating : Alternating outside inside sections) :
    sections.length % 2 = 1 := by
  induction alternating with
  | last => rfl
  | more _ _ _ ih =>
    simp only [List.length_cons]
    omega

/-- The sections inside of quotes are those at odd positions. -/
theorem at_index (alternating : Alternating outside inside sections) {index : Nat}
    {section_ : List Char} (found : sections[index]? = some section_) :
    if index % 2 = 1 then inside section_ else outside section_ := by
  induction alternating generalizing index with
  | last first =>
    cases index with
    | zero =>
      cases found
      exact first
    | succ index => simp at found
  | more first quoted _ ih =>
    match index with
    | 0 =>
      cases found
      exact first
    | 1 =>
      cases found
      exact quoted
    | index + 2 =>
      have later := ih found
      have parity : (index + 2) % 2 = index % 2 := by omega
      rwa [parity]

end Alternating

/-- A character of a text is the separator or stands in a section. -/
theorem mem_splitOn (separator : Char) {character : Char} {text : List Char} (member : character ∈ text) :
    character = separator ∨ ∃ section_ ∈ text.splitOn separator, character ∈ section_ := by
  induction text with
  | nil => cases member
  | cons first rest ih =>
    rw [List.splitOn_cons_eq_if_modifyHead]
    split
    next same =>
      rcases List.mem_cons.mp member with rfl | later
      · exact .inl (by simpa using same)
      · obtain equal | ⟨section_, listed, inside⟩ := ih later
        · exact .inl equal
        · exact .inr ⟨section_, List.mem_cons_of_mem _ listed, inside⟩
    next =>
      cases sections : rest.splitOn separator with
      | nil => exact absurd sections (List.splitOn_ne_nil separator rest)
      | cons head others =>
        rw [sections] at ih
        rw [List.modifyHead_cons]
        rcases List.mem_cons.mp member with rfl | later
        · exact .inr ⟨_, List.mem_cons_self, List.mem_cons_self⟩
        · obtain equal | ⟨section_, listed, inside⟩ := ih later
          · exact .inl equal
          · rcases List.mem_cons.mp listed with rfl | behind
            · exact .inr ⟨_, List.mem_cons_self, List.mem_cons_of_mem _ inside⟩
            · exact .inr ⟨section_, List.mem_cons_of_mem _ behind, inside⟩

/-- A text without the separator in front of another one belongs to its first section. -/
theorem splitOn_append_of_not_mem {separator : Char} {front : List Char} (absent : separator ∉ front)
    (rest : List Char) :
    (front ++ rest).splitOn separator = (rest.splitOn separator).modifyHead (front ++ ·) := by
  induction front with
  | nil =>
    simp only [List.nil_append]
    cases rest.splitOn separator <;> rfl
  | cons first others ih =>
    simp only [List.mem_cons, not_or] at absent
    have different : (first == separator) = false := by simpa using Ne.symm absent.1
    rw [List.cons_append, List.splitOn_cons_eq_if_modifyHead, different, ih absent.2]
    simp [List.modifyHead_modifyHead, Function.comp_def]

namespace Identifier

/-- The segments of a text are the parts of the identifier that is read from it. -/
theorem readParts_plain {whole : String} {segments : List (List Char)}
    {parts : List IdentifierPart} (read : readParts whole segments = .ok parts) :
    parts.map IdentifierPart.plain = segments := by
  induction segments generalizing parts with
  | nil =>
    cases read
    rfl
  | cons segment rest ih =>
    rw [readParts] at read
    split at read
    next wildcard =>
      split at read
      next last =>
        cases read
        simp [IdentifierPart.plain, wildcard, List.isEmpty_iff.mp last]
      next => cases read
    next =>
      obtain ⟨name, readName, read⟩ := bind_ok read
      obtain ⟨others, readOthers, made⟩ := bind_ok read
      cases made
      have same : name.characters = segment := by
        unfold Identifier.readName at readName
        split at readName
        · cases readName
        · split at readName
          · split at readName
            · cases readName
            · cases readName
              rfl
          · cases readName
      simp [IdentifierPart.plain, same, ih readOthers]

theorem parse_segments {text : String} {identifier : Identifier}
    (parsed : parse text = .ok identifier) :
    identifier.parts.map IdentifierPart.plain = segments text.toList := by
  unfold parse at parsed
  split at parsed
  · cases parsed
  · obtain ⟨parts, read, rfl⟩ := map_ok parsed
    exact readParts_plain read

end Identifier

section Sections

variable {dialect : Dialect} {placeholders : Nat} {names : List String} {numbers : List Nat}

/-- Plain characters in front of a text leave its sections alternating. -/
theorem Alternating.front {inside : List Char → Prop} {front rest : List Char}
    (foreign : isPlain dialect.quote = false) (plain : ∀ character ∈ front, isPlain character = true)
    (kept : ∀ text, Unquoted dialect placeholders numbers text →
      Unquoted dialect placeholders numbers (front ++ text))
    (alternating : Alternating (Unquoted dialect placeholders numbers) inside
      (rest.splitOn dialect.quote)) :
    Alternating (Unquoted dialect placeholders numbers) inside
      ((front ++ rest).splitOn dialect.quote) := by
  have absent : dialect.quote ∉ front := fun member =>
    isPlain_other foreign (plain _ member) rfl
  rw [splitOn_append_of_not_mem absent]
  exact alternating.modifyHead kept

/-- A part of an identifier in front of a text adds a name in quotes, or a wildcard. -/
theorem IdentifierPart.sections_quoted {inside : List Char → Prop} {part : IdentifierPart}
    {rest : List Char} (foreign : isPlain dialect.quote = false)
    (named : ∀ name, part = .named name → inside name.characters)
    (alternating : Alternating (Unquoted dialect placeholders numbers) inside
      (rest.splitOn dialect.quote)) :
    Alternating (Unquoted dialect placeholders numbers) inside
      ((part.quoted dialect.quote ++ rest).splitOn dialect.quote) := by
  cases part with
  | wildcard =>
    have plain : ∀ character ∈ ['*'], isPlain character = true :=
      List.forall_mem_singleton.mpr rfl
    exact alternating.front foreign plain fun _ => .wildcard
  | named name =>
    have absent := name.quote_not_mem foreign
    have text : (IdentifierPart.named name).quoted dialect.quote ++ rest =
        [] ++ dialect.quote :: (name.characters ++ dialect.quote :: rest) := by
      simp [quoted]
    rw [text, List.splitOn_append_cons_self_of_not_mem (by simp),
      List.splitOn_append_cons_self_of_not_mem absent]
    exact .more .nothing (named name rfl) alternating

/-- An identifier in front of a text adds its names in quotes, by induction on its parts. -/
theorem Identifier.sections_quoted {inside : List Char → Prop} {parts : List IdentifierPart}
    {rest : List Char} (foreign : isPlain dialect.quote = false)
    (named : ∀ name, IdentifierPart.named name ∈ parts → inside name.characters)
    (alternating : Alternating (Unquoted dialect placeholders numbers) inside
      (rest.splitOn dialect.quote)) :
    Alternating (Unquoted dialect placeholders numbers) inside
      ((joined (parts.map (IdentifierPart.quoted dialect.quote)) ++ rest).splitOn
        dialect.quote) := by
  induction parts with
  | nil => exact alternating
  | cons part others ih =>
    have first (name : Name) (same : part = .named name) : inside name.characters :=
      named name (same ▸ List.mem_cons_self)
    have later := ih fun name member => named name (List.mem_cons_of_mem part member)
    cases others with
    | nil => exact part.sections_quoted foreign first alternating
    | cons second others =>
      have point : ∀ character ∈ ['.'], isPlain character = true :=
        List.forall_mem_singleton.mpr rfl
      simp only [List.map_cons, joined, List.append_assoc, List.cons_append] at later ⊢
      exact part.sections_quoted foreign first (later.front foreign point fun _ => .point)

/-- The sections of a text that pieces make up alternate, by induction on the pieces. -/
theorem Piece.sections_text (foreign : isPlain dialect.quote = false) {pieces : List Piece}
    (stated : ∀ piece ∈ pieces, piece.StatedIn names numbers) {position : Nat}
    (counted : position + (values pieces).length ≤ placeholders) :
    Alternating (Unquoted dialect placeholders numbers) (QuotedName names)
      ((text dialect position pieces).splitOn dialect.quote) := by
  induction pieces generalizing position with
  | nil => exact .last .nothing
  | cons piece rest ih =>
    obtain ⟨first, others⟩ := List.forall_mem_cons.mp stated
    cases piece with
    | keyword word =>
      exact (ih others counted).front foreign word.text_plain fun _ => .keyword word
    | numeral number =>
      exact (ih others counted).front foreign (toDigits_plain number) fun _ => .numeral first
    | parameter value =>
      have more : position + 1 + (values rest).length ≤ placeholders := by
        simp only [values, List.filterMap_cons, value?, List.length_cons] at counted
        simp only [values]
        omega
      have inside : position < placeholders := by omega
      exact (ih others more).front foreign (dialect.placeholder_plain position)
        fun _ => .placeholder inside
    | identifier name =>
      obtain ⟨identifier, listed, parsed⟩ := first
      refine Identifier.sections_quoted foreign (fun part member => ?_) (ih others counted)
      refine ⟨part.valid, identifier, listed, ?_⟩
      rw [← Identifier.parse_segments parsed]
      exact List.mem_map.mpr ⟨_, member, rfl⟩

end Sections

namespace Statement

/-- For all requests, kinds of statements, known ways to limit reads and dialects whose quote no
statement needs otherwise: the quotes of a compiled text pair up, what they enclose are names that are
segments of the identifiers that the request states, and the rest is made of fixed words, placeholders
and the bounds. -/
theorem compile_quoted {dialect : Dialect} {style : TailStyle} {kind : StatementKind} {node : Node}
    {compiled : CompiledStatement} (known : dialect.tail = style.tail)
    (foreign : isPlain dialect.quote = false) (compiles : compile dialect kind node = .ok compiled) :
    let sections := compiled.text.toList.splitOn dialect.quote
    sections.length % 2 = 1 ∧
      (∀ index section_, sections[index]? = some section_ →
        if index % 2 = 1 then QuotedName (node.identifiers kind) section_
        else Unquoted dialect compiled.parameters.length node.bounds section_) ∧
      ∀ character ∈ compiled.text.toList,
        character = dialect.quote ∨ isPlain character = true := by
  intro sections
  obtain ⟨statement, parsed, rfl⟩ := map_ok compiles
  have stated := ofNode_stated parsed style
  have counted : 0 + (Piece.values (statement.pieces style)).length ≤
      (statement.written dialect).parameters.length := by
    rw [pieces_values]
    simp [written, Piece.parameters]
  have alternating : Alternating
      (Unquoted dialect (statement.written dialect).parameters.length node.bounds)
      (QuotedName (node.identifiers kind)) sections := by
    simp only [sections, text_known known]
    exact Piece.sections_text foreign stated counted
  refine ⟨alternating.length_odd, fun index section_ found => alternating.at_index found,
    fun character member => ?_⟩
  obtain same | ⟨section_, listed, inside⟩ := mem_splitOn dialect.quote member
  · exact .inl same
  · obtain ⟨index, found⟩ := List.mem_iff_getElem?.mp listed
    have role := alternating.at_index found
    split at role
    · exact .inr (role.plain character inside)
    · exact .inr (role.plain character inside)

/-- A read whose values hold quotes and comments of their own. -/
def hostileRead : Node :=
  ⟨"read", .text "app.users", [
    ⟨"columns", .null, [.leaf "id" (.text "key"), .leaf "users.*" .null]⟩,
    ⟨"where", .null, [.leaf "name.neq" (.text "\"; DROP TABLE users --"),
      ⟨"role.in", .null, [.leaf "'--" (.text "$1\"")]⟩]⟩,
    ⟨"order", .null, [.leaf "id" (.text "desc")]⟩, .leaf "limit" (.int 5)]⟩

set_option maxRecDepth 2000 in
theorem compile_quoted_hostile :
    let text := "SELECT \"id\" AS \"key\", \"users\".* FROM \"app\".\"users\" " ++
      "WHERE \"name\" <> $1 AND \"role\" IN ($2) ORDER BY \"id\" DESC LIMIT 5"
    Dialect.postgres.tail = TailStyle.limitOffset.tail ∧ isPlain Dialect.postgres.quote = false ∧
      compile .postgres .select hostileRead = .ok ⟨text,
        [("$1", .text "\"; DROP TABLE users --"), ("$2", .text "$1\"")], some 5⟩ ∧
      (text.toList.splitOn '"').length % 2 = 1 ∧
      (∀ index section_, (text.toList.splitOn '"')[index]? = some section_ →
        if index % 2 = 1 then
          QuotedName ["app.users", "id", "key", "users.*", "name", "role", "id"] section_
        else Unquoted .postgres 2 [5, 0] section_) ∧
      ∀ character ∈ text.toList, character = '"' ∨ isPlain character = true := by
  intro text
  have foreign : isPlain Dialect.postgres.quote = false := by decide
  have compiles : compile .postgres .select hostileRead = .ok ⟨text,
      [("$1", .text "\"; DROP TABLE users --"), ("$2", .text "$1\"")], some 5⟩ := rfl
  obtain ⟨odd, sections, plain⟩ := compile_quoted rfl foreign compiles
  exact ⟨rfl, foreign, compiles, odd, sections, plain⟩

end Statement

end QueryTree
