/-
This file proves that the text of a single condition is read back as the condition, whatever the
quote of the dialect is.
-/
import QueryTree.Proofs.Statement.Expression
import QueryTree.Proofs.Text.DigitRuns

namespace QueryTree

theorem isNamePart_of_isNameStart {character : Char} (start : isNameStart character = true) :
    isNamePart character = true := by
  simp only [isNameStart, isNamePart, Char.isAlphanum, Bool.or_eq_true] at start ⊢
  tauto

namespace Name

theorem isNamePart_of_mem (name : Name) : ∀ character ∈ name.characters, isNamePart character = true := by
  obtain ⟨characters, valid⟩ := name
  cases characters with
  | nil => cases valid
  | cons first rest =>
    simp only [isName, Bool.and_eq_true, List.all_eq_true] at valid
    exact List.forall_mem_cons.mpr ⟨isNamePart_of_isNameStart valid.1, valid.2⟩

end Name

namespace Predicate

/-- What may follow a part of an identifier. -/
def EndsPart (text : List Char) : Prop := text.head? = some ' ' ∨ text.head? = some '.'

theorem EndsPart.takeWhile {text : List Char} (ends : EndsPart text) :
    text.takeWhile isNamePart = [] := by
  cases text with
  | nil => rfl
  | cons first rest =>
    rcases ends with head | head
    · cases head; rfl
    · cases head; rfl

theorem EndsPart.dropWhile {text : List Char} (ends : EndsPart text) :
    text.dropWhile isNamePart = text := by
  have whole := List.takeWhile_append_dropWhile (p := isNamePart) (l := text)
  rw [ends.takeWhile, List.nil_append] at whole
  exact whole

/-- A quoted name is read back. When the quote may stand in names, it is taken for the last
character of the name first. -/
theorem readName_quoted (quote : Char) (name : Name) {rest : List Char} (ends : EndsPart rest) :
    readName quote (name.characters ++ quote :: rest) = some (name, rest) := by
  obtain ⟨characters, valid⟩ := name
  have parts := Name.isNamePart_of_mem ⟨characters, valid⟩
  by_cases quotePart : isNamePart quote = true
  · have inside : ∀ character ∈ characters ++ [quote], isNamePart character = true :=
      List.forall_mem_append.mpr ⟨parts, by simpa using quotePart⟩
    have split : characters ++ quote :: rest = (characters ++ [quote]) ++ rest := by simp
    have other : rest.head? ≠ some quote := by
      rcases ends with head | head
      all_goals
        rw [head]
        rintro same
        cases same
        exact absurd quotePart (by decide)
    unfold readName
    rw [split, List.takeWhile_append_of_pos inside, List.dropWhile_append_of_pos inside,
      ends.takeWhile, ends.dropWhile]
    simp [other, valid]
  · unfold readName
    rw [List.takeWhile_append_of_pos parts, List.dropWhile_append_of_pos parts,
      List.takeWhile_cons_of_neg quotePart, List.dropWhile_cons_of_neg quotePart]
    simp [valid]

/-- Nothing that ends a part is a quoted name. -/
theorem readName_ends {rest : List Char} (ends : EndsPart rest) : readName '*' rest = none := by
  unfold readName
  rw [ends.takeWhile, ends.dropWhile]
  rcases ends with head | head
  · simp [head]
  · simp [head]

theorem readPart_quoted (quote : Char) (part : IdentifierPart) {rest : List Char}
    (ends : EndsPart rest) : readPart quote (part.quoted quote ++ rest) = some (part, rest) := by
  cases part with
  | named name =>
    have read := readName_quoted quote name ends
    simp [readPart, IdentifierPart.quoted, read]
  | wildcard =>
    by_cases same : '*' = quote
    · subst same
      simp [readPart, IdentifierPart.quoted, readName_ends ends]
    · simp [readPart, IdentifierPart.quoted, same]

/-- A quoted identifier in front of a blank is read back, by induction on its parts. -/
theorem readParts_quoted (quote : Char) {parts : List IdentifierPart} (nonempty : parts ≠ [])
    {rest : List Char} (blank : rest.head? = some ' ') :
    readParts quote (Identifier.joined (parts.map (IdentifierPart.quoted quote)) ++ rest) =
      some (parts, rest) := by
  induction parts with
  | nil => exact absurd rfl nonempty
  | cons part others ih =>
    cases others with
    | nil =>
      rw [readParts]
      simp only [List.map_cons, List.map_nil, Identifier.joined]
      rw [readPart_quoted quote part (.inl blank)]
      simp [blank]
    | cons second others =>
      have read := ih (by simp)
      rw [readParts]
      simp only [List.map_cons, Identifier.joined, List.append_assoc, List.cons_append] at read ⊢
      rw [readPart_quoted quote part (.inr rfl)]
      simp [read]
      omega

/-- A word in front of a text is taken away. -/
theorem dropPrefix?_word (word : String) (rest : List Char) :
    (word.toList ++ rest).dropPrefix? word.toList = some rest :=
  List.dropPrefix?_append_of_beq rest BEq.rfl

/-- The part of a text up to its first digit, and the digits, when it starts so. -/
theorem readPlaceholder_digits {mark digits rest : List Char}
    (marked : mark = ['$'] ∨ mark = ['@', 'p']) (number : ∀ character ∈ digits, character.isDigit = true)
    (nonempty : digits ≠ []) (ends : EndsDigits rest) :
    readPlaceholder (mark ++ digits ++ rest) = some (mark ++ digits, rest) := by
  have first : (digits ++ rest).takeWhile (fun character => !character.isDigit) = [] := by
    cases digits with
    | nil => exact absurd rfl nonempty
    | cons digit others => simp [number digit List.mem_cons_self]
  have letters : ∀ character ∈ mark, (!character.isDigit) = true := by
    intro character member
    rcases marked with rfl | rfl
    · rw [List.mem_singleton.mp member]
      rfl
    · rcases List.mem_pair.mp member with rfl | rfl
      · rfl
      · rfl
  unfold readPlaceholder
  rw [List.append_assoc, List.takeWhile_append_of_pos letters, first, List.append_nil]
  simp only [List.drop_left]
  rw [(ends.cut number).1, (ends.cut number).2]
  simp [marked, nonempty]

/-- A placeholder is read back. -/
theorem readPlaceholder_characters (dialect : Dialect) (position : Nat) {rest : List Char}
    (ends : EndsDigits rest) :
    readPlaceholder (dialect.placeholderCharacters position ++ rest) =
      some (dialect.placeholderCharacters position, rest) := by
  have digits := Text.isDigit_of_mem_toDigits
  unfold Dialect.placeholderCharacters
  cases dialect.placeholderStyle with
  | dollar => exact readPlaceholder_digits (.inl rfl) (digits _) Nat.toDigits_ne_nil ends
  | «at» => exact readPlaceholder_digits (.inr rfl) (digits _) Nat.toDigits_ne_nil ends

/-- The placeholders of values, the first one at a position. -/
def placeholders (dialect : Dialect) (position : Nat) (values : List Value) : List (List Char) :=
  (List.range values.length).map fun index => dialect.placeholderCharacters (position + index)

theorem placeholders_cons (dialect : Dialect) (position : Nat) (value : Value) (rest : List Value) :
    placeholders dialect position (value :: rest) =
      dialect.placeholderCharacters position :: placeholders dialect (position + 1) rest := by
  simp [placeholders, List.range_succ_eq_map, Function.comp_def, Nat.add_assoc, Nat.add_comm 1]

/-- The values between the parentheses of a membership test. -/
def valuePieces (values : List Value) : List Piece :=
  Piece.separated .comma (values.map fun value => [.parameter value])

/-- The placeholders of a membership test are read back, by induction on the values. -/
theorem readPlaceholders_values (dialect : Dialect) (position : Nat) {values : List Value}
    (nonempty : values ≠ []) (rest : List Char) :
    readPlaceholders (Piece.text dialect position (valuePieces values) ++
        (Keyword.closeGroup.text.toList ++ rest)) =
      some (placeholders dialect position values, rest) := by
  induction values generalizing position with
  | nil => exact absurd rfl nonempty
  | cons value others ih =>
    have close : (Keyword.closeGroup.text.toList ++ rest).dropPrefix? ")".toList = some rest :=
      dropPrefix?_word ")" rest
    cases others with
    | nil =>
      rw [readPlaceholders]
      simp only [valuePieces, List.map_cons, List.map_nil, Piece.separated, Piece.text,
        Piece.characters, List.append_nil]
      rw [readPlaceholder_characters dialect position (by simp [EndsDigits, Keyword.text])]
      simp only [close]
      rfl
    | cons second others =>
      have read := ih (position + 1) (by simp)
      have text : Piece.text dialect position (valuePieces (value :: second :: others)) =
          dialect.placeholderCharacters position ++ (Keyword.comma.text.toList ++
            Piece.text dialect (position + 1) (valuePieces (second :: others))) := by
        simp [valuePieces, Piece.separated, Piece.text, Piece.characters, Piece.value?]
      have comma (after : List Char) : (Keyword.comma.text.toList ++ after).dropPrefix?
          ", ".toList = some after := dropPrefix?_word ", " after
      have other (after : List Char) : (Keyword.comma.text.toList ++ after).dropPrefix?
          ")".toList = none := by
        simp [Keyword.text, List.dropPrefix?]
      rw [readPlaceholders, text, placeholders_cons]
      simp only [List.append_assoc]
      rw [readPlaceholder_characters dialect position (by simp [EndsDigits, Keyword.text])]
      simp only [other, comma, read]
      rw [if_pos (by simp [Keyword.text]; omega)]
      rfl

/-- The words of comparisons are told apart by their beginnings. -/
theorem readComparison_other {comparison : Comparison} {word : String × Comparison}
    (listed : word ∈ comparisons) (different : word.2 ≠ comparison) (column : Identifier)
    (rest : List Char) :
    readComparison column (comparison.keyword.text.toList ++ rest) word = none := by
  have none : (comparison.keyword.text.toList ++ rest).dropPrefix? word.1.toList = none := by
    simp only [comparisons, List.mem_cons, List.not_mem_nil, or_false] at listed
    rcases listed with rfl | rfl | rfl | rfl | rfl | rfl | rfl <;> cases comparison <;>
      first
      | exact absurd rfl different
      | simp [Comparison.keyword, Keyword.text, List.dropPrefix?]
  simp [readComparison, none]

theorem findSome?_unique {α β : Type} {f : α → Option β} {found : α} {result : β} {items : List α}
    (member : found ∈ items) (succeeds : f found = some result)
    (others : ∀ item ∈ items, item ≠ found → f item = none) : items.findSome? f = some result := by
  induction items with
  | nil => cases member
  | cons item rest ih =>
    by_cases same : item = found
    · rw [List.findSome?_cons, same, succeeds]
    · rw [List.findSome?_cons, others item List.mem_cons_self same]
      exact ih (List.mem_of_ne_of_mem (Ne.symm same) member) fun other later =>
        others other (List.mem_cons_of_mem item later)

/-- Every comparison is found by its word. -/
theorem comparisons_keyword (comparison : Comparison) :
    (comparison.keyword.text, comparison) ∈ comparisons := by
  cases comparison <;> simp [comparisons, Comparison.keyword, Keyword.text]

theorem comparisons_unique {comparison : Comparison} {word : String × Comparison}
    (listed : word ∈ comparisons) (same : word.2 = comparison) :
    word = (comparison.keyword.text, comparison) := by
  simp only [comparisons, List.mem_cons, List.not_mem_nil, or_false] at listed
  rcases listed with rfl | rfl | rfl | rfl | rfl | rfl | rfl <;> subst same <;> rfl

theorem readTest_compare (dialect : Dialect) (column : Identifier) (comparison : Comparison)
    (position : Nat) {rest : List Char} (ends : EndsDigits rest) :
    readTest column (comparison.keyword.text.toList ++
        (dialect.placeholderCharacters position ++ rest)) =
      some (.compare column comparison (dialect.placeholderCharacters position), rest) := by
  have read : readComparison column (comparison.keyword.text.toList ++
      (dialect.placeholderCharacters position ++ rest)) (comparison.keyword.text, comparison) =
        some (.compare column comparison (dialect.placeholderCharacters position), rest) := by
    simp [readComparison, dropPrefix?_word, readPlaceholder_characters dialect position ends]
  have first := findSome?_unique (comparisons_keyword comparison) read
    fun word listed different => readComparison_other listed
      (fun same => different (comparisons_unique listed same)) column _
  have isNull (after : List Char) : (comparison.keyword.text.toList ++ after).dropPrefix?
      " IS NULL".toList = none := by
    cases comparison <;> simp [Comparison.keyword, Keyword.text, List.dropPrefix?]
  have isNotNull (after : List Char) : (comparison.keyword.text.toList ++ after).dropPrefix?
      " IS NOT NULL".toList = none := by
    cases comparison <;> simp [Comparison.keyword, Keyword.text, List.dropPrefix?]
  have inList (after : List Char) : (comparison.keyword.text.toList ++ after).dropPrefix?
      " IN (".toList = none := by
    cases comparison <;> simp [Comparison.keyword, Keyword.text, List.dropPrefix?]
  simp only [readTest, isNull, isNotNull, inList, first]

theorem readTest_isNull (column : Identifier) (expected : Bool) (rest : List Char) :
    readTest column ((if expected then Keyword.isNull else Keyword.isNotNull).text.toList ++ rest) =
      some (.isNull column expected, rest) := by
  cases expected with
  | true =>
    have word : (Keyword.isNull.text.toList ++ rest).dropPrefix? " IS NULL".toList = some rest :=
      dropPrefix?_word " IS NULL" rest
    simp only [if_true, readTest, word]
  | false =>
    have word : (Keyword.isNotNull.text.toList ++ rest).dropPrefix? " IS NOT NULL".toList =
        some rest := dropPrefix?_word " IS NOT NULL" rest
    have other : (Keyword.isNotNull.text.toList ++ rest).dropPrefix? " IS NULL".toList = none := by
      simp [Keyword.text, List.dropPrefix?]
    simp only [Bool.false_eq_true, if_false, readTest, word, other]

theorem readTest_member (dialect : Dialect) (column : Identifier) (position : Nat)
    {values : List Value} (nonempty : values ≠ []) (rest : List Char) :
    readTest column (Keyword.inList.text.toList ++
        (Piece.text dialect position (valuePieces values) ++
          (Keyword.closeGroup.text.toList ++ rest))) =
      some (.member column (placeholders dialect position values), rest) := by
  have isNull (after : List Char) : (Keyword.inList.text.toList ++ after).dropPrefix?
      " IS NULL".toList = none := by simp [Keyword.text, List.dropPrefix?]
  have isNotNull (after : List Char) : (Keyword.inList.text.toList ++ after).dropPrefix?
      " IS NOT NULL".toList = none := by simp [Keyword.text, List.dropPrefix?]
  have word (after : List Char) : (Keyword.inList.text.toList ++ after).dropPrefix?
      " IN (".toList = some after := dropPrefix?_word " IN (" after
  simp only [readTest, isNull, isNotNull, word,
    readPlaceholders_values dialect position nonempty rest]
  rfl

/-- The first part stands at the beginning of an identifier. -/
theorem quoted_first (quote : Char) {column : Identifier} (nonempty : column.parts ≠ [])
    (rest : List Char) :
    ∃ part tail, column.quoted quote ++ rest = IdentifierPart.quoted quote part ++ tail ∧
      (tail = rest ∨ tail.head? = some '.') := by
  obtain ⟨parts⟩ := column
  cases parts with
  | nil => exact absurd rfl nonempty
  | cons part others =>
    cases others with
    | nil => exact ⟨part, rest, rfl, .inl rfl⟩
    | cons second others =>
      let behind := (second :: others).map (IdentifierPart.quoted quote)
      exact ⟨part, '.' :: (Identifier.joined behind ++ rest),
        by simp [behind, Identifier.quoted, Identifier.joined], .inr rfl⟩

/-- No identifier begins like the condition that never holds. -/
theorem quoted_never (quote : Char) {column : Identifier} (nonempty : column.parts ≠ [])
    (rest : List Char) :
    (column.quoted quote ++ rest).dropPrefix? "1=0".toList = none := by
  obtain ⟨part, tail, split, -⟩ := quoted_first quote nonempty rest
  rw [split]
  cases part with
  | wildcard => simp [IdentifierPart.quoted, List.dropPrefix?]
  | named name =>
    obtain ⟨characters, valid⟩ := name
    cases characters with
    | nil => cases valid
    | cons first others =>
      have other : first ≠ '=' := by
        rintro rfl
        simp [isName, isNameStart] at valid
      simp [IdentifierPart.quoted, List.dropPrefix?, other]

/-- An identifier is read back, and then what is said about it. -/
theorem readLeaf_column (quote : Char) {column : Identifier} (nonempty : column.parts ≠ [])
    {rest : List Char} (blank : rest.head? = some ' ') :
    readLeaf quote (column.quoted quote ++ rest) = readTest column rest := by
  have read := readParts_quoted quote nonempty blank
  unfold readLeaf
  rw [quoted_never quote nonempty rest]
  simp only [Identifier.quoted, read]
  rfl

/-- A word that neither ends with the quote nor stands in front of it is no quoted name. -/
theorem readName_word (quote : Char) (word : List Char) {first : Char} (rest : List Char)
    (parts : word.all isNamePart = true) (stops : isNamePart first = false)
    (behind : first ≠ quote) (last : word.getLast? ≠ some quote) :
    readName quote (word ++ first :: rest) = none := by
  have inside := List.all_eq_true.mp parts
  have outside : ¬isNamePart first = true := by simp [stops]
  unfold readName
  rw [List.takeWhile_append_of_pos inside, List.dropWhile_append_of_pos inside,
    List.takeWhile_cons_of_neg outside, List.dropWhile_cons_of_neg outside, List.append_nil]
  simp [behind, last]

/-- A parenthesis is no single condition, even where it is also the quote. -/
theorem readLeaf_open {quote : Char} {rest : List Char}
    (unnamed : quote = '(' → readName '(' rest = none) :
    readLeaf quote (Keyword.openGroup.text.toList ++ rest) = none := by
  have part : readPart quote (Keyword.openGroup.text.toList ++ rest) = none := by
    by_cases same : '(' = quote
    · simp [readPart, Keyword.text, ← same, unnamed same.symm]
    · simp [readPart, Keyword.text, same]
  have never : (Keyword.openGroup.text.toList ++ rest).dropPrefix? "1=0".toList =
      none := by simp [Keyword.text, List.dropPrefix?]
  rw [readLeaf, never]
  simp only
  rw [readParts, part]
  rfl

/-- A negation is no single condition. -/
theorem readLeaf_negation (quote : Char) (rest : List Char) :
    readLeaf quote (Keyword.openNegation.text.toList ++ rest) = none := by
  have name : readName 'N' ('O' :: 'T' :: ' ' :: '(' :: rest) = none :=
    readName_word 'N' ['O', 'T'] _ (by decide) (by decide) (by decide) (by decide)
  have part : readPart quote (Keyword.openNegation.text.toList ++ rest) = none := by
    by_cases same : 'N' = quote
    · subst same
      simp [readPart, Keyword.text, name]
    · simp [readPart, Keyword.text, same]
  have never : (Keyword.openNegation.text.toList ++ rest).dropPrefix? "1=0".toList =
      none := by simp [Keyword.text, List.dropPrefix?]
  rw [readLeaf, never]
  simp only
  rw [readParts, part]
  rfl

/-- A parenthesis as the quote does not make a name of an opened group. -/
theorem readName_open (rest : List Char) : readName '(' ('(' :: rest) = none := by
  have stops : isNamePart '(' = false := by decide
  simp [readName, stops, isName]

theorem readName_wildcard (rest : List Char) : readName '(' ('*' :: rest) = none :=
  readName_word '(' [] rest (by decide) (by decide) (by decide) (by decide)

theorem readName_never (rest : List Char) :
    readName '(' (Keyword.never.text.toList ++ rest) = none :=
  readName_word '(' ['1'] _ (by decide) (by decide) (by decide) (by decide)

theorem readName_negation (rest : List Char) :
    readName '(' (Keyword.openNegation.text.toList ++ rest) = none :=
  readName_word '(' ['N', 'O', 'T'] _ (by decide) (by decide) (by decide) (by decide)

theorem readName_column {column : Identifier} (nonempty : column.parts ≠ []) (rest : List Char) :
    readName '(' (column.quoted '(' ++ rest) = none := by
  obtain ⟨part, tail, split, -⟩ := quoted_first '(' nonempty rest
  rw [split]
  cases part with
  | named name => exact readName_open _
  | wildcard => exact readName_wildcard _

end Predicate

end QueryTree
