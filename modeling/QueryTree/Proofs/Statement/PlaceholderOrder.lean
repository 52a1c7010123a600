/-
This file proves that the placeholders of a statement, read from left to right, stand for its
parameters one by one, and that these hold the values of the request in their order.
-/
import QueryTree.Proofs.Statement.BoundValues
import QueryTree.Proofs.Statement.QuotedSections

namespace QueryTree

/-- The placeholder that begins at a character: a mark and all digits behind it. -/
def placeholderAt? (first : Char) (rest : List Char) : Option (List Char) :=
  if first = '$' then some ('$' :: rest.takeWhile Char.isDigit)
  else if first = '@' ∧ rest.head? = some 'p' then
    some ('@' :: 'p' :: rest.tail.takeWhile Char.isDigit)
  else none

/-- The placeholders of a text that stand outside of quotes, from left to right. -/
def placeholdersIn (quote : Char) : (quoted : Bool) → List Char → List (List Char)
  | _, [] => []
  | quoted, first :: rest =>
      if first = quote then placeholdersIn quote (!quoted) rest
      else if quoted then placeholdersIn quote quoted rest
      else (placeholderAt? first rest).toList ++ placeholdersIn quote quoted rest

/-- A character that may stand outside of quotes and begins no placeholder. -/
def isSilent (character : Char) : Bool :=
  isPlain character && !(['$', '@'].contains character)

theorem isSilent_of_isDigit {character : Char} (digit : character.isDigit = true) :
    isSilent character = true := by
  have plain := isPlain_of_isDigit digit
  have unmarked : character ≠ '$' ∧ character ≠ '@' := by
    constructor <;>
    · rintro rfl
      cases digit
  simp [isSilent, plain, unmarked]

theorem toDigits_silent (number : Nat) :
    ∀ character ∈ Nat.toDigits 10 number, isSilent character = true :=
  fun _ member => isSilent_of_isDigit (Text.isDigit_of_mem_toDigits number _ member)

/-- Only the test that never holds begins with a digit. -/
theorem Keyword.text_head {word : Keyword} (other : word ≠ .never) :
    word.text.toList.head?.map Char.isDigit = some false := by
  revert other
  cases word <;> decide

theorem Keyword.text_silent (word : Keyword) :
    ∀ character ∈ word.text.toList, isSilent character = true := by
  have silent : word.text.toList.all isSilent = true := by cases word <;> decide
  exact List.all_eq_true.mp silent

/-- A silent character is not the quote, and begins no placeholder. -/
theorem isSilent_other {quote : Char} (foreign : isPlain quote = false) {character : Char}
    (silent : isSilent character = true) : character ≠ quote :=
  isPlain_other foreign (Bool.and_eq_true_iff.mp silent).1

theorem placeholderAt?_silent {character : Char} (silent : isSilent character = true)
    (rest : List Char) : placeholderAt? character rest = none := by
  have unmarked : character ≠ '$' ∧ character ≠ '@' := by
    simp only [isSilent, List.contains_eq_mem, Bool.and_eq_true] at silent
    simpa using silent.2
  simp [placeholderAt?, unmarked]

/-- A placeholder where no digit follows: its mark, outside of quotes, begins it as a whole. -/
theorem placeholderAt?_characters {dialect : Dialect} (foreign : isPlain dialect.quote = false)
    (position : Nat) {rest : List Char} (ends : EndsDigits rest) :
    ∃ mark others, dialect.placeholderCharacters position = mark :: others ∧ mark ≠ dialect.quote ∧
      placeholderAt? mark (others ++ rest) = some (mark :: others) ∧
      ∀ character ∈ others, isSilent character = true := by
  have digits (number : Nat) : (Nat.toDigits 10 number ++ rest).takeWhile Char.isDigit =
      Nat.toDigits 10 number :=
    (ends.cut (Text.isDigit_of_mem_toDigits number)).1
  unfold Dialect.placeholderCharacters
  cases dialect.placeholderStyle with
  | dollar =>
    exact ⟨'$', _, rfl, isPlain_other foreign (by decide), by simp [placeholderAt?, digits],
      toDigits_silent _⟩
  | «at» =>
    exact ⟨'@', _, rfl, isPlain_other foreign (by decide), by simp [placeholderAt?, digits],
      List.forall_mem_cons.mpr ⟨by decide, toDigits_silent _⟩⟩

/-- A text without placeholders: silent characters, and quotes with anything between them. -/
inductive Passive (quote : Char) : List Char → Prop where
  | nil : Passive quote []
  | silent {character : Char} {rest : List Char} : isSilent character = true → Passive quote rest →
      Passive quote (character :: rest)
  | quoted {inside rest : List Char} : quote ∉ inside → Passive quote rest →
      Passive quote (quote :: (inside ++ quote :: rest))

namespace Passive

variable {quote : Char} {front : List Char}

theorem of_silent (silent : ∀ character ∈ front, isSilent character = true) : Passive quote front := by
  induction front with
  | nil => exact .nil
  | cons first others ih =>
    obtain ⟨head, tail⟩ := List.forall_mem_cons.mp silent
    exact .silent head (ih tail)

theorem append {behind : List Char} (passive : Passive quote front) (follows : Passive quote behind) :
    Passive quote (front ++ behind) := by
  induction passive with
  | nil => exact follows
  | silent head _ ih => exact .silent head ih
  | quoted absent _ ih =>
    rw [List.cons_append, List.append_assoc, List.cons_append]
    exact .quoted absent ih

/-- No placeholder is read from such a text. -/
theorem placeholdersIn (foreign : isPlain quote = false) (passive : Passive quote front)
    (rest : List Char) :
    QueryTree.placeholdersIn quote false (front ++ rest) =
      QueryTree.placeholdersIn quote false rest := by
  induction passive with
  | nil => rfl
  | silent head _ ih =>
    rw [List.cons_append, QueryTree.placeholdersIn, if_neg (isSilent_other foreign head),
      placeholderAt?_silent head]
    simpa using ih
  | @quoted inside behind absent _ ih =>
    rw [List.cons_append, List.append_assoc, List.cons_append, QueryTree.placeholdersIn, if_pos rfl,
      ← ih]
    clear ih
    induction inside with
    | nil =>
      rw [List.nil_append, QueryTree.placeholdersIn, if_pos rfl]
      rfl
    | cons first others ih =>
      rw [List.mem_cons, not_or] at absent
      rw [List.cons_append, QueryTree.placeholdersIn, if_neg (Ne.symm absent.1)]
      exact ih absent.2

end Passive

/-- A placeholder is read as a whole when no digit follows. -/
theorem placeholdersIn_placeholder {dialect : Dialect} (foreign : isPlain dialect.quote = false)
    (position : Nat) {rest : List Char} (ends : EndsDigits rest) :
    placeholdersIn dialect.quote false (dialect.placeholderCharacters position ++ rest) =
      dialect.placeholderCharacters position :: placeholdersIn dialect.quote false rest := by
  obtain ⟨mark, others, characters, different, token, silent⟩ :=
    placeholderAt?_characters foreign position ends
  rw [characters, List.cons_append, placeholdersIn, if_neg different, token,
    (Passive.of_silent silent).placeholdersIn foreign]
  rfl

/-- An identifier holds no placeholder, by induction on its parts. -/
theorem Identifier.passive {quote : Char} (foreign : isPlain quote = false)
    (parts : List IdentifierPart) :
    Passive quote (joined (parts.map (IdentifierPart.quoted quote))) := by
  have part (part : IdentifierPart) : Passive quote (part.quoted quote) := by
    cases part with
    | wildcard => exact .silent rfl .nil
    | named name => exact .quoted (name.quote_not_mem foreign) .nil
  induction parts with
  | nil => exact .nil
  | cons first others ih =>
    cases others with
    | nil => exact part first
    | cons second others => exact (part first).append (.silent rfl ih)

/-- A piece that is no parameter holds no placeholder. -/
theorem Piece.characters_passive {quote : Char} (foreign : isPlain quote = false)
    (placeholder : List Char) {piece : Piece} (unbound : piece.value? = none) :
    Passive quote (piece.characters quote placeholder) := by
  cases piece with
  | keyword word => exact .of_silent word.text_silent
  | identifier name => exact Identifier.passive foreign name.parts
  | numeral number => exact .of_silent (toDigits_silent number)
  | parameter value => cases unbound

namespace Piece

/-- Pieces that do not go on with a digit: there are none, or a word comes first. -/
def Separate (pieces : List Piece) : Prop :=
  pieces = [] ∨ ∃ word rest, pieces = .keyword word :: rest ∧ word ≠ .never

/-- Pieces of which no parameter is followed by a digit. -/
inductive Parted : List Piece → Prop where
  | nil : Parted []
  | cons {piece : Piece} {rest : List Piece} : (piece.value?.isSome → Separate rest) →
      Parted rest → Parted (piece :: rest)

theorem Separate.keyword {word : Keyword} (other : word ≠ .never) (rest : List Piece) :
    Separate (.keyword word :: rest) :=
  .inr ⟨word, rest, rfl, other⟩

/-- Text that pieces separate from the text in front of it begins with no digit. -/
theorem Separate.endsDigits {pieces : List Piece} (separate : Separate pieces) (dialect : Dialect)
    (position : Nat) : EndsDigits (text dialect position pieces) := by
  intro character first
  obtain rfl | ⟨word, rest, rfl, other⟩ := separate
  · cases first
  · obtain ⟨start, begins, noDigit⟩ := Option.map_eq_some_iff.mp (Keyword.text_head other)
    rw [text, characters, Option.mem_def, List.head?_append, begins] at first
    cases first
    exact noDigit

namespace Parted

theorem append {front behind : List Piece} (parted : Parted front) (separate : Separate behind)
    (follows : Parted behind) : Parted (front ++ behind) := by
  induction parted with
  | nil => exact follows
  | cons bound _ ih =>
    refine .cons (fun binds => ?_) ih
    obtain rfl | ⟨word, rest, rfl, other⟩ := bound binds
    · exact separate
    · exact .keyword other _

theorem keyword (word : Keyword) {rest : List Piece} (parted : Parted rest) :
    Parted (.keyword word :: rest) :=
  .cons (by simp [value?]) parted

theorem identifier (name : Identifier) {rest : List Piece} (parted : Parted rest) :
    Parted (.identifier name :: rest) :=
  .cons (by simp [value?]) parted

/-- Pieces without parameters may stand in front of any others. -/
theorem unbound_append {front behind : List Piece} (unbound : values front = [])
    (parted : Parted behind) : Parted (front ++ behind) := by
  induction front with
  | nil => exact parted
  | cons piece rest ih =>
    cases piece with
    | parameter value => simp [values, value?] at unbound
    | keyword word => exact .keyword word (ih unbound)
    | identifier name => exact .identifier name (ih unbound)
    | numeral number => exact .cons (by simp [value?]) (ih unbound)

theorem of_unbound {pieces : List Piece} (unbound : values pieces = []) : Parted pieces := by
  rw [← List.append_nil pieces]
  exact unbound_append unbound .nil

theorem separated {separator : Keyword} (other : separator ≠ .never) {runs : List (List Piece)}
    (parted : ∀ run ∈ runs, Parted run) : Parted (separated separator runs) := by
  induction runs with
  | nil => exact .nil
  | cons first others ih =>
    obtain ⟨head, tail⟩ := List.forall_mem_cons.mp parted
    cases others with
    | nil => exact head
    | cons second others =>
      rw [Piece.separated]
      · exact head.append (.keyword other _) (.keyword separator (ih tail))
      · simp

end Parted

/-- The parameters of pieces are named by the placeholders of the first positions. -/
theorem parameters_names (dialect : Dialect) (pieces : List Piece) :
    (parameters dialect pieces).map Prod.fst =
      (List.range (values pieces).length).map dialect.placeholder := by
  apply List.ext_getElem
  · simp [parameters]
  · intro index _ _
    simp [parameters]

theorem parameters_values (dialect : Dialect) (pieces : List Piece) :
    (parameters dialect pieces).map Prod.snd = values pieces := by
  apply List.ext_getElem
  · simp [parameters]
  · intro index _ _
    simp [parameters]

/-- No two parameters of pieces have the same name. -/
theorem parameters_nodup (dialect : Dialect) (pieces : List Piece) :
    ((parameters dialect pieces).map Prod.fst).Nodup := by
  rw [parameters_names]
  apply List.pairwise_map.mpr
  apply List.nodup_range.imp
  intro first second different same
  have characters := String.ofList_injective same
  exact different (dialect.placeholderCharacters_injective characters)

/-- The placeholders of a text that pieces make up are those of its parameters, by induction on the
pieces. -/
theorem placeholdersIn_text {dialect : Dialect} (foreign : isPlain dialect.quote = false)
    {pieces : List Piece} (parted : Parted pieces) (position : Nat) :
    placeholdersIn dialect.quote false (text dialect position pieces) =
      (List.range' position (values pieces).length).map dialect.placeholderCharacters := by
  induction parted generalizing position with
  | nil => rfl
  | @cons piece rest bound _ ih =>
    have unbound (none : piece.value? = none) (same : values (piece :: rest) = values rest) :
        placeholdersIn dialect.quote false (text dialect position (piece :: rest)) =
          (List.range' position (values (piece :: rest)).length).map
            dialect.placeholderCharacters := by
      rw [text, (characters_passive foreign _ none).placeholdersIn foreign, same, none]
      exact ih position
    cases piece with
    | keyword word => exact unbound rfl rfl
    | identifier name => exact unbound rfl rfl
    | numeral number => exact unbound rfl rfl
    | parameter value =>
      have ends := (bound rfl).endsDigits dialect (position + 1)
      have count : (values (.parameter value :: rest)).length = (values rest).length + 1 := rfl
      rw [count, List.range'_succ, List.map_cons, ← ih (position + 1)]
      exact placeholdersIn_placeholder foreign position ends

end Piece

namespace Condition

mutual

/-- No placeholder of a condition is followed by a digit, by recursion on the condition. -/
theorem pieces_parted : ∀ condition : Condition, Piece.Parted condition.pieces
  | compare column comparison value =>
    .identifier column (.keyword _ (.cons (fun _ => .inl rfl) .nil))
  | member column values => by
    rw [pieces]
    split
    · exact .keyword .never .nil
    · have listed : Piece.Parted (Piece.separated .comma
          (values.map fun value => [.parameter value])) := by
        apply Piece.Parted.separated (by decide)
        intro run member
        obtain ⟨value, -, rfl⟩ := List.mem_map.mp member
        exact .cons (fun _ => .inl rfl) .nil
      exact .identifier column (.keyword .inList
        (listed.append (.keyword (by decide) []) (.keyword .closeGroup .nil)))
  | isNull column expected => .identifier column (.keyword _ .nil)
  | group kind conditions => by
    rw [pieces]
    have separator : kind.separator ≠ .never := by cases kind <;> decide
    exact .keyword _ ((joined_parted separator conditions).append (.keyword (by decide) [])
      (.keyword .closeGroup .nil))

theorem joined_parted {separator : Keyword} (other : separator ≠ .never) :
    ∀ conditions : List Condition, Piece.Parted (joined separator conditions)
  | [] => .nil
  | [condition] => pieces_parted condition
  | condition :: second :: rest =>
    (pieces_parted condition).append (.keyword other _)
      (.keyword separator (joined_parted other (second :: rest)))

end

theorem clause_parted (conditions : List Condition) : Piece.Parted (clause conditions) := by
  unfold clause
  split
  · exact .nil
  · exact .keyword .whereClause (joined_parted (by decide) conditions)

theorem clause_separate (conditions : List Condition) : Piece.Separate (clause conditions) := by
  unfold clause
  split
  · exact .inl rfl
  · exact .keyword (by decide) _

end Condition

/-- Runs of pieces that end with their parameters stand apart when commas do. -/
theorem Assignment.separated_parted {pieces : Assignment → List Piece}
    (parted : ∀ assignment, Piece.Parted (pieces assignment)) (assignments : List Assignment) :
    Piece.Parted (Piece.separated .comma (assignments.map pieces)) := by
  apply Piece.Parted.separated (by decide)
  intro run member
  obtain ⟨assignment, -, rfl⟩ := List.mem_map.mp member
  exact parted assignment

namespace Statement

theorem beforeWhere_parted (statement : Statement) : Piece.Parted statement.beforeWhere := by
  cases statement with
  | select read => exact .of_unbound (beforeWhere_select_values read)
  | insert row =>
    have columns := Assignment.separated_parted (fun assignment =>
      show Piece.Parted [.identifier assignment.1] from .identifier _ .nil) row.assignments
    have values := Assignment.separated_parted (fun assignment =>
      show Piece.Parted [.parameter assignment.2] from .cons (fun _ => .inl rfl) .nil)
      row.assignments
    have listed : Piece.Parted (.keyword .insertInto :: .identifier row.table ::
        .keyword .openColumns :: Piece.separated .comma (row.assignments.map fun assignment =>
          [.identifier assignment.1])) := .keyword _ (.identifier _ (.keyword _ columns))
    exact (listed.append (.keyword (by decide) _) (.keyword .openValues values)).append
      (.keyword (by decide) []) (.keyword .closeGroup .nil)
  | update change =>
    have assignments := Assignment.separated_parted (fun assignment =>
      show Piece.Parted [.identifier assignment.1, .keyword .equal, .parameter assignment.2] from
        .identifier _ (.keyword .equal (.cons (fun _ => .inl rfl) .nil))) change.assignments
    exact .keyword .update (.identifier _ (.keyword .set assignments))
  | delete removal => exact .keyword .deleteFrom (.identifier _ .nil)

theorem body_parted (statement : Statement) : Piece.Parted statement.body := by
  rw [body_where]
  exact statement.beforeWhere_parted.append (Condition.clause_separate statement.conditions)
    (Condition.clause_parted statement.conditions)

theorem ending_separate (style : TailStyle) (statement : Statement) :
    Piece.Separate (statement.ending style) := by
  obtain bare | ⟨word, rest, pieces, begun⟩ := statement.ending_cases style
  · exact .inl bare
  · refine .inr ⟨word, rest, pieces, ?_⟩
    rcases begun with rfl | rfl | rfl <;> decide

/-- No placeholder of a statement is followed by a digit where reads are limited in a known way. -/
theorem pieces_parted (style : TailStyle) (statement : Statement) :
    Piece.Parted (statement.pieces style) :=
  statement.body_parted.append (statement.ending_separate style)
    (.of_unbound (statement.ending_values style))

/-- For all requests, kinds of statements, known ways to limit reads and dialects whose quote no
statement needs otherwise: the placeholders of a compiled text, from left to right, are those of the
first positions, they name the parameters, none twice, and the parameters hold the values of the
assignments and then those of the conditions. -/
theorem compile_placeholders {dialect : Dialect} {style : TailStyle} {kind : StatementKind}
    {node : Node} {compiled : CompiledStatement} (known : dialect.tail = style.tail)
    (foreign : isPlain dialect.quote = false) (compiles : compile dialect kind node = .ok compiled) :
    let positions := List.range compiled.parameters.length
    placeholdersIn dialect.quote false compiled.text.toList =
        positions.map dialect.placeholderCharacters ∧
      compiled.parameters.map Prod.fst = positions.map dialect.placeholder ∧
      (compiled.parameters.map Prod.fst).Nodup ∧
      compiled.parameters.map Prod.snd = node.boundValues kind := by
  intro positions
  obtain ⟨statement, parsed, rfl⟩ := map_ok compiles
  have counted : (Piece.values statement.body).length =
      (statement.written dialect).parameters.length := by
    simp [written, Piece.parameters]
  have names := Piece.parameters_names dialect statement.body
  have read := Piece.placeholdersIn_text foreign (statement.pieces_parted style) 0
  rw [pieces_values] at read
  rw [counted] at names read
  rw [← text_known known, ← List.range_eq_range'] at read
  refine ⟨read, names, Piece.parameters_nodup dialect _, ?_⟩
  rw [← ofNode_values parsed]
  exact Piece.parameters_values dialect _

/-- A change with assignments, alternatives and a membership, and a value that looks like a
placeholder. -/
def nestedUpdate : Node :=
  ⟨"update", .text "t", [
    ⟨"where", .null, [.leaf "a.neq" .null,
      ⟨"or", .null, [.leaf "b.null" (.bool false),
        ⟨"c.in", .null, ([1, 2, 3, 4, 5, 6, 7].map Value.int).map (.leaf "")⟩]⟩]⟩,
    ⟨"values", .null, [.leaf "c" (.text "$9"), .leaf "d" .null]⟩]⟩

set_option maxRecDepth 2000 in
theorem compile_placeholders_nested :
    let text := "UPDATE \"t\" SET \"c\" = $1, \"d\" = $2 WHERE \"a\" <> $3 AND " ++
      "(\"b\" IS NOT NULL OR \"c\" IN ($4, $5, $6, $7, $8, $9, $10))"
    let values := [.text "$9", .null, .null] ++ [1, 2, 3, 4, 5, 6, 7].map Value.int
    let names := ["$1", "$2", "$3", "$4", "$5", "$6", "$7", "$8", "$9", "$10"]
    Dialect.postgres.tail = TailStyle.limitOffset.tail ∧ isPlain Dialect.postgres.quote = false ∧
      compile .postgres .update nestedUpdate = .ok ⟨text, names.zip values, none⟩ ∧
      placeholdersIn '"' false text.toList =
        (List.range 10).map Dialect.postgres.placeholderCharacters ∧
      names = (List.range 10).map Dialect.postgres.placeholder ∧ names.Nodup ∧
      values = nestedUpdate.boundValues .update := by
  intro text values names
  have foreign : isPlain Dialect.postgres.quote = false := by decide
  have compiles : compile .postgres .update nestedUpdate =
      .ok ⟨text, names.zip values, none⟩ := rfl
  exact ⟨rfl, foreign, compiles, compile_placeholders rfl foreign compiles⟩

end Statement

end QueryTree
