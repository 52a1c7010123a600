/-
This file proves where a statement holds a wildcard: in each place where its request states one, and in
the list of columns of a read that states none.
-/
import QueryTree.Proofs.Statement.BoundValues
import QueryTree.Proofs.Statement.QuotedSections
import QueryTree.Proofs.Statement.RequestGrammar
import QueryTree.Proofs.Statement.WrittenNames

namespace QueryTree

/-- The last segment of a text is a wildcard. -/
def endsWild (text : String) : Bool := (Identifier.segments text.toList).getLast? == some ['*']

namespace IdentifierPart

/-- Only a wildcard is stated as one. -/
theorem plain_eq_wildcard {part : IdentifierPart} : part.plain = ['*'] ↔ part = .wildcard := by
  cases part with
  | wildcard => exact iff_of_true rfl rfl
  | named name =>
    apply iff_of_false
    · intro same
      have valid := name.valid
      rw [show name.characters = ['*'] from same] at valid
      exact absurd valid (by decide)
    · nofun

/-- A part is written with a wildcard when it is one. -/
theorem count_quoted {quote : Char} (other : quote ≠ '*') (part : IdentifierPart) :
    (part.quoted quote).count '*' = if part = .wildcard then 1 else 0 := by
  cases part with
  | wildcard => rfl
  | named name =>
    rw [if_neg nofun, List.count_eq_zero]
    intro member
    simp only [quoted, List.cons_append, List.mem_cons, List.mem_append, List.not_mem_nil, or_false]
      at member
    rcases member with same | inside | same
    · exact other same.symm
    · exact absurd (name.isNamePart_of_mem _ inside) (by decide)
    · exact other same.symm

end IdentifierPart

namespace Identifier

/-- All parts in front of the last one are names. -/
theorem readParts_named {whole : String} {segments : List (List Char)}
    {parts : List IdentifierPart} (read : readParts whole segments = .ok parts) :
    IdentifierPart.wildcard ∉ parts.dropLast := by
  induction segments generalizing parts with
  | nil =>
    cases read
    exact List.not_mem_nil
  | cons segment rest ih =>
    rw [readParts] at read
    split at read
    · split at read
      · cases read
        exact List.not_mem_nil
      · cases read
    · obtain ⟨name, -, read⟩ := bind_ok read
      obtain ⟨others, readOthers, made⟩ := bind_ok read
      cases made
      cases others with
      | nil => exact List.not_mem_nil
      | cons second others =>
        rw [List.dropLast_cons_cons, List.mem_cons, not_or]
        exact ⟨IdentifierPart.noConfusion, ih readOthers⟩

theorem parse_named {text : String} {identifier : Identifier}
    (parsed : parse text = .ok identifier) : .wildcard ∉ identifier.parts.dropLast := by
  unfold parse at parsed
  split at parsed
  · cases parsed
  · obtain ⟨parts, read, rfl⟩ := map_ok parsed
    exact readParts_named read

/-- The last part is a wildcard when the text ends in one. -/
theorem parse_last {text : String} {identifier : Identifier}
    (parsed : parse text = .ok identifier) :
    identifier.parts.getLast? = some .wildcard ↔ endsWild text = true := by
  rw [endsWild, ← parse_segments parsed, List.getLast?_map, beq_iff_eq]
  cases identifier.parts.getLast? with
  | none => exact iff_of_false nofun nofun
  | some part =>
    rw [Option.map_some, Option.some.injEq, Option.some.injEq]
    exact IdentifierPart.plain_eq_wildcard.symm

/-- An identifier is written with as many wildcards as it has. -/
theorem count_joined {quote : Char} (other : quote ≠ '*') (parts : List IdentifierPart) :
    (joined (parts.map (IdentifierPart.quoted quote))).count '*' = parts.count .wildcard := by
  induction parts with
  | nil => rfl
  | cons part rest ih =>
    have first := part.count_quoted other
    rw [List.count_cons]
    cases rest with
    | nil => simpa [joined] using first
    | cons second rest =>
      rw [List.map_cons] at ih ⊢
      rw [List.map_cons, joined, List.count_append, first, List.count_cons_of_ne (by decide), ih]
      · simp [Nat.add_comm]
      · simp

/-- An identifier is written with one wildcard, or with none. -/
theorem count_quoted {quote : Char} (other : quote ≠ '*') {text : String} {identifier : Identifier}
    (parsed : parse text = .ok identifier) :
    (identifier.quoted quote).count '*' = if endsWild text then 1 else 0 := by
  have named := List.count_eq_zero.mpr (parse_named parsed)
  have last := parse_last parsed
  rw [quoted, count_joined other]
  cases found : identifier.parts.getLast? with
  | none =>
    rw [found] at last
    rw [List.getLast?_eq_none_iff.mp found, if_neg (last.not.mp (Option.some_ne_none _).symm)]
    rfl
  | some part =>
    obtain ⟨front, parts⟩ := List.getLast?_eq_some_iff.mp found
    rw [parts, List.dropLast_concat] at named
    rw [found, Option.some.injEq] at last
    rw [parts, List.count_append, named, Nat.zero_add, List.count_singleton]
    simp [last]

end Identifier

theorem toDigits_count (number : Nat) : (Nat.toDigits 10 number).count '*' = 0 := by
  rw [List.count_eq_zero]
  intro member
  exact absurd (Text.isDigit_of_mem_toDigits number _ member) (by decide)

theorem Dialect.placeholder_count (dialect : Dialect) (position : Nat) :
    (dialect.placeholderCharacters position).count '*' = 0 := by
  unfold placeholderCharacters
  cases dialect.placeholderStyle with
  | dollar =>
    rw [List.count_cons_of_ne (by decide)]
    exact toDigits_count _
  | «at» =>
    rw [List.count_cons_of_ne (by decide), List.count_cons_of_ne (by decide)]
    exact toDigits_count _

/-- The mark for all columns is the only word with a wildcard. -/
theorem Keyword.text_count {word : Keyword} (other : word ≠ .allColumns) :
    word.text.toList.count '*' = 0 := by
  cases word with
  | allColumns => exact absurd rfl other
  | _ => decide

/-- Pieces have a wildcard for each of their texts that ends in one, by induction on the pieces. -/
theorem Piece.Writes.count_text {dialect : Dialect} (other : dialect.quote ≠ '*')
    {names : List String} {pieces : List Piece} (writes : Writes names pieces) (position : Nat) :
    (text dialect position pieces).count '*' = names.countP endsWild := by
  induction writes generalizing position with
  | nil => rfl
  | keyword silent _ ih =>
    rw [text, characters, List.count_append, Keyword.text_count silent, Nat.zero_add]
    exact ih position
  | identifier parsed _ ih =>
    rw [text, characters, List.count_append, Identifier.count_quoted other parsed,
      List.countP_cons, Nat.add_comm]
    exact congrArg (· + _) (ih position)
  | numeral number _ ih =>
    rw [text, characters, List.count_append, toDigits_count, Nat.zero_add]
    exact ih position
  | parameter value _ ih =>
    rw [text, characters, List.count_append, dialect.placeholder_count, Nat.zero_add]
    exact ih (position + 1)

namespace Node

/-- The only text of a value that names a table or a column is an identifier. -/
theorem texts_identify {node : Node} (value : node.value.Identifies) :
    ∀ stated ∈ node.texts, Identifies stated := by
  obtain ⟨text, carried, identifies⟩ := value
  rw [texts, carried]
  exact List.forall_mem_singleton.mpr identifies

theorem labels_identify {node : Node} (name : Identifies node.name)
    (value : ∀ stated ∈ node.texts, Identifies stated) :
    ∀ stated ∈ node.labels, Identifies stated :=
  List.forall_mem_cons.mpr ⟨name, value⟩

theorem columns_identify {node : Node} (name : Identifies node.name)
    (value : node.value = .null ∨ node.value.Identifies) :
    ∀ stated ∈ node.labels, Identifies stated := by
  apply labels_identify name
  rcases value with missing | label
  · rw [texts, missing]
    exact List.forall_mem_nil _
  · exact texts_identify label

theorem GrammaticalJoin.identify {join : Node} (grammatical : join.GrammaticalJoin) :
    ∀ stated ∈ join.joinIdentifiers, Identifies stated := by
  obtain ⟨pairs, only, -, each⟩ := grammatical.on
  rw [joinIdentifiers, listed, only, List.flatMap_singleton, List.forall_mem_append,
    List.forall_mem_flatMap]
  constructor
  · exact texts_identify grammatical.table
  · intro pair member
    obtain ⟨left, right⟩ := each pair member
    exact labels_identify left (texts_identify right)

/-- Everything that a well-formed request states as an identifier is one. -/
theorem GrammaticalRequest.identify {kind : StatementKind} {node : Node}
    (grammatical : node.GrammaticalRequest kind) :
    ∀ stated ∈ node.identifiers kind, Identifies stated := by
  have table := texts_identify grammatical.table
  have conditions : ∀ stated ∈ node.conditionColumns, Identifies stated :=
    List.forall_mem_map.mpr fun leaf member =>
      (Condition.conditions_fit grammatical.conditions leaf member).1
  have assignments : ∀ stated ∈ (node.listed "values").map Node.name, Identifies stated :=
    List.forall_mem_map.mpr grammatical.assignments
  cases kind with
  | select =>
    simp only [identifiers, List.forall_mem_append, List.forall_mem_flatMap, List.forall_mem_map]
    refine ⟨table, ?_, ?_, conditions, ?_⟩
    · intro column member
      obtain ⟨name, value⟩ := grammatical.columns column member
      exact columns_identify name value
    · intro join member
      exact (grammatical.joins join member).identify
    · intro term member
      exact (grammatical.order term member).1
  | insert => exact List.forall_mem_append.mpr ⟨table, assignments⟩
  | update =>
    exact List.forall_mem_append.mpr ⟨table, List.forall_mem_append.mpr ⟨assignments, conditions⟩⟩
  | delete => exact List.forall_mem_append.mpr ⟨table, conditions⟩

end Node

namespace Statement

/-- The text of the list of columns that a read returns. -/
def columnText (dialect : Dialect) (statement : Statement) : List Char :=
  Piece.text dialect 0 statement.columnPieces

/-- The text of everything else in front of the clause that orders and limits a read. -/
def otherText (dialect : Dialect) (statement : Statement) : List Char :=
  Piece.text dialect 0 statement.otherPieces

/-- A body is its list of columns and everything else. -/
theorem text_columns {kind : StatementKind} {node : Node} {statement : Statement}
    (read : ofNode kind node = .ok statement) (dialect : Dialect) :
    Piece.text dialect 0 statement.body =
      statement.columnText dialect ++ statement.otherText dialect := by
  have unbound : Piece.values statement.columnPieces = [] := by
    cases statement with
    | select select => exact Column.listPieces_values select.columns
    | _ => rfl
  rw [body_columns, Piece.text_append, unbound]
  rfl

/-- Of a compiled request every identifier is made of names, only the last part of it may be a wildcard,
in whatever place the identifier stands. The text has a wildcard for each identifier that ends in one,
those of the returned columns inside the list of columns and all others outside of it, where those of
the order are in the clause for it when it is a known one; and the list of columns is a single wildcard
when a read states none. -/
theorem compile_wildcards {dialect : Dialect} {kind : StatementKind} {node : Node}
    {compiled : CompiledStatement} (compiles : compile dialect kind node = .ok compiled) :
    (∀ stated ∈ node.identifiers kind, ∃ identifier, Identifier.parse stated = .ok identifier ∧
      .wildcard ∉ identifier.parts.dropLast ∧
      (identifier.parts.getLast? = some .wildcard ↔ endsWild stated = true)) ∧
    (dialect.quote ≠ '*' → ∃ statement, ofNode kind node = .ok statement ∧
      compiled.text.toList =
        statement.ended dialect (statement.columnText dialect ++ statement.otherText dialect) ∧
      (statement.columnText dialect).count '*' =
        (if kind = .select ∧ node.listed "columns" = [] then 1
          else (node.returnedIdentifiers kind).countP endsWild) ∧
      (statement.otherText dialect).count '*' = (node.otherIdentifiers kind).countP endsWild ∧
      ∀ style : TailStyle, dialect.tail = style.tail → ∃ ending,
        compiled.text.toList =
          statement.columnText dialect ++ (statement.otherText dialect ++ ending) ∧
        ending.count '*' = (node.orderIdentifiers kind).countP endsWild) := by
  obtain ⟨statement, read, rfl⟩ := map_ok compiles
  constructor
  · intro stated member
    have grammatical : node.GrammaticalRequest kind := reads_ofNode.mp ⟨statement, read⟩
    obtain ⟨identifier, parsed⟩ := grammatical.identify stated member
    exact ⟨identifier, parsed, Identifier.parse_named parsed, Identifier.parse_last parsed⟩
  · intro other
    have others := (otherPieces_writes read).count_text other 0
    have text : (statement.written dialect).text.toList =
        statement.ended dialect (statement.columnText dialect ++ statement.otherText dialect) := by
      rw [← text_columns read]
      exact String.toList_ofList
    have columns : (statement.columnText dialect).count '*' =
        if kind = .select ∧ node.listed "columns" = [] then 1
        else (node.returnedIdentifiers kind).countP endsWild := by
      split
      next unstated =>
        obtain ⟨rfl, unstated⟩ := unstated
        rw [columnText, columnPieces_unstated read unstated]
        rfl
      next stated =>
        have written := columnPieces_writes read fun selects unstated => stated ⟨selects, unstated⟩
        exact written.count_text other 0
    refine ⟨statement, read, text, columns, others, fun style known => ?_⟩
    have order := (ending_writes read style).count_text other 0
    rw [Piece.text_unbound dialect 0 (statement.ending_values style)] at order
    exact ⟨_, by rw [text, ended_known known, List.append_assoc], order⟩

/-- A new row with a wildcard in the place of its column. -/
def wildInsert : Node := ⟨"create", .text "t", [⟨"values", .null, [.leaf "*" (.int 1)]⟩]⟩

/-- The wildcard is written where it is stated. -/
theorem compile_wildcards_insert :
    let text := "INSERT INTO \"t\" (*) VALUES ($1)"
    compile .postgres .insert wildInsert = .ok ⟨text, [("$1", .int 1)], none⟩ ∧
      Dialect.postgres.quote ≠ '*' ∧
      ∃ statement, ofNode .insert wildInsert = .ok statement ∧
        text.toList =
          statement.ended .postgres (statement.columnText .postgres ++ statement.otherText .postgres) ∧
        (statement.columnText .postgres).count '*' = 0 ∧
        (statement.otherText .postgres).count '*' = 1 ∧
        ∃ ending,
          text.toList =
            statement.columnText .postgres ++ (statement.otherText .postgres ++ ending) ∧
          ending.count '*' = 0 := by
  intro text
  have compiles : compile .postgres .insert wildInsert = .ok ⟨text, [("$1", .int 1)], none⟩ := rfl
  have quote : Dialect.postgres.quote ≠ '*' := by decide
  obtain ⟨-, written⟩ := compile_wildcards compiles
  obtain ⟨statement, read, split, columns, others, known⟩ := written quote
  exact ⟨compiles, quote, statement, read, split, columns, others, known .limitOffset rfl⟩

/-- A read with a wildcard in every place but the list of columns. -/
def wildRead : Node :=
  ⟨"read", .text "t.*", [
    ⟨"columns", .null, [.leaf "a" (.text "*")]⟩,
    ⟨"join", .text "*", [⟨"on", .null, [.leaf "t.*" (.text "u.*")]⟩]⟩,
    ⟨"where", .null, [.leaf "*" (.int 1)]⟩,
    ⟨"order", .null, [.leaf "*" .null]⟩]⟩

set_option maxRecDepth 2000 in
/-- No place refuses a wildcard. -/
theorem compile_wildcards_anywhere :
    compile .postgres .select wildRead =
        .ok ⟨"SELECT \"a\" AS * FROM \"t\".* INNER JOIN * ON \"t\".* = \"u\".* " ++
          "WHERE * = $1 ORDER BY * ASC LIMIT 25", [("$1", .int 1)], some 25⟩ ∧
      compile .postgres .insert wildInsert =
        .ok ⟨"INSERT INTO \"t\" (*) VALUES ($1)", [("$1", .int 1)], none⟩ ∧
      compile .postgres .update ⟨"update", .text "t", wildInsert.children⟩ =
        .ok ⟨"UPDATE \"t\" SET * = $1", [("$1", .int 1)], none⟩ := by
  exact ⟨rfl, rfl, rfl⟩

end Statement

end QueryTree
