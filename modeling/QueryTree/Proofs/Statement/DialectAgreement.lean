/-
This file proves that the dialects agree on reads: they refuse the same requests, bind the same values,
write the same text up to the spelling of placeholders, and ask for the same rows in their own clauses.
-/
import QueryTree.Proofs.Statement.PlaceholderOrder
import QueryTree.Proofs.Statement.RequestGrammar
import QueryTree.Proofs.Statement.TailReading

namespace QueryTree

/-- A text with other placeholders in place of those that stand outside of quotes. So many characters
belong to a placeholder that has been replaced. -/
def renamed (quote : Char) (rename : List Char → List Char) :
    (replaced : Nat) → (quoted : Bool) → List Char → List Char
  | _, _, [] => []
  | replaced + 1, quoted, _ :: rest => renamed quote rename replaced quoted rest
  | 0, quoted, first :: rest =>
      if first = quote then first :: renamed quote rename 0 (!quoted) rest
      else if quoted then first :: renamed quote rename 0 quoted rest
      else
        match placeholderAt? first rest with
        | some token => rename token ++ renamed quote rename (token.length - 1) quoted rest
        | none => first :: renamed quote rename 0 quoted rest

section Renaming

variable {quote : Char} {rename : List Char → List Char}

/-- The rest of a placeholder that has been replaced is passed over. -/
theorem renamed_replaced (replaced rest : List Char) :
    renamed quote rename replaced.length false (replaced ++ rest) =
      renamed quote rename 0 false rest := by
  induction replaced with
  | nil => rfl
  | cons first others ih => exact ih

/-- A text without placeholders stays as it is. -/
theorem Passive.renamed (foreign : isPlain quote = false) {front : List Char}
    (passive : Passive quote front) (rest : List Char) :
    QueryTree.renamed quote rename 0 false (front ++ rest) =
      front ++ QueryTree.renamed quote rename 0 false rest := by
  induction passive with
  | nil => rfl
  | silent head _ ih =>
    rw [List.cons_append, QueryTree.renamed, if_neg (isSilent_other foreign head),
      if_neg Bool.false_ne_true, placeholderAt?_silent head]
    exact congrArg _ ih
  | @quoted inside behind absent _ ih =>
    simp only [List.cons_append, List.append_assoc]
    rw [QueryTree.renamed, if_pos rfl, ← ih]
    congr 1
    clear ih
    induction inside with
    | nil =>
      rw [List.nil_append, QueryTree.renamed, if_pos rfl]
      rfl
    | cons first others ih =>
      rw [List.mem_cons, not_or] at absent
      rw [List.cons_append, QueryTree.renamed, if_neg (Ne.symm absent.1)]
      exact congrArg _ (ih absent.2)

/-- A placeholder is replaced as a whole where no digit follows. -/
theorem renamed_placeholder {dialect : Dialect} (foreign : isPlain dialect.quote = false)
    (position : Nat) {rest : List Char} (ends : EndsDigits rest) :
    renamed dialect.quote rename 0 false (dialect.placeholderCharacters position ++ rest) =
      rename (dialect.placeholderCharacters position) ++
        renamed dialect.quote rename 0 false rest := by
  obtain ⟨mark, others, characters, different, token, -⟩ :=
    placeholderAt?_characters foreign position ends
  rw [characters, List.cons_append, renamed, if_neg different, if_neg Bool.false_ne_true, token]
  exact congrArg _ (renamed_replaced others rest)

/-- The text of pieces in a dialect becomes their text in another one of the same quote, by induction
on the pieces. -/
theorem Piece.renamed_text {first second : Dialect} (same : first.quote = second.quote)
    (foreign : isPlain first.quote = false) {pieces : List Piece} (parted : Parted pieces)
    (position : Nat) (renames : ∀ index < position + (values pieces).length,
      rename (first.placeholderCharacters index) = second.placeholderCharacters index) :
    renamed first.quote rename 0 false (text first position pieces) = text second position pieces := by
  induction parted generalizing position with
  | nil => rfl
  | @cons piece rest bound _ ih =>
    -- Only parameters are spelled differently; the position does not move at any other piece.
    have unbound (none : piece.value? = none)
        (written : piece.characters first.quote (first.placeholderCharacters position) =
          piece.characters second.quote (second.placeholderCharacters position))
        (length : (values (piece :: rest)).length = (values rest).length) :
        renamed first.quote rename 0 false (text first position (piece :: rest)) =
          text second position (piece :: rest) := by
      rw [length] at renames
      rw [text, text, (characters_passive foreign _ none).renamed foreign, none, written]
      exact congrArg _ (ih position renames)
    cases piece with
    | keyword word => exact unbound rfl rfl rfl
    | identifier name => exact unbound rfl (congrArg name.quoted same) rfl
    | numeral number => exact unbound rfl rfl rfl
    | parameter value =>
      have length : (values (.parameter value :: rest)).length = (values rest).length + 1 := rfl
      have ends := (bound rfl).endsDigits first (position + 1)
      have others := ih (position + 1) fun index before => renames index (by omega)
      have here := renames position (by omega)
      exact (renamed_placeholder foreign position ends).trans (congrArg₂ _ here others)

end Renaming

namespace CompiledStatement

/-- A placeholder becomes the one that another statement has for the same parameter. -/
def renameTo (statement other : CompiledStatement) (token : List Char) : List Char :=
  match (statement.parameters.zip other.parameters).find? fun pair => pair.1.1.toList == token with
  | some pair => pair.2.1.toList
  | none => token

/-- The placeholder at a position becomes the other one there. -/
theorem renameTo_placeholder {first second : Dialect} {statement other : CompiledStatement}
    {pieces : List Piece} (binds : statement.parameters = Piece.parameters first pieces)
    (otherBinds : other.parameters = Piece.parameters second pieces) {position : Nat}
    (inside : position < (Piece.values pieces).length) :
    statement.renameTo other (first.placeholderCharacters position) =
      second.placeholderCharacters position := by
  have found : ((Piece.parameters first pieces).zip (Piece.parameters second pieces)).find?
      (fun pair => pair.1.1.toList == first.placeholderCharacters position) =
        some ((first.placeholder position, (Piece.values pieces)[position]),
          (second.placeholder position, (Piece.values pieces)[position])) := by
    rw [List.find?_eq_some_iff_getElem]
    refine ⟨by simp [Dialect.placeholder], position, ?_, by simp [Piece.parameters], ?_⟩
    · simpa [Piece.parameters] using inside
    intro earlier before
    have other : first.placeholderCharacters earlier ≠ first.placeholderCharacters position :=
      fun equal => by
        have := first.placeholderCharacters_injective equal
        omega
    simp [Piece.parameters, Dialect.placeholder, other]
  simp only [renameTo, binds, otherBinds]
  rw [found]
  exact String.toList_ofList

end CompiledStatement

/-- A node asks for an order by a column: it names the column, and its value may ask to descend. -/
def OrderTerm.AskedBy (term : OrderTerm) (node : Node) : Prop :=
  term.column.plain = node.name.toList ∧
    (term.direction = .descending ↔ node.value.States ["desc"])

/-- A request asks for a window: by its order, and by its bounds or their defaults. -/
structure Window.AskedBy (window : Window) (node : Node) : Prop where
  order : List.Forall₂ (fun child term => term.AskedBy child) (node.listed "order") window.order
  skipped : window.skipped = node.numberOf "offset" 0
  count : window.count = node.numberOf "limit" 25

/-- A statement states a window behind the front of its text, and keeps as many rows. -/
structure CompiledStatement.EndsIn (quote : Char) (statement : CompiledStatement)
    (front : List Char) (window : Window) : Prop where
  text : ∃ tail, statement.text.toList = front ++ tail ∧ Window.read? quote tail = some window
  maxRows : statement.maxRows = some window.count

/-- Two statements bind the same values and ask for what a request asks for. Their texts in front of
that are equal once the placeholders of the one have the names of the other's. -/
structure CompiledStatement.Agree (quote : Char) (node : Node) (first second : CompiledStatement) :
    Prop where
  values : first.parameters.map Prod.snd = second.parameters.map Prod.snd
  text : ∃ front back window,
    renamed quote (first.renameTo second) 0 false front = back ∧
      renamed quote (second.renameTo first) 0 false back = front ∧
      first.EndsIn quote front window ∧ second.EndsIn quote back window ∧ window.AskedBy node

/-- An identifier that is read from a text stands for the whole text. -/
theorem Identifier.parse_plain {text : String} {identifier : Identifier}
    (parsed : parse text = .ok identifier) : identifier.plain = text.toList := by
  rw [plain, parse_segments parsed, joined_segments]

/-- A value that states a direction states to descend exactly when that is the direction. -/
theorem Direction.ofValue?_descending {value : Value} {direction : Direction}
    (stated : ofValue? value = some direction) :
    direction = .descending ↔ value.States ["desc"] := by
  unfold Value.States
  cases value with
  | null =>
    cases stated
    exact iff_of_false nofun nofun
  | text word =>
    simp only [Value.text.injEq, exists_eq_left', List.mem_singleton, lowered_eq_iff]
    rw [ofValue?] at stated
    split at stated
    next ascending =>
      cases stated
      exact iff_of_false nofun (by rw [ascending]; decide)
    next =>
      split at stated
      next descending =>
        cases stated
        exact iff_of_true rfl descending
      next => cases stated
  | _ => cases stated

namespace OrderTerm

theorem ofNode_askedBy {node : Node} {term : OrderTerm} (read : ofNode node = .ok term) :
    term.AskedBy node := by
  obtain ⟨parsed, stated⟩ := ofNode_parts read
  exact ⟨Identifier.parse_plain parsed, Direction.ofValue?_descending stated⟩

end OrderTerm

namespace Pagination

theorem ofNode_askedBy {node : Node} {pagination : Pagination} (read : ofNode node = .ok pagination) :
    (⟨pagination.order, pagination.offset.getD 0, pagination.limit⟩ : Window).AskedBy node := by
  obtain ⟨order, limit, offset⟩ := ofNode_parts read
  exact ⟨(mapM_forall₂ order).imp fun child term => OrderTerm.ofNode_askedBy, offset, limit⟩

/-- A column to order by has a name. -/
theorem ofNode_named {node : Node} {pagination : Pagination} (read : ofNode node = .ok pagination) :
    ∀ term ∈ pagination.order, term.column.parts ≠ [] := by
  intro term member
  obtain ⟨child, -, readOne⟩ := forall₂_mem_right (mapM_forall₂ (ofNode_parts read).1) member
  exact Predicate.parse_parts_ne_nil (OrderTerm.ofNode_parts readOne).1

end Pagination

namespace Select

/-- A read in a dialect that limits it in a known way ends in the window that its request asks for. -/
theorem written_endsIn {dialect : Dialect} {style : TailStyle} (known : dialect.tail = style.tail)
    (foreign : isPlain dialect.quote = false) {node : Node} {read : Select}
    (parsed : Pagination.ofNode node = .ok read.pagination) :
    ((Statement.select read).written dialect).EndsIn dialect.quote (Piece.text dialect 0 read.body)
      ⟨read.pagination.order, read.pagination.offset.getD 0, read.pagination.limit⟩ := by
  have other : dialect.quote ≠ '(' := (isPlain_other foreign (by decide)).symm
  refine ⟨⟨Piece.unboundText dialect.quote (read.pagination.pieces style), ?_, ?_⟩, rfl⟩
  · exact String.toList_ofList.trans (Statement.ended_known known (.select read) _)
  · exact Window.read?_text other (Pagination.ofNode_named parsed) style

/-- The front of a read becomes its front in another dialect of the same quote. -/
theorem written_renamed {first second : Dialect} (same : first.quote = second.quote)
    (foreign : isPlain first.quote = false) (read : Select) :
    renamed first.quote
        (((Statement.select read).written first).renameTo ((Statement.select read).written second))
        0 false (Piece.text first 0 read.body) = Piece.text second 0 read.body := by
  apply Piece.renamed_text same foreign (Statement.select read).body_parted 0
  intro index before
  rw [Nat.zero_add] at before
  exact CompiledStatement.renameTo_placeholder rfl rfl before

/-- A read in two dialects of the same quote. -/
theorem written_agree {first second : Dialect} {style otherStyle : TailStyle}
    (known : first.tail = style.tail) (otherKnown : second.tail = otherStyle.tail)
    (same : first.quote = second.quote) (foreign : isPlain first.quote = false) {node : Node}
    {read : Select} (parsed : ofNode node = .ok read) :
    CompiledStatement.Agree first.quote node ((Statement.select read).written first)
      ((Statement.select read).written second) := by
  obtain ⟨-, pagination, -⟩ := ofNode_parts parsed
  have values (dialect : Dialect) :
      ((Statement.select read).written dialect).parameters.map Prod.snd = Piece.values read.body :=
    Piece.parameters_values dialect read.body
  have other : isPlain second.quote = false := same ▸ foreign
  have back := read.written_renamed same.symm other
  have ends := written_endsIn otherKnown other pagination
  rw [← same] at back ends
  exact ⟨(values first).trans (values second).symm, _, _, _, read.written_renamed same foreign, back,
    written_endsIn known foreign pagination, ends, Pagination.ofNode_askedBy pagination⟩

end Select

namespace Statement

/-- For all requests: either both dialects refuse a read with the same fault, or both write one. Then
the values are the same in the same order, the texts in front of the clauses that order and limit the
read are equal up to the names of placeholders, and both clauses are read back as the order, the skipped
rows and the count of rows that the request asks for. -/
theorem compile_agree (node : Node) :
    (∃ fault, compile .postgres .select node = .error fault ∧
      compile .sqlServer .select node = .error fault) ∨
    ∃ first second, compile .postgres .select node = .ok first ∧
      compile .sqlServer .select node = .ok second ∧ first.Agree '"' node second := by
  have same : Dialect.postgres.quote = Dialect.sqlServer.quote := rfl
  have foreign : isPlain Dialect.postgres.quote = false := by decide
  unfold compile ofNode
  cases parsed : Select.ofNode node with
  | error fault => exact .inl ⟨fault, rfl, rfl⟩
  | ok read => exact .inr ⟨_, _, rfl, rfl, Select.written_agree rfl rfl same foreign parsed⟩

example :
    let node : Node :=
      ⟨"read", .text "t", [⟨"where", .null, [.leaf "a" (.int 7)]⟩, .leaf "offset" (.int 2)]⟩
    compile .postgres .select node =
        .ok ⟨"SELECT * FROM \"t\" WHERE \"a\" = $1 LIMIT 25 OFFSET 2", [("$1", .int 7)], some 25⟩ ∧
      compile .sqlServer .select node =
        .ok ⟨"SELECT * FROM \"t\" WHERE \"a\" = @p0 ORDER BY (SELECT NULL) " ++
          "OFFSET 2 ROWS FETCH NEXT 25 ROWS ONLY", [("@p0", .int 7)], some 25⟩ :=
  ⟨rfl, rfl⟩

end Statement

end QueryTree
