/-
This file proves that the conditions of a request keep their meaning when the request is compiled:
the text behind `WHERE` is read as an expression with the same conditions and the same truth, whatever
the dialect writes behind it.
-/
import QueryTree.Proofs.Statement.StatementLayout

namespace QueryTree

namespace Predicate

/-- A text that does not go on with an expression in front of it, neither with a digit nor with a word
between conditions. -/
structure Apart (text : List Char) : Prop where
  digit : EndsDigits text
  conjunction : ¬ " AND ".toList <+: text
  disjunction : ¬ " OR ".toList <+: text

/-- The text is read as an expression, alone and in front of every text apart from it. -/
def ReadsAs (quote : Char) (text : List Char) (expression : Expression (Leaf (List Char))) : Prop :=
  ∀ behind, Apart behind → read? quote (text ++ behind) = some (expression, behind)

theorem dropPrefix?_absent {word : String} {text : List Char} (absent : ¬ word.toList <+: text) :
    text.dropPrefix? word.toList = none := by
  cases dropped : text.dropPrefix? word.toList with
  | none => rfl
  | some rest =>
    obtain ⟨front, split, same⟩ := List.dropPrefix?_eq_some_iff.mp dropped
    rw [beq_iff_eq] at same
    exact absurd ⟨rest, by rw [split, same]⟩ absent

theorem Apart.nil : Apart [] := ⟨nofun, by simp, by simp⟩

/-- The text alone is read as the expression. -/
theorem ReadsAs.alone {quote : Char} {text : List Char} {expression : Expression (Leaf (List Char))}
    (reads : ReadsAs quote text expression) : read? quote text = some (expression, []) := by
  have read := reads [] .nil
  rwa [List.append_nil] at read

/-- Outside of all groups the reader stops at a text apart from the conditions. -/
theorem Apart.stops {behind : List Char} (apart : Apart behind) (level : Level) (quote : Char) :
    Reader.step? quote ⟨false, level, []⟩ behind = none := by
  simp only [Reader.step?, Reader.operator?, dropPrefix?_absent apart.conjunction,
    dropPrefix?_absent apart.disjunction]
  cases behind.dropPrefix? ")".toList <;> rfl

/-- Conditions joined by `AND` are read up to a text apart from them. -/
theorem joined_readsAs (dialect : Dialect) {conditions : List Condition} (nonempty : conditions ≠ [])
    (readable : ∀ condition ∈ conditions, condition.Readable) (position : Nat) :
    ReadsAs dialect.quote (Piece.text dialect position (Condition.joined .conjunction conditions))
      (.any [.all (readings dialect position conditions)]) := by
  intro behind apart
  have each : ∀ condition ∈ conditions, ReadAs dialect condition :=
    fun condition member => run_condition dialect (readable condition member)
  have awaits : Reader.start.awaits = true := rfl
  have run := run_conditions dialect .all each nonempty position awaits apart.digit
  have stop := apart.stops ⟨[], [] ++ readings dialect position conditions, 0⟩ dialect.quote
  rw [Reader.conditions_conjoin rfl rfl (readings_ne_nil dialect position nonempty)] at run
  replace run := run.trans (Reader.run_stop stop)
  simp only [GroupKind.separator] at run
  rw [read?, run]
  rfl

end Predicate

namespace Statement

/-- A known clause behind the conditions is apart from them. -/
theorem ending_apart (quote : Char) (style : TailStyle) (statement : Statement) :
    Predicate.Apart (Piece.unboundText quote (statement.ending style)) := by
  obtain bare | ⟨word, rest, begun, named⟩ := statement.ending_cases style
  · rw [bare]
    exact .nil
  · have text : Piece.unboundText quote (statement.ending style) =
        word.text.toList ++ Piece.unboundText quote rest := by rw [begun]; rfl
    rw [text]
    rcases named with rfl | rfl | rfl
    all_goals exact ⟨by simp [EndsDigits, Keyword.text], by simp [Keyword.text],
      by simp [Keyword.text]⟩

/-- A text states conditions of a statement behind `WHERE`: they are read as an expression from what is
emitted, before the dialect ends the statement. A known clause stands apart behind them. -/
structure StatesWhere (dialect : Dialect) (statement : Statement) (text emitted : List Char)
    (read : Expression (Leaf (List Char))) : Prop where
  emits : text = statement.ended dialect
    (Piece.text dialect 0 statement.beforeWhere ++ (" WHERE ".toList ++ emitted))
  reads : Predicate.ReadsAs dialect.quote emitted read
  known : ∀ style : TailStyle, dialect.tail = style.tail → ∃ behind, Predicate.Apart behind ∧
    text = Piece.text dialect 0 statement.beforeWhere ++ (" WHERE ".toList ++ (emitted ++ behind))

/-- The text of a body that states conditions. -/
theorem body_text (dialect : Dialect) (statement : Statement) (stated : statement.conditions ≠ []) :
    Piece.text dialect 0 statement.body =
      Piece.text dialect 0 statement.beforeWhere ++ (" WHERE ".toList ++
        Piece.text dialect (Piece.values statement.beforeWhere).length
          (Condition.joined .conjunction statement.conditions)) := by
  have filled : statement.conditions.isEmpty = false := by simpa using stated
  rw [body_where, Piece.text_append, Condition.clause, filled]
  simp [Piece.text, Piece.characters, Piece.value?, Keyword.text]

/-- Readable conditions are stated by the text of their statement. -/
theorem written_statesWhere (dialect : Dialect) {statement : Statement}
    (stated : statement.conditions ≠ [])
    (readable : ∀ condition ∈ statement.conditions, condition.Readable) :
    ∃ emitted, statement.StatesWhere dialect (statement.written dialect).text.toList emitted
      (.any [.all (Predicate.readings dialect (Piece.values statement.beforeWhere).length
        statement.conditions)]) := by
  have text : (statement.written dialect).text.toList = _ := String.toList_ofList
  rw [statement.body_text dialect stated] at text
  refine ⟨_, text, Predicate.joined_readsAs dialect stated readable _, fun style known => ?_⟩
  refine ⟨_, statement.ending_apart dialect.quote style, ?_⟩
  rw [text, ended_known known, List.append_assoc, List.append_assoc]

/-- The placeholders of the conditions stand for their values. -/
theorem written_binds (dialect : Dialect) (statement : Statement) :
    Predicate.Binds dialect (statement.written dialect).lookup
      (Piece.values statement.beforeWhere).length
      (statement.conditions.flatMap fun condition => Piece.values condition.pieces) := by
  have binds : (statement.written dialect).parameters = Piece.parameters dialect
      (statement.beforeWhere ++ Condition.clause statement.conditions) := by
    rw [← body_where]
    rfl
  have bound := CompiledStatement.lookup_binds binds
  rwa [Predicate.values_clause] at bound

/-- For all requests, kinds of statements and dialects: the text that is emitted behind `WHERE` is read
as an expression over the conditions of the request in their order, which has the truth that the request
states whatever the truths of the single conditions are. -/
theorem compile_where {dialect : Dialect} {kind : StatementKind} {node : Node}
    {compiled : CompiledStatement} (compiles : compile dialect kind node = .ok compiled)
    {nodes : List Node} (stated : node.fragment "where" = .ok nodes) (nonempty : nodes ≠ []) :
    ∃ (statement : Statement) (emitted : List Char) (read : Expression (Leaf (List Char)))
        (found : List (Leaf Value)),
      ofNode kind node = .ok statement ∧
      statement.StatesWhere dialect compiled.text.toList emitted read ∧
      read.leaves.map (Leaf.resolve compiled.lookup) = found.map some ∧
      (Expression.ofFragment nodes).leaves.map Leaf.ofNode? = found.map some ∧
      ∀ given, Expression.readTruth given read =
        Expression.meaningTruth given (Expression.ofFragment nodes) := by
  obtain ⟨statement, parsed, rfl⟩ := map_ok compiles
  have conditions : Condition.ofNodes nodes = .ok statement.conditions := by
    have read := conditions_ofNode parsed
    rwa [Condition.ofRequest, stated] at read
  have counted := Predicate.ofNodes_length conditions
  have filled : statement.conditions ≠ [] := by
    intro none
    rw [none] at counted
    exact nonempty (List.length_eq_zero_iff.mp counted.symm)
  obtain ⟨readable, means⟩ := Predicate.ofNodes_means nodes _ conditions
    (statement.written_binds dialect)
  obtain ⟨emitted, written⟩ := written_statesWhere dialect filled readable
  have meaning := (Predicate.Means.all means).anySingle
  obtain ⟨found, resolved, stated⟩ := meaning.leaves
  exact ⟨statement, emitted, _, found, parsed, written, resolved, stated,
    fun given => meaning.truth given 0⟩

/-- A dialect that limits reads in a way of its own. -/
def firstRows : Dialect where
  name := "db"
  quote := '"'
  placeholderStyle := .dollar
  tail pagination _ text :=
    text ++ " FETCH FIRST ".toList ++ Nat.toDigits 10 pagination.limit ++ " ROWS ONLY".toList

/-- A read with alternatives, a negation and a membership in nothing, in a dialect that limits reads in
a way of its own. -/
theorem compile_where_alternatives :
    let nodes : List Node := [⟨"or", .null, [.leaf "a" (.bool false),
      ⟨"and", .null, [.leaf "b.null" (.bool true), ⟨"not", .null, [.leaf "c.lt" .null]⟩]⟩,
      .leaf "d.in" .null]⟩]
    let emitted := "(\"a\" = $1 OR (\"b\" IS NULL AND NOT (\"c\" < $2)) OR 1=0)"
    compile firstRows .select ⟨"read", .text "t", [⟨"where", .null, nodes⟩]⟩ =
        .ok ⟨"SELECT * FROM \"t\" WHERE " ++ emitted ++ " FETCH FIRST 25 ROWS ONLY",
          [("$1", .bool false), ("$2", .null)], some 25⟩ ∧
      ∃ read, Predicate.read? '"' emitted.toList = some (read, []) ∧
        ∀ given, Expression.readTruth given read = (given 0).or ((given 1).and (given 2).not) := by
  intro nodes emitted
  have compiles : compile firstRows .select ⟨"read", .text "t", [⟨"where", .null, nodes⟩]⟩ =
      .ok ⟨"SELECT * FROM \"t\" WHERE " ++ emitted ++ " FETCH FIRST 25 ROWS ONLY",
        [("$1", .bool false), ("$2", .null)], some 25⟩ := rfl
  obtain ⟨statement, behind, read, -, parsed, written, -, -, same⟩ :=
    compile_where compiles rfl (List.cons_ne_nil _ _)
  cases parsed
  have behind_eq : emitted.toList = behind := by
    have split : ("SELECT * FROM \"t\" WHERE " ++ emitted ++ " FETCH FIRST 25 ROWS ONLY").toList =
        "SELECT * FROM \"t\"".toList ++ (" WHERE ".toList ++ emitted.toList) ++
          " FETCH FIRST ".toList ++ "25".toList ++ " ROWS ONLY".toList := by decide
    have text := split.symm.trans written.emits
    replace text := List.append_cancel_right (List.append_cancel_right (List.append_cancel_right text))
    exact List.append_cancel_left (List.append_cancel_left text)
  refine ⟨compiles, read, by rw [behind_eq]; exact written.reads.alone, fun given => ?_⟩
  rw [same]
  change ((((given 0).or ((((given 1).and (((given 2).and .holds).not.and .holds))).or
    (Truth.fails.or .fails))).and .holds)) = _
  simp

end Statement

end QueryTree
