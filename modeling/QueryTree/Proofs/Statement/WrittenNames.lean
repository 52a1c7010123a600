/-
This file says which identifiers the pieces of a statement hold, and in which order: those that its
request states, but for the columns of memberships in empty lists.
-/
import QueryTree.Proofs.Statement.RequestNames

namespace QueryTree

namespace Piece

/-- The pieces hold the identifiers of texts, in order, and not the mark for all columns. -/
inductive Writes : List String → List Piece → Prop where
  | nil : Writes [] []
  | keyword {names : List String} {pieces : List Piece} {word : Keyword} : word ≠ .allColumns →
      Writes names pieces → Writes names (.keyword word :: pieces)
  | identifier {name : String} {names : List String} {identifier : Identifier}
      {pieces : List Piece} : Identifier.parse name = .ok identifier → Writes names pieces →
      Writes (name :: names) (.identifier identifier :: pieces)
  | numeral {names : List String} {pieces : List Piece} (number : Nat) : Writes names pieces →
      Writes names (.numeral number :: pieces)
  | parameter {names : List String} {pieces : List Piece} (value : Value) : Writes names pieces →
      Writes names (.parameter value :: pieces)

namespace Writes

variable {names more : List String} {pieces others : List Piece}

theorem append (first : Writes names pieces) (second : Writes more others) :
    Writes (names ++ more) (pieces ++ others) := by
  induction first with
  | nil => exact second
  | keyword other _ ih => exact .keyword other ih
  | identifier parsed _ ih => exact .identifier parsed ih
  | numeral number _ ih => exact .numeral number ih
  | parameter value _ ih => exact .parameter value ih

/-- Behind pieces that hold no identifier there are the same ones. -/
theorem behind (first : Writes names pieces) (second : Writes [] others) :
    Writes names (pieces ++ others) := by
  have both := first.append second
  rwa [List.append_nil] at both

/-- Runs hold the identifiers of their items, whatever word stands between them. -/
theorem separated {α β : Type} {written : α → List String} {made : β → List Piece}
    {separator : Keyword} (other : separator ≠ .allColumns) {items : List α} {results : List β}
    (each : List.Forall₂ (fun item result => Writes (written item) (made result)) items results) :
    Writes (items.flatMap written) (Piece.separated separator (results.map made)) := by
  induction each with
  | nil => exact .nil
  | cons first others ih =>
    cases others with
    | nil =>
      rw [List.flatMap_singleton]
      exact first
    | cons second others => exact first.append (.keyword other ih)

theorem flatMap {α β : Type} {written : α → List String} {made : β → List Piece} {items : List α}
    {results : List β}
    (each : List.Forall₂ (fun item result => Writes (written item) (made result)) items results) :
    Writes (items.flatMap written) (results.flatMap made) := by
  induction each with
  | nil => exact .nil
  | cons first _ ih => exact first.append ih

/-- Runs that hold nothing but values hold no identifier. -/
theorem parameters {separator : Keyword} (other : separator ≠ .allColumns) (values : List Value) :
    Writes [] (Piece.separated separator (values.map fun value => [.parameter value])) := by
  have each : List.Forall₂ (fun value same : Value => Writes [] [.parameter same]) values values :=
    List.forall₂_same.mpr fun value _ => .parameter value .nil
  have none := separated other each
  rwa [List.flatMap_eq_nil_iff.mpr fun _ _ => rfl] at none

end Writes

end Piece

namespace Node

/-- The column that a single condition writes. For a membership in an empty list none is written. -/
def writtenColumns (leaf : Node) : List String :=
  match (Condition.splitName leaf.name).2, leaf.children with
  | .membership, [] => []
  | _, _ => [(Condition.splitName leaf.name).1]

/-- The identifiers of the columns that a read returns, with their other names. -/
def returnedIdentifiers (kind : StatementKind) (node : Node) : List String :=
  match kind with
  | .select => (node.listed "columns").flatMap labels
  | _ => []

/-- The identifiers that are written in all other places of a body. -/
def otherIdentifiers (kind : StatementKind) (node : Node) : List String :=
  let conditions := node.conditions.flatMap writtenColumns
  match kind with
  | .select => node.texts ++ ((node.findAll "join").flatMap joinIdentifiers ++ conditions)
  | .insert => node.texts ++ (node.listed "values").map Node.name
  | .update => node.texts ++ ((node.listed "values").map Node.name ++ conditions)
  | .delete => node.texts ++ conditions

/-- The identifiers of the columns that a read is ordered by. -/
def orderIdentifiers (kind : StatementKind) (node : Node) : List String :=
  match kind with
  | .select => (node.listed "order").map Node.name
  | _ => []

theorem table_writes {node : Node} {table : Identifier} (read : node.table = .ok table) :
    Piece.Writes node.texts [.identifier table] := by
  unfold Node.table at read
  split at read
  next name carried =>
    rw [texts, carried]
    exact .identifier read .nil
  next => cases read

end Node

namespace Column

theorem ofNode_writes {node : Node} {column : Column} (read : ofNode node = .ok column) :
    Piece.Writes node.labels column.pieces := by
  obtain ⟨identifier, parsed, read⟩ := bind_ok read
  rw [Node.labels, Node.texts]
  split at read
  next carried =>
    cases read
    rw [carried]
    exact .identifier parsed .nil
  next label carried =>
    obtain ⟨other, parsedOther, made⟩ := bind_ok read
    cases made
    rw [carried]
    exact .identifier parsed (.keyword (by decide) (.identifier parsedOther .nil))
  next => cases read

/-- A list of columns that is stated holds their identifiers. -/
theorem listPieces_writes {nodes : List Node} {columns : List Column}
    (read : nodes.mapM ofNode = .ok columns) (stated : nodes ≠ []) :
    Piece.Writes (nodes.flatMap Node.labels) (listPieces columns) := by
  have pairs := mapM_forall₂ read
  have given : columns.isEmpty ≠ true := by
    simpa using (forall₂_ne_nil pairs).mp stated
  rw [listPieces, if_neg given]
  exact .separated (by decide) (pairs.imp fun _ _ => ofNode_writes)

end Column

namespace Join

theorem conditionOfNode_writes {node : Node} {pair : Identifier × Identifier}
    (read : conditionOfNode node = .ok pair) :
    Piece.Writes node.labels [.identifier pair.1, .keyword .equal, .identifier pair.2] := by
  obtain ⟨first, parsedFirst, read⟩ := bind_ok read
  obtain ⟨text, isText, read⟩ := bind_ok read
  obtain ⟨second, parsedSecond, made⟩ := bind_ok read
  cases made
  unfold Node.text at isText
  split at isText
  next value carried =>
    cases isText
    rw [Node.labels, Node.texts, carried]
    exact .identifier parsedFirst (.keyword (by decide) (.identifier parsedSecond .nil))
  next => cases isText

theorem ofNode_writes {node : Node} {join : Join} (read : ofNode node = .ok join) :
    Piece.Writes node.joinIdentifiers join.pieces := by
  obtain ⟨readTable, readConditions⟩ := ofNode_parts read
  have joins : join.kind.keyword ≠ .allColumns := by cases join.kind <;> nofun
  have table := Node.table_writes readTable
  have pairs : Piece.Writes ((node.listed "on").flatMap Node.labels) (Piece.separated .conjunction
      (join.conditions.map fun pair => [.identifier pair.1, .keyword .equal, .identifier pair.2])) :=
    .separated (by decide) ((mapM_forall₂ readConditions).imp fun _ _ => conditionOfNode_writes)
  exact .keyword joins (table.append (.keyword nofun pairs))

end Join

namespace Condition

theorem ofLeaf_writes {node : Node} {condition : Condition} (read : ofLeaf node = .ok condition) :
    Piece.Writes node.writtenColumns condition.pieces := by
  unfold ofLeaf at read
  unfold Node.writtenColumns
  generalize splitName node.name = split at read ⊢
  obtain ⟨name, test⟩ := split
  obtain ⟨column, parsed, read⟩ := bind_ok read
  cases test with
  | membership =>
    cases read
    cases node.children with
    | nil => exact .keyword nofun .nil
    | cons child rest =>
      have comma : Keyword.comma ≠ .allColumns := by decide
      have values := Piece.Writes.parameters comma ((child :: rest).map Node.value)
      exact .identifier parsed (.keyword nofun (values.behind (.keyword nofun .nil)))
  | comparison comparison =>
    simp only at read
    split at read
    · cases read
      have compares : comparison.keyword ≠ .allColumns := by cases comparison <;> nofun
      exact .identifier parsed (.keyword compares (.parameter _ .nil))
    · cases read
  | isNull =>
    simp only at read
    split at read
    · cases read
    · split at read
      next expected _ =>
        cases read
        have tests : (if expected then Keyword.isNull else .isNotNull) ≠ .allColumns := by
          cases expected <;> nofun
        exact .identifier parsed (.keyword tests .nil)
      next => cases read

/-- The columns that the single conditions of a tree write. -/
def treeColumns (node : Node) : List String :=
  (Expression.ofNode node).leaves.flatMap Node.writtenColumns

theorem joined_writes {nodes : List Node} {conditions : List Condition} {separator : Keyword}
    (other : separator ≠ .allColumns)
    (each : List.Forall₂ (fun node condition => Piece.Writes (treeColumns node) condition.pieces)
      nodes conditions) :
    Piece.Writes (nodes.flatMap treeColumns) (joined separator conditions) := by
  rw [joined_eq_separated]
  exact .separated other each

/-- A condition writes the columns of its single conditions, by induction on the tree from which it is
read. -/
theorem ofNode_writes :
    ∀ node condition, ofNode node = .ok condition →
      Piece.Writes (treeColumns node) condition.pieces := by
  apply ofNode_induction
  · intro node condition single read
    rw [treeColumns, Expression.leaves_single single, List.flatMap_singleton]
    exact ofLeaf_writes read
  · intro name value children kind conditions named inner
    have separates : kind.separator ≠ .allColumns := by cases kind <;> nofun
    have opens : kind.opening ≠ .allColumns := by cases kind <;> nofun
    have columns : treeColumns ⟨name, value, children⟩ = children.flatMap treeColumns := by
      rw [treeColumns, Expression.leaves_group named, List.flatMap_assoc]
      rfl
    rw [columns, pieces]
    exact .keyword opens ((joined_writes separates inner).behind (.keyword nofun .nil))

theorem clause_writes {node : Node} {conditions : List Condition}
    (read : ofNodes (node.listed "where") = .ok conditions) :
    Piece.Writes (node.conditions.flatMap Node.writtenColumns) (clause conditions) := by
  have each := (ofNodes_forall₂ read).imp ofNode_writes
  have columns : node.conditions.flatMap Node.writtenColumns =
      (node.listed "where").flatMap treeColumns := by
    rw [Node.conditions, Expression.ofFragment, Expression.leaves, Expression.leavesAll_ofNodes,
      List.flatMap_assoc]
    rfl
  have joins : Keyword.conjunction ≠ .allColumns := by decide
  rw [columns, clause]
  generalize node.listed "where" = nodes at each
  have inside := joined_writes joins each
  cases each with
  | nil => exact .nil
  | cons => exact .keyword (by decide) inside

end Condition

namespace Pagination

theorem orderPieces_writes {nodes : List Node} {order : List OrderTerm}
    (read : nodes.mapM OrderTerm.ofNode = .ok order) :
    Piece.Writes (nodes.map Node.name) (orderPieces order) := by
  have pairs : List.Forall₂ (fun node term => Piece.Writes [node.name] (OrderTerm.pieces term))
      nodes order := by
    apply (mapM_forall₂ read).imp
    intro node term readOne
    have directs : term.direction.keyword ≠ .allColumns := by cases term.direction <;> decide
    exact .identifier (OrderTerm.ofNode_parts readOne).1 (.keyword directs .nil)
  have comma : Keyword.comma ≠ .allColumns := by decide
  have terms := Piece.Writes.separated comma pairs
  rw [← List.map_eq_flatMap] at terms
  rw [orderPieces]
  cases pairs with
  | nil => exact .nil
  | cons => exact .keyword (by decide) terms

/-- The clause that orders and limits a read writes the columns of the order. -/
theorem ofNode_writes {node : Node} {pagination : Pagination}
    (read : ofNode node = .ok pagination) (style : TailStyle) :
    Piece.Writes ((node.listed "order").map Node.name) (pagination.pieces style) := by
  have order := orderPieces_writes (ofNode_parts read).1
  cases style with
  | limitOffset =>
    have limited : Piece.Writes [] [.keyword .limit, .numeral pagination.limit] :=
      .keyword nofun (.numeral _ .nil)
    apply (order.behind limited).behind
    cases pagination.offset with
    | none => exact .nil
    | some offset => exact .keyword nofun (.numeral offset .nil)
  | fetchNext =>
    have limited : Piece.Writes [] [.keyword .offset, .numeral (pagination.offset.getD 0),
        .keyword .fetchNext, .numeral pagination.limit, .keyword .rowsOnly] :=
      .keyword nofun (.numeral _ (.keyword nofun (.numeral _ (.keyword nofun .nil))))
    apply Piece.Writes.behind _ limited
    split
    next unordered =>
      rw [List.isEmpty_iff.mp unordered] at order
      exact .keyword nofun order
    next => exact order

end Pagination

namespace Assignment

/-- What is written for each assignment holds its column. -/
theorem separated_writes {node : Node} {assignments : List Assignment}
    (read : (node.listed "values").mapM ofNode = .ok assignments) (made : Assignment → List Piece)
    (writes : ∀ name assignment, Identifier.parse name = .ok assignment.1 →
      Piece.Writes [name] (made assignment)) :
    Piece.Writes ((node.listed "values").map Node.name)
      (Piece.separated .comma (assignments.map made)) := by
  have comma : Keyword.comma ≠ .allColumns := by decide
  rw [List.map_eq_flatMap]
  apply Piece.Writes.separated comma
  apply (mapM_forall₂ read).imp
  intro column assignment readOne
  exact writes column.name assignment (ofNode_column readOne)

end Assignment

namespace Statement

/-- The pieces of a read up to its table: the list of columns. -/
def columnPieces : Statement → List Piece
  | select read => .keyword .select :: Column.listPieces read.columns
  | _ => []

/-- The pieces of a body behind the list of columns that a read has. -/
def otherPieces : Statement → List Piece
  | select read =>
      .keyword .fromTable :: .identifier read.table :: read.joins.flatMap Join.pieces
        ++ Condition.clause read.conditions
  | statement => statement.body

theorem body_columns (statement : Statement) :
    statement.body = statement.columnPieces ++ statement.otherPieces := by
  cases statement with
  | select read => simp [body, columnPieces, otherPieces, Select.body]
  | insert => rfl
  | update => rfl
  | delete => rfl

/-- Behind its list of columns a body holds exactly the identifiers that its request states there, in
order. -/
theorem otherPieces_writes {kind : StatementKind} {node : Node} {statement : Statement}
    (read : ofNode kind node = .ok statement) :
    Piece.Writes (node.otherIdentifiers kind) statement.otherPieces := by
  cases kind with
  | select =>
    obtain ⟨select, made, rfl⟩ := map_ok read
    obtain ⟨readTable, -, -, readJoins, readConditions⟩ := Select.ofNode_parts made
    have table := Node.table_writes readTable
    have joins : Piece.Writes ((node.findAll "join").flatMap Node.joinIdentifiers)
        (select.joins.flatMap Join.pieces) :=
      .flatMap ((mapM_forall₂ readJoins).imp fun _ _ => Join.ofNode_writes)
    have conditions := Condition.clause_writes readConditions
    have front : Piece.Writes _ (.keyword .fromTable :: .identifier select.table ::
        select.joins.flatMap Join.pieces) :=
      .keyword nofun (table.append joins)
    have whole := front.append conditions
    rwa [List.append_assoc] at whole
  | insert =>
    obtain ⟨insert, made, rfl⟩ := map_ok read
    obtain ⟨readTable, readAssignments⟩ := Insert.ofNode_parts made
    have table := Node.table_writes readTable
    have columns := Assignment.separated_writes readAssignments
      (fun assignment => [.identifier assignment.1])
      fun _ _ parsed => .identifier parsed .nil
    have comma : Keyword.comma ≠ .allColumns := by decide
    have values := Piece.Writes.parameters comma (insert.assignments.map Prod.snd)
    rw [List.map_map] at values
    have front : Piece.Writes _ (.keyword .insertInto :: .identifier insert.table ::
        .keyword .openColumns :: Piece.separated .comma (insert.assignments.map _)) :=
      .keyword nofun (table.append (.keyword nofun columns))
    have back : Piece.Writes [] (.keyword .openValues :: Piece.separated .comma
        (insert.assignments.map _)) :=
      .keyword nofun values
    have close : Piece.Writes [] [.keyword .closeGroup] := .keyword nofun .nil
    exact (front.behind back).behind close
  | update =>
    obtain ⟨update, made, rfl⟩ := map_ok read
    obtain ⟨readTable, readAssignments, readConditions⟩ := Update.ofNode_parts made
    have table := Node.table_writes readTable
    have columns := Assignment.separated_writes readAssignments
      (fun assignment => [.identifier assignment.1, .keyword .equal, .parameter assignment.2])
      fun _ _ parsed => .identifier parsed (.keyword nofun (.parameter _ .nil))
    have conditions := Condition.clause_writes readConditions
    have front : Piece.Writes _ (.keyword .update :: .identifier update.table :: .keyword .set ::
        Piece.separated .comma (update.assignments.map _)) :=
      .keyword nofun (table.append (.keyword nofun columns))
    have whole := front.append conditions
    rwa [List.append_assoc] at whole
  | delete =>
    obtain ⟨delete, made, rfl⟩ := map_ok read
    obtain ⟨readTable, readConditions⟩ := Delete.ofNode_parts made
    have table := Node.table_writes readTable
    have conditions := Condition.clause_writes readConditions
    exact .keyword nofun (table.append conditions)

/-- Where reads are limited in a known way, the clause for it holds the columns of the order. -/
theorem ending_writes {kind : StatementKind} {node : Node} {statement : Statement}
    (read : ofNode kind node = .ok statement) (style : TailStyle) :
    Piece.Writes (node.orderIdentifiers kind) (statement.ending style) := by
  cases kind with
  | select =>
    obtain ⟨select, made, rfl⟩ := map_ok read
    exact Pagination.ofNode_writes (Select.ofNode_parts made).2.1 style
  | insert =>
    obtain ⟨insert, -, rfl⟩ := map_ok read
    exact .nil
  | update =>
    obtain ⟨update, -, rfl⟩ := map_ok read
    exact .nil
  | delete =>
    obtain ⟨delete, -, rfl⟩ := map_ok read
    exact .nil

/-- The list of columns of a read holds the identifiers that its request states for it. -/
theorem columnPieces_writes {kind : StatementKind} {node : Node} {statement : Statement}
    (read : ofNode kind node = .ok statement)
    (stated : kind = .select → node.listed "columns" ≠ []) :
    Piece.Writes (node.returnedIdentifiers kind) statement.columnPieces := by
  cases kind with
  | select =>
    obtain ⟨select, made, rfl⟩ := map_ok read
    obtain ⟨-, -, readColumns, -⟩ := Select.ofNode_parts made
    exact .keyword nofun (Column.listPieces_writes readColumns (stated rfl))
  | insert =>
    obtain ⟨insert, -, rfl⟩ := map_ok read
    exact .nil
  | update =>
    obtain ⟨update, -, rfl⟩ := map_ok read
    exact .nil
  | delete =>
    obtain ⟨delete, -, rfl⟩ := map_ok read
    exact .nil

/-- A read that states no columns returns all of them. -/
theorem columnPieces_unstated {node : Node} {statement : Statement}
    (read : ofNode .select node = .ok statement) (unstated : node.listed "columns" = []) :
    statement.columnPieces = [.keyword .select, .keyword .allColumns] := by
  obtain ⟨select, made, rfl⟩ := map_ok read
  obtain ⟨-, -, readColumns, -⟩ := Select.ofNode_parts made
  rw [unstated, List.mapM_nil] at readColumns
  have none : [] = select.columns := Except.ok.inj readColumns
  rw [columnPieces, ← none]
  rfl

end Statement

end QueryTree
