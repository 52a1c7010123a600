/-
This file says which names and numbers a request states, and that a statement holds no others.
-/
import QueryTree.Proofs.Statement.RequestParts

namespace QueryTree

namespace Node

/-- The text that a node carries, if it carries one. -/
def texts (node : Node) : List String := node.value.asText?.toList

/-- The name of a node and the text that it carries. -/
def labels (node : Node) : List String := node.name :: node.texts

/-- The columns that the single conditions of a request name. -/
def conditionColumns (node : Node) : List String :=
  node.conditions.map fun leaf => (Condition.splitName leaf.name).1

/-- The identifiers that a join states: its table and its pairs of columns. -/
def joinIdentifiers (join : Node) : List String :=
  join.texts ++ (join.listed "on").flatMap labels

/-- The identifiers that a request states: its table, and the columns, tables and other names of its
fragments. -/
def identifiers (kind : StatementKind) (node : Node) : List String :=
  match kind with
  | .select =>
      node.texts ++ ((node.listed "columns").flatMap labels
        ++ ((node.findAll "join").flatMap joinIdentifiers
          ++ (node.conditionColumns ++ (node.listed "order").map Node.name)))
  | .insert => node.texts ++ (node.listed "values").map Node.name
  | .update => node.texts ++ ((node.listed "values").map Node.name ++ node.conditionColumns)
  | .delete => node.texts ++ node.conditionColumns

/-- The count of rows that a request limits a read to, and the count of rows that it skips. -/
def bounds (node : Node) : List Nat :=
  [node.numberOf "limit" Pagination.defaultLimit, node.numberOf "offset" 0]

end Node

namespace Piece

/-- The identifiers and numbers of a piece are among the given ones. -/
def StatedIn (names : List String) (numbers : List Nat) : Piece → Prop
  | .keyword _ => True
  | .identifier name => ∃ stated ∈ names, Identifier.parse stated = .ok name
  | .numeral number => number ∈ numbers
  | .parameter _ => True

theorem StatedIn.weaken {names more : List String} {numbers : List Nat} {piece : Piece}
    (stated : piece.StatedIn names numbers) (included : ∀ name ∈ names, name ∈ more) :
    piece.StatedIn more numbers := by
  cases piece with
  | keyword word => trivial
  | identifier name =>
    obtain ⟨name, listed, parsed⟩ := stated
    exact ⟨name, included name listed, parsed⟩
  | numeral number => exact stated
  | parameter value => trivial

theorem StatedIn.left {names more : List String} {numbers : List Nat} {piece : Piece}
    (stated : piece.StatedIn names numbers) : piece.StatedIn (names ++ more) numbers :=
  stated.weaken fun _ => List.mem_append_left more

theorem StatedIn.right {names more : List String} {numbers : List Nat} {piece : Piece}
    (stated : piece.StatedIn names numbers) : piece.StatedIn (more ++ names) numbers :=
  stated.weaken fun _ => List.mem_append_right more

/-- A piece of runs with a word between them is the word or a piece of a run. -/
theorem mem_separated {separator : Keyword} {runs : List (List Piece)} {piece : Piece}
    (member : piece ∈ separated separator runs) :
    piece = .keyword separator ∨ ∃ run ∈ runs, piece ∈ run := by
  induction runs with
  | nil => cases member
  | cons first others ih =>
    cases others with
    | nil => exact .inr ⟨first, List.mem_cons_self, member⟩
    | cons second others =>
      rw [separated, List.mem_append, List.mem_cons] at member
      · rcases member with inFirst | same | later
        · exact .inr ⟨first, List.mem_cons_self, inFirst⟩
        · exact .inl same
        · rcases ih later with same | ⟨run, listed, inRun⟩
          · exact .inl same
          · exact .inr ⟨run, List.mem_cons_of_mem _ listed, inRun⟩
      · simp

/-- Runs that are read from nodes state what their nodes state. -/
theorem separated_stated {α : Type} {read : Node → Except RequestFault α} {nodes : List Node}
    {results : List α} (made : nodes.mapM read = .ok results) {pieces : α → List Piece}
    {names : Node → List String} {numbers : List Nat}
    (stated : ∀ node result, read node = .ok result →
      ∀ piece ∈ pieces result, piece.StatedIn (names node) numbers) (separator : Keyword) :
    ∀ piece ∈ separated separator (results.map pieces),
      piece.StatedIn (nodes.flatMap names) numbers := by
  intro piece member
  rcases mem_separated member with rfl | ⟨run, listed, inRun⟩
  · trivial
  · obtain ⟨result, among, rfl⟩ := List.mem_map.mp listed
    obtain ⟨node, stating, readNode⟩ := forall₂_mem_right (mapM_forall₂ made) among
    exact (stated node result readNode piece inRun).weaken fun name named =>
      List.mem_flatMap.mpr ⟨node, stating, named⟩

end Piece

theorem Node.table_stated {node : Node} {table : Identifier} (read : node.table = .ok table)
    (numbers : List Nat) : (Piece.identifier table).StatedIn node.texts numbers := by
  unfold Node.table at read
  split at read
  next name carried => exact ⟨name, by simp [texts, carried], read⟩
  next => cases read

namespace Assignment

theorem ofNode_column {node : Node} {assignment : Assignment} (read : ofNode node = .ok assignment) :
    Identifier.parse node.name = .ok assignment.1 := by
  obtain ⟨column, parsed, made⟩ := bind_ok read
  cases made
  exact parsed

end Assignment

namespace Condition

/-- Conditions with a word between them are runs of pieces. -/
theorem joined_eq_separated (separator : Keyword) (conditions : List Condition) :
    joined separator conditions = Piece.separated separator (conditions.map pieces) := by
  induction conditions with
  | nil => rfl
  | cons first others ih =>
    cases others with
    | nil => simp [joined, Piece.separated]
    | cons second others =>
      rw [joined, List.map_cons, List.map_cons, Piece.separated, ih]
      · rfl
      · simp
      · simp

/-- The pieces of a single condition name its column only. -/
theorem ofLeaf_stated {node : Node} {condition : Condition} (read : ofLeaf node = .ok condition)
    (numbers : List Nat) :
    ∀ piece ∈ condition.pieces, piece.StatedIn [(splitName node.name).1] numbers := by
  unfold ofLeaf at read
  generalize splitName node.name = split at read ⊢
  obtain ⟨name, test⟩ := split
  obtain ⟨column, parsed, read⟩ := bind_ok read
  have named : (Piece.identifier column).StatedIn [name] numbers :=
    ⟨name, List.mem_singleton_self name, parsed⟩
  cases test with
  | membership =>
    cases read
    rw [pieces]
    split
    · simp [Piece.StatedIn]
    · intro piece member
      simp only [List.cons_append, List.mem_cons, List.mem_append, List.not_mem_nil, or_false]
        at member
      rcases member with rfl | rfl | inside | rfl
      · exact named
      · trivial
      · rcases Piece.mem_separated inside with rfl | ⟨run, listed, inRun⟩
        · trivial
        · obtain ⟨value, -, rfl⟩ := List.mem_map.mp listed
          rw [List.mem_singleton.mp inRun]
          trivial
      · trivial
  | comparison comparison =>
    simp only at read
    split at read
    · cases read
      simpa [pieces, Piece.StatedIn] using named
    · cases read
  | isNull =>
    simp only at read
    split at read
    · cases read
    · split at read
      · cases read
        simpa [pieces, Piece.StatedIn] using named
      · cases read

/-- The columns that the single conditions of a tree name. -/
def columnNames (node : Node) : List String :=
  (Expression.ofNode node).leaves.map fun leaf => (splitName leaf.name).1

/-- Conditions that are read from nodes name the columns of the nodes. -/
theorem joined_stated {nodes : List Node} {conditions : List Condition} {numbers : List Nat}
    (stated : List.Forall₂ (fun node condition =>
      ∀ piece ∈ condition.pieces, piece.StatedIn (columnNames node) numbers) nodes conditions)
    (separator : Keyword) :
    ∀ piece ∈ joined separator conditions,
      piece.StatedIn (nodes.flatMap columnNames) numbers := by
  intro piece member
  rw [joined_eq_separated] at member
  rcases Piece.mem_separated member with rfl | ⟨run, listed, inRun⟩
  · trivial
  · obtain ⟨condition, among, rfl⟩ := List.mem_map.mp listed
    obtain ⟨node, stating, each⟩ := forall₂_mem_right stated among
    exact (each piece inRun).weaken fun name named => List.mem_flatMap.mpr ⟨node, stating, named⟩

/-- The pieces of a condition name the columns of its single conditions, by induction on the tree
from which it is read. -/
theorem ofNode_stated (numbers : List Nat) :
    ∀ node condition, ofNode node = .ok condition →
      ∀ piece ∈ condition.pieces, piece.StatedIn (columnNames node) numbers := by
  apply ofNode_induction
  · intro node condition single read
    rw [columnNames, Expression.leaves_single single]
    exact ofLeaf_stated read numbers
  · intro name value children kind conditions named inner
    have inside := joined_stated inner kind.separator
    have leaves : columnNames ⟨name, value, children⟩ = children.flatMap columnNames := by
      rw [columnNames, Expression.leaves_group named, List.map_flatMap]
      rfl
    rw [leaves, pieces]
    intro piece member
    rw [List.cons_append, List.mem_cons, List.mem_append, List.mem_singleton] at member
    rcases member with rfl | within | rfl
    · trivial
    · exact inside piece within
    · trivial

/-- The clause of a request's conditions names the columns that the request states. -/
theorem clause_stated {node : Node} {conditions : List Condition}
    (read : ofNodes (node.listed "where") = .ok conditions) (numbers : List Nat) :
    ∀ piece ∈ clause conditions, piece.StatedIn node.conditionColumns numbers := by
  have each := (ofNodes_forall₂ read).imp fun node condition readOne =>
    ofNode_stated numbers node condition readOne
  have columns : node.conditionColumns = (node.listed "where").flatMap columnNames := by
    rw [Node.conditionColumns, Node.conditions, Expression.ofFragment, Expression.leaves,
      Expression.leavesAll_ofNodes, List.map_flatMap]
    rfl
  rw [columns, clause]
  split
  · simp
  · rw [List.forall_mem_cons]
    exact ⟨trivial, joined_stated each .conjunction⟩

end Condition

/-- A column to return names itself and its other name. -/
theorem Column.ofNode_stated {node : Node} {column : Column} (read : ofNode node = .ok column)
    (numbers : List Nat) : ∀ piece ∈ column.pieces, piece.StatedIn node.labels numbers := by
  obtain ⟨identifier, parsed, read⟩ := bind_ok read
  have named : (Piece.identifier identifier).StatedIn node.labels numbers :=
    ⟨node.name, List.mem_cons_self, parsed⟩
  split at read
  next =>
    cases read
    simpa [pieces] using named
  next label carried =>
    obtain ⟨other, parsedOther, made⟩ := bind_ok read
    cases made
    have labelled : (Piece.identifier other).StatedIn node.labels numbers :=
      ⟨label, by simp [Node.labels, Node.texts, carried, Value.asText?], parsedOther⟩
    simp only [pieces, List.forall_mem_cons]
    exact ⟨named, trivial, labelled, by simp⟩
  next => cases read

theorem Column.listPieces_stated {nodes : List Node} {columns : List Column}
    (read : nodes.mapM ofNode = .ok columns) (numbers : List Nat) :
    ∀ piece ∈ listPieces columns, piece.StatedIn (nodes.flatMap Node.labels) numbers := by
  unfold listPieces
  split
  · simp [Piece.StatedIn]
  · exact Piece.separated_stated read (fun node column readOne => ofNode_stated readOne numbers) _

namespace Join

/-- A pair of columns names both of them. -/
theorem conditionOfNode_stated {node : Node} {pair : Identifier × Identifier}
    (read : conditionOfNode node = .ok pair) (numbers : List Nat) :
    ∀ piece ∈ [Piece.identifier pair.1, .keyword .equal, .identifier pair.2],
      piece.StatedIn node.labels numbers := by
  obtain ⟨first, parsedFirst, read⟩ := bind_ok read
  obtain ⟨text, isText, read⟩ := bind_ok read
  obtain ⟨second, parsedSecond, made⟩ := bind_ok read
  cases made
  have carried : text ∈ node.texts := by
    unfold Node.text at isText
    split at isText
    next value found =>
      cases isText
      simp [Node.texts, found]
    next => cases isText
  simp only [List.forall_mem_cons]
  exact ⟨⟨node.name, List.mem_cons_self, parsedFirst⟩, trivial,
    ⟨text, List.mem_cons_of_mem _ carried, parsedSecond⟩, by simp⟩

theorem ofNode_stated {node : Node} {join : Join} (read : ofNode node = .ok join)
    (numbers : List Nat) : ∀ piece ∈ join.pieces, piece.StatedIn node.joinIdentifiers numbers := by
  obtain ⟨table, conditions⟩ := ofNode_parts read
  have on := Piece.separated_stated conditions
    (fun node pair readOne => conditionOfNode_stated readOne numbers) .conjunction
  rw [pieces]
  simp only [List.forall_mem_cons]
  exact ⟨trivial, (Node.table_stated table numbers).left, trivial,
    fun piece member => (on piece member).right⟩

end Join

namespace OrderTerm

theorem ofNode_stated {node : Node} {term : OrderTerm} (read : ofNode node = .ok term)
    (numbers : List Nat) : ∀ piece ∈ term.pieces, piece.StatedIn [node.name] numbers := by
  simp only [pieces, List.forall_mem_cons]
  exact ⟨⟨node.name, List.mem_singleton_self _, (ofNode_parts read).1⟩, trivial, by simp⟩

end OrderTerm

namespace Pagination

/-- The clause that orders and limits a read names the columns of the order, and it has the numbers
of the bounds. -/
theorem ofNode_stated {node : Node} {pagination : Pagination}
    (read : ofNode node = .ok pagination) (style : TailStyle) :
    ∀ piece ∈ pagination.pieces style,
      piece.StatedIn ((node.listed "order").map Node.name) node.bounds := by
  obtain ⟨made, limit, offset⟩ := ofNode_parts read
  have order : ∀ piece ∈ orderPieces pagination.order,
      piece.StatedIn ((node.listed "order").map Node.name) node.bounds := by
    rw [List.map_eq_flatMap, orderPieces]
    split
    · simp
    · rw [List.forall_mem_cons]
      exact ⟨trivial, Piece.separated_stated made
        (fun node term readOne => OrderTerm.ofNode_stated readOne _) .comma⟩
  have limited : (Piece.numeral pagination.limit).StatedIn
      ((node.listed "order").map Node.name) node.bounds := by
    simp [Piece.StatedIn, Node.bounds, limit]
  have skipped : (Piece.numeral (pagination.offset.getD 0)).StatedIn
      ((node.listed "order").map Node.name) node.bounds := by
    simp [Piece.StatedIn, Node.bounds, offset]
  cases style with
  | limitOffset =>
    simp only [pieces, List.forall_mem_append, List.forall_mem_cons]
    refine ⟨⟨order, trivial, limited, by simp⟩, ?_⟩
    cases stated : pagination.offset with
    | none => simp
    | some number =>
      rw [stated] at skipped
      simpa [Piece.StatedIn] using skipped
  | fetchNext =>
    simp only [pieces, List.forall_mem_append, List.forall_mem_cons]
    refine ⟨?_, trivial, skipped, trivial, limited, trivial, by simp⟩
    split
    · simp [Piece.StatedIn]
    · exact order

end Pagination

/-- Assignments name the columns of their nodes. -/
theorem Assignment.separated_stated {node : Node} {assignments : List Assignment}
    (read : (node.listed "values").mapM ofNode = .ok assignments) (numbers : List Nat)
    (pieces : Assignment → List Piece)
    (stated : ∀ assignment names, (Piece.identifier assignment.1).StatedIn names numbers →
      ∀ piece ∈ pieces assignment, piece.StatedIn names numbers) :
    ∀ piece ∈ Piece.separated .comma (assignments.map pieces),
      piece.StatedIn ((node.listed "values").map Node.name) numbers := by
  have names : (node.listed "values").map Node.name =
      (node.listed "values").flatMap fun column => [column.name] := List.map_eq_flatMap
  rw [names]
  refine Piece.separated_stated read (fun column assignment readOne => ?_) .comma
  exact stated assignment _ ⟨column.name, List.mem_singleton_self _, ofNode_column readOne⟩

theorem Select.ofNode_stated {node : Node} {select : Select} (read : ofNode node = .ok select)
    (style : TailStyle) :
    ∀ piece ∈ select.body ++ select.pagination.pieces style,
      piece.StatedIn (node.identifiers .select) node.bounds := by
  obtain ⟨readTable, readPagination, readColumns, readJoins, readConditions⟩ := ofNode_parts read
  have table := Node.table_stated readTable node.bounds
  have columns := Column.listPieces_stated readColumns node.bounds
  have joins : ∀ piece ∈ select.joins.flatMap Join.pieces,
      piece.StatedIn ((node.findAll "join").flatMap Node.joinIdentifiers) node.bounds := by
    intro piece member
    obtain ⟨join, among, inJoin⟩ := List.mem_flatMap.mp member
    obtain ⟨child, stating, readJoin⟩ := forall₂_mem_right (mapM_forall₂ readJoins) among
    exact (Join.ofNode_stated readJoin node.bounds piece inJoin).weaken fun name named =>
      List.mem_flatMap.mpr ⟨child, stating, named⟩
  have conditions := Condition.clause_stated readConditions node.bounds
  have pagination := Pagination.ofNode_stated readPagination style
  simp only [body, List.forall_mem_append, List.forall_mem_cons, Node.identifiers]
  exact ⟨⟨⟨⟨trivial, fun piece member => (columns piece member).left.right⟩, trivial, table.left,
      fun piece member => (joins piece member).left.right.right⟩,
    fun piece member => (conditions piece member).left.right.right.right⟩,
    fun piece member => (pagination piece member).right.right.right.right⟩

theorem Insert.ofNode_stated {node : Node} {insert : Insert} (read : ofNode node = .ok insert)
    (numbers : List Nat) :
    ∀ piece ∈ insert.pieces, piece.StatedIn (node.identifiers .insert) numbers := by
  obtain ⟨readTable, readAssignments⟩ := ofNode_parts read
  have table := Node.table_stated readTable numbers
  have columns := Assignment.separated_stated readAssignments numbers
    (fun assignment => [.identifier assignment.1]) (by simp)
  have values := Assignment.separated_stated readAssignments numbers
    (fun assignment => [.parameter assignment.2]) (by simp [Piece.StatedIn])
  simp only [pieces, List.cons_append, List.forall_mem_append, List.forall_mem_cons,
    Node.identifiers]
  exact ⟨trivial, table.left, trivial, ⟨fun piece member => (columns piece member).right, trivial,
    fun piece member => (values piece member).right⟩, trivial, by simp⟩

theorem Update.ofNode_stated {node : Node} {update : Update} (read : ofNode node = .ok update)
    (numbers : List Nat) :
    ∀ piece ∈ update.pieces, piece.StatedIn (node.identifiers .update) numbers := by
  obtain ⟨readTable, readAssignments, readConditions⟩ := ofNode_parts read
  have table := Node.table_stated readTable numbers
  have assignments := Assignment.separated_stated readAssignments numbers
    (fun assignment => [.identifier assignment.1, .keyword .equal, .parameter assignment.2])
    (by simp [Piece.StatedIn])
  have conditions := Condition.clause_stated readConditions numbers
  simp only [pieces, List.cons_append, List.forall_mem_append, List.forall_mem_cons,
    Node.identifiers]
  exact ⟨trivial, table.left, trivial, fun piece member => (assignments piece member).left.right,
    fun piece member => (conditions piece member).right.right⟩

theorem Delete.ofNode_stated {node : Node} {delete : Delete} (read : ofNode node = .ok delete)
    (numbers : List Nat) :
    ∀ piece ∈ delete.pieces, piece.StatedIn (node.identifiers .delete) numbers := by
  obtain ⟨readTable, readConditions⟩ := ofNode_parts read
  have table := Node.table_stated readTable numbers
  have conditions := Condition.clause_stated readConditions numbers
  simp only [pieces, List.forall_mem_cons, Node.identifiers]
  exact ⟨trivial, table.left, fun piece member => (conditions piece member).right⟩

/-- A statement holds no names and numbers but those that its request states. -/
theorem Statement.ofNode_stated {kind : StatementKind} {node : Node} {statement : Statement}
    (read : ofNode kind node = .ok statement) (style : TailStyle) :
    ∀ piece ∈ statement.pieces style, piece.StatedIn (node.identifiers kind) node.bounds := by
  cases kind with
  | select =>
    obtain ⟨select, made, rfl⟩ := map_ok read
    exact Select.ofNode_stated made style
  | insert =>
    obtain ⟨insert, made, rfl⟩ := map_ok read
    exact List.forall_mem_append.mpr ⟨Insert.ofNode_stated made node.bounds, List.forall_mem_nil _⟩
  | update =>
    obtain ⟨update, made, rfl⟩ := map_ok read
    exact List.forall_mem_append.mpr ⟨Update.ofNode_stated made node.bounds, List.forall_mem_nil _⟩
  | delete =>
    obtain ⟨delete, made, rfl⟩ := map_ok read
    exact List.forall_mem_append.mpr ⟨Delete.ofNode_stated made node.bounds, List.forall_mem_nil _⟩

end QueryTree
