/-
This file says which values of a request the parameters of its statement hold, and in which order.
-/
import QueryTree.Proofs.Statement.RequestParts

namespace QueryTree

namespace Node

/-- The values that a single condition binds: a comparison its own, null or not, a membership those
of its children, a test for null none. -/
def conditionValues (leaf : Node) : List Value :=
  match (Condition.splitName leaf.name).2 with
  | .comparison _ => [leaf.value]
  | .membership => leaf.children.map value
  | .isNull => []

/-- The values that a request gives to columns. -/
def assignedValues (kind : StatementKind) (node : Node) : List Value :=
  match kind with
  | .insert | .update => (node.listed "values").map value
  | .select | .delete => []

/-- The values that a request binds: those of its assignments, and then those of its conditions. -/
def boundValues (kind : StatementKind) (node : Node) : List Value :=
  node.assignedValues kind ++ node.conditions.flatMap conditionValues

end Node

namespace Piece

@[simp] theorem values_keyword (word : Keyword) (rest : List Piece) :
    values (.keyword word :: rest) = values rest := rfl

@[simp] theorem values_identifier (name : Identifier) (rest : List Piece) :
    values (.identifier name :: rest) = values rest := rfl

end Piece

namespace Condition

/-- A single condition binds the values of its node. -/
theorem ofLeaf_values {node : Node} {condition : Condition} (read : ofLeaf node = .ok condition) :
    Piece.values condition.pieces = node.conditionValues := by
  unfold ofLeaf at read
  unfold Node.conditionValues
  generalize splitName node.name = split at read ⊢
  obtain ⟨name, test⟩ := split
  obtain ⟨column, -, read⟩ := bind_ok read
  cases test with
  | membership =>
    cases read
    exact Predicate.values_member column _
  | comparison comparison =>
    simp only at read
    split at read
    · cases read
      rfl
    · cases read
  | isNull =>
    simp only at read
    split at read
    · cases read
    · split at read
      · cases read
        rfl
      · cases read

/-- The values that the single conditions of a tree bind. -/
def treeValues (node : Node) : List Value :=
  (Expression.ofNode node).leaves.flatMap Node.conditionValues

/-- Conditions bind the values of their nodes in order. -/
theorem values_of_forall₂ {nodes : List Node} {conditions : List Condition}
    (pairs : List.Forall₂ (fun node condition => Piece.values condition.pieces = treeValues node)
      nodes conditions) :
    (conditions.flatMap fun condition => Piece.values condition.pieces) =
      nodes.flatMap treeValues := by
  induction pairs with
  | nil => rfl
  | cons first _ ih => rw [List.flatMap_cons, List.flatMap_cons, first, ih]

/-- A condition binds the values of its single conditions, by induction on the tree from which it is
read. -/
theorem ofNode_values :
    ∀ node condition, ofNode node = .ok condition →
      Piece.values condition.pieces = treeValues node := by
  apply ofNode_induction
  · intro node condition single read
    rw [treeValues, Expression.leaves_single single, List.flatMap_singleton]
    exact ofLeaf_values read
  · intro name value children kind conditions named inner
    rw [Predicate.values_group, values_of_forall₂ inner, treeValues,
      Expression.leaves_group named, List.flatMap_assoc]
    rfl

/-- The conditions of a request bind the values of its single conditions. -/
theorem ofRequest_values {node : Node} {conditions : List Condition}
    (read : ofRequest node = .ok conditions) :
    (conditions.flatMap fun condition => Piece.values condition.pieces) =
      node.conditions.flatMap Node.conditionValues := by
  have pairs := (ofNodes_forall₂ (ofRequest_parts read)).imp ofNode_values
  rw [values_of_forall₂ pairs, Node.conditions, Expression.ofFragment, Expression.leaves,
    Expression.leavesAll_ofNodes, List.flatMap_assoc]
  rfl

end Condition

namespace Assignment

theorem ofNode_value {node : Node} {assignment : Assignment} (read : ofNode node = .ok assignment) :
    assignment.2 = node.value := by
  obtain ⟨column, -, made⟩ := bind_ok read
  cases made
  rfl

theorem mapM_ofNode_values {nodes : List Node} {assignments : List Assignment}
    (read : nodes.mapM ofNode = .ok assignments) :
    assignments.map Prod.snd = nodes.map Node.value := by
  have pairs := (mapM_forall₂ read).imp fun _ _ => ofNode_value
  clear read
  induction pairs with
  | nil => rfl
  | cons first _ ih => rw [List.map_cons, List.map_cons, first, ih]

/-- Runs of pieces that bind one value for each assignment. -/
theorem separated_values {pieces : Assignment → List Piece}
    (bound : ∀ assignment, Piece.values (pieces assignment) = [assignment.2])
    (assignments : List Assignment) :
    Piece.values (Piece.separated .comma (assignments.map pieces)) = assignments.map Prod.snd := by
  rw [Piece.values_separated, List.flatMap_map, List.map_eq_flatMap]
  exact congrArg (fun change => assignments.flatMap change) (funext bound)

end Assignment

/-- The list of columns of a read binds no value. -/
theorem Column.listPieces_values (columns : List Column) : Piece.values (listPieces columns) = [] := by
  unfold listPieces
  split
  · rfl
  · rw [Piece.values_separated, List.flatMap_map, List.flatMap_eq_nil_iff]
    intro column member
    unfold pieces
    cases column.label <;> rfl

/-- A join binds no value. -/
theorem Join.pieces_values (join : Join) : Piece.values join.pieces = [] := by
  rw [Join.pieces, Piece.values_keyword, Piece.values_identifier, Piece.values_keyword,
    Piece.values_separated, List.flatMap_map, List.flatMap_eq_nil_iff]
  intro pair member
  rfl

namespace Statement

/-- In front of its conditions a read binds no value. -/
theorem beforeWhere_select_values (read : Select) : Piece.values (select read).beforeWhere = [] := by
  have columns := Column.listPieces_values read.columns
  have joins : Piece.values (read.joins.flatMap Join.pieces) = [] := by
    rw [Piece.values, List.filterMap_flatMap, List.flatMap_eq_nil_iff]
    exact fun join _ => join.pieces_values
  rw [beforeWhere, List.cons_append, Piece.values_keyword, Piece.values_append, columns]
  exact joins

/-- In front of its conditions a statement binds the values of the assignments. -/
theorem beforeWhere_values {kind : StatementKind} {node : Node} {statement : Statement}
    (read : ofNode kind node = .ok statement) :
    Piece.values statement.beforeWhere = node.assignedValues kind := by
  cases kind with
  | select =>
    obtain ⟨select, -, rfl⟩ := map_ok read
    exact beforeWhere_select_values select
  | insert =>
    obtain ⟨insert, made, rfl⟩ := map_ok read
    obtain ⟨-, readAssignments⟩ := Insert.ofNode_parts made
    have columns : Piece.values (Piece.separated .comma (insert.assignments.map
        fun assignment => [.identifier assignment.1])) = [] := by
      rw [Piece.values_separated, List.flatMap_map, List.flatMap_eq_nil_iff]
      exact fun _ _ => rfl
    have values := Assignment.separated_values
      (fun assignment => show Piece.values [.parameter assignment.2] = [assignment.2] from rfl)
      insert.assignments
    simp only [beforeWhere, Insert.pieces, List.cons_append, Piece.values_append,
      Piece.values_keyword, Piece.values_identifier, columns, values, List.nil_append]
    rw [Assignment.mapM_ofNode_values readAssignments]
    exact List.append_nil _
  | update =>
    obtain ⟨update, made, rfl⟩ := map_ok read
    obtain ⟨-, readAssignments, -⟩ := Update.ofNode_parts made
    have values := Assignment.separated_values (fun assignment =>
      show Piece.values [.identifier assignment.1, .keyword .equal, .parameter assignment.2] =
        [assignment.2] from rfl) update.assignments
    exact values.trans (Assignment.mapM_ofNode_values readAssignments)
  | delete =>
    obtain ⟨delete, -, rfl⟩ := map_ok read
    rfl

/-- A statement binds the values that its request binds, in the same order. -/
theorem ofNode_values {kind : StatementKind} {node : Node} {statement : Statement}
    (read : ofNode kind node = .ok statement) :
    Piece.values statement.body = node.boundValues kind := by
  rw [body_where, Piece.values_append, beforeWhere_values read, Predicate.values_clause,
    Condition.ofRequest_values (conditions_ofNode read)]
  rfl

end Statement

end QueryTree
