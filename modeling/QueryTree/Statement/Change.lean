/-
This file holds statements that change rows: `INSERT`, `UPDATE` and `DELETE`.
-/
import QueryTree.Statement.Condition

namespace QueryTree

/-- A column and the value it is given. -/
abbrev Assignment := Identifier × Value

namespace Assignment

/-- A node names a column and carries its value. -/
def ofNode (node : Node) : Except RequestFault Assignment := do
  let column ← Identifier.parse node.name
  return (column, node.value)

/-- The assignments of a request, of which there is at least one. -/
def ofRequest (node : Node) : Except RequestFault (List Assignment) := do
  let assignments ← (← node.fragment "values").mapM ofNode
  if assignments.isEmpty then .error (.assignmentsMissing node.name) else return assignments

end Assignment

/-- A new row. -/
structure Insert where
  table : Identifier
  assignments : List Assignment

namespace Insert

def ofNode (node : Node) : Except RequestFault Insert := do
  node.checkFragments ["values"]
  let table ← node.table
  let assignments ← Assignment.ofRequest node
  return ⟨table, assignments⟩

def pieces (insert : Insert) : List Piece :=
  .keyword .insertInto :: .identifier insert.table :: .keyword .openColumns
    :: Piece.separated .comma (insert.assignments.map fun (column, _) => [.identifier column])
    ++ .keyword .openValues
    :: Piece.separated .comma (insert.assignments.map fun (_, value) => [.parameter value])
    ++ [.keyword .closeGroup]

end Insert

/-- New values in the rows that meet the conditions. -/
structure Update where
  table : Identifier
  assignments : List Assignment
  conditions : List Condition

namespace Update

def ofNode (node : Node) : Except RequestFault Update := do
  node.checkFragments ["values", "where"]
  let table ← node.table
  let assignments ← Assignment.ofRequest node
  let conditions ← Condition.ofRequest node
  return ⟨table, assignments, conditions⟩

def pieces (update : Update) : List Piece :=
  .keyword .update :: .identifier update.table :: .keyword .set
    :: Piece.separated .comma (update.assignments.map fun (column, value) =>
      [.identifier column, .keyword .equal, .parameter value])
    ++ Condition.clause update.conditions

end Update

/-- The removal of the rows that meet the conditions. -/
structure Delete where
  table : Identifier
  conditions : List Condition

namespace Delete

/-- A removal has at least one condition. -/
def ofNode (node : Node) : Except RequestFault Delete := do
  node.checkFragments ["where"]
  let table ← node.table
  let conditions ← Condition.ofRequest node
  if conditions.isEmpty then .error (.conditionsMissing node.name) else return ⟨table, conditions⟩

def pieces (delete : Delete) : List Piece :=
  .keyword .deleteFrom :: .identifier delete.table :: Condition.clause delete.conditions

end Delete

end QueryTree
