/-
This file holds reads: the columns, tables, conditions and bounds of a `SELECT`.
-/
import QueryTree.Statement.Condition
import QueryTree.Statement.Pagination

namespace QueryTree

/-- A column to return, with another name for it. -/
structure Column where
  column : Identifier
  label : Option Identifier
deriving DecidableEq, Repr

namespace Column

/-- A node names a column, and as its value the column's other name. -/
def ofNode (node : Node) : Except RequestFault Column := do
  let column ← Identifier.parse node.name
  match node.value with
  | .null => return ⟨column, none⟩
  | .text label => return ⟨column, some (← Identifier.parse label)⟩
  | value => .error (.aliasNotText node.name value)

def pieces (column : Column) : List Piece :=
  .identifier column.column
    :: (match column.label with
      | some label => [.keyword .label, .identifier label]
      | none => [])

/-- The list of columns; without any it is the list of all columns. -/
def listPieces (columns : List Column) : List Piece :=
  if columns.isEmpty then [.keyword .allColumns]
  else Piece.separated .comma (columns.map pieces)

end Column

inductive JoinKind where
  | inner
  | left
  | right
  | full
deriving DecidableEq, Repr

namespace JoinKind

/-- The kinds of joins by their names in lower case. -/
def ofName? (name : String) : Option JoinKind :=
  match name with
  | "inner" => some inner
  | "left" => some left
  | "right" => some right
  | "full" => some full
  | _ => none

def keyword : JoinKind → Keyword
  | inner => .innerJoin
  | left => .leftJoin
  | right => .rightJoin
  | full => .fullJoin

/-- The kind that the only child named for it states in any case; a missing one is inner. -/
def ofNode (node : Node) : Except RequestFault JoinKind := do
  match ← node.single "type" with
  | none => return inner
  | some child =>
      let name := String.ofList ((← child.text).toList.map Char.toLower)
      match ofName? name with
      | some kind => return kind
      | none => .error (.unknownJoin name)

end JoinKind

/-- A joined table, with pairs of columns that have to be equal. -/
structure Join where
  kind : JoinKind
  table : Identifier
  conditions : List (Identifier × Identifier)
deriving DecidableEq, Repr

namespace Join

/-- A node names a column, and another one as its value. -/
def conditionOfNode (node : Node) : Except RequestFault (Identifier × Identifier) := do
  let left ← Identifier.parse node.name
  let right ← Identifier.parse (← node.text)
  return (left, right)

/-- A node names a table as its value; it states the kind and at least one pair of columns. -/
def ofNode (node : Node) : Except RequestFault Join := do
  let table ← node.table
  node.checkFragments ["type", "on"]
  let kind ← JoinKind.ofNode node
  let conditions ← node.fragment "on"
  if conditions.isEmpty then .error .joinWithoutCondition
  else return ⟨kind, table, ← conditions.mapM conditionOfNode⟩

def pieces (join : Join) : List Piece :=
  .keyword join.kind.keyword :: .identifier join.table :: .keyword .on
    :: Piece.separated .conjunction
      (join.conditions.map fun (left, right) =>
        [.identifier left, .keyword .equal, .identifier right])

end Join

/-- A read. -/
structure Select where
  table : Identifier
  pagination : Pagination
  columns : List Column
  joins : List Join
  conditions : List Condition

namespace Select

def fragments : List String :=
  ["columns", "where", "join", "order", "offset", "limit", "multiple-result-sets"]

/-- The parts of a read are looked at in the order of the fields. -/
def ofNode (node : Node) : Except RequestFault Select := do
  node.checkFragments fragments
  let table ← node.table
  let pagination ← Pagination.ofNode node
  let columns ← (← node.fragment "columns").mapM Column.ofNode
  let joins ← (node.findAll "join").mapM Join.ofNode
  let conditions ← Condition.ofRequest node
  return ⟨table, pagination, columns, joins, conditions⟩

/-- Everything in front of the clause that orders and limits the read. -/
def body (read : Select) : List Piece :=
  .keyword .select :: Column.listPieces read.columns
    ++ .keyword .fromTable :: .identifier read.table :: read.joins.flatMap Join.pieces
    ++ Condition.clause read.conditions

end Select

end QueryTree
