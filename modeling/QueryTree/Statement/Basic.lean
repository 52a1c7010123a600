/-
This file compiles requests: a request is read into a statement, and the statement is written in a
dialect. All faults are found by the reading.
-/
import QueryTree.Statement.Change
import QueryTree.Statement.Select

namespace QueryTree

/-- A statement of one of four kinds. -/
inductive Statement where
  | select (read : Select)
  | insert (insert : Insert)
  | update (update : Update)
  | delete (delete : Delete)

inductive StatementKind where
  | select
  | insert
  | update
  | delete
deriving DecidableEq, Repr

namespace Statement

/-- The statement that a request asks for. -/
def ofNode (kind : StatementKind) (node : Node) : Except RequestFault Statement :=
  match kind with
  | .select => (Select.ofNode node).map select
  | .insert => (Insert.ofNode node).map insert
  | .update => (Update.ofNode node).map update
  | .delete => (Delete.ofNode node).map delete

/-- Everything in front of the clause that orders and limits a read. -/
def body : Statement → List Piece
  | select read => read.body
  | insert row => row.pieces
  | update change => change.pieces
  | delete removal => removal.pieces

/-- The greatest count of rows that a statement returns. -/
def maxRows : Statement → Option Nat
  | select read => some read.pagination.limit
  | _ => none

/-- The text of a statement from the text of its body: the dialect ends a read, and nothing is behind
other statements. -/
def ended (dialect : Dialect) (text : List Char) : Statement → List Char
  | select read => dialect.tail read.pagination dialect.quote text
  | _ => text

/-- The statement in a dialect. -/
def written (dialect : Dialect) (statement : Statement) : CompiledStatement where
  text := String.ofList (statement.ended dialect (Piece.text dialect 0 statement.body))
  parameters := Piece.parameters dialect statement.body
  maxRows := statement.maxRows

/-- A request becomes a statement in a dialect. -/
def compile (dialect : Dialect) (kind : StatementKind) (node : Node) :
    Except RequestFault CompiledStatement :=
  (ofNode kind node).map (written dialect)

end Statement

namespace CompiledStatement

/-- The statement as a node: its text with its parameters as children. -/
def toNode (statement : CompiledStatement) (name : String) : Node :=
  ⟨name, .text statement.text, statement.parameters.map fun (name, value) => .leaf name value⟩

end CompiledStatement

end QueryTree
