/-
This file reads the order and the bounds of a read.
-/
import QueryTree.Dialect
import QueryTree.Statement.Fragment

namespace QueryTree

namespace Direction

/-- A direction is written in any case; a missing one is ascending. -/
def ofValue? : Value → Option Direction
  | .null => some ascending
  | .text word =>
      if word.toList.map Char.toLower = "asc".toList then some ascending
      else if word.toList.map Char.toLower = "desc".toList then some descending
      else none
  | _ => none

end Direction

namespace OrderTerm

/-- A node names a column, and a direction as its value. -/
def ofNode (node : Node) : Except RequestFault OrderTerm :=
  match Direction.ofValue? node.value with
  | some direction => do
      let column ← Identifier.parse node.name
      return ⟨column, direction⟩
  | none => .error (.badDirection node.name node.value)

end OrderTerm

namespace Pagination

/-- The rows that a read returns at most when it does not say so. -/
def defaultLimit : Nat := 25

/-- The number that the only child of a name carries. -/
def bound (node : Node) (name : String) : Except RequestFault (Option Nat) := do
  match ← node.single name with
  | some child => return some (← child.natural)
  | none => return none

/-- The bounds are read before the order. -/
def ofNode (node : Node) : Except RequestFault Pagination := do
  let offset ← bound node "offset"
  let limit ← bound node "limit"
  let order ← (← node.fragment "order").mapM OrderTerm.ofNode
  return ⟨order, offset, limit.getD defaultLimit⟩

end Pagination

end QueryTree
