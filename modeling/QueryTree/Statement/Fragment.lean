/-
This file holds what all statements read from a request: the names of its fragments and its table.
-/
import QueryTree.Identifier
import QueryTree.Node.Basic

namespace QueryTree.Node

/-- Every direct child has an allowed name or asks for the text only. -/
def checkFragments (node : Node) (allowed : List String) : Except RequestFault Unit :=
  match node.children.find? fun child =>
      !(allowed.contains child.name || child.name == "generate-only") with
  | some child => .error (.unknownFragment child.name node.name)
  | none => .ok ()

/-- The table that a node names as its value. -/
def table (node : Node) : Except RequestFault Identifier :=
  match node.value.asText? with
  | some name => Identifier.parse name
  | none => .error (.tableMissing node.name)

/-- The children of the only fragment of a name; there are none when the fragment is missing. -/
def fragment (node : Node) (name : String) : Except RequestFault (List Node) := do
  match ← node.single name with
  | some child => .ok child.children
  | none => .ok []

end QueryTree.Node
