/-
This file holds commands: the text of a statement with the values to bind.
-/
import QueryTree.Statement.Basic

namespace QueryTree

/-- A text to run. A command for several result sets may hold several statements. -/
structure Command where
  text : String
  parameters : List (String × Value)
  multipleResultSets : Bool

namespace Command

def ofText (text : String) : Command := ⟨text, [], false⟩

/-- A node carries the text, and its children the parameters. -/
def ofNode (node : Node) : Except RequestFault Command := do
  let text ← node.text
  return ⟨text, node.children.map fun child => (child.name, child.value), false⟩

def ofStatement (statement : CompiledStatement) : Command :=
  ⟨statement.text, statement.parameters, false⟩

/-- One more parameter. -/
def bind (command : Command) (name : String) (value : Value) : Command :=
  { command with parameters := command.parameters ++ [(name, value)] }

/-- The parameters of a name are left out. -/
def without (command : Command) (name : String) : Command :=
  { command with parameters := command.parameters.filter fun parameter => parameter.1 != name }

end Command

end QueryTree
