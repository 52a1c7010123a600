/-
This file runs commands and puts their results into nodes. Every command that a backend accepts is
logged once, and a failed one leaves its node with the name only.
-/
import QueryTree.Session.Rows
import QueryTree.Session.Scope

namespace QueryTree

/-- What to make of a command's result: the count of affected rows, the first column of the first
row, or the rows themselves. -/
inductive Strategy where
  | nonQuery
  | scalar
  | rows (multipleResultSets : Bool)
deriving DecidableEq, Repr

namespace Execution

variable {backend : Backend}

/-- The first column of the first row, or null; and the count of rows. -/
def readScalar (control : Control) (convert : RowConverter backend) (connection : Nat)
    (cursor : backend.Cursor) : Action backend (Except SqlError (Value × Nat)) := do
  match ← control.await false (Action.nextRow connection cursor) with
  | .error error => return .error error
  | .ok (.failed error _) => return .error error
  | .ok (.exhausted ..) => return .ok (.null, 0)
  | .ok (.row row ..) =>
      match convert row with
      | .error error => return .error error
      | .ok columns => return .ok ((columns.head?.map Prod.snd).getD .null, 1)

/-- A command is run; its result is the content of a node of the given name and a count of rows. -/
def runStrategy (control : Control) (convert : RowConverter backend) (target : Target backend)
    (command : Command) (cap : Option Nat) (strategy : Strategy) (name : String) :
    Action backend (Except SqlError (Node × Nat)) := do
  match strategy with
  | .nonQuery =>
      match ← control.await true (Action.execute target.connection command target.transaction) with
      | .error error => return .error error
      | .ok affected => return .ok (.leaf name (.ofCount affected), affected)
  | .scalar =>
      match ← control.await true (Action.openCursor target.connection command target.transaction) with
      | .error error => return .error error
      | .ok cursor =>
          match ← readScalar control convert target.connection cursor with
          | .error error => return .error error
          | .ok (value, rows) => return .ok (.leaf name value, rows)
  | .rows multiple =>
      match ← control.await true (Action.openCursor target.connection command target.transaction) with
      | .error error => return .error error
      | .ok cursor =>
          match ← Rows.materialize control convert target.connection multiple cap cursor with
          | .error error => return .error error
          | .ok (children, rows) => return .ok (⟨name, .null, children⟩, rows)

/-- A command that the backend refuses leaves the node as it was; any other one replaces it by the
result or, after a failure, by nothing but its name. -/
def run (control : Control) (convert : RowConverter backend) (target : Target backend)
    (command : Command) (cap : Option Nat) (strategy : Strategy) (node : Node) :
    Action backend (Finished Node) := do
  match backend.check target.connection command (← Action.session).state with
  | .error error => return ⟨node, .error error⟩
  | .ok () =>
      let outcome ← runStrategy control convert target command cap strategy node.name
      Action.log (control.entry command (outcome.map Prod.snd))
      match outcome with
      | .ok (result, _) => return ⟨result, .ok ()⟩
      | .error error => return ⟨node.clear, .error error⟩

end Execution

end QueryTree
