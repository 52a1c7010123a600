/-
This file holds the scopes of a session. Scopes are closed in the reverse order of their opening;
a transaction in a scope inside a transaction of the same name and connection is a savepoint.
-/
import QueryTree.Session.Action

namespace QueryTree

/-- Where a statement runs: on a connection, and inside a transaction, if any. -/
structure Target (backend : Backend) where
  connection : Nat
  transaction : Option backend.Transaction

namespace Session

variable {backend : Backend}

/-- The innermost scope of a name. -/
def frame? (session : Session backend) (name : String) : Option (Frame backend) :=
  session.frames.find? fun frame => frame.name == name

/-- Where statements run in the innermost scope of a name. -/
def lookup (session : Session backend) (name : String) : Option (Target backend) :=
  (session.frame? name).map fun frame => ⟨frame.connection, frame.transaction⟩

/-- The connection of the innermost scope of a name. -/
def connection? (session : Session backend) (name : String) : Option Nat :=
  (session.frame? name).map Frame.connection

def isActive (session : Session backend) (name : String) : Bool :=
  session.frames.any fun frame => frame.name == name

def depth (session : Session backend) : Nat := session.frames.length

/-- The transaction in which a new scope of a name on a connection is nested: the one of the
innermost scope of the name, if that is on the connection. -/
def parent? (session : Session backend) (name : String) (connection : Nat) :
    Option backend.Transaction :=
  match session.lookup name with
  | some target => if target.connection = connection then target.transaction else none
  | none => none

end Session

namespace Scope

variable {backend : Backend} {α : Type}

/-- The work is done while a connection is registered under a name. -/
def withConnection (name : String) (connection : Nat) (work : Action backend α) :
    Action backend α := do
  Action.pushFrame ⟨name, connection, none⟩
  let value ← work
  let _ ← Action.popFrame
  return value

/-- A transaction ends by the outcome of its work: it is committed after a success, and rolled back
after a failure, which stays the outcome even if the rollback fails. -/
def finish (name : String) (connection : Nat) (savepoint : Bool)
    (transaction : backend.Transaction) (outcome : Except SqlError Unit) :
    Action backend (Except SqlError Unit) := do
  match outcome with
  | .ok () =>
      match ← Action.commit connection transaction with
      | .ok () =>
          Action.log (.committed name savepoint)
          return .ok ()
      | .error error => return .error error
  | .error error =>
      match ← Action.rollback connection transaction with
      | .ok () => Action.log (.rolledBack name savepoint error)
      | .error rollbackError => Action.log (.rollbackFailed name savepoint error rollbackError)
      return .error error

/-- The work is done inside a transaction registered under a name. When the transaction cannot be
begun the work is not done, and its content is the given one. -/
def transaction (name : String) (connection : Nat) (undone : α)
    (work : Action backend (Finished α)) : Action backend (Finished α) := do
  let parent := (← Action.session).parent? name connection
  match ← Action.begin connection parent with
  | .error error => return ⟨undone, .error error⟩
  | .ok transaction =>
      Action.log (.begun name parent.isSome)
      Action.pushFrame ⟨name, connection, some transaction⟩
      let done ← work
      match (← Action.popFrame).bind Frame.transaction with
      | none => return done
      | some transaction =>
          let outcome ← finish name connection parent.isSome transaction done.outcome
          return ⟨done.content, outcome⟩

end Scope

end QueryTree
