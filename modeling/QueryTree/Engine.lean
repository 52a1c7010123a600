/-
This file serves the operations that nodes ask for. A node is replaced by the result of its
operation; a transaction serves its children one after the other.
-/
import QueryTree.Operation
import QueryTree.Session.Execution

namespace QueryTree

/-- The settings of operations and the conversion of rows. An operation is given the means of its
cancellation, or it is not. -/
structure Engine (backend : Backend) where
  settings : Settings
  convert : RowConverter backend
  cancellable : Bool

namespace Engine

variable {backend : Backend}

/-- The child that asks for several result sets. -/
def multipleFlag : String := "multiple-result-sets"

def control (engine : Engine backend) (operation : String) : Control :=
  ⟨operation, engine.cancellable, engine.settings⟩

/-- Why no connection was found. -/
def unconnected (engine : Engine backend) : SqlError :=
  .connection (.unregistered engine.settings.dialect.connectScope)

/-- Statements run in the innermost transaction of the dialect, or else on its connection. -/
def target (engine : Engine backend) (session : Session backend) :
    Except SqlError (Target backend) :=
  match session.lookup engine.settings.dialect.transactionScope with
  | some target => .ok target
  | none =>
      match session.connection? engine.settings.dialect.connectScope with
      | some connection => .ok ⟨connection, none⟩
      | none => .error engine.unconnected

/-- What is sent for a node: a command, the count of rows to keep, and what to make of the result. -/
structure Plan where
  command : Command
  cap : Option Nat
  strategy : Strategy

/-- What a node asks for: a statement as text, or something to run. -/
inductive Demand where
  | generated (statement : CompiledStatement)
  | planned (plan : Plan)

namespace Demand

/-- A text with parameters, for rows. The flag for several result sets is no parameter. -/
def ofSelect (node : Node) : Except RequestFault Demand := do
  let multiple ← node.singleFlag multipleFlag
  let command ← Command.ofNode node
  let command := { command.without multipleFlag with multipleResultSets := multiple }
  return planned ⟨command, none, .rows multiple⟩

/-- A text with parameters, for its first value or its count of rows. -/
def ofRaw (strategy : Strategy) (node : Node) : Except RequestFault Demand := do
  let command ← Command.ofNode node
  return planned ⟨command, none, strategy⟩

/-- A request that is compiled. Reads return rows, at most as many as they say. -/
def ofRequest (dialect : Dialect) (kind : StatementKind) (node : Node) :
    Except RequestFault Demand := do
  let statement ← Statement.compile dialect kind node
  if ← node.isGenerateOnly then return generated statement
  else
    match kind with
    | .select =>
        let multiple ← node.singleFlag multipleFlag
        return planned ⟨.ofStatement statement, statement.maxRows, .rows multiple⟩
    | _ => return planned ⟨.ofStatement statement, none, .nonQuery⟩

end Demand

/-- What a node demands is run, or left in the node as text. Faults leave the node as it was. -/
def serve (engine : Engine backend) (demand : Except RequestFault Demand) (node : Node) :
    Action backend (Finished Node) := do
  match demand with
  | .error fault => return ⟨node, .error (.request fault)⟩
  | .ok (.generated statement) => return ⟨statement.toNode node.name, .ok ()⟩
  | .ok (.planned plan) =>
      match engine.target (← Action.session) with
      | .error error => return ⟨node, .error error⟩
      | .ok target =>
          Execution.run (engine.control node.name) engine.convert target plan.command plan.cap
            plan.strategy node

/-- Rows of a text. -/
def select (engine : Engine backend) (node : Node) : Action backend (Finished Node) :=
  engine.serve (Demand.ofSelect node) node

/-- The first value of a text. -/
def scalar (engine : Engine backend) (node : Node) : Action backend (Finished Node) :=
  engine.serve (Demand.ofRaw .scalar node) node

/-- The count of rows that a text affects. -/
def execute (engine : Engine backend) (node : Node) : Action backend (Finished Node) :=
  engine.serve (Demand.ofRaw .nonQuery node) node

/-- A request that is compiled and run. -/
def compiled (engine : Engine backend) (kind : StatementKind) (node : Node) :
    Action backend (Finished Node) :=
  engine.serve (Demand.ofRequest engine.settings.dialect kind node) node

/-- The work is done in a transaction on the connection of the innermost transaction of the dialect,
or else on its connection. -/
def inTransaction {α : Type} (engine : Engine backend) (undone : α)
    (work : Action backend (Finished α)) : Action backend (Finished α) := do
  let scope := engine.settings.dialect.transactionScope
  let session ← Action.session
  match (session.connection? scope).or
      (session.connection? engine.settings.dialect.connectScope) with
  | none => return ⟨undone, .error engine.unconnected⟩
  | some connection => Scope.transaction scope connection undone work

mutual

/-- The operation that a node's name asks for. -/
def invoke (engine : Engine backend) : Node → Action backend (Finished Node)
  | ⟨name, value, children⟩ =>
      match Operation.parse engine.settings.dialect name with
      | .error error => return ⟨⟨name, value, children⟩, .error error⟩
      | .ok .select => engine.select ⟨name, value, children⟩
      | .ok .scalar => engine.scalar ⟨name, value, children⟩
      | .ok .execute => engine.execute ⟨name, value, children⟩
      | .ok (.compiled kind) => engine.compiled kind ⟨name, value, children⟩
      | .ok .transaction => do
          let done ← engine.inTransaction children (invokeAll engine children)
          return ⟨⟨name, value, done.content⟩, done.outcome⟩

/-- The operations of nodes in order, up to the first failure. -/
def invokeAll (engine : Engine backend) : List Node → Action backend (Finished (List Node))
  | [] => return ⟨[], .ok ()⟩
  | node :: rest => do
      let first ← invoke engine node
      match first.outcome with
      | .error error => return ⟨first.content :: rest, .error error⟩
      | .ok () =>
          let others ← invokeAll engine rest
          return ⟨first.content :: others.content, others.outcome⟩

end

/-- The children of a node are served inside one transaction. -/
def transaction (engine : Engine backend) (node : Node) : Action backend (Finished Node) := do
  let done ← engine.inTransaction node.children (engine.invokeAll node.children)
  return ⟨{ node with children := done.content }, done.outcome⟩

/-- The operation of a node with a connection registered for it alone. -/
def run (engine : Engine backend) (connection : Nat) (node : Node) :
    Action backend (Finished Node) :=
  Action.withoutFrames
    (Scope.withConnection engine.settings.dialect.connectScope connection (engine.invoke node))

end Engine

end QueryTree
