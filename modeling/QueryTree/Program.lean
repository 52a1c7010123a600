/-
This file holds programs over connections: operations inside nested scopes, with failures that are
passed on or caught.
-/
import QueryTree.Engine

namespace QueryTree

/-- Where a single command runs: in the innermost scope of a name, or on a connection. -/
inductive Place where
  | scope (name : String)
  | connection (number : Nat)

/-- A step of a program. -/
inductive Step where
  | run (connection : Nat) (node : Node)
  | invoke (node : Node)
  | perform (operation : Operation) (node : Node)
  | command (place : Place) (strategy : Strategy) (cap : Option Nat) (batch : Bool) (node : Node)
  | withConnection (name : String) (connection : Nat) (body : List Step)
  | transaction (name : String) (connection : Nat) (body : List Step)
  | attempt (body : List Step)
  | fail (message : String)
  | cancel
  | lookup (name : String)

namespace Program

variable {backend : Backend}

/-- The outcome of an operation is reported with the node after it. -/
def reported (word : String) (operation : Action backend (Finished Node)) :
    Action backend (Except SqlError Unit) := do
  let done ← operation
  Action.report (.operation word done.content done.outcome)
  return done.outcome

/-- The outcome of a body is reported with the depth of the scopes after it. -/
def enclosed (word : String) (body : Action backend (Except SqlError Unit)) :
    Action backend (Except SqlError Unit) := do
  let outcome ← body
  Action.report (.scope word (← Action.session).depth outcome)
  return outcome

/-- An operation whatever the name of its node. -/
def operate (engine : Engine backend) (operation : Operation) (node : Node) :
    Action backend (Finished Node) :=
  match operation with
  | .select => engine.select node
  | .scalar => engine.scalar node
  | .execute => engine.execute node
  | .compiled kind => engine.compiled kind node
  | .transaction => engine.transaction node

/-- The word under which an operation is reported. -/
def word : Operation → String
  | .select => "select"
  | .scalar => "scalar"
  | .execute => "execute"
  | .compiled .select => "read"
  | .compiled .insert => "create"
  | .compiled .update => "update"
  | .compiled .delete => "delete"
  | .transaction => "transaction"

/-- A command read from a node is run at its place. -/
def runCommand (engine : Engine backend) (place : Place) (strategy : Strategy) (cap : Option Nat)
    (batch : Bool) (node : Node) : Action backend (Finished Node) := do
  match Command.ofNode node with
  | .error fault => return ⟨node, .error (.request fault)⟩
  | .ok command =>
      let target : Except SqlError (Target backend) ← match place with
        | .connection number => pure (.ok ⟨number, none⟩)
        | .scope name =>
            match (← Action.session).lookup name with
            | some target => pure (.ok target)
            | none => pure (.error (.connection (.stated name)))
      match target with
      | .error error => return ⟨node, .error error⟩
      | .ok target =>
          Execution.run (engine.control "exec") engine.convert target
            { command with multipleResultSets := batch } cap strategy node

/-- What is registered under a name is reported. -/
def lookUp (name : String) : Action backend (Except SqlError Unit) := do
  let session ← Action.session
  let target := session.lookup name
  Action.report (.lookup (target.map Target.connection)
    (target.any fun target => target.transaction.isSome) (session.isActive name)
    (session.connection? name) session.depth)
  return .ok ()

mutual

/-- A step is done; its outcome ends the body around it when it is a failure. -/
def perform (engine : Engine backend) : Step → Action backend (Except SqlError Unit)
  | .run connection node => reported "run" (engine.run connection node)
  | .invoke node => reported "invoke" (engine.invoke node)
  | .perform operation node => reported (word operation) (operate engine operation node)
  | .command place strategy cap batch node =>
      reported "exec" (runCommand engine place strategy cap batch node)
  | .withConnection name connection body =>
      enclosed "with" (Scope.withConnection name connection (performAll engine body))
  | .transaction name connection body =>
      enclosed "tx" do
        let done ← Scope.transaction name connection () do
          let outcome ← performAll engine body
          return ⟨(), outcome⟩
        return done.outcome
  | .attempt body => do
      let _ ← enclosed "try" (performAll engine body)
      return .ok ()
  | .fail message => return .error (.request (.stated message))
  | .cancel => do
      Action.cancel
      return .ok ()
  | .lookup name => lookUp name

/-- The steps are done in order, up to the first failure. -/
def performAll (engine : Engine backend) : List Step → Action backend (Except SqlError Unit)
  | [] => return .ok ()
  | step :: rest => do
      match ← perform engine step with
      | .error error => return .error error
      | .ok () => performAll engine rest

end

/-- A whole program; its outcome is reported at its end. -/
def run (engine : Engine backend) (steps : List Step) : Action backend (Except SqlError Unit) :=
  enclosed "end" (performAll engine steps)

/-- Nodes are served one after the other on a connection, whatever becomes of them. -/
def runNodes (engine : Engine backend) (connection : Nat) : List Node → Action backend Unit
  | [] => return ()
  | node :: rest => do
      let _ ← reported "run" (engine.run connection node)
      runNodes engine connection rest

end Program

namespace Event

variable {backend : Backend}

/-- The reports among events, each with the events since the one before it; and the events after
the last report. -/
def grouped : (since : List (Event backend)) → List (Event backend) →
    List (List (Event backend) × Report) × List (Event backend)
  | since, [] => ([], since.reverse)
  | since, .report finished :: rest =>
      let (groups, last) := grouped [] rest
      ((since.reverse, finished) :: groups, last)
  | since, event :: rest => grouped (event :: since) rest

end Event

end QueryTree
