/-
This file holds what happens during a session: calls of a backend, entries of the log, and the
reports of finished steps of a program.
-/
import QueryTree.Backend

namespace QueryTree

/-- An entry of the log. -/
inductive LogEntry where
  | executed (slow : Bool) (operation : String) (parameterCount rows : Nat) (text : String)
  | cancelled (operation : String) (text : String)
  | failed (operation : String) (parameterCount : Nat) (text : String) (error : SqlError)
  | begun (scope : String) (savepoint : Bool)
  | committed (scope : String) (savepoint : Bool)
  | rolledBack (scope : String) (savepoint : Bool) (error : SqlError)
  | rollbackFailed (scope : String) (savepoint : Bool) (error rollbackError : SqlError)
  | abandoned (savepointName : Option String)

namespace LogEntry

/-- Whether an entry is a warning. -/
def isWarning : LogEntry → Bool
  | executed slow .. => slow
  | rollbackFailed .. => true
  | abandoned _ => true
  | _ => false

/-- Whether an entry tells of a statement, and not of a scope. -/
def isStatement : LogEntry → Bool
  | executed .. => true
  | cancelled .. => true
  | failed .. => true
  | _ => false

/-- The part of the log that an entry belongs to. -/
def target (entry : LogEntry) : String :=
  if entry.isStatement then "treesql.sql" else "treesql.scope"

def message : LogEntry → String
  | executed slow .. => if slow then "slow statement" else "statement executed"
  | cancelled .. => "statement cancelled"
  | failed .. => "statement failed"
  | begun .. => "begin"
  | committed .. => "commit"
  | rolledBack .. => "rollback"
  | rollbackFailed .. => "rollback failed"
  | abandoned _ => "transaction dropped without commit or rollback"

end LogEntry

/-- A call of a backend, with its answer where the answer steers what follows. -/
inductive Call (backend : Backend) where
  | begin (parent : Option backend.Transaction) (answer : Except SqlError backend.Transaction)
  | commit (transaction : backend.Transaction) (answer : Except SqlError Unit)
  | rollback (transaction : backend.Transaction) (answer : Except SqlError Unit)
  | execute (command : Command) (transaction : Option backend.Transaction) (reply : Reply Nat)
  | openCursor (command : Command) (transaction : Option backend.Transaction)
      (reply : Reply backend.Cursor)
  | nextRow
  | nextSet

/-- The content of a result in either case, and whether it is a failure. -/
structure Finished (α : Type) where
  content : α
  outcome : Except SqlError Unit

/-- The report of a finished step of a program, under the step's word. -/
inductive Report where
  | operation (word : String) (node : Node) (outcome : Except SqlError Unit)
  | scope (word : String) (depth : Nat) (outcome : Except SqlError Unit)
  | lookup (found : Option Nat) (inTransaction active : Bool) (connection : Option Nat) (depth : Nat)

/-- What happens during a session. -/
inductive Event (backend : Backend) where
  | call (connection : Nat) (call : Call backend) (observations : List backend.Observation)
  | log (entry : LogEntry)
  | report (report : Report)

end QueryTree
