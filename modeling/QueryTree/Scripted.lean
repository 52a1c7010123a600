/-
This file holds connections that follow a script: the answers to statements are given in advance,
and all calls are recorded.
-/
import QueryTree.Backend

namespace QueryTree

namespace Scripted

/-- What the script gives in place of a row. -/
inductive Row where
  | columns (columns : List (String × Value))
  | undecodable (column : String)
  | failure (message : String)

/-- What the script answers to a statement. -/
inductive Answer where
  | affected (count : Nat)
  | sets (sets : List (List Row))
  | failure (message : String)
  | silence

/-- The script of a connection. Statements and rows at which the program is cancelled are counted
from one. -/
structure Script where
  answers : List Answer
  failsBegin : Bool
  failsCommit : Bool
  failsRollback : Bool
  refusesBatchParameters : Bool
  cancellingRow : Option Nat
  cancellingStatement : Option Nat
  pausesOnCancel : Bool

/-- A connection: the part of its script still to come, and what has been counted so far. -/
structure Connection where
  script : Script
  begun : Nat
  statements : Nat

/-- A transaction: its number on its connection, and whether it is inside another one. -/
structure Transaction where
  number : Nat
  nested : Bool
deriving DecidableEq, Repr

/-- A cursor: the result sets still to come, and the count of rows delivered so far. -/
structure Cursor where
  sets : List (List Row)
  delivered : Nat

/-- A recorded call. -/
inductive Observation where
  | begin (connection number : Nat) (parent : Option Nat)
  | commit (connection : Nat) (transaction : Transaction)
  | rollback (connection : Nat) (transaction : Transaction)
  | execute (connection : Nat) (command : Command) (transaction : Option Nat)
  | openCursor (connection : Nat) (command : Command) (transaction : Option Nat)
  | row (connection : Nat) (delivered : Bool)
  | nextSet (connection : Nat) (further : Bool)

/-- Connections by number. -/
abbrev State := List Connection

def emptyScript : Script := ⟨[], false, false, false, false, none, none, false⟩

namespace State

def connection (state : State) (number : Nat) : Connection :=
  state[number]?.getD ⟨emptyScript, 0, 0⟩

end State

namespace Cursor

/-- The rows and result sets still to come. -/
def size (cursor : Cursor) : Nat := (cursor.sets.map fun set => set.length + 1).foldr (· + ·) 0

end Cursor

/-- A call that only succeeds or fails, as the script says. -/
def plainOutcome (fails : Bool) (activity : String) : Except SqlError Unit :=
  if fails then .error (.execution (.stated ("connection lost during " ++ activity))) else .ok ()

def begin (number : Nat) (parent : Option Transaction) (state : State) :
    Served State Observation (Except SqlError Transaction) :=
  let connection := state.connection number
  let transaction : Transaction := ⟨connection.begun + 1, parent.isSome⟩
  { answer := (plainOutcome connection.script.failsBegin "begin").map fun _ => transaction
    state := state.set number { connection with begun := connection.begun + 1 }
    observations := [.begin number transaction.number (parent.map Transaction.number)]
    cancels := false }

def commit (number : Nat) (transaction : Transaction) (state : State) :
    Served State Observation (Except SqlError Unit) where
  answer := plainOutcome (state.connection number).script.failsCommit "commit"
  state := state
  observations := [.commit number transaction]
  cancels := false

def rollback (number : Nat) (transaction : Transaction) (state : State) :
    Served State Observation (Except SqlError Unit) where
  answer := plainOutcome (state.connection number).script.failsRollback "rollback"
  state := state
  observations := [.rollback number transaction]
  cancels := false

/-- The next answer of the script is used up by a statement, whatever becomes of the statement. -/
def statement {α : Type} (number : Nat) (observation : Observation)
    (answer : Option Answer → Reply α) (state : State) : Served State Observation (Reply α) :=
  let connection := state.connection number
  let script := connection.script
  let cancels := script.cancellingStatement == some (connection.statements + 1)
  let reply := answer script.answers.head?
  { answer :=
      match reply with
      | .ready outcome => if cancels && script.pausesOnCancel then .paused outcome else reply
      | reply => reply
    state := state.set number
      { connection with
        script := { script with answers := script.answers.tail }
        statements := connection.statements + 1 }
    observations := [observation]
    cancels := cancels }

/-- The count of rows that a statement affects, one unless the script says otherwise. -/
def affectedRows : Option Answer → Reply Nat
  | none => .ready (.ok 1)
  | some (.affected count) => .ready (.ok count)
  | some (.sets _) => .ready (.ok 0)
  | some (.failure message) => .ready (.error (.execution (.stated message)))
  | some .silence => .late (.error .cancelled)

/-- The result sets of a statement, none unless the script says otherwise. -/
def resultSets : Option Answer → Reply Cursor
  | none => .ready (.ok ⟨[], 0⟩)
  | some (.affected _) => .ready (.ok ⟨[], 0⟩)
  | some (.sets sets) => .ready (.ok ⟨sets, 0⟩)
  | some (.failure message) => .ready (.error (.execution (.stated message)))
  | some .silence => .late (.error .cancelled)

def execute (number : Nat) (command : Command) (transaction : Option Transaction) (state : State) :
    Served State Observation (Reply Nat) :=
  statement number (.execute number command (transaction.map Transaction.number)) affectedRows state

def openCursor (number : Nat) (command : Command) (transaction : Option Transaction)
    (state : State) : Served State Observation (Reply Cursor) :=
  statement number (.openCursor number command (transaction.map Transaction.number)) resultSets state

/-- The next row of the first result set. -/
def fetch (cursor : Cursor) : Fetched Cursor Row Cursor.size cursor :=
  match found : cursor.sets with
  | (.failure message :: rows) :: sets =>
      .failed (.execution (.stated message)) ⟨rows :: sets, cursor.delivered + 1⟩
  | (row :: rows) :: sets =>
      .row row ⟨rows :: sets, cursor.delivered + 1⟩ (by simp [Cursor.size, found])
  | _ => .exhausted cursor (Nat.le_refl _)

def nextRow (number : Nat) (cursor : Cursor) (state : State) :
    Served State Observation (Reply (Fetched Cursor Row Cursor.size cursor)) :=
  let delivers := (cursor.sets.head?.getD []).length != 0
  { answer := .ready (.ok (fetch cursor))
    state := state
    observations := [.row number delivers]
    cancels := delivers
      && (state.connection number).script.cancellingRow == some (cursor.delivered + 1) }

/-- The first result set is given up, with the rows that it still has. -/
def advance (cursor : Cursor) : Advanced Cursor Cursor.size cursor :=
  match found : cursor.sets with
  | set :: next :: sets =>
      .further ⟨next :: sets, cursor.delivered⟩ (by simp [Cursor.size, found])
  | _ => .finished ⟨[], cursor.delivered⟩

def nextSet (number : Nat) (cursor : Cursor) (state : State) :
    Served State Observation (Reply (Advanced Cursor Cursor.size cursor)) where
  answer := .ready (.ok (advance cursor))
  state := state
  observations := [.nextSet number (1 < cursor.sets.length)]
  cancels := false

/-- A batch with parameters is refused where the script says so. -/
def check (number : Nat) (command : Command) (state : State) : Except SqlError Unit :=
  if (state.connection number).script.refusesBatchParameters && command.multipleResultSets
      && !command.parameters.isEmpty then
    .error (.request (.stated "batches cannot take parameters"))
  else .ok ()

def columns : Row → Except SqlError (List (String × Value))
  | .columns columns => .ok columns
  | .undecodable column => .error (.decode column (.stated "scripted"))
  | .failure message => .error (.execution (.stated message))

/-- Connections that follow their scripts. -/
def backend : Backend where
  State := State
  Transaction := Transaction
  Cursor := Cursor
  Row := Row
  Observation := Observation
  begin := begin
  commit := commit
  rollback := rollback
  execute := execute
  openCursor := openCursor
  size := Cursor.size
  nextRow := nextRow
  nextSet := nextSet
  hasSet := fun cursor => !cursor.sets.isEmpty
  check := check
  columns := columns
  savepointName := fun _ => none
  warnsOfAbandoned := false

end Scripted

end QueryTree
