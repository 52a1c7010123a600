/-
This file holds the backend for PostgreSQL. Transactions are begun and ended by statements of the
session, and nested ones are savepoints. Commands for several result sets are sent as text, which
has no parameters; all others are prepared.
-/
import QueryTree.Backend
import QueryTree.Postgres.Server

namespace QueryTree.Postgres

/-- An open transaction, or the savepoint of a name. -/
structure Transaction where
  savepoint : Option String
deriving DecidableEq, Repr

namespace Transaction

/-- The statement that ends a transaction with its changes. -/
def commitText (transaction : Transaction) : String :=
  match transaction.savepoint with
  | none => "COMMIT"
  | some name => "RELEASE SAVEPOINT " ++ name

/-- The statement that undoes a transaction's changes. -/
def rollbackText (transaction : Transaction) : String :=
  match transaction.savepoint with
  | none => "ROLLBACK"
  | some name => "ROLLBACK TO SAVEPOINT " ++ name

end Transaction

/-- The name of a savepoint by its number. -/
def savepointName (number : Nat) : String := "treesql_sp_" ++ toString number

namespace Connection

/-- A transaction is begun, or a savepoint with a new name is set inside one. The name is used up
even if the savepoint fails. -/
def begin (parent : Option Transaction) (server : Server) :
    Served Server Seen (Except SqlError Transaction) :=
  match parent with
  | none =>
      let served := Client.control "BEGIN" server
      { served with answer := served.answer.map fun _ => ⟨none⟩ }
  | some _ =>
      let name := savepointName server.savepoints
      let served := Client.control ("SAVEPOINT " ++ name)
        { server with savepoints := server.savepoints + 1 }
      { served with answer := served.answer.map fun _ => ⟨some name⟩ }

def commit (transaction : Transaction) (server : Server) :
    Served Server Seen (Except SqlError Unit) :=
  Client.control transaction.commitText server

def rollback (transaction : Transaction) (server : Server) :
    Served Server Seen (Except SqlError Unit) :=
  Client.control transaction.rollbackText server

/-- A batch takes no parameters. -/
def check (command : Command) : Except SqlError Unit :=
  if command.multipleResultSets && !command.parameters.isEmpty then
    .error (.request .batchWithParameters)
  else .ok ()

def execute (command : Command) (server : Server) : Served Server Seen (Reply Nat) :=
  Client.runPrepared command server Client.countOf

/-- The result of a batch is read as a whole. -/
def openBatch (command : Command) (server : Server) : Served Server Seen (Reply Cursor) :=
  match check command with
  | .error error => ⟨.ready (.error error), server, [], false⟩
  | .ok () =>
      let served := Client.runText command.text server
      let cursor (outcome : Except SqlError (List Message)) : Except SqlError Cursor :=
        outcome.map fun messages => .buffered (Batch.resultSets messages)
      { served with
        answer := match served.answer with
          | .ready outcome => .ready (cursor outcome)
          | .paused outcome => .paused (cursor outcome)
          | .late outcome => .late (cursor outcome) }

def openCursor (command : Command) (server : Server) : Served Server Seen (Reply Cursor) :=
  if command.multipleResultSets then openBatch command server
  else Client.runPrepared command server Client.streamOf

end Connection

namespace Cursor

/-- The rows and result sets still to come. -/
def size : Cursor → Nat
  | stream arrivals => arrivals.length
  | buffered sets => (sets.map fun set => set.length + 1).foldr (· + ·) 0

/-- The next row of the statement, or of the first result set. Nothing arrives after the end of a
statement's answer. -/
def fetch : (cursor : Cursor) → Fetched Cursor Row size cursor
  | stream (.row row :: rest) => .row row (stream rest) (by simp [size])
  | stream (.malformedRow :: rest) => .failed (.execution .malformedAnswer) (stream rest)
  | stream (.fault fault :: rest) => .failed fault.error (stream rest)
  | stream (.completion :: rest) => .exhausted (stream rest) (by simp [size])
  | stream [] => .failed (.execution .closedConnection) (stream [])
  | buffered ((row :: rows) :: sets) =>
      .row (.text row) (buffered (rows :: sets)) (by simp [size])
  | buffered ([] :: sets) => .exhausted (buffered ([] :: sets)) (Nat.le_refl _)
  | buffered [] => .exhausted (buffered []) (Nat.le_refl _)

/-- The first result set is given up; a statement has only one. -/
def advance : (cursor : Cursor) → Advanced Cursor size cursor
  | stream arrivals => .finished (stream arrivals)
  | buffered (set :: next :: sets) => .further (buffered (next :: sets)) (by simp [size])
  | buffered [_] => .finished (buffered [])
  | buffered [] => .finished (buffered [])

def hasSet : Cursor → Bool
  | stream _ => true
  | buffered sets => !sets.isEmpty

end Cursor

namespace Row

/-- The columns of a statement's row by their types, counted from a position on. -/
def typedColumns : (position : Nat) → List (String × ColumnType) → List (Option Bytes) →
    Except SqlError (List (String × Value))
  | _, [], _ => .ok []
  | position, (name, type) :: columns, values => do
      let value ← ColumnValue.decode position name type (values.head?.getD none)
      let others ← typedColumns (position + 1) columns values.tail
      return (name, value) :: others

/-- The columns of a row. In a batch all values are text. -/
def columns : Row → Except SqlError (List (String × Value))
  | typed columns values => typedColumns 0 columns values
  | text row => .ok ((row.columns.zip row.texts).map fun (name, value) =>
      (name, Value.ofOption .text value))

end Row

/-- A single connection to a server. -/
def backend : Backend where
  State := Server
  Transaction := Transaction
  Cursor := Cursor
  Row := Row
  Observation := Seen
  begin := fun _ => Connection.begin
  commit := fun _ => Connection.commit
  rollback := fun _ => Connection.rollback
  execute := fun _ command _ => Connection.execute command
  openCursor := fun _ command _ => Connection.openCursor command
  size := Cursor.size
  nextRow := fun _ cursor server => ⟨.ready (.ok cursor.fetch), server, [], false⟩
  nextSet := fun _ cursor server => ⟨.ready (.ok cursor.advance), server, [], false⟩
  hasSet := Cursor.hasSet
  check := fun _ command _ => Connection.check command
  columns := Row.columns
  savepointName := Transaction.savepoint
  warnsOfAbandoned := true

end QueryTree.Postgres
