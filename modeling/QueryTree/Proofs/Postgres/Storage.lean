/-
This file models what a PostgreSQL session does to its data: transactions take snapshots, savepoints
are found by their names, and statements change the data. It is also said what the data should be
after scopes of which some succeed and some fail.
-/
import Mathlib.Data.List.Basic
import QueryTree.Postgres.Connection
import QueryTree.Session.Event
import QueryTree.Text.Digits

namespace QueryTree.Postgres

/-- The data, and how many statements have been run so far. -/
structure Progress (Data : Type) where
  position : Nat
  data : Data

/-- What is done to the data: statements, and scopes that succeed or fail. -/
inductive Work where
  | statement
  | scope (succeeds : Bool) (inside : List Work)

namespace Progress

variable {Data : Type} (effect : Nat → Data → Data)

/-- A statement changes the data in its own way. -/
def advance (progress : Progress Data) : Progress Data :=
  ⟨progress.position + 1, effect progress.position progress.data⟩

mutual

/-- The changes inside a scope are kept when the scope succeeds. Otherwise the data stay as they
were, whatever has succeeded inside. -/
def settle (progress : Progress Data) : Work → Progress Data
  | .statement => progress.advance effect
  | .scope succeeds inside =>
      let settled := settleAll progress inside
      if succeeds then settled else { settled with data := progress.data }

def settleAll (progress : Progress Data) : List Work → Progress Data
  | [] => progress
  | work :: rest => settleAll (settle progress work) rest

end

@[simp] theorem settleAll_append (progress : Progress Data) (first second : List Work) :
    progress.settleAll effect (first ++ second) =
      (progress.settleAll effect first).settleAll effect second := by
  induction first generalizing progress with
  | nil => rfl
  | cons work rest ih => exact ih _

end Progress

/-- A command that controls transactions. -/
inductive ControlCommand where
  | begin
  | commit
  | rollback
  | savepoint (name : String)
  | release (name : String)
  | rollbackTo (name : String)
deriving DecidableEq, Repr

namespace ControlCommand

/-- The rest of a text behind its start. -/
def rest? (start : String) (text : String) : Option String :=
  (text.toList.dropPrefix? start.toList).map String.ofList

@[simp] theorem rest?_append (start rest : String) : rest? start (start ++ rest) = some rest := by
  simp [rest?, List.dropPrefix?_append_of_beq rest.toList (BEq.rfl : start.toList == start.toList)]

/-- The command that a text gives to the server. -/
def ofText? (text : String) : Option ControlCommand :=
  ((rest? "SAVEPOINT " text).map savepoint).or <|
    ((rest? "RELEASE SAVEPOINT " text).map release).or <|
      ((rest? "ROLLBACK TO SAVEPOINT " text).map rollbackTo).or <|
        if text = "BEGIN" then some begin
        else if text = "COMMIT" then some commit
        else if text = "ROLLBACK" then some rollback
        else none

@[simp] theorem ofText?_savepoint (name : String) :
    ofText? ("SAVEPOINT " ++ name) = some (savepoint name) := by
  simp [ofText?]

@[simp] theorem ofText?_release (name : String) :
    ofText? ("RELEASE SAVEPOINT " ++ name) = some (release name) := by
  have other : rest? "SAVEPOINT " ("RELEASE SAVEPOINT " ++ name) = none := by
    simp [rest?, List.dropPrefix?]
  simp [ofText?, other]

@[simp] theorem ofText?_rollbackTo (name : String) :
    ofText? ("ROLLBACK TO SAVEPOINT " ++ name) = some (rollbackTo name) := by
  have first : rest? "SAVEPOINT " ("ROLLBACK TO SAVEPOINT " ++ name) = none := by
    simp [rest?, List.dropPrefix?]
  have second : rest? "RELEASE SAVEPOINT " ("ROLLBACK TO SAVEPOINT " ++ name) = none := by
    simp [rest?, List.dropPrefix?]
  simp [ofText?, first, second]

end ControlCommand

/-- An open transaction: the data before it, and the named snapshots in it, the latest first. -/
structure OpenTransaction (Data : Type) where
  before : Data
  savepoints : List (String × Data)

/-- What a session has stored, and the transaction that is open in it, if any. -/
structure Database (Data : Type) where
  progress : Progress Data
  transaction : Option (OpenTransaction Data)

namespace Database

variable {Data : Type} (effect : Nat → Data → Data)

/-- The savepoints from the one of a name on. -/
def savepointsFrom (name : String) (savepoints : List (String × Data)) : List (String × Data) :=
  savepoints.dropWhile fun savepoint => savepoint.1 != name

/-- A command is carried out. One that does not fit is refused: a transaction inside another one,
the end of a transaction that is not open, and a savepoint that does not exist. -/
def control (database : Database Data) : ControlCommand → Option (Database Data)
  | .begin =>
      match database.transaction with
      | none => some { database with transaction := some ⟨database.progress.data, []⟩ }
      | some _ => none
  | .commit =>
      match database.transaction with
      | none => none
      | some _ => some { database with transaction := none }
  | .rollback =>
      match database.transaction with
      | none => none
      | some opened => some ⟨{ database.progress with data := opened.before }, none⟩
  | .savepoint name =>
      match database.transaction with
      | none => none
      | some opened =>
          some { database with
            transaction := some { opened with
              savepoints := (name, database.progress.data) :: opened.savepoints } }
  | .release name =>
      match database.transaction with
      | none => none
      | some opened =>
          match savepointsFrom name opened.savepoints with
          | [] => none
          | _ :: outer =>
              some { database with transaction := some { opened with savepoints := outer } }
  | .rollbackTo name =>
      match database.transaction with
      | none => none
      | some opened =>
          match savepointsFrom name opened.savepoints with
          | [] => none
          | (found, snapshot) :: outer =>
              some ⟨{ database.progress with data := snapshot },
                some { opened with savepoints := (found, snapshot) :: outer }⟩

/-- The text of a command is carried out. -/
def receive (database : Database Data) : Seen → Option (Database Data)
  | .query text => (ControlCommand.ofText? text).bind database.control
  | .parse _ => none
  | .bind _ => none

theorem receive_release (database : Database Data) (name : String) :
    database.receive (.query ("RELEASE SAVEPOINT " ++ name)) = database.control (.release name) := by
  rw [receive, ControlCommand.ofText?_release, Option.bind_some]

theorem receive_rollbackTo (database : Database Data) (name : String) :
    database.receive (.query ("ROLLBACK TO SAVEPOINT " ++ name)) =
      database.control (.rollbackTo name) := by
  rw [receive, ControlCommand.ofText?_rollbackTo, Option.bind_some]

/-- What a session does to the data by an event: commands are read from the texts that the server
sees, and a statement has its effect. -/
def serve (database : Database Data) : Event backend → Option (Database Data)
  | .call _ (.begin ..) seen => seen.foldlM receive database
  | .call _ (.commit ..) seen => seen.foldlM receive database
  | .call _ (.rollback ..) seen => seen.foldlM receive database
  | .call _ (.execute ..) _ => some { database with progress := database.progress.advance effect }
  | .call _ (.openCursor ..) _ =>
      some { database with progress := database.progress.advance effect }
  | .call _ .nextRow _ => some database
  | .call _ .nextSet _ => some database
  | .log _ => some database
  | .report _ => some database

/-- What a session does to the data by events in order, when none of them is refused. -/
def replay (database : Database Data) (events : List (Event backend)) : Option (Database Data) :=
  events.foldlM (serve effect) database

@[simp] theorem replay_nil (database : Database Data) : database.replay effect [] = some database :=
  rfl

@[simp] theorem replay_cons (database : Database Data) (event : Event backend)
    (rest : List (Event backend)) :
    database.replay effect (event :: rest) =
      (database.serve effect event).bind fun next => next.replay effect rest := rfl

@[simp] theorem replay_append (database : Database Data) (first second : List (Event backend)) :
    database.replay effect (first ++ second) =
      (database.replay effect first).bind fun next => next.replay effect second :=
  List.foldlM_append

end Database

end QueryTree.Postgres
