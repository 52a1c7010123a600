/-
This file holds sessions and the actions that run in them. An action gives a value, the events it
causes in order, and the session after it.
-/
import QueryTree.Session.Event

namespace QueryTree

/-- A named scope: a connection, and the transaction that is open on it, if any. -/
structure Frame (backend : Backend) where
  name : String
  connection : Nat
  transaction : Option backend.Transaction

/-- The state of a backend, the open scopes, the innermost first, and whether the program has been
cancelled. -/
structure Session (backend : Backend) where
  state : backend.State
  frames : List (Frame backend)
  cancelled : Bool

/-- What an action gives. -/
structure Ran (backend : Backend) (α : Type) where
  value : α
  events : List (Event backend)
  session : Session backend

def Action (backend : Backend) (α : Type) := Session backend → Ran backend α

namespace Action

variable {backend : Backend} {α β : Type}

instance : Monad (Action backend) where
  pure value := fun session => ⟨value, [], session⟩
  bind first next := fun session =>
    let before := first session
    let after := next before.value before.session
    ⟨after.value, before.events ++ after.events, after.session⟩

@[simp] theorem pure_apply (value : α) (session : Session backend) :
    (pure value : Action backend α) session = ⟨value, [], session⟩ := rfl

@[simp] theorem bind_apply (first : Action backend α) (next : α → Action backend β)
    (session : Session backend) :
    (first >>= next) session =
      ⟨(next (first session).value (first session).session).value,
        (first session).events ++ (next (first session).value (first session).session).events,
        (next (first session).value (first session).session).session⟩ := rfl

instance : LawfulMonad (Action backend) :=
  LawfulMonad.mk' (Action backend)
    (fun action => by
      funext session
      show (⟨_, _ ++ [], _⟩ : Ran backend _) = _
      rw [List.append_nil]
      rfl)
    (fun value next => by funext session; rfl)
    (fun first second third => by
      funext session
      simp [List.append_assoc])

@[simp] theorem map_apply (f : α → β) (action : Action backend α) (session : Session backend) :
    (f <$> action) session =
      ⟨f (action session).value, (action session).events, (action session).session⟩ := by
  rw [← bind_pure_comp]
  simp

/-- The session at this moment. -/
def session : Action backend (Session backend) := fun session => ⟨session, [], session⟩

/-- An entry is written to the log. -/
def log (entry : LogEntry) : Action backend Unit := fun session => ⟨(), [.log entry], session⟩

/-- A report of a finished step is given. -/
def report (report : Report) : Action backend Unit := fun session => ⟨(), [.report report], session⟩

/-- The program is cancelled. -/
def cancel : Action backend Unit := fun session => ⟨(), [], { session with cancelled := true }⟩

/-- A scope is opened. -/
def pushFrame (frame : Frame backend) : Action backend Unit := fun session =>
  ⟨(), [], { session with frames := frame :: session.frames }⟩

/-- The innermost scope is closed. -/
def popFrame : Action backend (Option (Frame backend)) := fun session =>
  ⟨session.frames.head?, [], { session with frames := session.frames.tail }⟩

/-- The action runs without the open scopes, which are there again after it. -/
def withoutFrames (action : Action backend α) : Action backend α := fun session =>
  let ran := action { session with frames := [] }
  { ran with session := { ran.session with frames := session.frames } }

/-- The backend is called on a connection. -/
def call (connection : Nat)
    (serve : backend.State → Served backend.State backend.Observation α)
    (describe : α → Call backend) : Action backend α := fun session =>
  let served := serve session.state
  ⟨served.answer, [.call connection (describe served.answer) served.observations],
    { session with state := served.state, cancelled := session.cancelled || served.cancels }⟩

def begin (connection : Nat) (parent : Option backend.Transaction) :
    Action backend (Except SqlError backend.Transaction) :=
  call connection (backend.begin connection parent) (.begin parent)

def commit (connection : Nat) (transaction : backend.Transaction) :
    Action backend (Except SqlError Unit) :=
  call connection (backend.commit connection transaction) (.commit transaction)

def rollback (connection : Nat) (transaction : backend.Transaction) :
    Action backend (Except SqlError Unit) :=
  call connection (backend.rollback connection transaction) (.rollback transaction)

def execute (connection : Nat) (command : Command) (transaction : Option backend.Transaction) :
    Action backend (Reply Nat) :=
  call connection (backend.execute connection command transaction) (.execute command transaction)

def openCursor (connection : Nat) (command : Command) (transaction : Option backend.Transaction) :
    Action backend (Reply backend.Cursor) :=
  call connection (backend.openCursor connection command transaction)
    (.openCursor command transaction)

def nextRow (connection : Nat) (cursor : backend.Cursor) :
    Action backend (Reply (Fetched backend.Cursor backend.Row backend.size cursor)) :=
  call connection (backend.nextRow connection cursor) fun _ => .nextRow

def nextSet (connection : Nat) (cursor : backend.Cursor) :
    Action backend (Reply (Advanced backend.Cursor backend.size cursor)) :=
  call connection (backend.nextSet connection cursor) fun _ => .nextSet

end Action

end QueryTree
