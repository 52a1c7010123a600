/-
This file says what a scope does in a session: which calls it makes around its work, and that it
leaves the open scopes as it found them.
-/
import QueryTree.Proofs.Session.RunLaw

namespace QueryTree

variable {backend : Backend} {α : Type}

namespace Event

/-- The call of an event, with its connection. -/
def call? : Event backend → Option (Nat × Call backend)
  | .call connection made _ => some (connection, made)
  | _ => none

/-- The calls among events, in order. -/
def calls (events : List (Event backend)) : List (Nat × Call backend) := events.filterMap call?

@[simp] theorem calls_append (first second : List (Event backend)) :
    calls (first ++ second) = calls first ++ calls second := List.filterMap_append

@[simp] theorem calls_nil : calls ([] : List (Event backend)) = [] := rfl

@[simp] theorem calls_cons_call (connection : Nat) (made : Call backend)
    (seen : List backend.Observation) (rest : List (Event backend)) :
    calls (.call connection made seen :: rest) = (connection, made) :: calls rest := rfl

@[simp] theorem calls_cons_log (entry : LogEntry) (rest : List (Event backend)) :
    calls (.log entry :: rest) = calls rest := rfl

/-- An event adds its call, if it has one. -/
theorem calls_cons (event : Event backend) (rest : List (Event backend)) :
    calls (event :: rest) = event.call?.toList ++ calls rest := by
  cases equal : event.call? <;> simp [calls, equal]

end Event

namespace RunLaw

/-- The open scopes are the same before and after a run. -/
def frames (backend : Backend) : RunLaw backend where
  holds start _ finish := finish.frames = start.frames
  idle _ := rfl
  sequence first second := second.trans first

theorem frames_call (connection : Nat)
    (serve : backend.State → Served backend.State backend.Observation α)
    (describe : α → Call backend) : (frames backend).Of (Action.call connection serve describe) :=
  fun _ => rfl

theorem frames_statements (control : Control) (target : Target backend) :
    (frames backend).Statements control target where
  executes _ := of_await _ (frames_call _ _ _)
  opens _ := of_await _ (frames_call _ _ _)
  fetches _ := of_await _ (frames_call _ _ _)
  advances _ := of_await _ (frames_call _ _ _)
  logs _ _ _ := rfl

end RunLaw

/-- The session with one more scope inside the others. -/
def Session.entered (session : Session backend) (frame : Frame backend) : Session backend :=
  { session with frames := frame :: session.frames }

/-- The session with the given open scopes. -/
def Session.within (session : Session backend) (frames : List (Frame backend)) : Session backend :=
  { session with frames := frames }

namespace Scope

/-- The call that begins the transaction of a scope. -/
def begun (name : String) (connection : Nat) (session : Session backend) :
    Ran backend (Except SqlError backend.Transaction) :=
  Action.begin connection (session.parent? name connection) session

/-- The session in which the work of a scope starts, once its transaction has been begun. -/
def inside (name : String) (connection : Nat) (transaction : backend.Transaction)
    (session : Session backend) : Session backend :=
  (begun name connection session).session.entered ⟨name, connection, some transaction⟩

@[simp] theorem begun_frames (name : String) (connection : Nat) (session : Session backend) :
    (begun name connection session).session.frames = session.frames := rfl

@[simp] theorem inside_frames (name : String) (connection : Nat) (tx : backend.Transaction)
    (session : Session backend) :
    (inside name connection tx session).frames = ⟨name, connection, some tx⟩ :: session.frames :=
  rfl

/-- The only event of a beginning is its call. -/
theorem begun_events (name : String) (connection : Nat) (session : Session backend) :
    let parent := session.parent? name connection
    (begun name connection session).events =
      [.call connection (.begin parent (begun name connection session).value)
        (backend.begin connection parent session.state).observations] :=
  rfl

/-- A scope is closed after its work: the innermost transaction is ended. -/
def close (name : String) (connection : Nat) (savepoint : Bool) (done : Finished α) :
    Action backend (Finished α) := do
  match (← Action.popFrame).bind Frame.transaction with
  | none => return done
  | some transaction =>
      let outcome ← finish name connection savepoint transaction done.outcome
      return ⟨done.content, outcome⟩

/-- The transaction that a scope closes is the one that it has opened. -/
theorem close_apply {name : String} {connection : Nat} {tx : backend.Transaction}
    {outer : List (Frame backend)} {session : Session backend}
    (opened : session.frames = ⟨name, connection, some tx⟩ :: outer) (savepoint : Bool)
    (done : Finished α) :
    let ended := finish name connection savepoint tx done.outcome (session.within outer)
    close name connection savepoint done session =
      ⟨⟨done.content, ended.value⟩, ended.events, ended.session⟩ := by
  obtain ⟨state, frames, cancelled⟩ := session
  subst opened
  simp [close, Action.popFrame, Session.within]

/-- Without a transaction the work is not done. -/
theorem transaction_refused {name : String} {connection : Nat} {session : Session backend}
    {error : SqlError} (refused : (begun name connection session).value = .error error)
    (undone : α) (work : Action backend (Finished α)) :
    transaction name connection undone work session =
      ⟨⟨undone, .error error⟩, (begun name connection session).events,
        (begun name connection session).session⟩ := by
  change (Action.begin connection (session.parent? name connection) session).value = _ at refused
  simp only [transaction, Action.bind_apply, Action.session, List.nil_append]
  rw [refused]
  simp [begun]

/-- The work is done inside the transaction, which is then ended by the outcome of the work. -/
theorem transaction_begun {name : String} {connection : Nat} {session : Session backend}
    {tx : backend.Transaction} (started : (begun name connection session).value = .ok tx)
    (undone : α) (work : Action backend (Finished α))
    (kept : (work (inside name connection tx session)).session.frames =
      (inside name connection tx session).frames) :
    let savepoint := (session.parent? name connection).isSome
    let worked := work (inside name connection tx session)
    let ended := finish name connection savepoint tx worked.value.outcome
      (worked.session.within session.frames)
    transaction name connection undone work session =
      ⟨⟨worked.value.content, ended.value⟩,
        (begun name connection session).events ++ .log (.begun name savepoint) ::
          (worked.events ++ ended.events),
        ended.session⟩ := by
  intro savepoint worked ended
  have closed := close_apply kept savepoint worked.value
  change (Action.begin connection (session.parent? name connection) session).value = _ at started
  have runs : transaction name connection undone work session =
      ⟨(close name connection savepoint worked.value worked.session).value,
        (begun name connection session).events ++ .log (.begun name savepoint) ::
          (worked.events ++ (close name connection savepoint worked.value worked.session).events),
        (close name connection savepoint worked.value worked.session).session⟩ := by
    simp only [transaction, Action.bind_apply, Action.session, List.nil_append]
    rw [started]
    rfl
  rw [runs, closed]
  rfl

/-- A success is committed, and the answer to the commit is the outcome. -/
theorem finish_ok (name : String) (connection : Nat) (savepoint : Bool) (tx : backend.Transaction)
    (session : Session backend) :
    let committed := Action.commit connection tx session
    finish name connection savepoint tx (.ok ()) session =
      ⟨committed.value, committed.events ++ (match committed.value with
          | .ok () => [.log (.committed name savepoint)]
          | .error _ => []),
        committed.session⟩ := by
  intro committed
  simp only [finish, Action.bind_apply, committed]
  cases (Action.commit connection tx session).value <;> simp [Action.log]

/-- A failure is rolled back and stays the outcome, whatever the answer to the rollback is. -/
theorem finish_error (name : String) (connection : Nat) (savepoint : Bool)
    (tx : backend.Transaction) (error : SqlError) (session : Session backend) :
    let rolledBack := Action.rollback connection tx session
    finish name connection savepoint tx (.error error) session =
      ⟨.error error, rolledBack.events ++ [.log (match rolledBack.value with
          | .ok () => .rolledBack name savepoint error
          | .error rollbackError => .rollbackFailed name savepoint error rollbackError)],
        rolledBack.session⟩ := by
  intro rolledBack
  simp only [finish, Action.bind_apply, rolledBack]
  cases (Action.rollback connection tx session).value <;> simp [Action.log]

theorem finish_frames (name : String) (connection : Nat) (savepoint : Bool)
    (tx : backend.Transaction) (outcome : Except SqlError Unit) (session : Session backend) :
    (finish name connection savepoint tx outcome session).session.frames = session.frames := by
  cases outcome with
  | ok => rw [finish_ok]; rfl
  | error error => rw [finish_error]; rfl

/-- A scope leaves the open scopes as they were when its work does. -/
theorem transaction_frames (name : String) (connection : Nat) (undone : α)
    {work : Action backend (Finished α)} (kept : (RunLaw.frames backend).Of work) :
    (RunLaw.frames backend).Of (transaction name connection undone work) := by
  intro session
  cases started : (begun name connection session).value with
  | error error =>
    rw [transaction_refused started]
    rfl
  | ok tx =>
    rw [transaction_begun started undone work (kept _)]
    exact finish_frames ..

theorem withConnection_apply (name : String) (connection : Nat) (work : Action backend α)
    (session : Session backend) :
    let worked := work (session.entered ⟨name, connection, none⟩)
    withConnection name connection work session =
      ⟨worked.value, worked.events, worked.session.within worked.session.frames.tail⟩ := by
  simp [withConnection, Action.pushFrame, Action.popFrame, Session.entered, Session.within]

theorem withConnection_frames (name : String) (connection : Nat) {work : Action backend α}
    (kept : (RunLaw.frames backend).Of work) :
    (RunLaw.frames backend).Of (withConnection name connection work) := by
  intro session
  have inner : (work (session.entered ⟨name, connection, none⟩)).session.frames = _ := kept _
  rw [withConnection_apply]
  change (work (session.entered ⟨name, connection, none⟩)).session.frames.tail = session.frames
  rw [inner]
  rfl

end Scope

end QueryTree
