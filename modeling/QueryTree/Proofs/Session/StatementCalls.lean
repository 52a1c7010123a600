/-
This file follows the calls that a statement makes, with what they return: up to the first error each
call goes on from where the one before it has got.
-/
import QueryTree.Session.Execution

namespace QueryTree

variable {backend : Backend} {α β γ : Type}

/-- How far a statement has got: nothing has been sent, the statement is finished, a cursor is open,
or a row has been fetched and is to be converted. -/
inductive Stage (backend : Backend) where
  | ready
  | finished
  | reading (cursor : backend.Cursor)
  | fetched (row : backend.Row) (after : backend.Cursor)

namespace Stage

/-- How far a fetch gets, or the error that it returns. -/
def ofFetched {cursor : backend.Cursor} :
    Fetched backend.Cursor backend.Row backend.size cursor → Except SqlError (Stage backend)
  | .row row after _ => .ok (fetched row after)
  | .exhausted after _ => .ok (reading after)
  | .failed error _ => .error error

/-- How far an advance to the next result set gets, or the error that it returns. -/
def ofAdvanced {cursor : backend.Cursor} :
    Advanced backend.Cursor backend.size cursor → Except SqlError (Stage backend)
  | .further after _ => .ok (reading after)
  | .finished _ => .ok finished
  | .failed error _ => .error error

end Stage

namespace Reply

/-- The answer that a reply brings, whenever it comes. -/
def answer : Reply α → Except SqlError α
  | ready answer => answer
  | paused answer => answer
  | late answer => answer

/-- Whether the answer is there at once. -/
def isReady : Reply α → Bool
  | ready _ => true
  | paused _ => false
  | late _ => false

/-- The same reply with what its answer leads to. -/
def andThen (next : α → Except SqlError β) : Reply α → Reply β
  | ready answer => ready (answer.bind next)
  | paused answer => paused (answer.bind next)
  | late answer => late (answer.bind next)

@[simp] theorem andThen_answer (next : α → Except SqlError β) (reply : Reply α) :
    (reply.andThen next).answer = reply.answer.bind next := by
  cases reply <;> rfl

@[simp] theorem andThen_isReady (next : α → Except SqlError β) (reply : Reply α) :
    (reply.andThen next).isReady = reply.isReady := by
  cases reply <;> rfl

/-- What an answer leads to is settled like the answer. -/
theorem settle_andThen (reply : Reply α) (next : α → Except SqlError β) (interrupted : Bool)
    (limit : Option Duration) :
    (reply.andThen next).settle interrupted limit = (reply.settle interrupted limit).bind next := by
  cases reply <;> cases interrupted <;> cases limit <;> rfl

/-- A reply is settled by its answer, unless it is interrupted or has run out of time. -/
theorem settle_cases (reply : Reply α) (interrupted : Bool) (limit : Option Duration) :
    reply.settle interrupted limit = reply.answer ∨
      interrupted = true ∧ reply.settle interrupted limit = .error .cancelled ∨
      ∃ duration, limit = some duration ∧
        reply.settle interrupted limit = .error (.timeout duration) := by
  cases reply with
  | ready => exact .inl rfl
  | paused =>
    cases interrupted with
    | true => exact .inr (.inl ⟨rfl, rfl⟩)
    | false => exact .inl rfl
  | late =>
    cases interrupted with
    | true => exact .inr (.inl ⟨rfl, rfl⟩)
    | false =>
      cases limit with
      | none => exact .inl rfl
      | some duration => exact .inr (.inr ⟨duration, rfl, rfl⟩)

end Reply

namespace Control

/-- Whether an operation has been cancelled in a session. -/
def stops (control : Control) (session : Session backend) : Bool :=
  control.cancellable && session.cancelled

theorem await_apply (control : Control) (timed : Bool) (call : Action backend (Reply α))
    (session : Session backend) :
    control.await timed call session =
      if control.stops session then ⟨.error .cancelled, [], session⟩
      else
        ⟨(call session).value.settle (control.stops (call session).session) (control.limit timed),
          (call session).events, (call session).session⟩ := by
  have asked (session : Session backend) :
      control.interrupted session = ⟨control.stops session, [], session⟩ := rfl
  rw [await, Action.bind_apply, asked]
  cases control.stops session <;> simp [asked]

/-- Statements have no other limit than the one of the settings. -/
theorem limit_some {control : Control} {timed : Bool} {duration : Duration}
    (limited : control.limit timed = some duration) :
    control.settings.statementTimeout = some duration := by
  cases timed with
  | true => exact limited
  | false => cases limited

/-- What a call that has been made comes to. -/
def settled (control : Control) (timed : Bool) (made : Ran backend (Reply α)) : Except SqlError α :=
  made.value.settle (control.stops made.session) (control.limit timed)

/-- A call is made as long as the operation goes on. -/
theorem await_sent {control : Control} {session : Session backend}
    (goesOn : control.stops session = false) (timed : Bool) (call : Action backend (Reply α)) :
    control.await timed call session =
      ⟨control.settled timed (call session), (call session).events, (call session).session⟩ := by
  rw [await_apply, goesOn]
  rfl

/-- A call comes to its answer, unless the operation is cancelled meanwhile or the statement has run out
of time. -/
theorem settled_cases (control : Control) (timed : Bool) (made : Ran backend (Reply α)) :
    control.settled timed made = made.value.answer ∨
      control.stops made.session = true ∧ control.settled timed made = .error .cancelled ∨
      ∃ limit, control.settings.statementTimeout = some limit ∧
        control.settled timed made = .error (.timeout limit) := by
  obtain answered | interrupted | ⟨limit, limited, late⟩ :=
    made.value.settle_cases (control.stops made.session) (control.limit timed)
  · exact .inl answered
  · exact .inr (.inl interrupted)
  · exact .inr (.inr ⟨limit, limit_some limited, late⟩)

end Control

/-- A run with another value. -/
def Ran.map (change : α → β) (ran : Ran backend α) : Ran backend β :=
  ⟨change ran.value, ran.events, ran.session⟩

@[simp] theorem Ran.map_events (change : α → β) (ran : Ran backend α) :
    (ran.map change).events = ran.events := rfl

@[simp] theorem Ran.map_session (change : α → β) (ran : Ran backend α) :
    (ran.map change).session = ran.session := rfl

theorem Control.settled_andThen (control : Control) (timed : Bool) (made : Ran backend (Reply α))
    (next : α → Except SqlError β) :
    control.settled timed (made.map (Reply.andThen next)) = (control.settled timed made).bind next :=
  Reply.settle_andThen _ next _ _

/-- What a statement runs with. -/
structure StatementContext (backend : Backend) where
  convert : RowConverter backend
  target : Target backend
  command : Command

namespace StatementContext

variable (context : StatementContext backend)

/-- The statement's command is executed. -/
def executed : Action backend (Reply Nat) :=
  Action.execute context.target.connection context.command context.target.transaction

/-- A cursor is opened for the statement's command. -/
def opened : Action backend (Reply backend.Cursor) :=
  Action.openCursor context.target.connection context.command context.target.transaction

/-- One call of a statement at which it can be suspended, and the reply to it. -/
inductive Awaits : Stage backend → Session backend → Ran backend (Reply (Stage backend)) → Prop where
  | execute (session : Session backend) : Awaits .ready session
      ((context.executed session).map (Reply.andThen fun _ => .ok .finished))
  | openCursor (session : Session backend) : Awaits .ready session
      ((context.opened session).map (Reply.andThen fun cursor => .ok (.reading cursor)))
  | nextRow (cursor : backend.Cursor) (session : Session backend) : Awaits (.reading cursor) session
      ((Action.nextRow context.target.connection cursor session).map (Reply.andThen Stage.ofFetched))
  | nextSet (cursor : backend.Cursor) (session : Session backend) : Awaits (.reading cursor) session
      ((Action.nextSet context.target.connection cursor session).map (Reply.andThen Stage.ofAdvanced))

/-- One call of a statement, of its connection, its cursor or its converter, and what it returns. -/
inductive Step : Stage backend → Session backend → Ran backend (Except SqlError (Stage backend)) →
    Prop where
  | awaited {stage : Stage backend} {session : Session backend}
      {made : Ran backend (Reply (Stage backend))} : context.Awaits stage session made →
      Step stage session (made.map Reply.answer)
  | convert (row : backend.Row) (after : backend.Cursor) (session : Session backend) :
      Step (.fetched row after) session
        ⟨(context.convert row).map fun _ => .reading after, [], session⟩

/-- Calls one after the other. All but the last one return no error; the result is how far they get,
or the error of the last one, which is thus the first error that a call returns. -/
inductive Calls : Stage backend → Session backend → List (Event backend) →
    Except SqlError (Stage backend) → Session backend → Prop where
  | none {stage : Stage backend} {session : Session backend} :
      Calls stage session [] (.ok stage) session
  | failed {stage : Stage backend} {session : Session backend}
      {ran : Ran backend (Except SqlError (Stage backend))} {error : SqlError} :
      context.Step stage session ran → ran.value = .error error →
      Calls stage session ran.events (.error error) ran.session
  | more {stage next : Stage backend} {session finish : Session backend}
      {ran : Ran backend (Except SqlError (Stage backend))} {events : List (Event backend)}
      {result : Except SqlError (Stage backend)} :
      context.Step stage session ran → ran.value = .ok next →
      Calls next ran.session events result finish →
      Calls stage session (ran.events ++ events) result finish

variable {context}

/-- A single call goes as far as it returns. -/
theorem Calls.single {stage : Stage backend} {session : Session backend}
    {ran : Ran backend (Except SqlError (Stage backend))}
    (step : context.Step stage session ran) :
    context.Calls stage session ran.events ran.value ran.session := by
  cases returned : ran.value with
  | error => exact .failed step returned
  | ok next => simpa using Calls.more step returned .none

/-- Calls that have returned no error can go on. -/
theorem Calls.append {stage next : Stage backend} {session middle finish : Session backend}
    {before after : List (Event backend)} {result : Except SqlError (Stage backend)}
    {reached : Except SqlError (Stage backend)}
    (calls : context.Calls stage session before reached middle) (went : reached = .ok next)
    (others : context.Calls next middle after result finish) :
    context.Calls stage session (before ++ after) result finish := by
  induction calls with
  | none =>
    cases went
    exact others
  | failed => cases went
  | more step moved _ ih =>
    rw [List.append_assoc]
    exact .more step moved (ih went others)

/-- Why a statement fails: it has been cancelled, it has run out of time, or its calls have come to an
error. -/
inductive Cause (control : Control) (finish : Session backend) :
    Except SqlError (Stage backend) → SqlError → Prop where
  | cancelled {result : Except SqlError (Stage backend)} : control.cancellable = true →
      finish.cancelled = true → Cause control finish result .cancelled
  | timeout {result : Except SqlError (Stage backend)} {limit : Duration} :
      control.settings.statementTimeout = some limit → Cause control finish result (.timeout limit)
  | returned {error : SqlError} : Cause control finish (.error error) error

/-- The action makes calls of the statement from a stage on. With a value it has got as far as the
value says, and its errors have a cause. -/
def Follows (context : StatementContext backend) (control : Control) (stage : Stage backend)
    (reached : α → Stage backend → Prop) (action : Action backend (Except SqlError α)) : Prop :=
  ∀ session, ∃ result,
    context.Calls stage session (action session).events result (action session).session ∧
      match (action session).value with
      | .ok value => ∃ after, result = .ok after ∧ reached value after
      | .error error => Cause control (action session).session result error

namespace Follows

variable {control : Control} {stage : Stage backend} {middle : α → Stage backend → Prop}
  {reached : β → Stage backend → Prop}

theorem ok {value : β} (holds : reached value stage) :
    context.Follows control stage reached (pure (.ok value)) :=
  fun _ => ⟨.ok stage, .none, stage, rfl, holds⟩

/-- Actions in sequence follow the calls one after the other; an error of the first one stays. -/
theorem bind {first : Action backend (Except SqlError α)}
    {next : Except SqlError α → Action backend (Except SqlError β)}
    (begun : context.Follows control stage middle first)
    (stopped : ∀ error, next (.error error) = pure (.error error))
    (went : ∀ value after, middle value after →
      context.Follows control after reached (next (.ok value))) :
    context.Follows control stage reached (first >>= next) := by
  intro session
  obtain ⟨result, calls, ended⟩ := begun session
  rw [Action.bind_apply]
  cases outcome : (first session).value with
  | error error =>
    rw [outcome] at ended
    rw [stopped]
    exact ⟨result, by simpa using calls, ended⟩
  | ok value =>
    rw [outcome] at ended
    obtain ⟨after, rfl, holds⟩ := ended
    obtain ⟨final, others, ended⟩ := went value after holds (first session).session
    exact ⟨final, calls.append rfl others, ended⟩

/-- A call that is left out after a cancellation, and whose answer may come too late. -/
theorem await {timed : Bool} {call : Action backend (Reply γ)}
    {next : Except SqlError γ → Action backend (Except SqlError β)}
    {got : γ → Except SqlError (Stage backend)}
    (awaits : ∀ session, context.Awaits stage session ((call session).map (Reply.andThen got)))
    (fails : ∀ reply error, Except.bind reply got = .error error → next reply = pure (.error error))
    (went : ∀ value after, got value = .ok after →
      context.Follows control after reached (next (.ok value))) :
    context.Follows control stage reached (control.await timed call >>= next) := by
  intro session
  rw [Action.bind_apply]
  cases stops : control.stops session with
  | true =>
    obtain ⟨cancellable, cancelled⟩ := Bool.and_eq_true_iff.mp stops
    rw [control.await_apply, if_pos stops, fails _ _ rfl]
    exact ⟨.ok stage, .none, .cancelled cancellable cancelled⟩
  | false =>
    have called := Step.awaited (awaits session)
    have comes := control.settled_andThen timed (call session) got
    have ways := control.settled_cases timed ((call session).map (Reply.andThen got))
    rw [Control.await_sent stops]
    cases outcome : (control.settled timed (call session)).bind got with
    | error error =>
      rw [outcome] at comes
      rw [fails _ _ outcome]
      refine ⟨_, by simpa using Calls.single called, ?_⟩
      rw [comes] at ways
      obtain answered | ⟨stops, same⟩ | ⟨limit, limited, same⟩ := ways
      · change Cause control _ ((call session).map (Reply.andThen got)).value.answer error
        rw [← answered]
        exact .returned
      · cases same
        obtain ⟨cancellable, cancelled⟩ := Bool.and_eq_true_iff.mp stops
        exact .cancelled cancellable cancelled
      · cases same
        exact .timeout limited
    | ok after =>
      rw [outcome] at comes
      rw [comes] at ways
      obtain answered | ⟨-, same⟩ | ⟨limit, -, same⟩ := ways
      · cases reply : control.settled timed (call session) with
        | error error =>
          rw [reply] at outcome
          cases outcome
        | ok value =>
          rw [reply] at outcome
          obtain ⟨result, others, ended⟩ := went value after outcome (call session).session
          exact ⟨result, .more called answered.symm others, ended⟩
      · cases same
      · cases same

/-- A row is converted before it is kept. -/
theorem converted {row : backend.Row} {after : backend.Cursor}
    {action : Action backend (Except SqlError β)}
    (failed : ∀ error, context.convert row = .error error → action = pure (.error error))
    (went : ∀ columns, context.convert row = .ok columns →
      context.Follows control (.reading after) reached action) :
    context.Follows control (.fetched row after) reached action := by
  intro session
  have step : context.Step (.fetched row after) session
      ⟨(context.convert row).map fun _ => .reading after, [], session⟩ :=
    .convert row after session
  cases converted : context.convert row with
  | error error =>
    rw [failed error converted]
    exact ⟨.error error, .failed step (by rw [converted]; rfl), .returned⟩
  | ok columns =>
    obtain ⟨result, others, ended⟩ := went columns converted session
    exact ⟨result, .more step (by rw [converted]; rfl) others, ended⟩

/-- A result set is read by calls that end at the cursor behind it. -/
theorem readSet (control : Control) (cap : Option Nat) (cursor : backend.Cursor) :
    context.Follows control (.reading cursor) (fun read stage => stage = .reading read.after)
      (Rows.readSet control context.convert context.target.connection cap cursor) := by
  -- The induction is on the rows that the cursor still has, since every row goes through two stages.
  induction measured : backend.size cursor using Nat.strongRecOn generalizing cap cursor with
  | ind bound ih =>
    rw [Rows.readSet]
    split
    · exact .ok rfl
    · refine .await (fun session => .nextRow cursor session) ?_ ?_
      · rintro (_ | ⟨row, after, smaller⟩ | ⟨after, noLarger⟩ | ⟨error, after⟩) _ fails <;>
          cases fails
        all_goals rfl
      · rintro (⟨row, after, smaller⟩ | ⟨after, noLarger⟩ | ⟨error, after⟩) _ returned
        · cases returned
          apply Follows.converted
          · intro error refused
            simp [refused]
          · intro columns converted
            simp only [converted]
            apply (ih _ (measured ▸ smaller) (cap.map (· - 1)) after rfl).bind
            · intro error
              rfl
            · rintro rest _ rfl
              exact .ok rfl
        · cases returned
          exact .ok rfl
        · cases returned

/-- Result sets are read by calls up to the last one. -/
theorem readSets (control : Control) (cap : Option Nat) (cursor : backend.Cursor) :
    context.Follows control (.reading cursor) (fun _ stage => stage = .finished)
      (Rows.readSets control context.convert context.target.connection cap cursor) := by
  induction measured : backend.size cursor using Nat.strongRecOn generalizing cursor with
  | ind bound ih =>
    rw [Rows.readSets]
    apply (readSet control cap cursor).bind
    · intro error
      rfl
    · rintro ⟨rows, after, noLarger⟩ _ rfl
      refine .await (fun session => .nextSet after session) ?_ ?_
      · rintro (_ | ⟨next, smaller⟩ | ⟨next⟩ | ⟨error, next⟩) _ fails <;> cases fails
        all_goals rfl
      · rintro (⟨next, smaller⟩ | ⟨next⟩ | ⟨error, next⟩) _ returned
        · cases returned
          have shrinks : backend.size next < bound := by omega
          apply (ih _ shrinks next rfl).bind
          · intro error
            rfl
          · rintro others _ rfl
            exact .ok rfl
        · cases returned
          exact .ok rfl
        · cases returned

theorem materialize (control : Control) (multiple : Bool) (cap : Option Nat)
    (cursor : backend.Cursor) :
    context.Follows control (.reading cursor) (fun _ _ => True)
      (Rows.materialize control context.convert context.target.connection multiple cap cursor) := by
  unfold Rows.materialize
  split
  · split
    · apply (readSets control cap cursor).bind
      · intro error
        rfl
      · intro sets stage _
        exact .ok trivial
    · exact .ok trivial
  · apply (readSet control cap cursor).bind
    · intro error
      rfl
    · intro set stage _
      exact .ok trivial

theorem readScalar (control : Control) (cursor : backend.Cursor) :
    context.Follows control (.reading cursor) (fun _ _ => True)
      (Execution.readScalar control context.convert context.target.connection cursor) := by
  refine .await (fun session => .nextRow cursor session) ?_ ?_
  · rintro (_ | ⟨row, after, smaller⟩ | ⟨after, noLarger⟩ | ⟨error, after⟩) _ fails <;>
      cases fails
    all_goals rfl
  · rintro (⟨row, after, smaller⟩ | ⟨after, noLarger⟩ | ⟨error, after⟩) _ returned
    · cases returned
      apply Follows.converted
      · intro error refused
        simp [refused]
      · intro columns converted
        simp only [converted]
        exact .ok trivial
    · cases returned
      exact .ok trivial
    · cases returned

/-- Every statement makes its calls from the beginning on. -/
theorem runStrategy (context : StatementContext backend) (control : Control) (cap : Option Nat)
    (strategy : Strategy) (name : String) :
    context.Follows control .ready (fun _ _ => True)
      (Execution.runStrategy control context.convert context.target context.command cap strategy
        name) := by
  cases strategy with
  | nonQuery =>
    refine .await (fun session => .execute session) ?_ fun affected stage _ => .ok trivial
    rintro (_ | affected) _ fails <;> cases fails
    rfl
  | scalar =>
    refine .await (fun session => .openCursor session) ?_ ?_
    · rintro (_ | cursor) _ fails <;> cases fails
      rfl
    · rintro cursor _ ⟨⟩
      apply (readScalar control cursor).bind
      · intro error
        rfl
      · intro value stage _
        exact .ok trivial
  | rows multiple =>
    refine .await (fun session => .openCursor session) ?_ ?_
    · rintro (_ | cursor) _ fails <;> cases fails
      rfl
    · rintro cursor _ ⟨⟩
      apply (materialize control multiple cap cursor).bind
      · intro error
        rfl
      · intro children stage _
        exact .ok trivial

end Follows

end StatementContext

end QueryTree
