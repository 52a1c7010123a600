/-
This file takes runs apart into single calls, each in the session in which it is made. A call at which
a statement can be suspended is made in no session in which the program has been cancelled.
-/
import QueryTree.Proofs.Session.EngineRun
import QueryTree.Proofs.Session.StatementCalls

namespace QueryTree

variable {backend : Backend} {α : Type}

/-- Whether a statement can be suspended at a call; the calls that begin and end transactions run to
their end. -/
def Call.suspends : Call backend → Bool
  | .execute .. => true
  | .openCursor .. => true
  | .nextRow => true
  | .nextSet => true
  | .begin .. => false
  | .commit .. => false
  | .rollback .. => false

/-- The session after a call of the backend. -/
def Session.after {Observation : Type} (session : Session backend)
    (served : Served backend.State Observation α) : Session backend :=
  { session with state := served.state, cancelled := session.cancelled || served.cancels }

/-- The event of a call that is made in a session, and the session after it. -/
inductive Made (session : Session backend) : Event backend → Session backend → Prop where
  | begin {connection parent served} : backend.begin connection parent session.state = served →
      Made session (.call connection (.begin parent served.answer) served.observations)
        (session.after served)
  | commit {connection tx served} : backend.commit connection tx session.state = served →
      Made session (.call connection (.commit tx served.answer) served.observations)
        (session.after served)
  | rollback {connection tx served} : backend.rollback connection tx session.state = served →
      Made session (.call connection (.rollback tx served.answer) served.observations)
        (session.after served)
  | execute {connection command tx served} :
      backend.execute connection command tx session.state = served →
      Made session (.call connection (.execute command tx served.answer) served.observations)
        (session.after served)
  | openCursor {connection command tx served} :
      backend.openCursor connection command tx session.state = served →
      Made session (.call connection (.openCursor command tx served.answer) served.observations)
        (session.after served)
  | nextRow {connection cursor served} :
      backend.nextRow connection cursor session.state = served →
      Made session (.call connection .nextRow served.observations) (session.after served)
  | nextSet {connection cursor served} :
      backend.nextSet connection cursor session.state = served →
      Made session (.call connection .nextSet served.observations) (session.after served)

/-- A cancellation stays, and a call may add one. -/
theorem Made.cancelled {session after : Session backend} {event : Event backend}
    (made : Made session event after) (cancelled : session.cancelled = true) :
    after.cancelled = true := by
  cases made <;> simp [Session.after, cancelled]

/-- What happens with an event: a call in the session in which it is made, or a note in the log or a
report. Where cancellations matter, a call at which a statement can be suspended is made only as long as
there is none. -/
inductive Happens (cancellable : Bool) (session : Session backend) :
    Event backend → Session backend → Prop where
  | called {connection : Nat} {call : Call backend} {seen : List backend.Observation}
      {after : Session backend} : Made session (.call connection call seen) after →
      (call.suspends = true → (cancellable && session.cancelled) = false) →
      Happens cancellable session (.call connection call seen) after
  | noted {event : Event backend} : event.call? = none → Happens cancellable session event session

/-- What happens without an event: scopes are opened or closed, or the program is cancelled. -/
inductive Shifts (session : Session backend) : Session backend → Prop where
  | framed (frames : List (Frame backend)) : Shifts session (session.within frames)
  | cancelled : Shifts session { session with cancelled := true }

/-- The course of a run: what happens one after the other, from session to session. -/
inductive Course (cancellable : Bool) :
    Session backend → List (Event backend) → Session backend → Prop where
  | idle (session : Session backend) : Course cancellable session [] session
  | happens {session middle finish : Session backend} {event : Event backend}
      {rest : List (Event backend)} : Happens cancellable session event middle →
      Course cancellable middle rest finish → Course cancellable session (event :: rest) finish
  | shifts {session middle finish : Session backend} {rest : List (Event backend)} :
      Shifts session middle → Course cancellable middle rest finish →
      Course cancellable session rest finish

theorem Happens.cancelled {cancellable : Bool} {session after : Session backend}
    {event : Event backend} (happens : Happens cancellable session event after)
    (cancelled : session.cancelled = true) : after.cancelled = true := by
  cases happens with
  | called made => exact made.cancelled cancelled
  | noted => exact cancelled

theorem Shifts.keeps {session after : Session backend} (shifts : Shifts session after)
    (cancelled : session.cancelled = true) : after.cancelled = true := by
  cases shifts with
  | framed => exact cancelled
  | cancelled => rfl

/-- In a cancelled session no call is made at which a statement can be suspended. -/
theorem Happens.quiet {session after : Session backend} {event : Event backend}
    (happens : Happens true session event after) (cancelled : session.cancelled = true) :
    ∀ made ∈ event.call?.toList, made.2.suspends = false := by
  cases happens with
  | noted silent =>
    rw [silent]
    exact fun _ member => nomatch member
  | @called connection call _ _ _ unstopped =>
    intro made member
    cases List.mem_singleton.mp member
    cases suspends : call.suspends with
    | false => rfl
    | true =>
      have running := unstopped suspends
      rw [cancelled] at running
      cases running

namespace Course

variable {cancellable : Bool} {session middle finish : Session backend} {event : Event backend}
  {before after events : List (Event backend)}

theorem once (happens : Happens cancellable session event finish) :
    Course cancellable session [event] finish := .happens happens (.idle finish)

theorem shift (shifts : Shifts session finish) : Course cancellable session [] finish :=
  .shifts shifts (.idle finish)

theorem append (course : Course cancellable session before middle)
    (next : Course cancellable middle after finish) :
    Course cancellable session (before ++ after) finish := by
  induction course with
  | idle => exact next
  | happens happens _ ih => exact .happens happens (ih next)
  | shifts shifts _ ih => exact .shifts shifts (ih next)

/-- Once the program has been cancelled, no call is made at which a statement can be suspended. -/
theorem quiet (course : Course true session events finish) (cancelled : session.cancelled = true) :
    ∀ made ∈ Event.calls events, made.2.suspends = false := by
  induction course with
  | idle => exact fun _ member => nomatch member
  | happens happens _ ih =>
    rw [Event.calls_cons, List.forall_mem_append]
    exact ⟨happens.quiet cancelled, ih (happens.cancelled cancelled)⟩
  | shifts shifts _ ih => exact ih (shifts.keeps cancelled)

/-- A run passes through a session between any two of its events. -/
theorem split (course : Course cancellable session events finish)
    (parted : events = before ++ after) :
    ∃ middle, Course cancellable session before middle ∧ Course cancellable middle after finish := by
  induction course generalizing before with
  | idle session =>
    obtain ⟨rfl, rfl⟩ := List.append_eq_nil_iff.mp parted.symm
    exact ⟨session, .idle session, .idle session⟩
  | @happens session next finish event rest happens course ih =>
    cases before with
    | nil =>
      subst parted
      exact ⟨session, .idle session, .happens happens course⟩
    | cons _ before =>
      obtain ⟨rfl, rest⟩ := List.cons.inj parted
      obtain ⟨middle, first, second⟩ := ih rest
      exact ⟨middle, .happens happens first, second⟩
  | shifts shifts _ ih =>
    obtain ⟨middle, first, second⟩ := ih parted
    exact ⟨middle, .shifts shifts first, second⟩

/-- An event of a run happens in the session that the run has come to. -/
theorem next (course : Course cancellable session (event :: after) finish) :
    ∃ here there, Course cancellable session [] here ∧ Happens cancellable here event there ∧
      Course cancellable there after finish := by
  generalize front : event :: after = events at course
  induction course with
  | idle => cases front
  | @happens session middle finish _ rest happens course _ =>
    cases front
    exact ⟨session, middle, .idle session, happens, course⟩
  | shifts shifts _ ih =>
    obtain ⟨here, there, first, happens, second⟩ := ih front
    exact ⟨here, there, .shifts shifts first, happens, second⟩

end Course

namespace RunLaw

/-- Runs take a course. -/
def course (backend : Backend) (cancellable : Bool) : RunLaw backend where
  holds := Course cancellable
  idle := .idle
  sequence := .append

variable {cancellable : Bool}

theorem course_made {connection : Nat}
    {serve : backend.State → Served backend.State backend.Observation α}
    {describe : α → Call backend} (calm : ∀ answer, (describe answer).suspends = false)
    (made : ∀ session : Session backend, Made session
      (.call connection (describe (serve session.state).answer) (serve session.state).observations)
      (session.after (serve session.state))) :
    (course backend cancellable).Of (Action.call connection serve describe) := by
  intro session
  refine .once (.called (made session) fun suspends => ?_)
  rw [calm] at suspends
  cases suspends

/-- A call of a statement is made where nothing has been cancelled. -/
theorem course_await {control : Control} {timed : Bool} {connection : Nat}
    {serve : backend.State → Served backend.State backend.Observation (Reply α)}
    {describe : Reply α → Call backend}
    (made : ∀ session : Session backend, Made session
      (.call connection (describe (serve session.state).answer) (serve session.state).observations)
      (session.after (serve session.state))) :
    (course backend control.cancellable).Of
      (control.await timed (Action.call connection serve describe)) := by
  intro session
  rw [control.await_apply]
  split
  case isTrue => exact .idle session
  case isFalse unstopped =>
    exact .once (.called (made session) fun _ => Bool.eq_false_iff.mpr unstopped)

theorem course_statements (control : Control) (target : Target backend) :
    (course backend control.cancellable).Statements control target where
  executes _ := course_await fun _ => .execute rfl
  opens _ := course_await fun _ => .openCursor rfl
  fetches _ := course_await fun _ => .nextRow rfl
  advances _ := course_await fun _ => .nextSet rfl
  logs _ _ _ := .once (.noted rfl)

theorem course_log (entry : LogEntry) : (course backend cancellable).Of (Action.log entry) :=
  fun _ => .once (.noted rfl)

theorem course_finish (name : String) (connection : Nat) (savepoint : Bool)
    (tx : backend.Transaction) (outcome : Except SqlError Unit) :
    (course backend cancellable).Of (Scope.finish name connection savepoint tx outcome) := by
  cases outcome with
  | ok =>
    apply (course backend cancellable).of_bind (course_made (fun _ => rfl) fun _ => .commit rfl)
    intro answer
    cases answer with
    | ok => exact (course backend cancellable).of_bind (course_log _) fun _ => of_pure _ _
    | error => exact of_pure _ _
  | error error =>
    apply (course backend cancellable).of_bind (course_made (fun _ => rfl) fun _ => .rollback rfl)
    intro answer
    cases answer with
    | ok => exact (course backend cancellable).of_bind (course_log _) fun _ => of_pure _ _
    | error => exact (course backend cancellable).of_bind (course_log _) fun _ => of_pure _ _

theorem course_push (frame : Frame backend) :
    (course backend cancellable).Of (Action.pushFrame frame) :=
  fun session => .shift (.framed (frame :: session.frames))

theorem course_pop :
    (course backend cancellable).Of (Action.popFrame : Action backend (Option (Frame backend))) :=
  fun session => .shift (.framed session.frames.tail)

theorem course_transaction (name : String) (connection : Nat) (undone : α)
    {work : Action backend (Finished α)} (kept : (course backend cancellable).Of work) :
    (course backend cancellable).Of (Scope.transaction name connection undone work) := by
  let law := course backend cancellable
  apply law.of_bind law.of_session
  intro session
  apply law.of_bind (course_made (fun _ => rfl) fun _ => .begin rfl)
  intro answer
  cases answer with
  | error => exact law.of_pure _
  | ok tx =>
    refine law.of_bind (course_log _) fun _ => law.of_bind (course_push _) fun _ =>
      law.of_bind kept fun done => law.of_bind course_pop fun frame => ?_
    split
    · exact law.of_pure _
    · exact law.of_bind (course_finish name connection _ _ _) fun _ => law.of_pure _

theorem course_withConnection (name : String) (connection : Nat) {work : Action backend α}
    (kept : (course backend cancellable).Of work) :
    (course backend cancellable).Of (Scope.withConnection name connection work) :=
  of_bind _ (course_push _) fun _ => of_bind _ kept fun _ => of_bind _ course_pop fun _ =>
    of_pure _ _

theorem course_withoutFrames {work : Action backend α}
    (kept : (course backend cancellable).Of work) :
    (course backend cancellable).Of (Action.withoutFrames work) := by
  intro session
  have inner := kept (session.within [])
  have restored := Course.append inner (.shift (.framed session.frames))
  rw [List.append_nil] at restored
  exact .shifts (.framed []) restored

/-- Every program takes a course. -/
theorem course_performs (engine : Engine backend) :
    (course backend engine.cancellable).Performs engine where
  statements name target := course_statements (engine.control name) target
  transactions name connection undone _ kept := course_transaction name connection undone kept
  connections name connection _ kept := course_withConnection name connection kept
  alone kept := course_withoutFrames kept
  reports _ _ := .once (.noted rfl)
  cancels _ := .shift .cancelled

end RunLaw

end QueryTree
