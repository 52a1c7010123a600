/-
This file proves that a cancellation is honoured wherever a statement can be suspended, and nowhere
else: from any moment of a program on at which it has been cancelled no statement gets further, while
transactions are begun and ended as ever.
-/
import QueryTree.Proofs.Session.Brackets
import QueryTree.Proofs.Session.CommandRun
import QueryTree.Proofs.Session.Course
import QueryTree.Proofs.Session.ScopeOutcome
import QueryTree.Proofs.Session.SuspendedCalls

namespace QueryTree

variable {backend : Backend}

namespace Execution

variable {control : Control} {convert : RowConverter backend} {target : Target backend}
  {command : Command} {session : Session backend}

/-- A statement of a cancelled program makes no call. -/
theorem runStrategy_cancelled (cancellable : control.cancellable = true)
    (cancelled : session.cancelled = true) (cap : Option Nat) (strategy : Strategy) (name : String) :
    runStrategy control convert target command cap strategy name session =
      ⟨.error .cancelled, [], session⟩ := by
  have stops : control.stops session = true := by rw [Control.stops, cancellable, cancelled]; rfl
  cases strategy <;>
    rw [runStrategy, Action.bind_apply, control.await_apply, if_pos stops] <;> rfl

/-- A command of a cancelled program leaves nothing in its node but the name. -/
theorem run_cancelled (cancellable : control.cancellable = true)
    (cancelled : session.cancelled = true)
    (accepted : backend.check target.connection command session.state = .ok ())
    (cap : Option Nat) (strategy : Strategy) (node : Node) :
    run control convert target command cap strategy node session =
      ⟨⟨node.clear, .error .cancelled⟩, [.log (control.entry command (.error .cancelled))],
        session⟩ := by
  rw [run_accepted accepted, runStrategy_cancelled cancellable cancelled]
  rfl

/-- A command that can be cancelled does the same as one that cannot, or fails because it has been
cancelled. -/
theorem run_heeds (accepted : backend.check target.connection command session.state = .ok ())
    (cap : Option Nat) (strategy : Strategy) (node : Node) :
    let context : StatementContext backend := ⟨convert, target, command⟩
    let full := runStrategy control.uninterrupted convert target command cap strategy node.name
      session
    let cut := runStrategy control convert target command cap strategy node.name session
    let ran := run control convert target command cap strategy node session
    context.Heeds control .ready session full cut ∧
      (ran = run control.uninterrupted convert target command cap strategy node session ∨
        cut.session.cancelled = true ∧
          ran = ⟨⟨node.clear, .error .cancelled⟩,
            cut.events ++ [.log (control.entry command (.error .cancelled))], cut.session⟩) := by
  intro context full cut ran
  have settles : ran = _ := run_accepted accepted cap strategy node
  have heeds : context.Heeds control .ready session full cut :=
    StatementContext.Heeding.runStrategy context control cap strategy node.name session
  refine ⟨heeds, ?_⟩
  rcases heeds.same_or_cancelled with same | ⟨cancelled, since⟩
  · refine .inl ?_
    have same : runStrategy control convert target command cap strategy node.name session = _ := same
    rw [settles, run_accepted accepted, same]
    rfl
  · refine .inr ⟨since, ?_⟩
    have cancelled : (runStrategy control convert target command cap strategy node.name
      session).value = _ := cancelled
    rw [settles, cancelled]
    rfl

/-- A command whose call is overtaken while its answer is awaited makes no other call, fails and leaves
nothing in its node but the name. -/
theorem run_overtaken {stage : Stage backend} {middle : Session backend}
    {before rest : List (Event backend)} {made : Ran backend (Reply (Stage backend))}
    (accepted : backend.check target.connection command session.state = .ok ())
    (cap : Option Nat) (strategy : Strategy) (node : Node)
    (calls : StatementContext.Calls ⟨convert, target, command⟩ .ready session before (.ok stage)
      middle)
    (awaits : StatementContext.Awaits ⟨convert, target, command⟩ stage middle made)
    (goesOn : control.stops middle = false) (overtaken : control.overtakes made = true)
    (follows : (runStrategy control.uninterrupted convert target command cap strategy node.name
      session).events = before ++ (made.events ++ rest)) :
    run control convert target command cap strategy node session =
      ⟨⟨node.clear, .error .cancelled⟩,
        before ++ made.events ++ [.log (control.entry command (.error .cancelled))],
        made.session⟩ := by
  have heeds := StatementContext.Heeding.runStrategy ⟨convert, target, command⟩ control cap strategy
    node.name session
  have cut : runStrategy control convert target command cap strategy node.name session = _ :=
    heeds.overtaken_last calls rfl awaits goesOn overtaken follows
  rw [run_accepted accepted, cut]
  rfl

end Execution

namespace Program

variable {engine : Engine backend} {session : Session backend} {step : Step}

/-- After a success the other steps are done. -/
theorem performAll_ok (done : (perform engine step session).value = .ok ()) (rest : List Step) :
    let first := perform engine step session
    let others := performAll engine rest first.session
    performAll engine (step :: rest) session =
      ⟨others.value, first.events ++ others.events, others.session⟩ := by
  rw [performAll, Action.bind_apply, done]

/-- After a failure the other steps are left out. -/
theorem performAll_error {error : SqlError}
    (failed : (perform engine step session).value = .error error) (rest : List Step) :
    let first := perform engine step session
    performAll engine (step :: rest) session = ⟨.error error, first.events, first.session⟩ := by
  rw [performAll, Action.bind_apply, failed]
  simp

/-- The other steps, if they are done, take their course after the first one. -/
theorem performAll_course (engine : Engine backend) (step : Step) (rest : List Step)
    (session : Session backend) :
    let first := perform engine step session
    let all := performAll engine (step :: rest) session
    ∃ trail, all.events = first.events ++ trail ∧
      Course engine.cancellable first.session trail all.session := by
  cases outcome : (perform engine step session).value with
  | error error =>
    rw [performAll_error outcome]
    exact ⟨[], (List.append_nil _).symm, .idle _⟩
  | ok =>
    rw [performAll_ok outcome]
    exact ⟨_, rfl, (RunLaw.course_performs engine).performAll rest _⟩

/-- A step does the steps of its body, in a session and after some events. -/
inductive Enters (engine : Engine backend) (session : Session backend) :
    Step → List Step → Session backend → List (Event backend) → Prop where
  | connection (name : String) (connection : Nat) (body : List Step) :
      Enters engine session (.withConnection name connection body) body
        (session.entered ⟨name, connection, none⟩) []
  | transaction {name : String} {connection : Nat} {tx : backend.Transaction} (body : List Step) :
      (Scope.begun name connection session).value = .ok tx →
      Enters engine session (.transaction name connection body) body
        (Scope.inside name connection tx session)
        ((Scope.begun name connection session).events ++
          [.log (.begun name (session.parent? name connection).isSome)])
  | attempt (body : List Step) : Enters engine session (.attempt body) body session []

/-- A transaction of a program whose beginning succeeds does its body, ends and reports. -/
theorem perform_transaction {name : String} {connection : Nat} {tx : backend.Transaction}
    (started : (Scope.begun name connection session).value = .ok tx) (body : List Step) :
    let savepoint := (session.parent? name connection).isSome
    let worked := performAll engine body (Scope.inside name connection tx session)
    let ended := Scope.finish name connection savepoint tx worked.value
      (worked.session.within session.frames)
    perform engine (.transaction name connection body) session =
      ⟨ended.value,
        (Scope.begun name connection session).events ++ .log (.begun name savepoint) ::
          (worked.events ++ ended.events) ++ [.report (.scope "tx" ended.session.depth ended.value)],
        ended.session⟩ := by
  let work : Action backend (Finished Unit) := do
    let outcome ← performAll engine body
    return ⟨(), outcome⟩
  have kept : (RunLaw.frames backend).Of work := by
    apply (RunLaw.frames backend).of_bind ((RunLaw.frames_performs engine).performAll body)
    exact fun _ => RunLaw.of_pure _ _
  have ran := Scope.transaction_begun started () work (kept _)
  rw [perform, enclosed_apply, Action.bind_apply, ran]
  simp [work]

/-- A step takes its course up to its body and after it. -/
theorem Enters.course {body : List Step} {start : Session backend} {lead : List (Event backend)}
    (enters : Enters engine session step body start lead) :
    let inner := performAll engine body start
    let outer := perform engine step session
    ∃ trail, outer.events = lead ++ (inner.events ++ trail) ∧
      Course engine.cancellable session lead start ∧
      Course engine.cancellable inner.session trail outer.session := by
  cases enters with
  | connection name connection =>
    rw [perform, enclosed_apply, Scope.withConnection_apply]
    exact ⟨_, rfl, .shift (.framed (_ :: session.frames)),
      .shifts (.framed (performAll engine body _).session.frames.tail) (.once (.noted rfl))⟩
  | @transaction name connection tx _ started =>
    let worked := performAll engine body (Scope.inside name connection tx session)
    let ended := Scope.finish name connection (session.parent? name connection).isSome tx
      worked.value (worked.session.within session.frames)
    have begins : Course engine.cancellable session (Scope.begun name connection session).events
        (Scope.begun name connection session).session :=
      RunLaw.course_made (fun _ => rfl) (fun _ => .begin rfl) session
    have ends : Course engine.cancellable (worked.session.within session.frames) ended.events
        ended.session :=
      RunLaw.course_finish name connection _ tx worked.value _
    rw [perform_transaction started]
    refine ⟨ended.events ++ [.report (.scope "tx" ended.session.depth ended.value)], ?_,
      begins.append (.happens (.noted rfl) (.shift (.framed (_ :: session.frames)))),
      .shifts (.framed session.frames) (ends.append (.once (.noted rfl)))⟩
    simp [worked, ended]
  | attempt =>
    rw [perform, Action.bind_apply, enclosed_apply]
    exact ⟨_, List.append_assoc .., .idle session, .once (.noted rfl)⟩

/-- A moment of a run of steps: the events before it, the session at it and the events after it. A
moment is the beginning, one after a step that has succeeded, or one inside a step. -/
inductive Moment (engine : Engine backend) : List Step → Session backend →
    List (Event backend) → Session backend → List (Event backend) → Prop where
  | here (steps : List Step) (session : Session backend) :
      Moment engine steps session [] session (performAll engine steps session).events
  | later {step : Step} {rest : List Step} {session moment : Session backend}
      {before after : List (Event backend)} : (perform engine step session).value = .ok () →
      Moment engine rest (perform engine step session).session before moment after →
      Moment engine (step :: rest) session ((perform engine step session).events ++ before) moment
        after
  | inside {step : Step} {body rest : List Step} {session start moment : Session backend}
      {lead before inner after : List (Event backend)} :
      Enters engine session step body start lead → Moment engine body start before moment inner →
      (performAll engine (step :: rest) session).events = lead ++ before ++ after →
      Moment engine (step :: rest) session (lead ++ before) moment after

/-- A run takes its course up to every moment and after it. -/
theorem Moment.course {steps : List Step} {moment : Session backend}
    {before after : List (Event backend)}
    (reached : Moment engine steps session before moment after) :
    let ran := performAll engine steps session
    ran.events = before ++ after ∧ Course engine.cancellable session before moment ∧
      Course engine.cancellable moment after ran.session := by
  induction reached with
  | here steps session =>
    exact ⟨rfl, .idle session, (RunLaw.course_performs engine).performAll steps session⟩
  | later done _ ih =>
    obtain ⟨parted, first, second⟩ := ih
    rw [performAll_ok done]
    refine ⟨?_, ((RunLaw.course_performs engine).perform _ _).append first, second⟩
    rw [parted, List.append_assoc]
  | @inside step body rest session start moment lead before inner after enters _ whole ih =>
    obtain ⟨parted, first, second⟩ := ih
    obtain ⟨trail, outer, leads, trails⟩ := enters.course
    obtain ⟨others, all, follows⟩ := performAll_course engine step rest session
    refine ⟨whole, leads.append first, ?_⟩
    have same : after = inner ++ trail ++ others := by
      rw [all, outer, parted] at whole
      simpa using whole.symm
    rw [same]
    exact (second.append trails).append follows

/-- What the programs of an engine make of a cancellation. -/
structure HonoursCancellation (engine : Engine backend) : Prop where
  /-- From every moment on at which the program has been cancelled, no statement makes a call. -/
  stopped : ∀ {steps session before moment after}, Moment engine steps session before moment after →
    moment.cancelled = true → ∀ made ∈ Event.calls after, made.2.suspends = false
  /-- The same is true from every call on that cancels the program. -/
  overtaken : ∀ {steps session before event after},
    (performAll engine steps session).events = before ++ event :: after →
    ∃ here there, Course true session before here ∧ Happens true here event there ∧
      (there.cancelled = true → ∀ made ∈ Event.calls after, made.2.suspends = false)
  /-- An accepted command of a cancelled program fails and empties its node, without any call. -/
  emptied : ∀ name target command cap strategy node (session : Session backend),
    session.cancelled = true → backend.check target.connection command session.state = .ok () →
    let control := engine.control name
    Execution.run control engine.convert target command cap strategy node session =
      ⟨⟨node.clear, .error .cancelled⟩, [.log (control.entry command (.error .cancelled))], session⟩
  /-- So does every operation that has a command to run and a place to run it. -/
  unanswered : ∀ plan target node (session : Session backend), session.cancelled = true →
    engine.target session = .ok target →
    backend.check target.connection plan.command session.state = .ok () →
    engine.serve (.ok (.planned plan)) node session =
      ⟨⟨node.clear, .error .cancelled⟩,
        [.log ((engine.control node.name).entry plan.command (.error .cancelled))], session⟩
  /-- A command that is already running does what it would do anyway, call by call, up to a call that
  the cancellation stops or overtakes; if it comes to one, it fails and empties its node. -/
  delivered : ∀ name target command cap strategy node (session : Session backend),
    backend.check target.connection command session.state = .ok () →
    let control := engine.control name
    let full := Execution.runStrategy control.uninterrupted engine.convert target command cap strategy
      node.name session
    let cut := Execution.runStrategy control engine.convert target command cap strategy node.name
      session
    let ran := Execution.run control engine.convert target command cap strategy node session
    StatementContext.Heeds ⟨engine.convert, target, command⟩ control .ready session full cut ∧
      (ran = Execution.run control.uninterrupted engine.convert target command cap strategy node
          session ∨
        cut.session.cancelled = true ∧
          ran = ⟨⟨node.clear, .error .cancelled⟩,
            cut.events ++ [.log (control.entry command (.error .cancelled))], cut.session⟩)
  /-- Wherever it has got, a call of it that finds the program cancelled while the answer is awaited is
  its last one, whatever the answer would have been. -/
  awaited : ∀ name target command cap strategy node (session middle : Session backend) stage before
      made rest,
    backend.check target.connection command session.state = .ok () →
    let context : StatementContext backend := ⟨engine.convert, target, command⟩
    let control := engine.control name
    let full := Execution.runStrategy control.uninterrupted engine.convert target command cap strategy
      node.name session
    context.Calls .ready session before (.ok stage) middle → context.Awaits stage middle made →
    full.events = before ++ (made.events ++ rest) → middle.cancelled = false →
    made.value.isReady = false → made.session.cancelled = true →
    Execution.run control engine.convert target command cap strategy node session =
      ⟨⟨node.clear, .error .cancelled⟩,
        before ++ made.events ++ [.log (control.entry command (.error .cancelled))], made.session⟩
  /-- A transaction of a program is begun, and ended by the outcome of its body. -/
  bodies : ∀ name connection body session,
    Scope.AllOrNothing name connection () (do
      let outcome ← performAll engine body
      return ⟨(), outcome⟩) session
  /-- A transaction of a request is begun, and ended by the outcome of its children. -/
  children : ∀ connection nodes session,
    Scope.AllOrNothing engine.scope connection nodes (engine.invokeAll nodes) session
  /-- At every moment each open transaction is still to be ended, and once only. -/
  finalized : ∀ {steps session before after},
    (performAll engine steps session).events = before ++ after →
    ∃ places, Brackets [] before places ∧ Finalizes places after

/-- A cancellation is honoured wherever a statement can be suspended, and nowhere else. -/
theorem cancellation_honoured (cancellable : engine.cancellable = true) :
    HonoursCancellation engine where
  stopped reached cancelled := by
    obtain ⟨-, -, course⟩ := reached.course
    rw [cancellable] at course
    exact course.quiet cancelled
  overtaken {steps session before event after} parted := by
    have course := (RunLaw.course_performs engine).performAll steps session
    rw [cancellable] at course
    obtain ⟨_, first, second⟩ := Course.split course parted
    obtain ⟨here, there, reaches, happens, follows⟩ := second.next
    have course : Course true session (before ++ []) here := first.append reaches
    rw [List.append_nil] at course
    exact ⟨here, there, course, happens, follows.quiet⟩
  emptied name target command cap strategy node session cancelled accepted :=
    Execution.run_cancelled cancellable cancelled accepted cap strategy node
  unanswered plan target node session cancelled found accepted := by
    rw [engine.serve_apply]
    simp only [found]
    exact Execution.run_cancelled cancellable cancelled accepted plan.cap plan.strategy node
  delivered name target command cap strategy node session accepted :=
    Execution.run_heeds accepted cap strategy node
  awaited name target command cap strategy node session middle stage before made rest accepted := by
    intro context control full calls awaits follows running waits cancelled
    have goesOn : control.stops middle = false := by rw [Control.stops, running, Bool.and_false]
    have stops : control.stops made.session = true := by
      rw [Control.stops, cancelled, Bool.and_true]
      exact cancellable
    have overtaken : control.overtakes made = true := by rw [Control.overtakes, waits, stops]; rfl
    exact Execution.run_overtaken accepted cap strategy node calls awaits goesOn overtaken follows
  bodies name connection body session := by
    refine Scope.transaction_outcome name connection () ?_ session
    apply (RunLaw.frames backend).of_bind ((RunLaw.frames_performs engine).performAll body)
    exact fun _ => RunLaw.of_pure _ _
  children connection nodes session :=
    Scope.transaction_outcome engine.scope connection nodes
      ((RunLaw.frames_performs engine).serves.invokeAll nodes) session
  finalized {steps session before after} parted := by
    have run := ((RunLaw.brackets_performs engine).performAll steps session).2 []
    rw [parted] at run
    obtain ⟨places, first, second⟩ := run.split
    exact ⟨places, first, second.finalizes⟩

/-- The engine whose statements can be cancelled, on connections that follow scripts. -/
def cancelling : Engine Scripted.backend := ⟨.standard, Scripted.columns, true⟩

/-- A session on one connection, whose first statement cancels the program, with its answer there or
still awaited. -/
def cancellingSession (awaited : Bool) : Session Scripted.backend :=
  ⟨[⟨{ Scripted.emptyScript with cancellingStatement := some 1, pausesOnCancel := awaited }, 0, 0⟩],
    [⟨"pgsql.connect", 0, none⟩], false⟩

/-- Two statements in a transaction. -/
def twoStatements : List Step :=
  [.transaction "pgsql.transaction" 0
    [.perform .execute (.leaf "first" (.text "a")), .perform .execute (.leaf "second" (.text "b"))]]

/-- The statement that cancels the program has its result, if that is there at once. The other statement
makes no call, and the transaction around them is rolled back. -/
theorem cancellation_honoured_twoStatements :
    let tx : Scripted.backend.Transaction := (⟨1, false⟩ : Scripted.Transaction)
    let ran (awaited : Bool) := performAll cancelling twoStatements (cancellingSession awaited)
    cancelling.cancellable = true ∧ HonoursCancellation cancelling ∧
      (∀ awaited, (ran awaited).value = .error .cancelled ∧ (ran awaited).session.cancelled = true) ∧
      Event.calls (ran false).events =
        [(0, .begin none (.ok tx)), (0, .execute (.ofText "a") (some tx) (.ready (.ok 1))),
          (0, .rollback tx (.ok ()))] ∧
      Event.report (.operation "execute" (.leaf "first" (.int 1)) (.ok ())) ∈
        (ran false).events ∧
      Event.calls (ran true).events =
        [(0, .begin none (.ok tx)), (0, .execute (.ofText "a") (some tx) (.paused (.ok 1))),
          (0, .rollback tx (.ok ()))] ∧
      Event.report (.operation "execute" (.empty "first") (.error .cancelled)) ∈
        (ran true).events := by
  have honours : HonoursCancellation cancelling := cancellation_honoured rfl
  refine ⟨rfl, honours, fun awaited => ?_, rfl, ?_, rfl, ?_⟩
  · cases awaited <;> exact ⟨rfl, rfl⟩
  · exact List.mem_of_getElem? (i := 4) rfl
  · exact List.mem_of_getElem? (i := 4) rfl

end Program

end QueryTree
