/-
This file proves that scopes are all or nothing: a transaction is committed when everything inside
it has succeeded, and rolled back with the first failure otherwise.
-/
import Mathlib.Data.List.Forall2
import QueryTree.Proofs.Session.Servings
import QueryTree.Scripted

namespace QueryTree

variable {backend : Backend} {α : Type}

namespace Scope

/-- The answer to a commit in a session. -/
def commitAnswer (connection : Nat) (tx : backend.Transaction) (session : Session backend) :
    Except SqlError Unit :=
  (backend.commit connection tx session.state).answer

@[simp] theorem commitAnswer_within (connection : Nat) (tx : backend.Transaction)
    (session : Session backend) (frames : List (Frame backend)) :
    commitAnswer connection tx (session.within frames) = commitAnswer connection tx session := rfl

/-- A success is ended by one commit, and its answer is the outcome. -/
theorem finish_ok_calls (name : String) (connection : Nat) (savepoint : Bool)
    (tx : backend.Transaction) (session : Session backend) :
    let answer := commitAnswer connection tx session
    let ended := finish name connection savepoint tx (.ok ()) session
    ended.value = answer ∧ Event.calls ended.events = [(connection, .commit tx answer)] := by
  intro answer ended
  have answered : (Action.commit connection tx session).value = answer := rfl
  have called : Event.calls (Action.commit connection tx session).events =
    [(connection, .commit tx answer)] := rfl
  simp only [ended, finish_ok, answered, Event.calls_append, called]
  refine ⟨trivial, ?_⟩
  cases answer <;> rfl

/-- A failure is ended by one rollback, and its answer does not matter. -/
theorem finish_error_calls (name : String) (connection : Nat) (savepoint : Bool)
    (tx : backend.Transaction) (error : SqlError) (session : Session backend) :
    let ended := finish name connection savepoint tx (.error error) session
    ended.value = .error error ∧
      ∃ answer, Event.calls ended.events = [(connection, .rollback tx answer)] := by
  rw [finish_error]
  exact ⟨rfl, _, rfl⟩

/-- What a scope makes of its work. Without a transaction the work is not done; with one, the work
is followed by one commit or by one rollback. The open scopes are the same as before. -/
structure AllOrNothing (name : String) (connection : Nat) (undone : α)
    (work : Action backend (Finished α)) (session : Session backend) : Prop where
  refused : ∀ error, (begun name connection session).value = .error error →
    let ran := transaction name connection undone work session
    ran.value = ⟨undone, .error error⟩ ∧ ran.session.frames = session.frames ∧
      Event.calls ran.events =
        [(connection, .begin (session.parent? name connection) (.error error))]
  committed : ∀ tx, (begun name connection session).value = .ok tx →
    let ran := transaction name connection undone work session
    let worked := work (inside name connection tx session)
    worked.value.outcome = .ok () →
      let answer := commitAnswer connection tx worked.session
      ran.value = ⟨worked.value.content, answer⟩ ∧ ran.session.frames = session.frames ∧
        Event.calls ran.events =
          (connection, .begin (session.parent? name connection) (.ok tx)) ::
            (Event.calls worked.events ++ [(connection, .commit tx answer)])
  rolledBack : ∀ tx, (begun name connection session).value = .ok tx →
    let ran := transaction name connection undone work session
    let worked := work (inside name connection tx session)
    ∀ error, worked.value.outcome = .error error →
      ran.value = ⟨worked.value.content, .error error⟩ ∧ ran.session.frames = session.frames ∧
        ∃ answer, Event.calls ran.events =
          (connection, .begin (session.parent? name connection) (.ok tx)) ::
            (Event.calls worked.events ++ [(connection, .rollback tx answer)])

/-- Every scope is all or nothing around work that closes the scopes which it opens. -/
theorem transaction_outcome (name : String) (connection : Nat) (undone : α)
    {work : Action backend (Finished α)} (kept : (RunLaw.frames backend).Of work)
    (session : Session backend) : AllOrNothing name connection undone work session where
  refused error refusal := by
    rw [transaction_refused refusal, begun_events, refusal]
    exact ⟨rfl, rfl, rfl⟩
  committed tx started := by
    intro ran worked succeeded answer
    obtain ⟨answered, called⟩ := finish_ok_calls name connection
      (session.parent? name connection).isSome tx (worked.session.within session.frames)
    simp only [ran, transaction_begun started undone work (kept _)]
    change worked.value.outcome = .ok () at succeeded
    rw [succeeded]
    refine ⟨congrArg _ answered, finish_frames .., ?_⟩
    rw [begun_events, started]
    simp [called, worked, answer]
  rolledBack tx started := by
    intro ran worked error failed
    obtain ⟨unchanged, answer, called⟩ := finish_error_calls name connection
      (session.parent? name connection).isSome tx error (worked.session.within session.frames)
    simp only [ran, transaction_begun started undone work (kept _)]
    rw [failed]
    refine ⟨congrArg _ unchanged, finish_frames .., answer, ?_⟩
    rw [begun_events, started]
    simp [called, worked]

end Scope

namespace Engine

variable {engine : Engine backend}

/-- The transaction of a node is begun, at the place where the engine sends statements. -/
structure Begins (engine : Engine backend) (node : Node) (session : Session backend)
    (target : Target backend) (tx : backend.Transaction) : Prop where
  named : Operation.parse engine.settings.dialect node.name = .ok .transaction
  found : engine.target session = .ok target
  started : (Scope.begun engine.scope target.connection session).value = .ok tx

/-- The session in which the children of a node are served, in the transaction of the node. -/
def childSession (engine : Engine backend) (session : Session backend) (target : Target backend)
    (tx : backend.Transaction) : Session backend :=
  Scope.inside engine.scope target.connection tx session

/-- The servings of the children of a node, in the transaction of the node. -/
def childServings (engine : Engine backend) (node : Node) (session : Session backend)
    (target : Target backend) (tx : backend.Transaction) : List (Serving backend) :=
  engine.servings node.children (engine.childSession session target tx)

/-- The answer to the commit after the children of a node. -/
def childCommit (engine : Engine backend) (node : Node) (session : Session backend)
    (target : Target backend) (tx : backend.Transaction) : Except SqlError Unit :=
  Scope.commitAnswer target.connection tx
    (engine.invokeAll node.children (engine.childSession session target tx)).session

/-- The calls in the transaction of a node, before its end. -/
def childCalls (engine : Engine backend) (node : Node) (session : Session backend)
    (target : Target backend) (tx : backend.Transaction) : List (Nat × Call backend) :=
  (target.connection, .begin target.transaction (.ok tx)) ::
    (engine.childServings node session target tx).flatMap fun serving =>
      Event.calls (engine.ran serving).events

namespace Begins

variable {node : Node} {session : Session backend} {target : Target backend}
  {tx : backend.Transaction}

/-- The children up to the first failure are replaced by what they give, and the others stay. -/
theorem content (begins : Begins engine node session target tx) :
    let served := engine.childServings node session target tx
    served.map Serving.node = node.children.take served.length ∧
      (engine.invoke node session).value.content =
        { node with children := (served.map fun serving => (engine.ran serving).value.content) ++
          node.children.drop served.length } := by
  intro served
  refine ⟨engine.servings_nodes .., ?_⟩
  rw [engine.invoke_begun begins.named begins.found begins.started]
  rw [(engine.invokeAll_servings node.children _).1]
  rfl

/-- The calls of the children are made between the beginning and the end. -/
theorem calls (begins : Begins engine node session target tx) :
    let served := engine.invokeAll node.children (engine.childSession session target tx)
    let ended := Scope.finish engine.scope target.connection target.transaction.isSome tx
      served.value.outcome (served.session.within session.frames)
    (engine.invoke node session).value.outcome = ended.value ∧
      Event.calls (engine.invoke node session).events =
        engine.childCalls node session target tx ++ Event.calls ended.events := by
  rw [engine.invoke_begun begins.named begins.found begins.started]
  refine ⟨rfl, ?_⟩
  simp only [Event.calls_cons_call, Event.calls_cons_log, Event.calls_append]
  rw [(engine.invokeAll_servings node.children _).2]
  simp [childCalls, childServings, childSession, Event.calls, List.filterMap_flatMap]

/-- The transaction is rolled back after a child has failed, and the child's error is returned. -/
theorem failed (begins : Begins engine node session target tx) {serving : Serving backend}
    {error : SqlError} (served : serving ∈ engine.childServings node session target tx)
    (failed : (engine.ran serving).value.outcome = .error error) :
    (engine.childServings node session target tx).getLast? = some serving ∧
      (engine.invoke node session).value.outcome = .error error ∧
      ∃ answer, Event.calls (engine.invoke node session).events =
        engine.childCalls node session target tx ++
          [(target.connection, .rollback tx answer)] := by
  obtain ⟨last, outcome⟩ := engine.servings_error served failed
  obtain ⟨ended, called⟩ := begins.calls
  rw [outcome] at ended called
  obtain ⟨unchanged, answer, rollback⟩ := Scope.finish_error_calls engine.scope target.connection
    target.transaction.isSome tx error
    ((engine.invokeAll node.children (engine.childSession session target tx)).session.within
      session.frames)
  exact ⟨last, ended.trans unchanged, answer, by rw [called, rollback]⟩

/-- The transaction is committed after all children have succeeded, and the answer is returned. -/
theorem succeeded (begins : Begins engine node session target tx)
    (succeeded : ∀ serving ∈ engine.childServings node session target tx,
      (engine.ran serving).value.outcome = .ok ()) :
    (engine.childServings node session target tx).map Serving.node = node.children ∧
      (engine.invoke node session).value.outcome = engine.childCommit node session target tx ∧
      Event.calls (engine.invoke node session).events =
        engine.childCalls node session target tx ++
          [(target.connection, .commit tx (engine.childCommit node session target tx))] := by
  have outcome : (engine.invokeAll node.children
      (engine.childSession session target tx)).value.outcome = .ok () := by
    cases found : (engine.invokeAll node.children
        (engine.childSession session target tx)).value.outcome with
    | ok => rfl
    | error error =>
      obtain ⟨serving, served, failed⟩ := engine.invokeAll_error found
      exact absurd ((succeeded serving served).symm.trans failed) (by simp)
  obtain ⟨ended, called⟩ := begins.calls
  rw [outcome] at ended called
  obtain ⟨answered, committed⟩ := Scope.finish_ok_calls engine.scope target.connection
    target.transaction.isSome tx
    ((engine.invokeAll node.children (engine.childSession session target tx)).session.within
      session.frames)
  exact ⟨(engine.invokeAll_ok outcome).1, ended.trans answered, by rw [called, committed]; rfl⟩

end Begins

/-- Everything below a node succeeds: every operation, and every beginning and commit. -/
inductive Succeeds (engine : Engine backend) : Node → Session backend → Prop where
  | operation {node session} :
      Operation.parse engine.settings.dialect node.name ≠ .ok .transaction →
      (engine.invoke node session).value.outcome = .ok () → Succeeds engine node session
  | transaction {node session target tx} : Begins engine node session target tx →
      (∀ serving ∈ engine.childServings node session target tx,
        Succeeds engine serving.node serving.start) →
      engine.childCommit node session target tx = .ok () → Succeeds engine node session

/-- An operation, a beginning or a commit below a node fails with an error. The transactions that
are open around the failure are listed from the outside. -/
inductive Fails (engine : Engine backend) :
    Node → Session backend → SqlError → List (Nat × backend.Transaction) → Prop where
  | operation {node session error} :
      Operation.parse engine.settings.dialect node.name ≠ .ok .transaction →
      (engine.invoke node session).value.outcome = .error error → Fails engine node session error []
  | unconnected {node session error} :
      Operation.parse engine.settings.dialect node.name = .ok .transaction →
      engine.target session = .error error → Fails engine node session error []
  | refused {node session target error} :
      Operation.parse engine.settings.dialect node.name = .ok .transaction →
      engine.target session = .ok target →
      (Scope.begun engine.scope target.connection session).value = .error error →
      Fails engine node session error []
  | uncommitted {node session target tx error} : Begins engine node session target tx →
      (∀ serving ∈ engine.childServings node session target tx,
        (engine.ran serving).value.outcome = .ok ()) →
      engine.childCommit node session target tx = .error error → Fails engine node session error []
  | inside {node session target tx serving error enclosing} :
      Begins engine node session target tx →
      serving ∈ engine.childServings node session target tx →
      Fails engine serving.node serving.start error enclosing →
      Fails engine node session error ((target.connection, tx) :: enclosing)

theorem Succeeds.outcome {node : Node} {session : Session backend}
    (succeeds : Succeeds engine node session) :
    (engine.invoke node session).value.outcome = .ok () := by
  induction succeeds with
  | operation _ outcome => exact outcome
  | transaction begins _ committed ih =>
    obtain ⟨_, answered, _⟩ := begins.succeeded ih
    exact answered.trans committed

/-- The error of the first failure is returned unchanged. -/
theorem Fails.outcome {node : Node} {session : Session backend} {error : SqlError}
    {enclosing : List (Nat × backend.Transaction)} (fails : Fails engine node session error enclosing) :
    (engine.invoke node session).value.outcome = .error error := by
  induction fails with
  | operation _ outcome => exact outcome
  | unconnected named missing => rw [engine.invoke_unconnected named missing]
  | refused named found refused => rw [engine.invoke_refused named found refused]
  | uncommitted begins succeeded uncommitted =>
    obtain ⟨_, answered, _⟩ := begins.succeeded succeeded
    exact answered.trans uncommitted
  | inside begins served _ ih => exact (begins.failed served ih).2.1

/-- Either everything below a node succeeds, or there is a first failure. The induction is on the
tree, whose inner nodes matter when their transaction is begun. -/
theorem succeeds_or_fails (engine : Engine backend) (node : Node) (session : Session backend) :
    Succeeds engine node session ∨ ∃ error enclosing, Fails engine node session error enclosing := by
  induction node using Node.induction generalizing session with
  | step node ih =>
    by_cases named : Operation.parse engine.settings.dialect node.name = .ok .transaction
    · cases found : engine.target session with
      | error error => exact .inr ⟨error, [], .unconnected named found⟩
      | ok target =>
        cases started : (Scope.begun engine.scope target.connection session).value with
        | error error => exact .inr ⟨error, [], .refused named found started⟩
        | ok tx =>
          have begins : Begins engine node session target tx := ⟨named, found, started⟩
          by_cases all : ∀ serving ∈ engine.childServings node session target tx,
              Succeeds engine serving.node serving.start
          · cases committed : engine.childCommit node session target tx with
            | ok => exact .inl (.transaction begins all committed)
            | error error =>
              exact .inr ⟨error, [], .uncommitted begins
                (fun serving served => (all serving served).outcome) committed⟩
          · simp only [not_forall] at all
            obtain ⟨serving, served, unsuccessful⟩ := all
            obtain succeeds | ⟨error, enclosing, fails⟩ :=
              ih serving.node (engine.servings_mem served) serving.start
            · exact absurd succeeds unsuccessful
            · exact .inr ⟨error, _, .inside begins served fails⟩
    · cases outcome : (engine.invoke node session).value.outcome with
      | ok => exact .inl (.operation named outcome)
      | error error => exact .inr ⟨error, [], .operation named outcome⟩

/-- The calls are rollbacks of the transactions, in order. -/
def Rollbacks (places : List (Nat × backend.Transaction)) (made : List (Nat × Call backend)) : Prop :=
  List.Forall₂ (fun place call => ∃ answer, call = (place.1, .rollback place.2 answer)) places made

/-- The run ends by rolling back every transaction around its first failure, the innermost first. -/
theorem Fails.rollbacks {node : Node} {session : Session backend} {error : SqlError}
    {enclosing : List (Nat × backend.Transaction)} (fails : Fails engine node session error enclosing) :
    ∃ before after, Event.calls (engine.invoke node session).events = before ++ after ∧
      Rollbacks enclosing.reverse after := by
  induction fails with
  | @inside node session target tx serving error enclosing begins served fails ih =>
    obtain ⟨before, after, split, undone⟩ := ih
    obtain ⟨last, _, answer, calls⟩ := begins.failed served fails.outcome
    obtain ⟨earlier, listed⟩ := List.getLast?_eq_some_iff.mp last
    refine ⟨(target.connection, .begin target.transaction (.ok tx)) ::
      ((earlier.flatMap fun serving => Event.calls (engine.ran serving).events) ++ before),
      after ++ [(target.connection, .rollback tx answer)], ?_, ?_⟩
    · rw [calls, childCalls, listed]
      simp [ran, split]
    · rw [List.reverse_cons]
      exact List.rel_append undone (.cons ⟨answer, rfl⟩ .nil)
  | operation => exact ⟨_, [], (List.append_nil _).symm, .nil⟩
  | unconnected => exact ⟨_, [], (List.append_nil _).symm, .nil⟩
  | refused => exact ⟨_, [], (List.append_nil _).symm, .nil⟩
  | uncommitted => exact ⟨_, [], (List.append_nil _).symm, .nil⟩

/-- A transaction ends with a commit exactly when it has been begun and everything inside it has
succeeded. -/
theorem commits_iff {node : Node} {session : Session backend}
    (named : Operation.parse engine.settings.dialect node.name = .ok .transaction) :
    (∃ connection tx answer, (Event.calls (engine.invoke node session).events).getLast? =
        some (connection, .commit tx answer)) ↔
      ∃ target tx, Begins engine node session target tx ∧
        ∀ serving ∈ engine.childServings node session target tx,
          Succeeds engine serving.node serving.start := by
  constructor
  · rintro ⟨connection, given, answer, last⟩
    cases found : engine.target session with
    | error error =>
      rw [engine.invoke_unconnected named found] at last
      cases last
    | ok target =>
      cases started : (Scope.begun engine.scope target.connection session).value with
      | error error =>
        rw [engine.invoke_refused named found started] at last
        cases last
      | ok tx =>
        have begins : Begins engine node session target tx := ⟨named, found, started⟩
        refine ⟨target, tx, begins, fun serving served => ?_⟩
        obtain succeeds | ⟨error, enclosing, fails⟩ :=
          engine.succeeds_or_fails serving.node serving.start
        · exact succeeds
        · obtain ⟨_, _, answer, calls⟩ := begins.failed served fails.outcome
          rw [calls, List.getLast?_concat] at last
          cases last
  · rintro ⟨target, tx, begins, succeeds⟩
    obtain ⟨_, _, calls⟩ := begins.succeeded fun serving served => (succeeds serving served).outcome
    exact ⟨_, _, _, by rw [calls, List.getLast?_concat]⟩

/-- What serving a transaction gives: its children are served up to the first failure, which undoes
all transactions around it, and it is committed when there is none. -/
structure FirstFailure (engine : Engine backend) (node : Node) (session : Session backend) :
    Prop where
  unconnected : ∀ error, engine.target session = .error error →
    engine.invoke node session = ⟨⟨node, .error error⟩, [], session⟩
  refused : ∀ target error, engine.target session = .ok target →
    (Scope.begun engine.scope target.connection session).value = .error error →
    (engine.invoke node session).value = ⟨node, .error error⟩ ∧
      Event.calls (engine.invoke node session).events =
        [(target.connection, .begin target.transaction (.error error))]
  content : ∀ target tx, Begins engine node session target tx →
    let served := engine.childServings node session target tx
    served.map Serving.node = node.children.take served.length ∧
      (engine.invoke node session).value.content =
        { node with children := (served.map fun serving => (engine.ran serving).value.content) ++
          node.children.drop served.length }
  failed : ∀ target tx, Begins engine node session target tx →
    ∀ serving ∈ engine.childServings node session target tx,
    ∀ error, (engine.ran serving).value.outcome = .error error →
    (engine.childServings node session target tx).getLast? = some serving ∧
      (engine.invoke node session).value.outcome = .error error ∧
      ∃ answer, Event.calls (engine.invoke node session).events =
        engine.childCalls node session target tx ++ [(target.connection, .rollback tx answer)]
  succeeded : ∀ target tx, Begins engine node session target tx →
    (∀ serving ∈ engine.childServings node session target tx,
      (engine.ran serving).value.outcome = .ok ()) →
    let answer := engine.childCommit node session target tx
    (engine.childServings node session target tx).map Serving.node = node.children ∧
      (engine.invoke node session).value.outcome = answer ∧
      Event.calls (engine.invoke node session).events =
        engine.childCalls node session target tx ++ [(target.connection, .commit tx answer)]
  undone : ∀ error, (engine.invoke node session).value.outcome = .error error →
    ∃ enclosing, Fails engine node session error enclosing ∧
      ∃ before after, Event.calls (engine.invoke node session).events = before ++ after ∧
        Rollbacks enclosing.reverse after
  committed :
    (∃ connection tx answer, (Event.calls (engine.invoke node session).events).getLast? =
        some (connection, .commit tx answer)) ↔
      ∃ target tx, Begins engine node session target tx ∧
        ∀ serving ∈ engine.childServings node session target tx,
          Succeeds engine serving.node serving.start

/-- Scopes are all or nothing, for all work that closes the scopes which it opens, as all programs
do, and all answers of the backend. So are transactions in all trees of requests. -/
theorem scopes_allOrNothing (engine : Engine backend) :
    (∀ {α : Type} (name : String) (connection : Nat) (undone : α)
      (work : Action backend (Finished α)), (RunLaw.frames backend).Of work →
      ∀ session, Scope.AllOrNothing name connection undone work session) ∧
    (∀ steps, (RunLaw.frames backend).Of (Program.performAll engine steps)) ∧
    ∀ node session, Operation.parse engine.settings.dialect node.name = .ok .transaction →
      FirstFailure engine node session := by
  refine ⟨fun name connection undone work kept session => ?_, fun steps => ?_,
    fun node session named => ?_⟩
  · exact Scope.transaction_outcome name connection undone kept session
  · exact (RunLaw.frames_performs engine).performAll steps
  · exact {
      unconnected := fun error missing => engine.invoke_unconnected named missing
      refused := fun target error found refused => by
        rw [engine.invoke_refused named found refused]
        exact ⟨rfl, rfl⟩
      content := fun target tx begins => begins.content
      failed := fun target tx begins serving served error failed => begins.failed served failed
      succeeded := fun target tx begins succeeded => begins.succeeded succeeded
      undone := fun error outcome => by
        obtain succeeds | ⟨first, enclosing, fails⟩ :=
          engine.succeeds_or_fails node session
        · exact absurd (succeeds.outcome.symm.trans outcome) (by simp)
        · have same : first = error := by simpa using fails.outcome.symm.trans outcome
          exact ⟨enclosing, same ▸ fails, fails.rollbacks⟩
      committed := commits_iff named }

/-- The engine with the standard settings, on connections that follow scripts. -/
def scripted : Engine Scripted.backend := ⟨.standard, Scripted.columns, false⟩

/-- A session on one connection, on which every call succeeds. -/
def scriptedSession : Session Scripted.backend :=
  ⟨[⟨Scripted.emptyScript, 0, 0⟩], [⟨"pgsql.connect", 0, none⟩], false⟩

/-- An unknown operation in a transaction inside another one. -/
def unknownInside : Node :=
  let inner : Node := ⟨"pgsql.transaction.create", .null, [.empty "pgsql.unknown"]⟩
  ⟨"pgsql.transaction.create", .null, [inner, .empty "pgsql.execute"]⟩

/-- Both transactions around the unknown operation are rolled back, the inner one first. -/
theorem scopes_allOrNothing_unknownInside :
    let ran := scripted.invoke unknownInside scriptedSession
    let error : SqlError := .unknownOperation "pgsql.unknown"
    ran.value.outcome = .error error ∧
      ∃ enclosing, Fails scripted unknownInside scriptedSession error enclosing ∧
        ∃ before after, Event.calls ran.events = before ++ after ∧
          Rollbacks enclosing.reverse after := by
  have failed : (scripted.invoke unknownInside scriptedSession).value.outcome =
      .error (.unknownOperation "pgsql.unknown") := rfl
  have outcome := (scopes_allOrNothing scripted).2.2 unknownInside scriptedSession rfl
  exact ⟨failed, outcome.undone _ failed⟩

end Engine

end QueryTree
