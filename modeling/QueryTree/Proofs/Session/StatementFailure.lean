/-
This file proves that a statement fails in exactly one of two ways: refused, it leaves everything as it
was, and begun, it leaves nothing of its request but the name.
-/
import Mathlib.Logic.Basic
import QueryTree.Postgres.Connection
import QueryTree.Proofs.Session.CommandRun
import QueryTree.Proofs.Session.ScopeOutcome
import QueryTree.Proofs.Session.StatementCalls
import QueryTree.Proofs.Statement.RequestParts
import QueryTree.Proofs.Statement.StatementLayout

namespace QueryTree

/-- A compiled request names its table as text. -/
theorem Statement.compile_text {dialect : Dialect} {kind : StatementKind} {node : Node}
    {compiled : CompiledStatement} (compiles : compile dialect kind node = .ok compiled) :
    ∃ text, node.value.asText? = some text := by
  have named : ∃ table, node.table = .ok table := by
    obtain ⟨statement, read, -⟩ := map_ok compiles
    cases kind with
    | select =>
      obtain ⟨select, made, -⟩ := map_ok read
      exact ⟨_, (Select.ofNode_parts made).1⟩
    | insert =>
      obtain ⟨insert, made, -⟩ := map_ok read
      exact ⟨_, (Insert.ofNode_parts made).1⟩
    | update =>
      obtain ⟨update, made, -⟩ := map_ok read
      exact ⟨_, (Update.ofNode_parts made).1⟩
    | delete =>
      obtain ⟨delete, made, -⟩ := map_ok read
      exact ⟨_, (Delete.ofNode_parts made).1⟩
  obtain ⟨table, named⟩ := named
  unfold Node.table at named
  split at named
  · exact ⟨_, ‹_›⟩
  · cases named

/-- A node that carries a command has a text. -/
theorem Command.ofNode_text {node : Node} {command : Command} (read : ofNode node = .ok command) :
    ∃ text, node.value.asText? = some text := by
  obtain ⟨text, read, -⟩ := bind_ok read
  unfold Node.text at read
  split at read
  · exact ⟨_, ‹_›⟩
  · cases read

/-- A batch with parameters, and nothing else, is not accepted by PostgreSQL. -/
theorem Postgres.Connection.check_error_iff {command : Command} {error : SqlError} :
    check command = .error error ↔ command.multipleResultSets = true ∧ command.parameters ≠ [] ∧
      error = .request .batchWithParameters := by
  unfold check
  split
  case isTrue refused =>
    obtain ⟨multiple, given⟩ := Bool.and_eq_true_iff.mp refused
    constructor
    · intro same
      cases same
      exact ⟨multiple, by simpa using given, rfl⟩
    · rintro ⟨-, -, rfl⟩
      rfl
  case isFalse accepted =>
    constructor
    · exact nofun
    · rintro ⟨multiple, given, -⟩
      exact absurd (by simpa [multiple] using given) accepted

variable {backend : Backend}

namespace Engine

variable {engine : Engine backend}

/-- A node that has a command to run has a text. -/
theorem demanded_text {node : Node} {plan : Plan}
    (planned : Demand.ofNode? engine.settings.dialect node = some (.ok (.planned plan))) :
    ∃ text, node.value.asText? = some text := by
  unfold Demand.ofNode? at planned
  split at planned
  · cases planned
  · obtain ⟨multiple, -, planned⟩ := bind_ok (Option.some.inj planned)
    obtain ⟨command, read, -⟩ := bind_ok planned
    exact Command.ofNode_text read
  · obtain ⟨command, read, -⟩ := bind_ok (Option.some.inj planned)
    exact Command.ofNode_text read
  · obtain ⟨command, read, -⟩ := bind_ok (Option.some.inj planned)
    exact Command.ofNode_text read
  · obtain ⟨statement, compiles, -⟩ := bind_ok (Option.some.inj planned)
    exact Statement.compile_text compiles
  · cases planned

/-- A node demands a command, and there is a place to run it. -/
structure Planned (engine : Engine backend) (node : Node) (session : Session backend) (plan : Plan)
    (target : Target backend) : Prop where
  demanded : Demand.ofNode? engine.settings.dialect node = some (.ok (.planned plan))
  found : engine.target session = .ok target

/-- A planned command is run. -/
theorem Planned.invoke {node : Node} {session : Session backend} {plan : Plan}
    {target : Target backend} (planned : Planned engine node session plan target) :
    engine.invoke node session =
      Execution.run (engine.control node.name) engine.convert target plan.command plan.cap
        plan.strategy node session := by
  rw [engine.invoke_demanded planned.demanded, engine.serve_apply]
  dsimp only
  rw [planned.found]

/-- A command that the backend does not accept changes nothing. -/
theorem Planned.invoke_unaccepted {node : Node} {session : Session backend} {plan : Plan}
    {target : Target backend} {error : SqlError}
    (planned : Planned engine node session plan target)
    (unaccepted : backend.check target.connection plan.command session.state = .error error) :
    engine.invoke node session = ⟨⟨node, .error error⟩, [], session⟩ := by
  rw [planned.invoke, Execution.run_refused unaccepted]

/-- Why a statement is not begun: its operation is not known, its request is at fault, there is no
connection, or the backend does not accept its command. -/
inductive Refusal (engine : Engine backend) (node : Node) (session : Session backend) :
    SqlError → Prop where
  | unknown : Operation.parse engine.settings.dialect node.name =
      .error (.unknownOperation node.name) →
      Refusal engine node session (.unknownOperation node.name)
  | faulty {fault : RequestFault} :
      Demand.ofNode? engine.settings.dialect node = some (.error fault) →
      Refusal engine node session (.request fault)
  | unconnected {plan : Plan} :
      Demand.ofNode? engine.settings.dialect node = some (.ok (.planned plan)) →
      engine.target session = .error engine.unconnected →
      Refusal engine node session
        (.connection (.unregistered engine.settings.dialect.connectScope))
  | unaccepted {plan : Plan} {target : Target backend} {error : SqlError} :
      Planned engine node session plan target →
      backend.check target.connection plan.command session.state = .error error →
      Refusal engine node session error

/-- A statement that is not begun leaves its request and the session as they were, makes no call and
writes nothing to the log. -/
structure Refused (engine : Engine backend) (node : Node) (session : Session backend)
    (error : SqlError) : Prop where
  reason : Refusal engine node session error
  untouched : engine.invoke node session = ⟨⟨node, .error error⟩, [], session⟩

/-- A statement that fails once it has been begun leaves nothing of its request but the name. It has
made its calls up to the first error that one of them has returned, and is logged; its error is that
one, unless it has been cancelled or has run out of time. -/
structure Emptied (engine : Engine backend) (node : Node) (session : Session backend)
    (error : SqlError) : Prop where
  lost : ∃ text, node.value.asText? = some text
  emptied : (engine.invoke node session).value = ⟨⟨node.name, .null, []⟩, .error error⟩
  called : ∃ plan target, Planned engine node session plan target ∧
    backend.check target.connection plan.command session.state = .ok () ∧
      let control := engine.control node.name
      let ran := engine.invoke node session
      ∃ events result, ran.events = events ++ [.log (control.entry plan.command (.error error))] ∧
        StatementContext.Calls ⟨engine.convert, target, plan.command⟩ .ready session events result
          ran.session ∧
        StatementContext.Cause control ran.session result error

/-- An accepted command that fails empties its node. -/
theorem Planned.emptied {node : Node} {session : Session backend} {plan : Plan}
    {target : Target backend} {error : SqlError}
    (planned : Planned engine node session plan target)
    (accepted : backend.check target.connection plan.command session.state = .ok ())
    (failed : (engine.invoke node session).value.outcome = .error error) :
    Emptied engine node session error := by
  obtain ⟨result, calls, ended⟩ := StatementContext.Follows.runStrategy
    ⟨engine.convert, target, plan.command⟩ (engine.control node.name) plan.cap plan.strategy node.name
    session
  have ran := planned.invoke
  rw [Execution.run_accepted accepted] at ran
  dsimp only at calls ended
  generalize Execution.runStrategy (engine.control node.name) engine.convert target plan.command
    plan.cap plan.strategy node.name session = strategy at ran calls ended
  cases outcome : strategy.value with
  | ok value =>
    rw [ran, outcome] at failed
    cases failed
  | error first =>
    rw [outcome] at ran ended
    rw [ran] at failed
    cases failed
    exact {
      lost := demanded_text planned.demanded
      emptied := by rw [ran]; rfl
      called := ⟨plan, target, planned, accepted, strategy.events, result, by rw [ran]; rfl,
        by rw [ran]; exact calls, by rw [ran]; exact ended⟩ }

/-- The node tells how its statement has failed. -/
theorem not_refused_and_emptied {node : Node} {session : Session backend} {error : SqlError} :
    ¬ (Refused engine node session error ∧ Emptied engine node session error) := by
  rintro ⟨refused, emptied⟩
  have kept := refused.untouched ▸ emptied.emptied
  obtain ⟨text, lost⟩ := emptied.lost
  have same : node = ⟨node.name, .null, []⟩ := congrArg Finished.content kept
  rw [same] at lost
  cases lost

/-- A statement that fails is refused, or it empties its node. -/
theorem refused_or_emptied {node : Node} {session : Session backend} {error : SqlError}
    (other : Operation.parse engine.settings.dialect node.name ≠ .ok .transaction)
    (failed : (engine.invoke node session).value.outcome = .error error) :
    Refused engine node session error ∨ Emptied engine node session error := by
  cases demanded : Demand.ofNode? engine.settings.dialect node with
  | none =>
    obtain ⟨unknown, served⟩ := engine.invoke_undemanded other demanded
    rw [served] at failed
    cases failed
    exact .inl ⟨.unknown unknown, by rw [served]; rfl⟩
  | some demand =>
    have served := engine.invoke_demanded demanded
    rcases demand with fault | (statement | plan)
    · rw [served] at failed
      cases failed
      exact .inl ⟨.faulty demanded, by rw [served]; rfl⟩
    · rw [served] at failed
      cases failed
    · cases found : engine.target session with
      | error missing =>
        rw [served, engine.serve_apply] at failed
        simp only [found] at failed
        cases failed
        cases engine.target_error found
        refine .inl ⟨.unconnected demanded found, ?_⟩
        rw [served, engine.serve_apply]
        simp only [found]
      | ok target =>
        have planned : Planned engine node session plan target := ⟨demanded, found⟩
        cases checked : backend.check target.connection plan.command session.state with
        | error refusal =>
          rw [planned.invoke_unaccepted checked] at failed
          cases failed
          exact .inl ⟨.unaccepted planned checked, planned.invoke_unaccepted checked⟩
        | ok => exact .inr (planned.emptied checked failed)

variable (engine)

/-- A statement that fails is either refused or empties its node, and never both. A command that the
backend does not accept is always refused; PostgreSQL does not accept a batch with parameters. -/
theorem statement_failure (node : Node) (session : Session backend) :
    (Operation.parse engine.settings.dialect node.name ≠ .ok .transaction → ∀ error,
      (engine.invoke node session).value.outcome = .error error →
        Xor (Refused engine node session error) (Emptied engine node session error)) ∧
    (∀ plan target error, Planned engine node session plan target →
      backend.check target.connection plan.command session.state = .error error →
        engine.invoke node session = ⟨⟨node, .error error⟩, [], session⟩) ∧
    ∀ connection command state error,
      Postgres.backend.check connection command state = .error error ↔
        command.multipleResultSets = true ∧ command.parameters ≠ [] ∧
          error = .request .batchWithParameters := by
  refine ⟨fun other error failed => ?_, fun plan target error planned unaccepted => ?_,
    fun _ _ _ _ => Postgres.Connection.check_error_iff⟩
  · obtain refused | emptied := refused_or_emptied other failed
    · exact .inl ⟨refused, fun emptied => not_refused_and_emptied ⟨refused, emptied⟩⟩
    · exact .inr ⟨emptied, fun refused => not_refused_and_emptied ⟨refused, emptied⟩⟩
  · exact planned.invoke_unaccepted unaccepted

/-- A session on one connection that answers with a row of no known type and takes no batch with
parameters. -/
def failingSession : Session Scripted.backend :=
  let script := { Scripted.emptyScript with
    answers := [.sets [[.undecodable "a"]]]
    refusesBatchParameters := true }
  ⟨[⟨script, 0, 0⟩], [⟨"pgsql.connect", 0, none⟩], false⟩

/-- A text for its first value. -/
def askingValue : Node := .leaf "pgsql.scalar" (.text "SELECT a FROM t")

/-- A batch with a parameter. -/
def askingBatch : Node :=
  ⟨"pgsql.select", .text "SELECT a FROM t WHERE b = $1; SELECT 1",
    [.leaf "$1" (.int 1), .leaf "multiple-result-sets" (.bool true)]⟩

/-- The row cannot be converted; the batch is not sent. -/
theorem statement_failure_undecodable :
    let undecodable : SqlError := .decode "a" (.stated "scripted")
    let refused : SqlError := .request (.stated "batches cannot take parameters")
    (scripted.invoke askingValue failingSession).value =
        ⟨.empty "pgsql.scalar", .error undecodable⟩ ∧
      Xor (Refused scripted askingValue failingSession undecodable)
        (Emptied scripted askingValue failingSession undecodable) ∧
      scripted.invoke askingBatch failingSession =
        ⟨⟨askingBatch, .error refused⟩, [], failingSession⟩ := by
  intro undecodable refused
  have named : Operation.parse .postgres "pgsql.scalar" = .ok .scalar := rfl
  have returned : (scripted.invoke askingValue failingSession).value =
      ⟨.empty "pgsql.scalar", .error undecodable⟩ := rfl
  have planned : Planned scripted askingBatch failingSession
      ⟨⟨"SELECT a FROM t WHERE b = $1; SELECT 1", [("$1", .int 1)], true⟩, none, .rows true⟩
      ⟨0, none⟩ := ⟨rfl, rfl⟩
  refine ⟨returned, ?_, ?_⟩
  · exact (statement_failure scripted askingValue failingSession).1
      (fun other => nomatch named.symm.trans other) undecodable
      (congrArg Finished.outcome returned)
  · exact (statement_failure scripted askingBatch failingSession).2.1 _ _ refused planned rfl

end Engine

end QueryTree
