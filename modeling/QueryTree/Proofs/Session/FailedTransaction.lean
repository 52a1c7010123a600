/-
This file proves what a failed transaction leaves in the tree of its request: the statement that has
failed is empty, and those before it hold the results of what has been undone.
-/
import QueryTree.Proofs.Session.ExecutedNodes
import QueryTree.Proofs.Session.StatementFailure

namespace QueryTree

variable {backend : Backend}

namespace Engine

/-- The node at a path is served, in the transactions of the nodes above it. -/
inductive ServedAt (engine : Engine backend) :
    Node → Session backend → List Nat → Serving backend → Prop where
  | here (node : Node) (session : Session backend) : ServedAt engine node session [] ⟨node, session⟩
  | inside {node : Node} {session : Session backend} {target : Target backend}
      {tx : backend.Transaction} {index : Nat} {serving found : Serving backend} {path : List Nat} :
      Begins engine node session target tx →
      (engine.childServings node session target tx)[index]? = some serving →
      ServedAt engine serving.node serving.start path found →
      ServedAt engine node session (index :: path) found

variable {engine : Engine backend} {node : Node} {session : Session backend} {path : List Nat}
  {found : Serving backend}

namespace ServedAt

/-- What the serving of a node gives stays in the tree, by induction on the path. -/
theorem content (served : ServedAt engine node session path found) :
    (engine.invoke node session).value.content.at? path =
      some (engine.ran found).value.content := by
  induction served with
  | here => rfl
  | inside begins listed _ ih => exact (begins.content_at listed _).trans ih

/-- A failure anywhere is the failure of every node around it. -/
theorem failed (served : ServedAt engine node session path found) {error : SqlError}
    (failed : (engine.ran found).value.outcome = .error error) :
    (engine.invoke node session).value.outcome = .error error := by
  induction served with
  | here => exact failed
  | inside begins listed _ ih => exact (begins.failed (List.mem_of_getElem? listed) (ih failed)).2.1

end ServedAt

/-- A statement has been executed, and its node holds the result of its command. -/
def Answered (engine : Engine backend) (serving : Serving backend) : Prop :=
  ∃ plan target result rows, Planned engine serving.node serving.start plan target ∧
    backend.check target.connection plan.command serving.start.state = .ok () ∧
    (Execution.runStrategy (engine.control serving.node.name) engine.convert target plan.command
      plan.cap plan.strategy serving.node.name serving.start).value = .ok (result, rows) ∧
    (engine.ran serving).value = ⟨result, .ok ()⟩

/-- A statement that succeeds with some effect has been executed. -/
theorem answered_of_ok
    (statement : Operation.parse engine.settings.dialect found.node.name ≠ .ok .transaction)
    (executed : (engine.ran found).events ≠ [])
    (succeeded : (engine.ran found).value.outcome = .ok ()) : Answered engine found := by
  unfold ran at executed succeeded
  cases demanded : Demand.ofNode? engine.settings.dialect found.node with
  | none =>
    rw [(engine.invoke_undemanded statement demanded).2] at executed
    exact absurd rfl executed
  | some demand =>
    have served := engine.invoke_demanded demanded
    rcases demand with fault | (generated | plan)
    · rw [served] at executed
      exact absurd rfl executed
    · rw [served] at executed
      exact absurd rfl executed
    · cases placed : engine.target found.start with
      | error error =>
        rw [served, engine.serve_apply] at executed
        simp [placed] at executed
      | ok target =>
        have planned : Planned engine found.node found.start plan target := ⟨demanded, placed⟩
        cases checked : backend.check target.connection plan.command found.start.state with
        | error error =>
          rw [planned.invoke_unaccepted checked] at succeeded
          cases succeeded
        | ok =>
          have ran := planned.invoke
          rw [Execution.run_accepted checked] at ran
          cases outcome : (Execution.runStrategy (engine.control found.node.name) engine.convert target
              plan.command plan.cap plan.strategy found.node.name found.start).value with
          | error error =>
            rw [ran, outcome] at succeeded
            cases succeeded
          | ok value =>
            refine ⟨plan, target, value.1, value.2, planned, checked, outcome, ?_⟩
            rw [Engine.ran, ran, outcome]
            rfl

/-- A statement that fails after some effect leaves an empty node. -/
theorem emptied_of_error
    (statement : Operation.parse engine.settings.dialect found.node.name ≠ .ok .transaction)
    (executed : (engine.ran found).events ≠ []) {error : SqlError}
    (failed : (engine.ran found).value.outcome = .error error) :
    (engine.ran found).value = ⟨.empty found.node.name, .error error⟩ := by
  obtain refused | emptied := refused_or_emptied statement failed
  · rw [ran, refused.untouched] at executed
    exact absurd rfl executed
  · exact emptied.emptied

/-- The last call of a transaction that fails undoes it: a rollback, or a commit that is refused. -/
theorem Begins.undone {target : Target backend} {tx : backend.Transaction}
    (begins : Begins engine node session target tx) {error : SqlError}
    (failed : (engine.invoke node session).value.outcome = .error error) :
    ∃ ending, Event.calls (engine.invoke node session).events =
        engine.childCalls node session target tx ++ [(target.connection, ending)] ∧
      ((∃ answer, ending = .rollback tx answer) ∨ ending = .commit tx (.error error)) := by
  cases outcome : (engine.invokeAll node.children
      (engine.childSession session target tx)).value.outcome with
  | error first =>
    obtain ⟨serving, served, inner⟩ := engine.invokeAll_error outcome
    obtain ⟨-, -, answer, calls⟩ := begins.failed served inner
    exact ⟨_, calls, .inl ⟨answer, rfl⟩⟩
  | ok =>
    obtain ⟨-, answered, calls⟩ := begins.succeeded (engine.invokeAll_ok outcome).2
    rw [← answered, failed] at calls
    exact ⟨_, calls, .inr rfl⟩

/-- A transaction that fails after it has been begun is undone. Its node keeps its name and value, and
of the statements executed in it, at any depth, the one that has failed is left empty, while the others
keep the results of their commands. -/
theorem transaction_failure {target : Target backend} {tx : backend.Transaction} {error : SqlError}
    (begins : Begins engine node session target tx)
    (failed : (engine.invoke node session).value.outcome = .error error) :
    let ran := engine.invoke node session
    (∃ ending, Event.calls ran.events =
        engine.childCalls node session target tx ++ [(target.connection, ending)] ∧
      ((∃ answer, ending = .rollback tx answer) ∨ ending = .commit tx (.error error))) ∧
    ran.value.content.name = node.name ∧ ran.value.content.value = node.value ∧
    ∀ path found, ServedAt engine node session path found →
      Operation.parse engine.settings.dialect found.node.name ≠ .ok .transaction →
      (engine.ran found).events ≠ [] →
        ran.value.content.at? path = some (engine.ran found).value.content ∧
          (Answered engine found ∨
            (engine.ran found).value = ⟨.empty found.node.name, .error error⟩) := by
  intro ran
  refine ⟨begins.undone failed, ?_, ?_, fun path found served statement executed => ?_⟩
  · exact (congrArg Node.name begins.content.2 :)
  · exact (congrArg Node.value begins.content.2 :)
  refine ⟨served.content, ?_⟩
  cases outcome : (engine.ran found).value.outcome with
  | ok => exact .inl (answered_of_ok statement executed outcome)
  | error first =>
    have same : first = error := Except.error.inj ((served.failed outcome).symm.trans failed)
    exact .inr (emptied_of_error statement executed (same ▸ outcome))

/-- A change of two rows, as text. -/
def changingTwo : Node := .leaf "pgsql.execute" (.text "UPDATE t SET a = 1")

/-- The change in a transaction inside another one. -/
def changingInside : Node :=
  ⟨"pgsql.transaction.create", .null, [⟨"pgsql.transaction.create", .null, [changingTwo]⟩]⟩

/-- A session on a connection that answers as the script says. -/
def answering (script : Scripted.Script) : Session Scripted.backend :=
  ⟨[⟨script, 0, 0⟩], [⟨"pgsql.connect", 0, none⟩], false⟩

/-- The commit of the inner transaction fails, and the count of its change stays in the tree. -/
theorem transaction_failure_uncommitted :
    let session := answering
      { Scripted.emptyScript with answers := [.affected 2], failsCommit := true }
    let ran := scripted.invoke changingInside session
    let lost : SqlError := .execution (.stated "connection lost during commit")
    ran.value.outcome = .error lost ∧
      ran.value.content.at? [0, 0] = some (.leaf "pgsql.execute" (.int 2)) := by
  intro session ran lost
  have failed : ran.value.outcome = .error lost := rfl
  have named : Operation.parse .postgres "pgsql.transaction.create" = .ok .transaction := rfl
  have begins : Begins scripted changingInside session ⟨0, none⟩ ⟨1, false⟩ := ⟨named, rfl, rfl⟩
  have statement : Operation.parse .postgres "pgsql.execute" = .ok .execute := rfl
  have served : ServedAt scripted changingInside session [0, 0] ⟨changingTwo, _⟩ :=
    .inside begins rfl (.inside ⟨named, rfl, rfl⟩ rfl (.here _ _))
  obtain ⟨kept, -⟩ := (transaction_failure begins failed).2.2.2 [0, 0] _ served
    (fun other => nomatch statement.symm.trans other) (List.cons_ne_nil _ _)
  exact ⟨failed, kept⟩

/-- The second of two changes in a transaction fails. The transaction is rolled back, and the count of
the first change stays in the tree. -/
theorem transaction_failure_countKept :
    let node : Node := ⟨"pgsql.transaction.create", .null, [changingTwo, changingTwo]⟩
    let ran := scripted.invoke node (answering
      { Scripted.emptyScript with answers := [.affected 2, .failure "boom"] })
    let first : Scripted.backend.Transaction := (⟨1, false⟩ : Scripted.Transaction)
    ran.value.outcome = .error (.execution (.stated "boom")) ∧
      (Event.calls ran.events).getLast? = some (0, .rollback first (.ok ())) ∧
      ran.value.content.at? [0] = some (.leaf "pgsql.execute" (.int 2)) ∧
      ran.value.content.at? [1] = some (.empty "pgsql.execute") :=
  ⟨rfl, rfl, rfl, rfl⟩

end Engine

end QueryTree
