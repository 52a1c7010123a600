/-
This file proves properties of whole runs from properties of single calls. A law of runs holds of
doing nothing and passes to runs in sequence; every statement keeps a law that its calls keep.
-/
import QueryTree.Program
import QueryTree.Proofs.Session.ActionLaw

namespace QueryTree

/-- The law relates the session before a run, the events of the run and the session after it. -/
structure RunLaw (backend : Backend) where
  holds : Session backend → List (Event backend) → Session backend → Prop
  idle : ∀ session, holds session [] session
  sequence : ∀ {start middle finish : Session backend} {before after : List (Event backend)},
    holds start before middle → holds middle after finish → holds start (before ++ after) finish

namespace RunLaw

variable {backend : Backend} {α β : Type} (law : RunLaw backend)

/-- Every run of the action keeps the law. -/
def Of (action : Action backend α) : Prop :=
  ∀ session, law.holds session (action session).events (action session).session

theorem of_pure (value : α) : law.Of (pure value) := law.idle

theorem of_session : law.Of Action.session := law.idle

/-- Two actions in sequence keep a law that each of them keeps. -/
theorem of_bind {first : Action backend α} {next : α → Action backend β}
    (kept : law.Of first) (keptAfter : ∀ value, law.Of (next value)) :
    law.Of (first >>= next) := by
  intro session
  exact law.sequence (kept session) (keptAfter _ _)

/-- To keep the law is a property of actions. -/
def toActionLaw : ActionLaw backend where
  Of := law.Of
  of_pure := law.of_pure
  of_bind := law.of_bind

theorem of_interrupted (control : Control) : law.Of control.interrupted :=
  law.of_bind law.of_session fun _ => law.of_pure _

/-- Waiting for an answer adds nothing to a call, and may leave it out. -/
theorem of_await {control : Control} {timed : Bool} {call : Action backend (Reply α)}
    (kept : law.Of call) : law.Of (control.await timed call) := by
  apply law.of_bind (law.of_interrupted control)
  intro interrupted
  cases interrupted with
  | true => exact law.of_pure _
  | false =>
    exact law.of_bind kept fun _ => law.of_bind (law.of_interrupted control) fun _ => law.of_pure _

/-- The calls of statements at a target, and their entries in the log, keep the law. -/
structure Statements (control : Control) (target : Target backend) : Prop where
  executes : ∀ command, law.Of
    (control.await true (Action.execute target.connection command target.transaction))
  opens : ∀ command, law.Of
    (control.await true (Action.openCursor target.connection command target.transaction))
  fetches : ∀ cursor, law.Of (control.await false (Action.nextRow target.connection cursor))
  advances : ∀ cursor, law.Of (control.await false (Action.nextSet target.connection cursor))
  logs : ∀ command outcome, law.Of (Action.log (control.entry command outcome))

namespace Statements

variable {law} {control : Control} {target : Target backend}

theorem reading (statements : law.Statements control target) :
    law.toActionLaw.Fetches control target.connection where
  row := statements.fetches
  set := statements.advances

theorem runStrategy (statements : law.Statements control target) (convert : RowConverter backend)
    (command : Command) (cap : Option Nat) (strategy : Strategy) (name : String) :
    law.Of (Execution.runStrategy control convert target command cap strategy name) := by
  cases strategy with
  | nonQuery =>
    apply law.of_bind (statements.executes command)
    intro affected
    cases affected <;> exact law.of_pure _
  | scalar =>
    apply law.of_bind (statements.opens command)
    intro opened
    cases opened with
    | error => exact law.of_pure _
    | ok cursor =>
      apply law.of_bind (statements.reading.readScalar convert cursor)
      intro value
      rcases value with error | ⟨value, rows⟩ <;> exact law.of_pure _
  | rows multiple =>
    apply law.of_bind (statements.opens command)
    intro opened
    cases opened with
    | error => exact law.of_pure _
    | ok cursor =>
      apply law.of_bind (statements.reading.materialize convert multiple cap cursor)
      intro children
      rcases children with error | ⟨children, rows⟩ <;> exact law.of_pure _

/-- A command at a target keeps every law that the calls of statements keep. -/
theorem run (statements : law.Statements control target) (convert : RowConverter backend)
    (command : Command) (cap : Option Nat) (strategy : Strategy) (node : Node) :
    law.Of (Execution.run control convert target command cap strategy node) := by
  apply law.of_bind law.of_session
  intro session
  cases backend.check target.connection command session.state with
  | error => exact law.of_pure _
  | ok =>
    refine law.of_bind (statements.runStrategy convert command cap strategy node.name) ?_
    intro outcome
    apply law.of_bind (statements.logs command _)
    intro _
    rcases outcome with error | ⟨result, rows⟩ <;> exact law.of_pure _

end Statements

end RunLaw

end QueryTree
