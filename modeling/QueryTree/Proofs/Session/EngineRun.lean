/-
This file follows an engine through a session: the place of a statement, the transaction around the
children of a node, and the laws that whole operations and programs keep.
-/
import QueryTree.Proofs.Session.ScopeRun

namespace QueryTree

/-- An operation that is not known is reported by its whole name. -/
theorem Operation.parse_error {dialect : Dialect} {name : String} {error : SqlError}
    (unknown : parse dialect name = .error error) : error = .unknownOperation name := by
  unfold parse at unknown
  dsimp only at unknown
  split at unknown
  · cases unknown
  · cases unknown
    rfl

/-- What the operation of a node demands. An unknown operation and a transaction demand nothing. -/
def Engine.Demand.ofNode? (dialect : Dialect) (node : Node) : Option (Except RequestFault Demand) :=
  match Operation.parse dialect node.name with
  | .error _ => none
  | .ok .select => some (ofSelect node)
  | .ok .scalar => some (ofRaw .scalar node)
  | .ok .execute => some (ofRaw .nonQuery node)
  | .ok (.compiled kind) => some (ofRequest dialect kind node)
  | .ok .transaction => none

variable {backend : Backend} {α : Type}

namespace Engine

variable (engine : Engine backend)

/-- The scope under which the transactions of an engine are found. -/
def scope : String := engine.settings.dialect.transactionScope

/-- The place of a statement depends on the open scopes alone. -/
theorem target_congr {first second : Session backend} (same : first.frames = second.frames) :
    engine.target first = engine.target second := by
  simp only [target, Session.lookup, Session.connection?, Session.frame?, same]

/-- Inside a transaction of the engine, statements join it. -/
@[simp] theorem target_entered (session : Session backend) (connection : Nat)
    (tx : backend.Transaction) :
    engine.target (session.entered ⟨engine.scope, connection, some tx⟩) =
      .ok ⟨connection, some tx⟩ := by
  simp [target, Session.lookup, Session.frame?, Session.entered, scope]

@[simp] theorem target_inside (session : Session backend) (connection : Nat)
    (tx : backend.Transaction) :
    engine.target (Scope.inside engine.scope connection tx session) = .ok ⟨connection, some tx⟩ :=
  engine.target_entered _ connection tx

/-- A new transaction is nested in the one that a statement would join. -/
theorem parent_target {session : Session backend} {target : Target backend}
    (found : engine.target session = .ok target) :
    session.parent? engine.scope target.connection = target.transaction := by
  unfold Engine.target at found
  unfold Session.parent? Engine.scope
  cases looked : session.lookup engine.settings.dialect.transactionScope with
  | some place =>
    rw [looked] at found
    cases found
    simp
  | none =>
    rw [looked] at found
    cases connected : session.connection? engine.settings.dialect.connectScope with
    | none => simp [connected] at found
    | some connection =>
      simp only [connected, Except.ok.injEq] at found
      rw [← found]

/-- A missing place is always reported in the same way. -/
theorem target_error {session : Session backend} {error : SqlError}
    (missing : engine.target session = .error error) : error = engine.unconnected := by
  unfold target at missing
  split at missing
  · cases missing
  · split at missing
    · cases missing
    · cases missing
      rfl

/-- The work is done in a transaction on the connection to which a statement would be sent. -/
theorem inTransaction_apply (undone : α) (work : Action backend (Finished α))
    (session : Session backend) :
    engine.inTransaction undone work session =
      match engine.target session with
      | .error error => ⟨⟨undone, .error error⟩, [], session⟩
      | .ok target => Scope.transaction engine.scope target.connection undone work session := by
  simp only [inTransaction, Action.bind_apply, Action.session, List.nil_append, target,
    Session.lookup, Session.connection?, scope]
  cases session.frame? engine.settings.dialect.transactionScope with
  | some frame => simp
  | none =>
    cases session.frame? engine.settings.dialect.connectScope with
    | some frame => simp
    | none => simp

/-- An operation that is not answered at once is a command at the place of statements. -/
theorem serve_apply (demand : Except RequestFault Demand) (node : Node)
    (session : Session backend) :
    engine.serve demand node session =
      match demand with
      | .error fault => ⟨⟨node, .error (.request fault)⟩, [], session⟩
      | .ok (.generated statement) => ⟨⟨statement.toNode node.name, .ok ()⟩, [], session⟩
      | .ok (.planned plan) =>
          match engine.target session with
          | .error error => ⟨⟨node, .error error⟩, [], session⟩
          | .ok target =>
              Execution.run (engine.control node.name) engine.convert target plan.command plan.cap
                plan.strategy node session := by
  rcases demand with fault | (statement | plan)
  · rfl
  · rfl
  · simp only [serve, Action.bind_apply, Action.session, List.nil_append]
    cases engine.target session <;> rfl

/-- A transaction puts what its children have become in their place. -/
theorem invoke_transaction {node : Node} {session : Session backend}
    (named : Operation.parse engine.settings.dialect node.name = .ok .transaction) :
    let done := engine.inTransaction node.children (engine.invokeAll node.children) session
    engine.invoke node session =
      ⟨⟨{ node with children := done.value.content }, done.value.outcome⟩, done.events,
        done.session⟩ := by
  obtain ⟨name, value, children⟩ := node
  unfold Engine.invoke
  rw [named]
  simp

/-- What a node demands is served. -/
theorem invoke_demanded {node : Node} {demand : Except RequestFault Demand}
    (demanded : Demand.ofNode? engine.settings.dialect node = some demand) :
    engine.invoke node = engine.serve demand node := by
  obtain ⟨name, value, children⟩ := node
  unfold Demand.ofNode? at demanded
  unfold Engine.invoke
  cases named : Operation.parse engine.settings.dialect name with
  | error error =>
    simp only [named] at demanded
    cases demanded
  | ok operation =>
    simp only [named] at demanded ⊢
    cases operation with
    | transaction => cases demanded
    | _ =>
      cases demanded
      rfl

/-- A node that is no transaction and demands nothing asks for an unknown operation. -/
theorem invoke_undemanded {node : Node}
    (other : Operation.parse engine.settings.dialect node.name ≠ .ok .transaction)
    (undemanded : Demand.ofNode? engine.settings.dialect node = none) :
    Operation.parse engine.settings.dialect node.name = .error (.unknownOperation node.name) ∧
      engine.invoke node = pure ⟨node, .error (.unknownOperation node.name)⟩ := by
  obtain ⟨name, value, children⟩ := node
  unfold Demand.ofNode? at undemanded
  unfold Engine.invoke
  cases named : Operation.parse engine.settings.dialect name with
  | error error =>
    cases Operation.parse_error named
    exact ⟨rfl, rfl⟩
  | ok operation =>
    simp only [named] at undemanded other
    cases operation with
    | transaction => exact absurd rfl other
    | _ => cases undemanded

/-- Every operation but a transaction serves a demand, or it is unknown. -/
theorem invoke_statement {node : Node}
    (other : Operation.parse engine.settings.dialect node.name ≠ .ok .transaction) :
    (∃ error, engine.invoke node = pure ⟨node, .error error⟩) ∨
      ∃ demand, engine.invoke node = engine.serve demand node := by
  cases demanded : Demand.ofNode? engine.settings.dialect node with
  | none => exact .inl ⟨_, (engine.invoke_undemanded other demanded).2⟩
  | some demand => exact .inr ⟨demand, engine.invoke_demanded demanded⟩

end Engine

/-- The commands of an engine at the place of statements keep the law. -/
def RunLaw.Commands (law : RunLaw backend) (engine : Engine backend) : Prop :=
  ∀ session target, engine.target session = .ok target →
    ∀ name command cap strategy node,
      let ran := Execution.run (engine.control name) engine.convert target command cap strategy node
        session
      law.holds session ran.events ran.session

namespace RunLaw.Commands

variable {law : RunLaw backend} {engine : Engine backend}

theorem of_statements (statements : ∀ name target, law.Statements (engine.control name) target) :
    law.Commands engine := by
  intro session target _ name command cap strategy node
  exact (statements name target).run engine.convert command cap strategy node session

theorem serve (commands : law.Commands engine) (demand : Except RequestFault Engine.Demand)
    (node : Node) : law.Of (engine.serve demand node) := by
  intro session
  rw [engine.serve_apply]
  rcases demand with fault | (statement | plan)
  · exact law.idle session
  · exact law.idle session
  · cases found : engine.target session with
    | error => exact law.idle session
    | ok target => exact commands session target found ..

/-- An operation that is no transaction keeps the law. -/
theorem invoke (commands : law.Commands engine) {node : Node}
    (other : Operation.parse engine.settings.dialect node.name ≠ .ok .transaction) :
    law.Of (engine.invoke node) := by
  rcases engine.invoke_statement other with ⟨error, same⟩ | ⟨demand, same⟩
  · rw [same]
    exact law.of_pure _
  · rw [same]
    exact commands.serve demand node

theorem operate (commands : law.Commands engine) {operation : Operation}
    (other : operation ≠ .transaction) (node : Node) :
    law.Of (Program.operate engine operation node) := by
  cases operation with
  | transaction => exact absurd rfl other
  | select => exact commands.serve _ _
  | scalar => exact commands.serve _ _
  | execute => exact commands.serve _ _
  | compiled => exact commands.serve _ _

end RunLaw.Commands

/-- The commands of an engine keep the law, and its transactions do when their work does. -/
structure RunLaw.Serves (law : RunLaw backend) (engine : Engine backend) : Prop where
  commands : law.Commands engine
  scopes : ∀ {α : Type} (undone : α) {work : Action backend (Finished α)},
    law.Of work → law.Of (engine.inTransaction undone work)

namespace RunLaw.Serves

variable {law : RunLaw backend} {engine : Engine backend}

mutual

/-- Every operation of an engine keeps the law, by induction on the tree of its request. -/
theorem invoke (serves : law.Serves engine) : ∀ node, law.Of (engine.invoke node)
  | ⟨name, value, children⟩ => by
    by_cases named :
        Operation.parse engine.settings.dialect (Node.mk name value children).name =
          .ok .transaction
    · intro session
      rw [engine.invoke_transaction named]
      exact serves.scopes children (invokeAll serves children) session
    · exact serves.commands.invoke named

theorem invokeAll (serves : law.Serves engine) : ∀ nodes, law.Of (engine.invokeAll nodes)
  | [] => law.of_pure _
  | node :: rest => by
    unfold Engine.invokeAll
    apply law.of_bind (invoke serves node)
    intro first
    rcases first with ⟨content, error | done⟩
    · exact law.of_pure _
    · exact law.of_bind (invokeAll serves rest) fun _ => law.of_pure _

end

end RunLaw.Serves

/-- A command at a place of its own keeps every law that whole commands keep. -/
theorem RunLaw.of_commands {law : RunLaw backend} {engine : Engine backend}
    (commands : ∀ target command cap strategy node, law.Of
      (Execution.run (engine.control "exec") engine.convert target command cap strategy node))
    (place : Place) (strategy : Strategy) (cap : Option Nat) (batch : Bool) (node : Node) :
    law.Of (Program.runCommand engine place strategy cap batch node) := by
  unfold Program.runCommand
  cases Command.ofNode node with
  | error => exact law.of_pure _
  | ok command =>
    have placed (target : Except SqlError (Target backend)) :
        law.Of (match target with
          | .error error => return ⟨node, .error error⟩
          | .ok target =>
              Execution.run (engine.control "exec") engine.convert target
                { command with multipleResultSets := batch } cap strategy node) := by
      cases target with
      | error => exact law.of_pure _
      | ok target => exact commands target _ cap strategy node
    cases place with
    | connection number => exact law.of_bind (law.of_pure _) placed
    | scope name =>
      apply law.of_bind law.of_session
      intro session
      cases session.lookup name with
      | none => exact law.of_bind (law.of_pure _) placed
      | some target => exact law.of_bind (law.of_pure _) placed

/-- A command at a place of its own keeps every law that the calls of statements keep. -/
theorem RunLaw.of_runCommand {law : RunLaw backend} {engine : Engine backend}
    (statements : ∀ target, law.Statements (engine.control "exec") target) (place : Place)
    (strategy : Strategy) (cap : Option Nat) (batch : Bool) (node : Node) :
    law.Of (Program.runCommand engine place strategy cap batch node) :=
  of_commands (fun target => (statements target).run engine.convert) place strategy cap batch node

namespace Program

/-- A reported operation adds its report. -/
theorem reported_apply (word : String) (operation : Action backend (Finished Node))
    (session : Session backend) :
    let done := operation session
    reported word operation session =
      ⟨done.value.outcome,
        done.events ++ [.report (.operation word done.value.content done.value.outcome)],
        done.session⟩ := rfl

/-- An enclosed body adds its report. -/
theorem enclosed_apply (word : String) (body : Action backend (Except SqlError Unit))
    (session : Session backend) :
    let done := body session
    enclosed word body session =
      ⟨done.value, done.events ++ [.report (.scope word done.session.depth done.value)],
        done.session⟩ := rfl

end Program

/-- Whole commands keep the law, and the steps of programs do when the steps inside them do. -/
structure RunLaw.Programs (law : RunLaw backend) (engine : Engine backend) : Prop where
  commands : ∀ name target command cap strategy node, law.Of
    (Execution.run (engine.control name) engine.convert target command cap strategy node)
  transactions : ∀ {α : Type} (name connection) (undone : α) {work : Action backend (Finished α)},
    law.Of work → law.Of (Scope.transaction name connection undone work)
  connections : ∀ {α : Type} (name connection) {work : Action backend α},
    law.Of work → law.Of (Scope.withConnection name connection work)
  alone : ∀ {α : Type} {work : Action backend α}, law.Of work → law.Of (Action.withoutFrames work)
  reports : ∀ report, law.Of (Action.report report)
  cancels : law.Of Action.cancel

namespace RunLaw.Programs

variable {law : RunLaw backend} {engine : Engine backend}

theorem serves (programs : law.Programs engine) : law.Serves engine where
  commands session target _ name command cap strategy node :=
    programs.commands name target command cap strategy node session
  scopes undone work kept := by
    intro session
    rw [engine.inTransaction_apply]
    cases engine.target session with
    | error => exact law.idle session
    | ok target => exact programs.transactions _ _ undone kept session

theorem reported (programs : law.Programs engine) (word : String)
    {operation : Action backend (Finished Node)} (kept : law.Of operation) :
    law.Of (Program.reported word operation) :=
  law.of_bind kept fun _ => law.of_bind (programs.reports _) fun _ => law.of_pure _

theorem enclosed (programs : law.Programs engine) (word : String)
    {body : Action backend (Except SqlError Unit)} (kept : law.Of body) :
    law.Of (Program.enclosed word body) :=
  law.of_bind kept fun _ => law.of_bind law.of_session fun _ =>
    law.of_bind (programs.reports _) fun _ => law.of_pure _

theorem transaction (programs : law.Programs engine) (node : Node) :
    law.Of (engine.transaction node) :=
  law.of_bind (programs.serves.scopes _ (programs.serves.invokeAll _)) fun _ => law.of_pure _

theorem operate (programs : law.Programs engine) (operation : Operation) (node : Node) :
    law.Of (Program.operate engine operation node) := by
  by_cases named : operation = .transaction
  · subst named
    exact programs.transaction node
  · exact programs.serves.commands.operate named node

mutual

/-- Every program keeps the law, by induction on its steps. -/
theorem perform (programs : law.Programs engine) : ∀ step, law.Of (Program.perform engine step)
  | .run _ node =>
    programs.reported _ (programs.alone (programs.connections _ _ (programs.serves.invoke node)))
  | .invoke node => programs.reported _ (programs.serves.invoke node)
  | .perform operation node => programs.reported _ (programs.operate operation node)
  | .command place strategy cap batch node =>
    programs.reported _ (of_commands (programs.commands _) place strategy cap batch node)
  | .withConnection name connection body =>
    programs.enclosed _ (programs.connections name connection (performAll programs body))
  | .transaction name connection body =>
    programs.enclosed _ (law.of_bind
      (programs.transactions name connection ()
        (law.of_bind (performAll programs body) fun _ => law.of_pure _))
      fun _ => law.of_pure _)
  | .attempt body =>
    law.of_bind (programs.enclosed _ (performAll programs body)) fun _ => law.of_pure _
  | .fail _ => law.of_pure _
  | .cancel => law.of_bind programs.cancels fun _ => law.of_pure _
  | .lookup _ =>
    law.of_bind law.of_session fun _ => law.of_bind (programs.reports _) fun _ => law.of_pure _

theorem performAll (programs : law.Programs engine) :
    ∀ steps, law.Of (Program.performAll engine steps)
  | [] => law.of_pure _
  | step :: rest => by
    unfold Program.performAll
    apply law.of_bind (perform programs step)
    intro outcome
    cases outcome with
    | error => exact law.of_pure _
    | ok => exact performAll programs rest

end

end RunLaw.Programs

/-- The steps of programs keep the law when the steps inside them do. -/
structure RunLaw.Performs (law : RunLaw backend) (engine : Engine backend) : Prop where
  statements : ∀ name target, law.Statements (engine.control name) target
  transactions : ∀ {α : Type} (name connection) (undone : α) {work : Action backend (Finished α)},
    law.Of work → law.Of (Scope.transaction name connection undone work)
  connections : ∀ {α : Type} (name connection) {work : Action backend α},
    law.Of work → law.Of (Scope.withConnection name connection work)
  alone : ∀ {α : Type} {work : Action backend α}, law.Of work → law.Of (Action.withoutFrames work)
  reports : ∀ report, law.Of (Action.report report)
  cancels : law.Of Action.cancel

namespace RunLaw.Performs

variable {law : RunLaw backend} {engine : Engine backend}

/-- Commands keep a law that the calls of statements keep. -/
theorem programs (performs : law.Performs engine) : law.Programs engine where
  commands name target := (performs.statements name target).run engine.convert
  transactions := performs.transactions
  connections := performs.connections
  alone := performs.alone
  reports := performs.reports
  cancels := performs.cancels

theorem serves (performs : law.Performs engine) : law.Serves engine := performs.programs.serves

theorem operate (performs : law.Performs engine) (operation : Operation) (node : Node) :
    law.Of (Program.operate engine operation node) :=
  performs.programs.operate operation node

theorem perform (performs : law.Performs engine) (step : Step) :
    law.Of (Program.perform engine step) :=
  performs.programs.perform step

theorem performAll (performs : law.Performs engine) (steps : List Step) :
    law.Of (Program.performAll engine steps) :=
  performs.programs.performAll steps

end RunLaw.Performs

/-- Every program leaves the open scopes as it found them. -/
theorem RunLaw.frames_performs (engine : Engine backend) : (frames backend).Performs engine where
  statements name target := frames_statements (engine.control name) target
  transactions name connection undone _ kept :=
    Scope.transaction_frames name connection undone kept
  connections name connection _ kept := Scope.withConnection_frames name connection kept
  alone _ _ := rfl
  reports _ _ := rfl
  cancels _ := rfl

namespace Engine

variable (engine : Engine backend)

/-- Without a place for statements, a transaction changes nothing and reports so. -/
theorem invoke_unconnected {node : Node} {session : Session backend} {error : SqlError}
    (named : Operation.parse engine.settings.dialect node.name = .ok .transaction)
    (missing : engine.target session = .error error) :
    engine.invoke node session = ⟨⟨node, .error error⟩, [], session⟩ := by
  obtain ⟨name, value, children⟩ := node
  rw [engine.invoke_transaction named, engine.inTransaction_apply, missing]

/-- A transaction that cannot be begun changes nothing. -/
theorem invoke_refused {node : Node} {session : Session backend} {target : Target backend}
    {error : SqlError}
    (named : Operation.parse engine.settings.dialect node.name = .ok .transaction)
    (found : engine.target session = .ok target)
    (refused : (Scope.begun engine.scope target.connection session).value = .error error) :
    engine.invoke node session =
      ⟨⟨node, .error error⟩,
        [.call target.connection (.begin target.transaction (.error error))
          (backend.begin target.connection target.transaction session.state).observations],
        (Scope.begun engine.scope target.connection session).session⟩ := by
  obtain ⟨name, value, children⟩ := node
  rw [engine.invoke_transaction named, engine.inTransaction_apply, found]
  simp only
  rw [Scope.transaction_refused refused, Scope.begun_events, refused, engine.parent_target found]

/-- The children of a transaction are served inside it once it has been begun, and it is ended by
their outcome. -/
theorem invoke_begun {node : Node} {session : Session backend} {target : Target backend}
    {tx : backend.Transaction}
    (named : Operation.parse engine.settings.dialect node.name = .ok .transaction)
    (found : engine.target session = .ok target)
    (started : (Scope.begun engine.scope target.connection session).value = .ok tx) :
    let inside := Scope.inside engine.scope target.connection tx session
    let served := engine.invokeAll node.children inside
    let savepoint := target.transaction.isSome
    let ended := Scope.finish engine.scope target.connection savepoint tx served.value.outcome
      (served.session.within session.frames)
    engine.invoke node session =
      ⟨⟨{ node with children := served.value.content }, ended.value⟩,
        .call target.connection (.begin target.transaction (.ok tx))
          (backend.begin target.connection target.transaction session.state).observations ::
          .log (.begun engine.scope savepoint) :: (served.events ++ ended.events),
        ended.session⟩ := by
  have kept := (RunLaw.frames_performs engine).serves.invokeAll node.children
    (Scope.inside engine.scope target.connection tx session)
  rw [engine.invoke_transaction named, engine.inTransaction_apply, found]
  simp only
  rw [Scope.transaction_begun started _ _ kept, Scope.begun_events, started,
    engine.parent_target found]
  rfl

end Engine

end QueryTree
