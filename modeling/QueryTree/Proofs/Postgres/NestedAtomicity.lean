/-
This file proves that programs with nested scopes on a PostgreSQL client are atomic: what they leave
in the data is decided by which of their scopes succeed.
-/
import QueryTree.Proofs.Postgres.Settlement

namespace QueryTree.Postgres

variable (engine : Engine backend)

/-- What a transaction at the place of statements does to the data. -/
def transactionWorks (session : Session backend) (outcome : Except SqlError Unit)
    (inside : Session backend → List Work) : List Work :=
  match engine.target session with
  | .error _ => []
  | .ok target =>
      scopeWorks (Scope.begun engine.scope target.connection session).value outcome fun tx =>
        inside (Scope.inside engine.scope target.connection tx session)

mutual

/-- What serving a node does to the data: a transaction is a scope, and every other operation sends
statements. -/
def nodeWorks : Node → Session backend → List Work
  | ⟨name, value, children⟩, session =>
      let ran := engine.invoke ⟨name, value, children⟩ session
      match Operation.parse engine.settings.dialect name with
      | .ok .transaction =>
          transactionWorks engine session ran.value.outcome (nodesWorks children)
      | _ => statementWorks ran.events

/-- What serving nodes in order does to the data, up to the first failure. -/
def nodesWorks : List Node → Session backend → List Work
  | [], _ => []
  | node :: rest, session =>
      let ran := engine.invoke node session
      nodeWorks node session ++
        match ran.value.outcome with
        | .error _ => []
        | .ok () => nodesWorks rest ran.session

end

mutual

/-- What a step of a program does to the data. -/
def stepWorks : Step → Session backend → List Work
  | .run connection node, session =>
      nodeWorks engine node ((session.within []).entered
        ⟨engine.settings.dialect.connectScope, connection, none⟩)
  | .invoke node, session => nodeWorks engine node session
  | .perform operation node, session =>
      let ran := Program.operate engine operation node session
      match operation with
      | .transaction =>
          transactionWorks engine session ran.value.outcome (nodesWorks engine node.children)
      | _ => statementWorks ran.events
  | .command place strategy cap batch node, session =>
      statementWorks (Program.runCommand engine place strategy cap batch node session).events
  | .withConnection name connection body, session =>
      stepsWorks body (session.entered ⟨name, connection, none⟩)
  | .transaction name connection body, session =>
      let ran := Program.perform engine (.transaction name connection body) session
      scopeWorks (Scope.begun name connection session).value ran.value fun tx =>
        stepsWorks body (Scope.inside name connection tx session)
  | .attempt body, session => stepsWorks body session
  | .fail _, _ => []
  | .cancel, _ => []
  | .lookup _, _ => []

/-- What steps in order do to the data, up to the first failure. -/
def stepsWorks : List Step → Session backend → List Work
  | [], _ => []
  | step :: rest, session =>
      let ran := Program.perform engine step session
      stepWorks step session ++
        match ran.value with
        | .error _ => []
        | .ok () => stepsWorks rest ran.session

end

/-- The operation is a transaction. -/
def Opening (node : Node) : Prop :=
  Operation.parse engine.settings.dialect node.name = .ok .transaction

mutual

/-- The scopes of a step are on one client, and its transactions have one name. Runs with a context
of their own are not made inside a transaction. -/
def OnClient (name : String) (client : Nat) (inside : Bool) : Step → Prop
  | .run connection node =>
      inside = false ∧ connection = client ∧ engine.settings.dialect.connectScope ≠ name ∧
        (Opening engine node → engine.scope = name)
  | .invoke node => Opening engine node → engine.scope = name
  | .perform operation _ => operation = .transaction → engine.scope = name
  | .command .. => True
  | .withConnection registered connection body =>
      registered ≠ name ∧ connection = client ∧ AllOnClient name client inside body
  | .transaction registered connection body =>
      registered = name ∧ connection = client ∧ AllOnClient name client true body
  | .attempt body => AllOnClient name client inside body
  | .fail _ => True
  | .cancel => True
  | .lookup _ => True

def AllOnClient (name : String) (client : Nat) (inside : Bool) : List Step → Prop
  | [] => True
  | step :: rest => OnClient name client inside step ∧ AllOnClient name client inside rest

end

theorem statement_commands : statementLaw.Commands engine :=
  .of_statements fun _ _ => statementLaw_statements _ _

variable {engine}

/-- An operation that is no transaction sends statements. -/
theorem nodeWorks_statement {node : Node} (other : ¬Opening engine node)
    (session : Session backend) :
    nodeWorks engine node session = statementWorks (engine.invoke node session).events := by
  obtain ⟨word, value, children⟩ := node
  unfold nodeWorks
  split
  · exact absurd ‹_› other
  · rfl

theorem nodeWorks_transaction {node : Node} (opening : Opening engine node)
    (session : Session backend) :
    nodeWorks engine node session =
      transactionWorks engine session (engine.invoke node session).value.outcome
        (nodesWorks engine node.children) := by
  obtain ⟨word, value, children⟩ := node
  unfold nodeWorks
  split
  · rfl
  · exact absurd opening ‹_›

section Client

variable {name : String} {client : Nat}

/-- Statements are sent to the client of the scopes. -/
theorem target_placed {session : Session backend} {target : Target backend}
    (placed : ∀ frame ∈ session.frames, frame.connection = client)
    (found : engine.target session = .ok target) : target.connection = client := by
  have listed (registered : String) (frame : Frame backend)
      (looked : session.frame? registered = some frame) : frame.connection = client :=
    placed frame (List.mem_of_find?_eq_some looked)
  unfold Engine.target Session.lookup Session.connection? at found
  cases inner : session.frame? engine.settings.dialect.transactionScope with
  | some frame =>
    simp only [inner, Option.map_some, Except.ok.injEq] at found
    rw [← found]
    exact listed _ frame inner
  | none =>
    cases outer : session.frame? engine.settings.dialect.connectScope with
    | some frame =>
      simp only [inner, outer, Option.map_none, Option.map_some, Except.ok.injEq] at found
      rw [← found]
      exact listed _ frame outer
    | none => simp [inner, outer] at found

theorem inside_placed {session : Session backend} {tx : backend.Transaction}
    (placed : ∀ frame ∈ session.frames, frame.connection = client) :
    ∀ frame ∈ (Scope.inside name client tx session).frames, frame.connection = client :=
  List.forall_mem_cons.mpr ⟨rfl, placed⟩

/-- A transaction at the place of statements does its work as one scope. -/
theorem settles_inTransaction (named : engine.scope = name) (undone : α)
    {work : Action backend (Finished α)} {works : Session backend → List Work}
    {session : Session backend} (placed : ∀ frame ∈ session.frames, frame.connection = client)
    (inner : ∀ tx, let inside := Scope.inside name client tx session
      Settles name client inside (works inside) (work inside).events (work inside).session) :
    let ran := engine.inTransaction undone work session
    Settles name client session (transactionWorks engine session ran.value.outcome works) ran.events
      ran.session := by
  intro ran
  have run : ran = _ := engine.inTransaction_apply undone work session
  unfold transactionWorks
  cases found : engine.target session with
  | error error =>
    rw [found] at run
    rw [run]
    exact .idle session
  | ok target =>
    have same := target_placed placed found
    rw [found] at run
    subst named same
    rw [run]
    exact Settles.transaction undone inner

mutual

/-- Serving a node does its work, by induction on the tree. -/
theorem settles_invoke : ∀ (node : Node) (session : Session backend),
    (Opening engine node → engine.scope = name) →
    (∀ frame ∈ session.frames, frame.connection = client) →
    Settles name client session (nodeWorks engine node session) (engine.invoke node session).events
      (engine.invoke node session).session
  | ⟨word, value, children⟩, session, named, placed => by
    by_cases opening : Opening engine ⟨word, value, children⟩
    · rw [nodeWorks_transaction opening, engine.invoke_transaction opening]
      exact settles_inTransaction (named opening) children placed fun tx =>
        settles_invokeAll children _ (named opening) (inside_placed placed)
    · rw [nodeWorks_statement opening]
      exact .statements ((statement_commands engine).invoke opening session)

theorem settles_invokeAll : ∀ (nodes : List Node) (session : Session backend),
    engine.scope = name → (∀ frame ∈ session.frames, frame.connection = client) →
    Settles name client session (nodesWorks engine nodes session)
      (engine.invokeAll nodes session).events (engine.invokeAll nodes session).session
  | [], session, _, _ => .idle session
  | node :: rest, session, named, placed => by
    have first := settles_invoke node session (fun _ => named) placed
    cases outcome : (engine.invoke node session).value.outcome with
    | error error =>
      rw [engine.invokeAll_failed outcome]
      simpa only [nodesWorks, outcome, List.append_nil] using first
    | ok =>
      have others := settles_invokeAll rest (engine.invoke node session).session named
        (by rw [first.frames]; exact placed)
      rw [engine.invokeAll_succeeded outcome]
      simpa only [nodesWorks, outcome] using first.append others

end

/-- A run with a context of its own does the work of its node. -/
theorem settles_run {node : Node} {session : Session backend}
    (other : engine.settings.dialect.connectScope ≠ name)
    (named : Opening engine node → engine.scope = name)
    (free : session.parent? name client = none) :
    Settles name client session (stepWorks engine (.run client node) session)
      (Program.perform engine (.run client node) session).events
      (Program.perform engine (.run client node) session).session := by
  have served := settles_invoke node ((session.within []).entered
      ⟨engine.settings.dialect.connectScope, client, none⟩) named
    (List.forall_mem_cons.mpr ⟨rfl, by simp [Session.within]⟩)
  have alone := (served.entered other).alone free
  rw [Program.perform, Program.reported_apply, Engine.run, Action.withoutFrames,
    Scope.withConnection_apply, stepWorks]
  exact alone.reported _

/-- An operation on a node is a transaction over its children, or it sends statements. -/
theorem settles_operation {operation : Operation} {node : Node} {session : Session backend}
    (named : operation = .transaction → engine.scope = name)
    (placed : ∀ frame ∈ session.frames, frame.connection = client) :
    Settles name client session (stepWorks engine (.perform operation node) session)
      (Program.perform engine (.perform operation node) session).events
      (Program.perform engine (.perform operation node) session).session := by
  rw [Program.perform, Program.reported_apply]
  by_cases opening : operation = .transaction
  · subst opening
    have served := settles_inTransaction (named rfl) node.children placed fun tx =>
      settles_invokeAll node.children _ (named rfl) (inside_placed placed)
    rw [stepWorks, Program.operate, Engine.transaction, Action.bind_apply]
    simp only [Action.pure_apply, List.append_nil]
    exact served.reported _
  · have law := (statement_commands engine).operate opening node session
    rw [stepWorks]
    · exact (Settles.statements law).reported _
    · exact opening

/-- A scope without a transaction does the work of its body. -/
theorem settles_withConnection {registered : String} {body : List Step} {session : Session backend}
    (other : registered ≠ name)
    (worked : Settles name client (session.entered ⟨registered, client, none⟩)
      (stepsWorks engine body (session.entered ⟨registered, client, none⟩))
      (Program.performAll engine body (session.entered ⟨registered, client, none⟩)).events
      (Program.performAll engine body (session.entered ⟨registered, client, none⟩)).session) :
    Settles name client session (stepWorks engine (.withConnection registered client body) session)
      (Program.perform engine (.withConnection registered client body) session).events
      (Program.perform engine (.withConnection registered client body) session).session := by
  let start := session.entered ⟨registered, client, none⟩
  have closed : (Program.performAll engine body start).session.frames.tail = session.frames := by
    rw [worked.frames]
    rfl
  rw [Program.perform, Program.enclosed_apply, Scope.withConnection_apply, stepWorks]
  simp only
  rw [closed]
  exact (worked.entered other).reported _

/-- A scope with a transaction does the work of its body as one scope. -/
theorem settles_transaction {body : List Step} {session : Session backend}
    (worked : ∀ tx, let inside := Scope.inside name client tx session
      Settles name client inside (stepsWorks engine body inside)
        (Program.performAll engine body inside).events
        (Program.performAll engine body inside).session) :
    Settles name client session (stepWorks engine (.transaction name client body) session)
      (Program.perform engine (.transaction name client body) session).events
      (Program.perform engine (.transaction name client body) session).session := by
  let work : Action backend (Finished Unit) := do
    let outcome ← Program.performAll engine body
    return ⟨(), outcome⟩
  have inner (tx : backend.Transaction) : Settles name client (Scope.inside name client tx session)
      (stepsWorks engine body (Scope.inside name client tx session))
      (work (Scope.inside name client tx session)).events
      (work (Scope.inside name client tx session)).session := by
    simpa [work] using worked tx
  have done := Settles.transaction () inner
  rw [stepWorks, Program.perform, Program.enclosed_apply, Action.bind_apply]
  simp only [Action.pure_apply, List.append_nil]
  exact done.reported _

mutual

/-- A step does its work, by induction on the program. -/
theorem settles_perform : ∀ (step : Step) (inside : Bool) (session : Session backend),
    OnClient engine name client inside step →
    (∀ frame ∈ session.frames, frame.connection = client) →
    (inside = false → session.parent? name client = none) →
    Settles name client session (stepWorks engine step session)
      (Program.perform engine step session).events (Program.perform engine step session).session
  | .run connection node, inside, session, fits, placed, free => by
    obtain ⟨outside, here, other, named⟩ := fits
    subst connection
    exact settles_run other named (free outside)
  | .invoke node, inside, session, fits, placed, free => by
    rw [Program.perform, Program.reported_apply, stepWorks]
    exact (settles_invoke node session fits placed).reported _
  | .perform operation node, inside, session, fits, placed, free => settles_operation fits placed
  | .command place strategy cap batch node, inside, session, fits, placed, free => by
    have law := RunLaw.of_runCommand (fun _ => statementLaw_statements (engine.control "exec") _)
      place strategy cap batch node session
    rw [Program.perform, Program.reported_apply, stepWorks]
    exact (Settles.statements law).reported _
  | .withConnection registered connection body, inside, session, fits, placed, free => by
    obtain ⟨other, here, fits⟩ := fits
    subst connection
    refine settles_withConnection other (settles_performAll body inside _ fits ?_ ?_)
    · exact List.forall_mem_cons.mpr ⟨rfl, placed⟩
    · exact fun outside => (Settles.parent_entered other).trans (free outside)
  | .transaction registered connection body, inside, session, fits, placed, free => by
    obtain ⟨named, here, fits⟩ := fits
    subst registered connection
    exact settles_transaction fun tx =>
      settles_performAll body true _ fits (inside_placed placed) nofun
  | .attempt body, inside, session, fits, placed, free => by
    have worked := settles_performAll body inside session fits placed free
    rw [stepWorks, Program.perform, Action.bind_apply, Program.enclosed_apply]
    simp only [Action.pure_apply, List.append_nil]
    exact worked.reported _
  | .fail _, inside, session, fits, placed, free => .idle session
  | .cancel, inside, session, fits, placed, free => by
    have quiet : Settles name client session (statementWorks []) []
      { session with cancelled := true } := .statements ⟨rfl, ⟨rfl, rfl⟩, by simp⟩
    exact quiet
  | .lookup _, inside, session, fits, placed, free => (Settles.idle session).reported _

theorem settles_performAll : ∀ (steps : List Step) (inside : Bool) (session : Session backend),
    AllOnClient engine name client inside steps →
    (∀ frame ∈ session.frames, frame.connection = client) →
    (inside = false → session.parent? name client = none) →
    Settles name client session (stepsWorks engine steps session)
      (Program.performAll engine steps session).events
      (Program.performAll engine steps session).session
  | [], inside, session, fits, placed, free => .idle session
  | step :: rest, inside, session, fits, placed, free => by
    have first := settles_perform step inside session fits.1 placed free
    rw [Program.performAll, Action.bind_apply, stepsWorks]
    cases outcome : (Program.perform engine step session).value with
    | error error =>
      simp only [Action.pure_apply, List.append_nil]
      exact first
    | ok =>
      refine first.append (settles_performAll rest inside _ fits.2 ?_ ?_)
      · rw [first.frames]
        exact placed
      · intro outside
        rw [← free outside]
        simp only [Session.parent?, Session.lookup, Session.frame?, first.frames]

end

end Client

/-- For all programs with scopes of one name on one client, all data and all effects of statements: a
server that accepts control commands refuses none of those that are sent, no transaction is open at
the end, and the data is what the scopes that have succeeded leave. A caller may go on after the
failure of an inner scope, and statements may have effects when they fail. -/
theorem run_atomic (engine : Engine backend) {Data : Type} (effect : Nat → Data → Data) {name : String}
    {client : Nat} {steps : List Step} (fits : AllOnClient engine name client false steps)
    {server : Server} (accepts : server.failingControl = []) (cancelled : Bool) (data : Data) :
    let start : Session backend := ⟨server, [], cancelled⟩
    Database.replay effect ⟨⟨0, data⟩, none⟩ (Program.run engine steps start).events =
      some ⟨Progress.settleAll effect ⟨0, data⟩ (stepsWorks engine steps start), none⟩ := by
  intro start
  have performed := settles_performAll steps false start fits nofun fun _ => rfl
  let done := Program.performAll engine steps start
  have settles := performed.reported (.scope "end" done.session.depth done.value)
  have ready : Ready name client start (⟨⟨0, data⟩, none⟩ : Database Data) := ⟨accepts, nofun, rfl⟩
  obtain ⟨transaction, replayed, extension⟩ := settles.replayed effect _ ready
  cases extension
  rw [Program.run, Program.enclosed_apply]
  exact replayed

/-- The engine with the standard settings. -/
def standardEngine : Engine backend := ⟨.standard, Row.columns, false⟩

/-- A statement, and a scope inside its scope that fails after another statement, which the caller
goes on from. -/
def caughtFailure : List Step :=
  let statement := Step.perform .execute ⟨"pgsql.execute", .text "insert", []⟩
  [.withConnection "pgsql.connect" 0 [.transaction "pgsql.transaction" 0
    [statement, .attempt [.transaction "pgsql.transaction" 0 [statement, .fail "no"]]]]]

/-- The first statement of the two is kept. -/
theorem run_atomic_caughtFailure :
    AllOnClient standardEngine "pgsql.transaction" 0 false caughtFailure ∧
      Database.replay (fun position seen => seen ++ [position]) ⟨⟨0, []⟩, none⟩
        (Program.run standardEngine caughtFailure ⟨⟨[], [], 0⟩, [], false⟩).events =
          some ⟨⟨2, [0]⟩, none⟩ := by
  have fits : AllOnClient standardEngine "pgsql.transaction" 0 false caughtFailure := by
    simp [caughtFailure, AllOnClient, OnClient]
  refine ⟨fits, ?_⟩
  rw [run_atomic standardEngine _ fits rfl]
  rfl

end QueryTree.Postgres
