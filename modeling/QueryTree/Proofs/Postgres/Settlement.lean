/-
This file follows the data through scopes and statements on a PostgreSQL client: a scope that
succeeds keeps what is done inside it, a scope that fails restores the data, and the server refuses
no command.
-/
import QueryTree.Proofs.Postgres.Storage
import QueryTree.Proofs.Session.Servings

namespace QueryTree.Postgres

variable {Data α : Type}

theorem savepointName_injective {first second : Nat}
    (same : savepointName first = savepointName second) : first = second := by
  simp only [savepointName, String.append_right_inj] at same
  exact Text.toDigits_injective (String.ofList_injective same)

namespace Server

/-- A server that fails no command accepts every one. -/
theorem controlOutcome_ok {server : Server} (accepts : server.failingControl = []) (text : String) :
    server.controlOutcome text = .ok () := by
  simp [controlOutcome, accepts]

end Server

/-- A beginning opens a transaction in the data, or a savepoint with the next name inside one. The
last argument counts the names used after it. -/
inductive Opens (number : Nat) (data : Data) :
    Option (OpenTransaction Data) → backend.Transaction → OpenTransaction Data → Nat → Prop where
  | transaction : Opens number data none (⟨none⟩ : Transaction) ⟨data, []⟩ number
  | savepoint (outer : OpenTransaction Data) :
      Opens number data (some outer) (⟨some (savepointName number)⟩ : Transaction)
        { outer with savepoints := (savepointName number, data) :: outer.savepoints } (number + 1)

namespace Opens

variable {number used : Nat} {data : Data} {outer : Option (OpenTransaction Data)} {tx : backend.Transaction}
  {opened : OpenTransaction Data}

/-- Later savepoints have other names, so that the first one of a name is the one set with it. -/
theorem savepointsFrom_fresh {added : List (String × Data)}
    (fresh : ∀ savepoint ∈ added, ∃ later, number < later ∧ savepoint.1 = savepointName later)
    (outer : List (String × Data)) :
    Database.savepointsFrom (savepointName number)
        (added ++ (savepointName number, data) :: outer) =
      (savepointName number, data) :: outer := by
  induction added with
  | nil => simp [Database.savepointsFrom]
  | cons savepoint rest ih =>
    obtain ⟨later, behind, named⟩ := fresh savepoint List.mem_cons_self
    have other : savepoint.1 ≠ savepointName number := by
      rw [named]
      intro same
      have := savepointName_injective same
      omega
    rw [List.cons_append, Database.savepointsFrom, List.dropWhile_cons_of_pos (by simpa using other)]
    exact ih fun other member => fresh other (List.mem_cons_of_mem savepoint member)

/-- The end with changes closes what was opened and all savepoints set since then. -/
theorem commit (opens : Opens number data outer tx opened used) {added : List (String × Data)}
    (fresh : ∀ savepoint ∈ added, ∃ later, used ≤ later ∧ savepoint.1 = savepointName later)
    (progress : Progress Data) :
    Database.receive ⟨progress, some { opened with savepoints := added ++ opened.savepoints }⟩
      (.query (Transaction.commitText tx)) = some ⟨progress, outer⟩ := by
  cases opens with
  | transaction => rfl
  | savepoint outer =>
    refine (Database.receive_release _ _).trans ?_
    simp only [Database.control]
    rw [savepointsFrom_fresh fresh]

/-- The end without changes restores the data. The savepoint of a scope stays set. -/
theorem rollback (opens : Opens number data outer tx opened used) {added : List (String × Data)}
    (fresh : ∀ savepoint ∈ added, ∃ later, used ≤ later ∧ savepoint.1 = savepointName later)
    (progress : Progress Data) :
    Database.receive ⟨progress, some { opened with savepoints := added ++ opened.savepoints }⟩
      (.query (Transaction.rollbackText tx)) =
        some ⟨{ progress with data := data }, outer.map fun _ => opened⟩ := by
  cases opens with
  | transaction => rfl
  | savepoint outer =>
    refine (Database.receive_rollbackTo _ _).trans ?_
    simp only [Database.control]
    rw [savepointsFrom_fresh fresh]
    rfl

end Opens

/-- The session goes with the data: the server accepts every command, the scopes are on the client,
and a transaction is open in the data when one is registered under the name. -/
structure Ready (name : String) (client : Nat) (session : Session backend)
    (database : Database Data) : Prop where
  accepts : session.state.failingControl = []
  placed : ∀ frame ∈ session.frames, frame.connection = client
  level : (session.parent? name client).isSome = database.transaction.isSome

/-- The transaction is the one of before, with new savepoints whose names are used up in between. -/
inductive Extends (low high : Nat) :
    Option (OpenTransaction Data) → Option (OpenTransaction Data) → Prop where
  | none : Extends low high none none
  | some (opened : OpenTransaction Data) (added : List (String × Data)) :
      (∀ savepoint ∈ added, ∃ number, low ≤ number ∧ number < high ∧
        savepoint.1 = savepointName number) →
      Extends low high (some opened)
        (some { opened with savepoints := added ++ opened.savepoints })

namespace Extends

variable {low middle high : Nat} {before between after : Option (OpenTransaction Data)}

theorem refl (transaction : Option (OpenTransaction Data)) : Extends low high transaction transaction := by
  cases transaction with
  | none => exact .none
  | some opened => exact .some opened [] (by simp)

theorem isSome (extension : Extends low high before after) : after.isSome = before.isSome := by
  cases extension <;> rfl

theorem trans (first : Extends low middle before between) (second : Extends middle high between after)
    (lower : low ≤ middle) (upper : middle ≤ high) : Extends low high before after := by
  cases first with
  | none =>
    cases second
    exact .none
  | some opened earlier fresh =>
    cases second with
    | some _ later fresher =>
      rw [← List.append_assoc]
      refine .some opened (later ++ earlier) (List.forall_mem_append.mpr ⟨?_, ?_⟩)
      · intro savepoint member
        obtain ⟨number, least, most, named⟩ := fresher savepoint member
        exact ⟨number, by omega, most, named⟩
      · intro savepoint member
        obtain ⟨number, least, most, named⟩ := fresh savepoint member
        exact ⟨number, least, by omega, named⟩

end Extends

/-- A savepoint that stays set has used up its name. -/
theorem Opens.extends {number used high : Nat} {data : Data} {outer : Option (OpenTransaction Data)}
    {tx : backend.Transaction} {opened : OpenTransaction Data}
    (opens : Opens number data outer tx opened used) (upper : used ≤ high) :
    Extends number high outer (outer.map fun _ => opened) := by
  cases opens with
  | transaction => exact .none
  | savepoint outer =>
    refine .some outer [(savepointName number, data)] fun savepoint member => ?_
    rw [List.mem_singleton.mp member]
    exact ⟨number, Nat.le_refl _, upper, rfl⟩

/-- A run in a session does the work to the data, by events that the server accepts, and leaves the
open scopes as they were. -/
structure Settles (name : String) (client : Nat) (session : Session backend) (works : List Work)
    (events : List (Event backend)) (final : Session backend) : Prop where
  frames : final.frames = session.frames
  accepts : final.state.failingControl = session.state.failingControl
  counted : session.state.savepoints ≤ final.state.savepoints
  replayed : ∀ {Data : Type} (effect : Nat → Data → Data) (database : Database Data),
    Ready name client session database →
    ∃ transaction, database.replay effect events =
        some ⟨database.progress.settleAll effect works, transaction⟩ ∧
      Extends session.state.savepoints final.state.savepoints database.transaction transaction

namespace Settles

variable {name : String} {client : Nat} {start middle final : Session backend}
  {first second : List Work} {before after : List (Event backend)}

theorem idle (session : Session backend) : Settles name client session [] [] session where
  frames := rfl
  accepts := rfl
  counted := Nat.le_refl _
  replayed _ database _ := ⟨database.transaction, rfl, .refl _⟩

/-- The session is still right for the data after a run. -/
theorem ready {works : List Work} {events : List (Event backend)}
    (settles : Settles name client start works events final) {database : Database Data}
    (ready : Ready name client start database) {progress : Progress Data}
    {transaction : Option (OpenTransaction Data)}
    (extension : Extends start.state.savepoints final.state.savepoints database.transaction
      transaction) : Ready name client final ⟨progress, transaction⟩ where
  accepts := settles.accepts.trans ready.accepts
  placed := by
    rw [settles.frames]
    exact ready.placed
  level := by
    have same : final.parent? name client = start.parent? name client := by
      simp only [Session.parent?, Session.lookup, Session.frame?, settles.frames]
    rw [same, ready.level, extension.isSome]

/-- Runs in sequence do their work in sequence. -/
theorem append (run : Settles name client start first before middle)
    (next : Settles name client middle second after final) :
    Settles name client start (first ++ second) (before ++ after) final where
  frames := next.frames.trans run.frames
  accepts := next.accepts.trans run.accepts
  counted := Nat.le_trans run.counted next.counted
  replayed effect database ready := by
    obtain ⟨between, replayed, extension⟩ := run.replayed effect database ready
    obtain ⟨transaction, replayedAfter, extensionAfter⟩ :=
      next.replayed effect _ (run.ready ready extension)
    refine ⟨transaction, ?_, extension.trans extensionAfter run.counted next.counted⟩
    rw [Database.replay_append, replayed, Option.bind_some, replayedAfter,
      Progress.settleAll_append]

/-- Events that are no calls do nothing to the data. -/
theorem reported {works : List Work} {events : List (Event backend)}
    (settles : Settles name client start works events final) (report : Report) :
    Settles name client start works (events ++ [.report report]) final := by
  refine { settles with replayed := fun effect database ready => ?_ }
  obtain ⟨transaction, replayed, extension⟩ := settles.replayed effect database ready
  exact ⟨transaction, by simp [replayed, Database.serve], extension⟩

/-- Scopes of other names do not matter to the scopes of a name. -/
theorem parent_entered {registered : String} {transaction : Option backend.Transaction}
    (other : registered ≠ name) :
    (start.entered ⟨registered, client, transaction⟩).parent? name client =
      start.parent? name client := by
  simp [Session.parent?, Session.lookup, Session.frame?, Session.entered, other]

/-- A scope of another name on the client changes nothing. -/
theorem entered {works : List Work} {events : List (Event backend)} {registered : String}
    {transaction : Option backend.Transaction} (other : registered ≠ name)
    (settles : Settles name client (start.entered ⟨registered, client, transaction⟩) works events
      final) :
    Settles name client start works events (final.within start.frames) where
  frames := rfl
  accepts := settles.accepts
  counted := settles.counted
  replayed effect database ready := by
    refine settles.replayed effect database ⟨ready.accepts, ?_, ?_⟩
    · exact List.forall_mem_cons.mpr ⟨rfl, ready.placed⟩
    · rw [← ready.level, parent_entered other]

end Settles

/-- A run in a context of its own needs that no transaction is open. -/
theorem Settles.alone {name : String} {client : Nat} {start final : Session backend}
    {works : List Work} {events : List (Event backend)}
    (free : start.parent? name client = none)
    (settles : Settles name client (start.within []) works events final) :
    Settles name client start works events (final.within start.frames) where
  frames := rfl
  accepts := settles.accepts
  counted := settles.counted
  replayed effect database ready := by
    refine settles.replayed effect database ⟨ready.accepts, by simp [Session.within], ?_⟩
    rw [← ready.level, free]
    rfl

/-- What a scope does to the data, when its transaction has been begun. -/
def scopeWorks (begun : Except SqlError backend.Transaction) (outcome : Except SqlError Unit)
    (inside : backend.Transaction → List Work) : List Work :=
  match begun with
  | .error _ => []
  | .ok tx => [.scope outcome.isOk (inside tx)]

/-- A beginning opens a transaction, or a savepoint where one is open. -/
theorem replay_begun {name : String} {client : Nat} {session : Session backend}
    {database : Database Data} (effect : Nat → Data → Data)
    (ready : Ready name client session database) :
    let begun := Scope.begun name client session
    ∃ tx opened, begun.value = .ok tx ∧
      database.replay effect begun.events = some ⟨database.progress, some opened⟩ ∧
      begun.session.state.failingControl = [] ∧
      Opens session.state.savepoints database.progress.data database.transaction tx opened
        begun.session.state.savepoints := by
  intro begun
  have level := ready.level
  obtain ⟨progress, transaction⟩ := database
  cases parent : session.parent? name client with
  | none =>
    rw [parent] at level
    cases transaction with
    | some opened => cases level
    | none =>
      have run : begun = Action.begin client none session := by rw [← parent]; rfl
      rw [run]
      refine ⟨(⟨none⟩ : Transaction), ⟨progress.data, []⟩, ?_, rfl, ready.accepts, .transaction⟩
      exact congrArg (Except.map _) (Server.controlOutcome_ok ready.accepts _)
  | some outside =>
    rw [parent] at level
    cases transaction with
    | none => cases level
    | some outer =>
      have run : begun = Action.begin client (some outside) session := by rw [← parent]; rfl
      rw [run]
      refine ⟨(⟨some (savepointName session.state.savepoints)⟩ : Transaction), _, ?_, ?_, ready.accepts,
        .savepoint outer⟩
      · exact congrArg (Except.map _) (Server.controlOutcome_ok (by exact ready.accepts) _)
      · change (Option.bind (Database.receive ⟨progress, some outer⟩ (.query
          ("SAVEPOINT " ++ savepointName session.state.savepoints))) some).bind some = _
        simp [Database.receive, Database.control]

theorem begun_accepts (name : String) (client : Nat) (session : Session backend) :
    (Scope.begun name client session).session.state.failingControl =
      session.state.failingControl := by
  unfold Scope.begun
  cases session.parent? name client <;> rfl

theorem begun_counted (name : String) (client : Nat) (session : Session backend) :
    session.state.savepoints ≤ (Scope.begun name client session).session.state.savepoints := by
  unfold Scope.begun
  cases session.parent? name client with
  | none => exact Nat.le_refl _
  | some => exact Nat.le_succ _

theorem finish_state (name : String) (client : Nat) (savepoint : Bool) (tx : backend.Transaction)
    (outcome : Except SqlError Unit) (session : Session backend) :
    (Scope.finish name client savepoint tx outcome session).session.state = session.state := by
  cases outcome with
  | ok => rw [Scope.finish_ok]; rfl
  | error error => rw [Scope.finish_error]; rfl

/-- The end of a scope keeps or restores the data by the outcome of its work, which stays. -/
theorem replay_finish (name : String) (client : Nat) (savepoint : Bool) {number used : Nat}
    {data : Data} {outer : Option (OpenTransaction Data)} {tx : backend.Transaction}
    {opened : OpenTransaction Data} (effect : Nat → Data → Data)
    (opens : Opens number data outer tx opened used) {added : List (String × Data)}
    (fresh : ∀ savepoint ∈ added, ∃ later, used ≤ later ∧ savepoint.1 = savepointName later)
    (progress : Progress Data) (session : Session backend)
    (accepts : session.state.failingControl = []) (outcome : Except SqlError Unit) :
    let ended := Scope.finish name client savepoint tx outcome session
    let before : Database Data :=
      ⟨progress, some { opened with savepoints := added ++ opened.savepoints }⟩
    ended.value = outcome ∧ before.replay effect ended.events = some (
      if outcome.isOk then ⟨progress, outer⟩
      else ⟨{ progress with data := data }, outer.map fun _ => opened⟩) := by
  intro ended before
  cases outcome with
  | ok done =>
    have answer : (Action.commit client tx session).value = .ok () :=
      Server.controlOutcome_ok accepts _
    have run : ended = _ := Scope.finish_ok name client savepoint tx session
    rw [run, answer]
    refine ⟨rfl, ?_⟩
    have received := opens.commit fresh progress
    change (((Database.receive before (.query (Transaction.commitText tx))).bind some).bind fun next =>
      Database.replay effect next [.log (.committed name savepoint)]) = _
    rw [received]
    rfl
  | error error =>
    have run : ended = _ := Scope.finish_error name client savepoint tx error session
    rw [run]
    refine ⟨rfl, ?_⟩
    have received := opens.rollback fresh progress
    change (((Database.receive before (.query (Transaction.rollbackText tx))).bind some).bind fun next =>
      Database.replay effect next [.log _]) = _
    rw [received]
    rfl

/-- A scope leaves what is done inside it when it succeeds, and nothing when it fails. -/
theorem Settles.scope {name : String} {client : Nat} {session after : Session backend}
    {tx : backend.Transaction} {works : List Work} {events : List (Event backend)}
    (started : (Scope.begun name client session).value = .ok tx)
    (inner : Settles name client (Scope.inside name client tx session) works events after)
    (savepoint : Bool) (outcome : Except SqlError Unit) :
    let ended := Scope.finish name client savepoint tx outcome (after.within session.frames)
    Settles name client session [.scope ended.value.isOk works]
      ((Scope.begun name client session).events ++
        .log (.begun name savepoint) :: (events ++ ended.events)) ended.session := by
  intro ended
  have state : ended.session.state = after.state := finish_state ..
  refine ⟨Scope.finish_frames .., ?_, ?_, fun effect database ready => ?_⟩
  · rw [state, inner.accepts]
    exact begun_accepts ..
  · rw [state]
    exact Nat.le_trans (begun_counted ..) inner.counted
  · obtain ⟨given, opened, granted, begins, accepts, opens⟩ := replay_begun effect ready
    cases started.symm.trans granted
    have inside : Ready name client (Scope.inside name client tx session)
        ⟨database.progress, some opened⟩ := by
      refine ⟨accepts, List.forall_mem_cons.mpr ⟨rfl, ready.placed⟩, ?_⟩
      simp [Session.parent?, Session.lookup, Session.frame?]
    obtain ⟨transaction, replayed, extension⟩ := inner.replayed effect _ inside
    cases extension with
    | some _ added fresh =>
      have later : ∀ savepoint ∈ added, ∃ number,
          (Scope.begun name client session).session.state.savepoints ≤ number ∧
            savepoint.1 = savepointName number := by
        intro savepoint member
        obtain ⟨number, least, _, named⟩ := fresh savepoint member
        exact ⟨number, least, named⟩
      obtain ⟨kept, replayedEnd⟩ := replay_finish name client savepoint effect opens later
        (database.progress.settleAll effect works) (after.within session.frames)
        (inner.accepts.trans accepts) outcome
      rw [Database.replay_append, begins, Option.bind_some, Database.replay_cons, Database.serve,
        Option.bind_some, Database.replay_append, replayed, Option.bind_some, replayedEnd]
      have value : ended.value = outcome := kept
      rw [value, state]
      cases outcome with
      | ok => exact ⟨database.transaction, rfl, .refl _⟩
      | error =>
        exact ⟨_, rfl, opens.extends inner.counted⟩

/-- A scope does its work when it can be begun. -/
theorem Settles.transaction {name : String} {client : Nat} (undone : α)
    {work : Action backend (Finished α)} {session : Session backend}
    {works : backend.Transaction → List Work}
    (inner : ∀ tx, Settles name client (Scope.inside name client tx session) (works tx)
      (work (Scope.inside name client tx session)).events
      (work (Scope.inside name client tx session)).session) :
    let ran := Scope.transaction name client undone work session
    Settles name client session
      (scopeWorks (Scope.begun name client session).value ran.value.outcome works) ran.events
      ran.session := by
  intro ran
  cases started : (Scope.begun name client session).value with
  | error error =>
    have run : ran = _ := Scope.transaction_refused started undone work
    rw [run]
    refine ⟨rfl, begun_accepts .., begun_counted .., fun effect database ready => ?_⟩
    obtain ⟨tx, _, granted, _⟩ := replay_begun effect ready
    exact absurd (started.symm.trans granted) (by simp)
  | ok tx =>
    have run : ran = _ := Scope.transaction_begun started undone work (inner tx).frames
    rw [run]
    exact (inner tx).scope started ..

/-- The server after statements fails the same commands and has named as many savepoints. -/
def Server.Steady (before after : Server) : Prop :=
  after.failingControl = before.failingControl ∧ after.savepoints = before.savepoints

theorem Server.steady_next (server : Server) : server.Steady server.next.2 := ⟨rfl, rfl⟩

theorem runPrepared_steady (command : Command) (server : Server) (use : Answer → Except SqlError α) :
    server.Steady (Client.runPrepared command server use).state := by
  unfold Client.runPrepared Client.sending
  split
  · dsimp only
    split
    · exact server.steady_next
    · split
      · exact server.steady_next
      · split
        · exact server.steady_next
        · split
          · exact server.steady_next
          · exact server.steady_next
  · exact ⟨rfl, rfl⟩

theorem runText_steady (text : String) (server : Server) :
    server.Steady (Client.runText text server).state := by
  unfold Client.runText Client.sending
  split
  · split
    · exact ⟨rfl, rfl⟩
    · exact server.steady_next
  · exact ⟨rfl, rfl⟩

theorem openCursor_steady (command : Command) (server : Server) :
    server.Steady (Connection.openCursor command server).state := by
  unfold Connection.openCursor
  split
  · unfold Connection.openBatch
    split
    · exact ⟨rfl, rfl⟩
    · exact runText_steady command.text server
  · exact runPrepared_steady command server Client.streamOf

/-- The event begins or ends no transaction. -/
def IsStatement : Event backend → Prop
  | .call _ (.begin ..) _ => False
  | .call _ (.commit ..) _ => False
  | .call _ (.rollback ..) _ => False
  | _ => True

/-- What events other than those of scopes do to the data. -/
def statementWorks (events : List (Event backend)) : List Work :=
  events.filterMap fun
    | .call _ (.execute ..) _ => some .statement
    | .call _ (.openCursor ..) _ => some .statement
    | _ => none

/-- A run of statements: it begins and ends no transactions. -/
def statementLaw : RunLaw backend where
  holds start events finish :=
    finish.frames = start.frames ∧ start.state.Steady finish.state ∧ ∀ event ∈ events, IsStatement event
  idle _ := ⟨rfl, ⟨rfl, rfl⟩, by simp⟩
  sequence first second :=
    ⟨second.1.trans first.1,
      ⟨second.2.1.1.trans first.2.1.1, second.2.1.2.trans first.2.1.2⟩,
      List.forall_mem_append.mpr ⟨first.2.2, second.2.2⟩⟩

theorem statementLaw_call {connection : Nat}
    {serve : Server → Served Server Seen α} {describe : α → Call backend}
    (steady : ∀ server : Server, server.Steady (serve server).state)
    (statement : ∀ answer seen, IsStatement (.call connection (describe answer) seen)) :
    statementLaw.Of (Action.call connection serve describe : Action backend α) := by
  intro session
  refine ⟨rfl, steady session.state, fun event member => ?_⟩
  rw [List.mem_singleton.mp member]
  exact statement _ _

theorem statementLaw_statements (control : Control) (target : Target backend) :
    statementLaw.Statements control target where
  executes command := statementLaw.of_await (statementLaw_call
    (fun server => runPrepared_steady command server Client.countOf) fun _ _ => trivial)
  opens command := statementLaw.of_await (statementLaw_call (openCursor_steady command) fun _ _ => trivial)
  fetches _ := statementLaw.of_await (statementLaw_call (fun _ => ⟨rfl, rfl⟩) fun _ _ => trivial)
  advances _ := statementLaw.of_await (statementLaw_call (fun _ => ⟨rfl, rfl⟩) fun _ _ => trivial)
  logs _ _ _ := ⟨rfl, ⟨rfl, rfl⟩, by simp [Action.log, IsStatement]⟩

/-- Every statement has its effect, and the transaction that is open stays as it is. -/
theorem replay_statements (effect : Nat → Data → Data) {events : List (Event backend)}
    (statements : ∀ event ∈ events, IsStatement event) (database : Database Data) :
    database.replay effect events = some { database with
      progress := database.progress.settleAll effect (statementWorks events) } := by
  induction events generalizing database with
  | nil => rfl
  | cons event rest ih =>
    have later := ih fun other member => statements other (List.mem_cons_of_mem event member)
    have first := statements event List.mem_cons_self
    rw [Database.replay_cons]
    rcases event with ⟨connection, made, seen⟩ | entry | report
    · cases made with
      | begin => exact absurd first id
      | commit => exact absurd first id
      | rollback => exact absurd first id
      | execute => exact later _
      | openCursor => exact later _
      | nextRow => exact later _
      | nextSet => exact later _
    · exact later _
    · exact later _

theorem Settles.statements {name : String} {client : Nat} {start final : Session backend}
    {events : List (Event backend)} (law : statementLaw.holds start events final) :
    Settles name client start (statementWorks events) events final where
  frames := law.1
  accepts := law.2.1.1
  counted := Nat.le_of_eq law.2.1.2.symm
  replayed effect database _ :=
    ⟨database.transaction, replay_statements effect law.2.2 database, .refl _⟩

end QueryTree.Postgres
