/-
This file proves that work which uses the open scopes through their operations alone leaves them as it
found them, that a scope is the innermost one for the work in it, and that its transaction is always
there to be ended after the work.
-/
import QueryTree.Proofs.Session.Brackets
import QueryTree.Proofs.Session.ScopeOutcome

namespace QueryTree

variable {backend : Backend} {α β : Type}

/-- Work that looks at the open scopes and opens scopes around such work, and does nothing else to
them. It may run statements and operations, go on with whatever they give, and pass failures on or
swallow them. -/
inductive Orderly : {α : Type} → Action backend α → Prop where
  | pure {α : Type} (value : α) : Orderly (pure value)
  | bind {α β : Type} {first : Action backend α} {next : α → Action backend β} :
      Orderly first → (∀ value, Orderly (next value)) → Orderly (first >>= next)
  | session : Orderly Action.session
  | execute (connection command transaction) :
      Orderly (Action.execute connection command transaction)
  | openCursor (connection command transaction) :
      Orderly (Action.openCursor connection command transaction)
  | nextRow (connection cursor) : Orderly (Action.nextRow connection cursor)
  | nextSet (connection cursor) : Orderly (Action.nextSet connection cursor)
  | log (entry) : Orderly (Action.log entry)
  | report (report) : Orderly (Action.report report)
  | cancel : Orderly Action.cancel
  | invoke (engine : Engine backend) (node) : Orderly (engine.invoke node)
  | run (engine : Engine backend) (connection node) : Orderly (engine.run connection node)
  | operate (engine : Engine backend) (operation node) :
      Orderly (Program.operate engine operation node)
  | command (engine : Engine backend) (place strategy cap batch node) :
      Orderly (Program.runCommand engine place strategy cap batch node)
  | withConnection {α : Type} {work : Action backend α} (name connection) :
      Orderly work → Orderly (Scope.withConnection name connection work)
  | transaction {α : Type} {work : Action backend (Finished α)} (name connection) (undone : α) :
      Orderly work → Orderly (Scope.transaction name connection undone work)

namespace Orderly

/-- The work that an engine does in the transaction of a node. -/
theorem invokeAll (engine : Engine backend) (nodes : List Node) :
    Orderly (engine.invokeAll nodes) := by
  induction nodes with
  | nil => exact .pure _
  | cons node rest ih =>
    unfold Engine.invokeAll
    refine .bind (.invoke engine node) fun first => ?_
    cases first.outcome with
    | error => exact .pure _
    | ok => exact .bind ih fun _ => .pure _

theorem reported (word : String) {operation : Action backend (Finished Node)}
    (orderly : Orderly operation) : Orderly (Program.reported word operation) :=
  .bind orderly fun _ => .bind (.report _) fun _ => .pure _

theorem enclosed (word : String) {body : Action backend (Except SqlError Unit)}
    (orderly : Orderly body) : Orderly (Program.enclosed word body) :=
  .bind orderly fun _ => .bind .session fun _ => .bind (.report _) fun _ => .pure _

mutual

/-- Every program is such work, by induction on its steps. -/
theorem perform (engine : Engine backend) : ∀ step, Orderly (Program.perform engine step)
  | .run connection node => reported _ (.run engine connection node)
  | .invoke node => reported _ (.invoke engine node)
  | .perform operation node => reported _ (.operate engine operation node)
  | .command place strategy cap batch node =>
    reported _ (.command engine place strategy cap batch node)
  | .withConnection name connection body =>
    enclosed _ (.withConnection name connection (performAll engine body))
  | .transaction name connection body =>
    enclosed _ (.bind
      (.transaction name connection () (.bind (performAll engine body) fun _ => .pure _))
      fun _ => .pure _)
  | .attempt body => .bind (enclosed _ (performAll engine body)) fun _ => .pure _
  | .fail _ => .pure _
  | .cancel => .bind .cancel fun _ => .pure _
  | .lookup _ => .bind .session fun _ => .bind (.report _) fun _ => .pure _

theorem performAll (engine : Engine backend) : ∀ steps, Orderly (Program.performAll engine steps)
  | [] => .pure _
  | step :: rest => by
    unfold Program.performAll
    refine .bind (perform engine step) fun outcome => ?_
    cases outcome with
    | error => exact .pure _
    | ok => exact performAll engine rest

end

/-- Such work leaves the open scopes as they were, and ends every transaction that it begins. -/
theorem brackets {work : Action backend α} (orderly : Orderly work) :
    (RunLaw.brackets backend).Of work := by
  induction orderly with
  | pure value => exact RunLaw.of_pure _ value
  | bind _ _ first next => exact RunLaw.of_bind _ first next
  | session => exact RunLaw.of_session _
  | execute => exact RunLaw.brackets_call fun _ _ => ⟨rfl, rfl⟩
  | openCursor => exact RunLaw.brackets_call fun _ _ => ⟨rfl, rfl⟩
  | nextRow => exact RunLaw.brackets_call fun _ _ => ⟨rfl, rfl⟩
  | nextSet => exact RunLaw.brackets_call fun _ _ => ⟨rfl, rfl⟩
  | log => exact fun _ => ⟨rfl, fun places => .once (.other places rfl rfl)⟩
  | report => exact fun _ => ⟨rfl, fun places => .once (.other places rfl rfl)⟩
  | cancel => exact fun _ => ⟨rfl, .nil⟩
  | invoke engine node => exact (RunLaw.brackets_performs engine).serves.invoke node
  | run engine connection node =>
    have performs := RunLaw.brackets_performs engine
    exact performs.alone (performs.connections _ connection (performs.serves.invoke node))
  | operate engine operation node =>
    exact (RunLaw.brackets_performs engine).operate operation node
  | command engine place strategy cap batch node =>
    have statements := (RunLaw.brackets_performs engine).statements
    exact RunLaw.of_runCommand (statements _) place strategy cap batch node
  | withConnection name connection _ kept =>
    exact RunLaw.brackets_withConnection name connection kept
  | transaction name connection undone _ kept =>
    exact RunLaw.brackets_transaction name connection undone kept

theorem frames {work : Action backend α} (orderly : Orderly work) :
    (RunLaw.frames backend).Of work :=
  fun session => (orderly.brackets session).1

end Orderly

/-- The same scopes are open in two sessions: each question about them has the same answer. -/
structure SameScopes (before after : Session backend) : Prop where
  frames : after.frames = before.frames
  depth : after.depth = before.depth
  active : ∀ name, after.isActive name = before.isActive name
  lookup : ∀ name, after.lookup name = before.lookup name
  connection : ∀ name, after.connection? name = before.connection? name

theorem SameScopes.of_frames {before after : Session backend}
    (same : after.frames = before.frames) : SameScopes before after where
  frames := same
  depth := by rw [Session.depth, same, Session.depth]
  active name := by rw [Session.isActive, same, Session.isActive]
  lookup name := by simp only [Session.lookup, Session.frame?, same]
  connection name := by simp only [Session.connection?, Session.frame?, same]

/-- A scope is the innermost one in a session, inside those that are open in another one. -/
structure Innermost (frame : Frame backend) (outer session : Session backend) : Prop where
  frames : session.frames = frame :: outer.frames
  depth : session.depth = outer.depth + 1
  active : session.isActive frame.name = true
  lookup : session.lookup frame.name = some ⟨frame.connection, frame.transaction⟩
  connection : session.connection? frame.name = some frame.connection

theorem Innermost.of_frames {frame : Frame backend} {outer session : Session backend}
    (opened : session.frames = frame :: outer.frames) : Innermost frame outer session where
  frames := opened
  depth := by rw [Session.depth, opened, List.length_cons, Session.depth]
  active := by simp [Session.isActive, opened]
  lookup := by simp [Session.lookup, Session.frame?, opened]
  connection := by simp [Session.connection?, Session.frame?, opened]

/-- What work makes of the open scopes, and what a connection registered around it does. -/
structure RestoresScopes (work : Action backend α) : Prop where
  /-- The same scopes are open after the work as before it. -/
  restored : ∀ session, SameScopes session (work session).session
  /-- Every transaction that is begun in the work is ended in it once, on its connection, and after all
  that is begun inside it. -/
  ended : ∀ session, Brackets [] (work session).events [] ∧
    (Event.closed (work session).events).Perm (Event.opened (work session).events)
  /-- A connection registered around the work is the innermost scope when the work starts and after
  each part of it, and the scopes are the same afterwards. -/
  connected : ∀ name connection session,
    let frame : Frame backend := ⟨name, connection, none⟩
    let start := session.entered frame
    let ran := Scope.withConnection name connection work session
    ran.value = (work start).value ∧ ran.events = (work start).events ∧
      Innermost frame session start ∧
      (∀ {β : Type} (part : Action backend β), Orderly part →
        Innermost frame session (part start).session) ∧
      SameScopes session ran.session

/-- What a transaction around work does to the open scopes. -/
structure EndsTransaction (work : Action backend (Finished α)) : Prop where
  /-- The same scopes are open after the transaction as before it, whatever its outcome. -/
  restored : ∀ name connection undone session,
    SameScopes session (Scope.transaction name connection undone work session).session
  /-- A transaction that has been begun is the innermost scope when the work starts and after each part
  of it. Closing the scope finds the transaction, and one call ends it. -/
  begun : ∀ name connection undone session tx,
    (Scope.begun name connection session).value = .ok tx →
      let frame : Frame backend := ⟨name, connection, some tx⟩
      let start := Scope.inside name connection tx session
      let worked := work start
      Innermost frame session start ∧
        (∀ {β : Type} (part : Action backend β), Orderly part →
          Innermost frame session (part start).session) ∧
        (Action.popFrame worked.session).value = some frame ∧
        ∃ ending after, (Scope.transaction name connection undone work session).events =
            (Scope.begun name connection session).events ++
              .log (.begun name (session.parent? name connection).isSome) ::
                (worked.events ++ ending :: after) ∧
          ending.closed? = some ⟨connection, some tx⟩ ∧ Event.calls after = []

namespace Orderly

theorem restoresScopes {work : Action backend α} (orderly : Orderly work) : RestoresScopes work where
  restored session := .of_frames (orderly.frames session)
  ended session := by
    have run := (orderly.brackets session).2 []
    exact ⟨run, by simpa using run.perm⟩
  connected name connection session := by
    have closes := Scope.withConnection_frames name connection orderly.frames session
    rw [Scope.withConnection_apply] at closes ⊢
    exact ⟨rfl, rfl, .of_frames rfl, fun part inner => .of_frames (inner.frames _), .of_frames closes⟩

theorem endsTransaction {work : Action backend (Finished α)} (orderly : Orderly work) :
    EndsTransaction work where
  restored name connection undone session :=
    .of_frames (Scope.transaction_frames name connection undone orderly.frames session)
  begun name connection undone session tx started := by
    have kept := orderly.frames (Scope.inside name connection tx session)
    refine ⟨.of_frames rfl, fun part inner => .of_frames (inner.frames _), ?_, ?_⟩
    · exact congrArg List.head? kept
    · obtain ⟨ending, after, ends, closes, quiet⟩ := Scope.finish_ending name connection
        (session.parent? name connection).isSome tx
        (work (Scope.inside name connection tx session)).value.outcome
        ((work (Scope.inside name connection tx session)).session.within session.frames)
      refine ⟨ending, after, ?_, closes, quiet⟩
      rw [Scope.transaction_begun started undone work kept, ends]

end Orderly

/-- Programs, and what an engine does in the transaction of a node, are orderly work, and every scope in
them is around such work. Orderly work, with whatever outcome, leaves the open scopes as they were. A
scope around it is the innermost one all along, and its transaction is ended by one call. -/
theorem scopes_restored (engine : Engine backend) :
    (∀ steps, Orderly (Program.run engine steps) ∧ Orderly (Program.performAll engine steps)) ∧
      (∀ nodes, Orderly (engine.invokeAll nodes)) ∧
      (∀ {α : Type} (work : Action backend α), Orderly work → RestoresScopes work) ∧
      ∀ {α : Type} (work : Action backend (Finished α)), Orderly work → EndsTransaction work := by
  refine ⟨fun steps => ?_, .invokeAll engine, fun _ orderly => orderly.restoresScopes,
    fun _ orderly => orderly.endsTransaction⟩
  have body := Orderly.performAll engine steps
  exact ⟨.enclosed "end" body, body⟩

/-- A transaction whose work fails, inside one that goes on after the failure. -/
def failureInside : List Step :=
  [.transaction "pgsql.transaction" 0 [.attempt [.transaction "pgsql.transaction" 0 [.fail "stop"]]]]

/-- A session on a connection on which every commit fails. -/
def commitsFail : Session Scripted.backend :=
  ⟨[⟨{ Scripted.emptyScript with failsCommit := true }, 0, 0⟩], [⟨"pgsql.connect", 0, none⟩], false⟩

/-- The failed work is rolled back and the commit around it fails; both transactions are ended, and the
open scopes are the same. -/
theorem scopes_restored_failedCommit :
    let ran := Program.run Engine.scripted failureInside commitsFail
    ran.value = .error (.execution (.stated "connection lost during commit")) ∧
      Event.opened ran.events = [⟨0, some ⟨1, false⟩⟩, ⟨0, some ⟨2, true⟩⟩] ∧
      (Event.closed ran.events).Perm (Event.opened ran.events) ∧
      SameScopes commitsFail ran.session := by
  have scopes := scopes_restored Engine.scripted
  have restores := scopes.2.2.1 _ (scopes.1 failureInside).1
  exact ⟨rfl, rfl, (restores.ended commitsFail).2, restores.restored commitsFail⟩

end QueryTree
