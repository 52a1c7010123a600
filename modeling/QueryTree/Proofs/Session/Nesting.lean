/-
This file proves that transactions are begun and ended like brackets, and that every statement is
sent to the innermost transaction that is open.
-/
import QueryTree.Proofs.Session.Servings

namespace QueryTree

open scoped List

variable {backend : Backend} {α : Type}

namespace Event

/-- The transaction that an event begins, with its connection. -/
def opened? : Event backend → Option (Target backend)
  | call connection (.begin _ (.ok tx)) _ => some ⟨connection, some tx⟩
  | _ => none

/-- The transaction that an event ends, with its connection. -/
def closed? : Event backend → Option (Target backend)
  | call connection (.commit tx _) _ => some ⟨connection, some tx⟩
  | call connection (.rollback tx _) _ => some ⟨connection, some tx⟩
  | _ => none

/-- The transactions that are begun, in order. -/
def opened (events : List (Event backend)) : List (Target backend) := events.filterMap opened?

/-- The transactions that are ended, in order. -/
def closed (events : List (Event backend)) : List (Target backend) := events.filterMap closed?

theorem opened_cons (event : Event backend) (rest : List (Event backend)) :
    opened (event :: rest) = event.opened?.toList ++ opened rest := by
  cases equal : event.opened? <;> simp [opened, equal]

theorem closed_cons (event : Event backend) (rest : List (Event backend)) :
    closed (event :: rest) = event.closed?.toList ++ closed rest := by
  cases equal : event.closed? <;> simp [closed, equal]

/-- No event both begins a transaction and ends one. -/
theorem opened?_or_closed? (event : Event backend) : event.opened? = none ∨ event.closed? = none := by
  rcases event with ⟨connection, made, seen⟩ | entry | report
  · cases made with
    | begin => exact .inr rfl
    | _ => exact .inl rfl
  · exact .inl rfl
  · exact .inl rfl

/-- What an event begins and ends is counted with what the events after it begin and end. -/
theorem perm_cons {before middle after : List (Target backend)} {event : Event backend}
    {rest : List (Event backend)}
    (step : (event.closed?.toList ++ middle).Perm (event.opened?.toList ++ before))
    (run : (closed rest ++ after).Perm (opened rest ++ middle)) :
    (closed (event :: rest) ++ after).Perm (opened (event :: rest) ++ before) := by
  rw [closed_cons, opened_cons, List.append_assoc, List.append_assoc]
  calc
    event.closed?.toList ++ (closed rest ++ after)
    _ ~ event.closed?.toList ++ (opened rest ++ middle) := run.append_left _
    _ ~ opened rest ++ (event.closed?.toList ++ middle) := List.perm_append_comm_assoc ..
    _ ~ opened rest ++ (event.opened?.toList ++ before) := step.append_left _
    _ ~ event.opened?.toList ++ (opened rest ++ before) := List.perm_append_comm_assoc ..

/-- The event belongs to a statement at the place, or it calls nothing. -/
def SentTo (target : Target backend) : Event backend → Prop
  | call connection (.execute _ tx _) _ => target = ⟨connection, tx⟩
  | call connection (.openCursor _ tx _) _ => target = ⟨connection, tx⟩
  | call connection .nextRow _ => target.connection = connection
  | call connection .nextSet _ => target.connection = connection
  | call _ (.begin ..) _ => False
  | call _ (.commit ..) _ => False
  | call _ (.rollback ..) _ => False
  | log _ => True
  | report _ => True

end Event

/-- The event happens at the innermost of the open places, which are listed from the inside. A
transaction is begun at that place and opens a new one; ending a transaction closes its place. -/
inductive NestingStep : List (Target backend) → Event backend → List (Target backend) → Prop where
  | sent {target : Target backend} {event} (outer) : event.SentTo target →
      NestingStep (target :: outer) event (target :: outer)
  | refused (target : Target backend) (outer error seen) :
      NestingStep (target :: outer)
        (.call target.connection (.begin target.transaction (.error error)) seen)
        (target :: outer)
  | begun (target : Target backend) (outer tx seen) :
      NestingStep (target :: outer)
        (.call target.connection (.begin target.transaction (.ok tx)) seen)
        (⟨target.connection, some tx⟩ :: target :: outer)
  | committed (connection tx) (target : Target backend) (outer answer seen) :
      NestingStep (⟨connection, some tx⟩ :: target :: outer)
        (.call connection (.commit tx answer) seen) (target :: outer)
  | rolledBack (connection tx) (target : Target backend) (outer answer seen) :
      NestingStep (⟨connection, some tx⟩ :: target :: outer)
        (.call connection (.rollback tx answer) seen) (target :: outer)

/-- The events happen one after the other, each at the innermost of the open places. -/
inductive Nesting : List (Target backend) → List (Event backend) → List (Target backend) → Prop where
  | nil (places) : Nesting places [] places
  | cons {before middle after event rest} : NestingStep before event middle →
      Nesting middle rest after → Nesting before (event :: rest) after

namespace NestingStep

/-- Places further out do not matter to an event. -/
theorem extend {before after : List (Target backend)} {event : Event backend}
    (step : NestingStep before event after) (outer : List (Target backend)) :
    NestingStep (before ++ outer) event (after ++ outer) := by
  cases step with
  | sent inner sent => exact .sent _ sent
  | refused => exact .refused ..
  | begun => exact .begun ..
  | committed => exact .committed ..
  | rolledBack => exact .rolledBack ..

/-- A step opens and closes what its event says. -/
theorem perm {before after : List (Target backend)} {event : Event backend}
    (step : NestingStep before event after) :
    (event.closed?.toList ++ after).Perm (event.opened?.toList ++ before) := by
  cases step with
  | sent outer sent =>
    rcases event with ⟨connection, made, seen⟩ | entry | report
    · cases made with
      | begin => exact absurd sent id
      | commit => exact absurd sent id
      | rollback => exact absurd sent id
      | _ => rfl
    · rfl
    · rfl
  | refused => rfl
  | begun => rfl
  | committed => rfl
  | rolledBack => rfl

/-- A step over a place either stays above the place or closes it. -/
theorem overPlace {above base after : List (Target backend)} {place : Target backend}
    {event : Event backend} (step : NestingStep (above ++ place :: base) event after) :
    (∃ next, after = next ++ place :: base ∧
      NestingStep (above ++ [place]) event (next ++ [place])) ∨
    (above = [] ∧ event.closed? = some place ∧ after = base) := by
  cases above with
  | nil =>
    cases step with
    | sent outer sent => exact .inl ⟨[], rfl, .sent [] sent⟩
    | refused => exact .inl ⟨[], rfl, .refused ..⟩
    | begun => exact .inl ⟨[_], rfl, .begun _ [] _ _⟩
    | committed => exact .inr ⟨rfl, rfl, rfl⟩
    | rolledBack => exact .inr ⟨rfl, rfl, rfl⟩
  | cons first above =>
    rw [List.cons_append] at step
    generalize outside : above ++ place :: base = outer at step
    have nonempty : ∃ target others, above ++ [place] = target :: others := by
      cases above <;> simp
    obtain ⟨target, others, inner⟩ := nonempty
    cases step with
    | sent outer sent => exact .inl ⟨first :: above, by simp [outside], .sent _ sent⟩
    | refused => exact .inl ⟨_ :: above, by simp [outside], .refused ..⟩
    | begun => exact .inl ⟨_ :: _ :: above, by simp [outside], .begun ..⟩
    | committed => exact .inl ⟨above, outside.symm, by simpa [inner] using .committed ..⟩
    | rolledBack => exact .inl ⟨above, outside.symm, by simpa [inner] using .rolledBack ..⟩

end NestingStep

namespace Nesting

theorem single {before after : List (Target backend)} {event : Event backend}
    (step : NestingStep before event after) : Nesting before [event] after :=
  .cons step (.nil _)

theorem append {before middle after : List (Target backend)} {first second : List (Event backend)}
    (run : Nesting before first middle) (next : Nesting middle second after) :
    Nesting before (first ++ second) after := by
  induction run with
  | nil => exact next
  | cons step rest ih => exact .cons step (ih next)

theorem extend {before after : List (Target backend)} {events : List (Event backend)}
    (run : Nesting before events after) (outer : List (Target backend)) :
    Nesting (before ++ outer) events (after ++ outer) := by
  induction run with
  | nil => exact .nil _
  | cons step rest ih => exact .cons (step.extend outer) ih

theorem of_sent {target : Target backend} {events : List (Event backend)}
    (sent : ∀ event ∈ events, event.SentTo target) : Nesting [target] events [target] := by
  induction events with
  | nil => exact .nil _
  | cons event rest ih =>
    refine .cons (.sent [] (sent event List.mem_cons_self)) (ih fun other member => ?_)
    exact sent other (List.mem_cons_of_mem event member)

/-- What is closed by a run or open after it was opened by it or open before it. -/
theorem perm {before after : List (Target backend)} {events : List (Event backend)}
    (run : Nesting before events after) :
    (Event.closed events ++ after).Perm (Event.opened events ++ before) := by
  induction run with
  | nil => rfl
  | cons step _ ih => exact Event.perm_cons step.perm ih

/-- A run to fewer places than there are below a place closes the place once; until then it stays
above the place, and after that it stays below. -/
theorem overPlace {above base after : List (Target backend)} {place : Target backend}
    {events : List (Event backend)} (run : Nesting (above ++ place :: base) events after)
    (fewer : after.length ≤ base.length) :
    ∃ inside ending rest, events = inside ++ ending :: rest ∧
      Nesting (above ++ [place]) inside [place] ∧ ending.closed? = some place ∧
      Nesting base rest after := by
  induction events generalizing above with
  | nil =>
    cases run
    simp only [List.length_append, List.length_cons] at fewer
    omega
  | cons event events ih =>
    cases run with
    | cons step run =>
      rcases step.overPlace with ⟨next, rfl, inner⟩ | ⟨rfl, closes, rfl⟩
      · obtain ⟨inside, ending, rest, rfl, innerRun, closes, outerRun⟩ := ih run
        exact ⟨event :: inside, ending, rest, rfl, .cons inner innerRun, closes, outerRun⟩
      · exact ⟨[], event, events, rfl, .nil _, closes, run⟩

theorem split {before after : List (Target backend)} {first second : List (Event backend)}
    (run : Nesting before (first ++ second) after) :
    ∃ middle, Nesting before first middle ∧ Nesting middle second after := by
  induction first generalizing before with
  | nil => exact ⟨before, .nil _, run⟩
  | cons event rest ih =>
    cases run with
    | cons step run =>
      obtain ⟨middle, first, second⟩ := ih run
      exact ⟨middle, .cons step first, second⟩

/-- Every transaction that is begun is ended by one event, on its connection. Until then every
statement joins it or a transaction that is begun and ended inside it. -/
theorem brackets {target : Target backend} {before after : List (Event backend)}
    {connection : Nat} {parent : Option backend.Transaction} {tx : backend.Transaction}
    {seen : List backend.Observation}
    (run : Nesting [target] (before ++ .call connection (.begin parent (.ok tx)) seen :: after)
      [target]) :
    ∃ inside ending rest, after = inside ++ ending :: rest ∧
      Nesting [⟨connection, some tx⟩] inside [⟨connection, some tx⟩] ∧
      ending.closed? = some ⟨connection, some tx⟩ := by
  obtain ⟨places, _, run⟩ := run.split
  cases run with
  | cons step run =>
    cases step with
    | sent outer sent => exact absurd sent id
    | begun target outer =>
      rw [← List.nil_append (_ :: _ :: _)] at run
      obtain ⟨inside, ending, rest, split, inner, closes, _⟩ :=
        run.overPlace (Nat.succ_le_succ (Nat.zero_le _))
      exact ⟨inside, ending, rest, split, inner, closes⟩

/-- A run that leaves the open places as they were has ended every transaction that it has begun,
each as often as it was begun. -/
theorem closed_perm_opened {places : List (Target backend)} {events : List (Event backend)}
    (run : Nesting places events places) :
    (Event.closed events).Perm (Event.opened events) :=
  (List.perm_append_right_iff places).mp run.perm

/-- When all open places are on one connection, every call is made on it. -/
theorem connected {before after : List (Target backend)} {events : List (Event backend)}
    {connection : Nat} (run : Nesting before events after)
    (one : ∀ place ∈ before, place.connection = connection) :
    ∀ made ∈ Event.calls events, made.1 = connection := by
  induction run with
  | nil => simp
  | @cons before middle after event rest step run ih =>
    rw [Event.calls_cons]
    refine List.forall_mem_append.mpr ?_
    cases step with
    | @sent target event outer sent =>
      refine ⟨?_, ih one⟩
      rcases event with ⟨number, made, seen⟩ | entry | report
      · have here := one target List.mem_cons_self
        cases made <;> simp_all [Event.SentTo, Event.call?]
      · simp [Event.call?]
      · simp [Event.call?]
    | refused => exact ⟨by simp_all [Event.call?], ih one⟩
    | begun => exact ⟨by simp_all [Event.call?], ih (by simp_all)⟩
    | committed => exact ⟨by simp_all [Event.call?], ih (by simp_all)⟩
    | rolledBack => exact ⟨by simp_all [Event.call?], ih (by simp_all)⟩

end Nesting

/-- A run at a place keeps discipline with transactions. Every statement is sent to the innermost
transaction that is open, or to the place itself, and every transaction is begun there; whatever is
begun is ended exactly once, on its connection, after all that is begun inside it. -/
structure Disciplined (target : Target backend) (events : List (Event backend)) : Prop where
  nested : Nesting [target] events [target]
  balanced : (Event.closed events).Perm (Event.opened events)
  bracketed : ∀ {before connection parent tx seen after},
    events = before ++ .call connection (.begin parent (.ok tx)) seen :: after →
    ∃ inside ending rest, after = inside ++ ending :: rest ∧
      Nesting [⟨connection, some tx⟩] inside [⟨connection, some tx⟩] ∧
      ending.closed? = some ⟨connection, some tx⟩
  connected : ∀ made ∈ Event.calls events, made.1 = target.connection

theorem Nesting.disciplined {target : Target backend} {events : List (Event backend)}
    (run : Nesting [target] events [target]) : Disciplined target events where
  nested := run
  balanced := run.closed_perm_opened
  bracketed := by
    intro before connection parent tx seen after split
    subst split
    exact run.brackets
  connected := run.connected (by simp)

namespace RunLaw

/-- The events of a run belong to statements at a place, and the open scopes stay the same. -/
def sentTo (target : Target backend) : RunLaw backend where
  holds start events finish :=
    finish.frames = start.frames ∧ ∀ event ∈ events, event.SentTo target
  idle _ := ⟨rfl, by simp⟩
  sequence first second :=
    ⟨second.1.trans first.1, List.forall_mem_append.mpr ⟨first.2, second.2⟩⟩

theorem sentTo_call {target : Target backend} {connection : Nat}
    {serve : backend.State → Served backend.State backend.Observation α}
    {describe : α → Call backend}
    (sent : ∀ answer seen, (Event.call connection (describe answer) seen).SentTo target) :
    (sentTo target).Of (Action.call connection serve describe) := by
  intro session
  refine ⟨rfl, fun event member => ?_⟩
  rw [List.mem_singleton.mp member]
  exact sent _ _

theorem sentTo_statements (control : Control) (target : Target backend) :
    (sentTo target).Statements control target where
  executes _ := of_await _ (sentTo_call fun _ _ => rfl)
  opens _ := of_await _ (sentTo_call fun _ _ => rfl)
  fetches _ := of_await _ (sentTo_call fun _ _ => rfl)
  advances _ := of_await _ (sentTo_call fun _ _ => rfl)
  logs _ _ _ := ⟨rfl, by simp [Action.log, Event.SentTo]⟩

/-- The events of a run are nested at the place where the engine sends statements; without such a
place nothing happens. The open scopes stay the same. -/
def nesting (engine : Engine backend) : RunLaw backend where
  holds start events finish :=
    finish.frames = start.frames ∧
      match engine.target start with
      | .ok target => Nesting [target] events [target]
      | .error _ => events = []
  idle session := by
    refine ⟨rfl, ?_⟩
    cases engine.target session with
    | error => rfl
    | ok target => exact .nil _
  sequence {start middle finish before after} first second := by
    refine ⟨second.1.trans first.1, ?_⟩
    have same : engine.target middle = engine.target start := engine.target_congr first.1
    obtain ⟨-, first⟩ := first
    obtain ⟨-, second⟩ := second
    rw [same] at second
    cases found : engine.target start with
    | error error =>
      simp only [found] at first second
      simp [first, second]
    | ok target =>
      simp only [found] at first second
      exact first.append second

end RunLaw

namespace Scope

/-- A transaction at a place, with the end that its outcome asks for, is nested in the place. -/
theorem finish_nesting (name : String) (target : Target backend) (savepoint : Bool)
    (tx : backend.Transaction) (outcome : Except SqlError Unit) (session : Session backend) :
    Nesting [⟨target.connection, some tx⟩, target]
      (finish name target.connection savepoint tx outcome session).events [target] := by
  have noted (entries : List LogEntry) :
      Nesting [target] (entries.map Event.log) [target] := by
    apply Nesting.of_sent
    intro event member
    obtain ⟨entry, -, rfl⟩ := List.mem_map.mp member
    trivial
  cases outcome with
  | ok =>
    rw [finish_ok]
    refine .cons (.committed ..) ?_
    cases (Action.commit target.connection tx session).value with
    | ok => exact noted [_]
    | error => exact noted []
  | error error =>
    rw [finish_error]
    exact .cons (.rolledBack ..) (noted [_])

/-- The only call at the end of a transaction is the one that ends it. -/
theorem finish_ending (name : String) (connection : Nat) (savepoint : Bool)
    (tx : backend.Transaction) (outcome : Except SqlError Unit) (session : Session backend) :
    ∃ ending after, (finish name connection savepoint tx outcome session).events = ending :: after ∧
      ending.closed? = some ⟨connection, some tx⟩ ∧ Event.calls after = [] := by
  cases outcome with
  | ok =>
    rw [finish_ok]
    refine ⟨_, _, rfl, rfl, ?_⟩
    cases (Action.commit connection tx session).value <;> rfl
  | error error =>
    rw [finish_error]
    exact ⟨_, _, rfl, rfl, rfl⟩

end Scope

namespace Engine

variable (engine : Engine backend)

/-- The events of a transaction are nested when the events of its work are nested inside it. -/
theorem inTransaction_nesting (undone : α) {work : Action backend (Finished α)}
    (kept : (RunLaw.nesting engine).Of work) :
    (RunLaw.nesting engine).Of (engine.inTransaction undone work) := by
  intro session
  rw [engine.inTransaction_apply]
  cases found : engine.target session with
  | error error =>
    refine ⟨rfl, ?_⟩
    simp [found]
  | ok target =>
    have frames := Scope.transaction_frames engine.scope target.connection undone
      (fun session => (kept session).1)
    refine ⟨frames session, ?_⟩
    simp only [found]
    have call := Scope.begun_events engine.scope target.connection session
    rw [engine.parent_target found] at call
    cases started : (Scope.begun engine.scope target.connection session).value with
    | error error =>
      rw [Scope.transaction_refused started, call, started]
      exact .single (.refused ..)
    | ok tx =>
      have inner := (kept (Scope.inside engine.scope target.connection tx session)).2
      rw [engine.target_inside] at inner
      rw [Scope.transaction_begun started undone work (kept _).1, call, started]
      refine .cons (.begun ..) (.cons (.sent _ trivial) ?_)
      exact (inner.extend [target]).append (Scope.finish_nesting ..)

theorem nesting_serves : (RunLaw.nesting engine).Serves engine where
  commands session target found name command cap strategy node := by
    have sent := (RunLaw.sentTo_statements (engine.control name) target).run engine.convert command
      cap strategy node session
    refine ⟨sent.1, ?_⟩
    simp only [found]
    exact .of_sent sent.2
  scopes undone _ kept := engine.inTransaction_nesting undone kept

/-- An operation that is no transaction sends everything to the place of statements. -/
theorem invoke_sentTo {node : Node} {session : Session backend} {target : Target backend}
    (other : Operation.parse engine.settings.dialect node.name ≠ .ok .transaction)
    (found : engine.target session = .ok target) :
    ∀ event ∈ (engine.invoke node session).events, event.SentTo target := by
  rcases engine.invoke_statement other with ⟨error, same⟩ | ⟨demand, same⟩
  · simp [same]
  · rw [same, engine.serve_apply]
    rcases demand with fault | (statement | plan)
    · simp
    · simp
    · simp only [found]
      exact ((RunLaw.sentTo_statements (engine.control node.name) target).run engine.convert _ _ _ _
        session).2

/-- For all open scopes, request trees and backends: a run keeps discipline at the place where the
engine sends statements. An operation that is no transaction sends everything there. A transaction
is begun there first; its children are served inside it, each with the transaction as its own place,
and it is ended after them. Without a place it fails as a statement does, before any call. -/
theorem invoke_disciplined (node : Node) (session : Session backend) :
    let ran := engine.invoke node session
    let isTransaction := Operation.parse engine.settings.dialect node.name = .ok .transaction
    match engine.target session with
    | .error error =>
        error = engine.unconnected ∧ ran.events = [] ∧
          (isTransaction → ran.value = ⟨node, .error error⟩) ∧
          ∀ plan, engine.serve (.ok (.planned plan)) node session = ⟨⟨node, .error error⟩, [], session⟩
    | .ok target =>
        Disciplined target ran.events ∧
          (¬isTransaction → ∀ event ∈ ran.events, event.SentTo target) ∧
          (isTransaction → ∃ answer seen rest,
            ran.events = .call target.connection (.begin target.transaction answer) seen :: rest ∧
            ∀ tx, answer = .ok tx →
              let place : Target backend := ⟨target.connection, some tx⟩
              let served := engine.servings node.children
                (Scope.inside engine.scope target.connection tx session)
              let childEvents := served.flatMap fun serving => (engine.ran serving).events
              (∀ serving ∈ served, engine.target serving.start = .ok place) ∧
              Disciplined place childEvents ∧
              ∃ entry ending after, rest = .log entry :: (childEvents ++ ending :: after) ∧
                ending.closed? = some place ∧ Event.calls after = []) := by
  intro ran isTransaction
  have nested := ((engine.nesting_serves.invoke node) session).2
  cases found : engine.target session with
  | error error =>
    simp only [found] at nested
    refine ⟨engine.target_error found, nested, fun named => ?_, fun plan => ?_⟩
    · exact congrArg Ran.value (engine.invoke_unconnected named found)
    · rw [engine.serve_apply]
      simp only [found]
  | ok target =>
    simp only [found] at nested
    refine ⟨nested.disciplined, fun other => engine.invoke_sentTo other found, fun named => ?_⟩
    cases started : (Scope.begun engine.scope target.connection session).value with
    | error error =>
      refine ⟨_, _, _, congrArg Ran.events (engine.invoke_refused named found started), ?_⟩
      exact fun tx granted => by cases granted
    | ok tx =>
      let inside := Scope.inside engine.scope target.connection tx session
      let done := engine.invokeAll node.children inside
      have inner := (engine.nesting_serves.invokeAll node.children inside).2
      rw [engine.target_inside] at inner
      have same : done.events = _ := (engine.invokeAll_servings node.children inside).2
      obtain ⟨ending, after, ends, closes, quiet⟩ := Scope.finish_ending engine.scope
        target.connection target.transaction.isSome tx done.value.outcome
        (done.session.within session.frames)
      refine ⟨_, _, _, congrArg Ran.events (engine.invoke_begun named found started), ?_⟩
      intro given granted
      cases granted
      refine ⟨fun serving served => ?_, ?_, .begun engine.scope target.transaction.isSome, ending,
        after, ?_, closes, quiet⟩
      · rw [engine.target_congr (engine.servings_frames served), engine.target_inside]
      · rw [← same]
        exact inner.disciplined
      · rw [← ends, ← same]

end Engine

end QueryTree
