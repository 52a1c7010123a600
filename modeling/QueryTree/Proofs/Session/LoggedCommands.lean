/-
This file proves that the log is told of every command of a program that has been accepted, once and in
order: after the calls of the command, and before the end of the transactions around it.
-/
import QueryTree.Proofs.Session.Brackets
import QueryTree.Proofs.Session.CommandEntry
import QueryTree.Proofs.Session.ScopeOutcome

namespace QueryTree

variable {backend : Backend} {α : Type}

namespace Event

/-- Whether an event is a call of a statement, or an entry that tells of one. -/
def isStatement : Event backend → Bool
  | call _ (.execute ..) _ => true
  | call _ (.openCursor ..) _ => true
  | call _ .nextRow _ => true
  | call _ .nextSet _ => true
  | call _ (.begin ..) _ => false
  | call _ (.commit ..) _ => false
  | call _ (.rollback ..) _ => false
  | log entry => entry.isStatement
  | report _ => false

/-- The entry of an event that tells of a statement. -/
def statementEntry? : Event backend → Option LogEntry
  | log entry => if entry.isStatement then some entry else none
  | _ => none

/-- The entries that tell of statements, in order. -/
def statementEntries (events : List (Event backend)) : List LogEntry :=
  events.filterMap statementEntry?

@[simp] theorem statementEntries_append (first second : List (Event backend)) :
    statementEntries (first ++ second) = statementEntries first ++ statementEntries second :=
  List.filterMap_append

theorem statementEntries_cons {event : Event backend} (silent : event.statementEntry? = none)
    (rest : List (Event backend)) : statementEntries (event :: rest) = statementEntries rest :=
  List.filterMap_cons_none silent

theorem statementEntry?_none {event : Event backend} (other : event.isStatement = false) :
    event.statementEntry? = none := by
  rcases event with _ | entry | _
  · rfl
  · exact if_neg (ne_true_of_eq_false other)
  · rfl

theorem statementEntry?_opened {event : Event backend} {place : Target backend}
    (opens : event.opened? = some place) : event.statementEntry? = none := by
  rcases event with _ | _ | _
  · rfl
  · cases opens
  · cases opens

theorem statementEntry?_closed {event : Event backend} {place : Target backend}
    (closes : event.closed? = some place) : event.statementEntry? = none := by
  rcases event with _ | _ | _
  · rfl
  · cases closes
  · cases closes

end Event

namespace CommandRun

/-- The command is run by the engine. -/
def Of (engine : Engine backend) (run : CommandRun backend) : Prop :=
  (∃ name, run.control = engine.control name) ∧ run.context.convert = engine.convert

/-- The last thing that happens in a run is that the log is told of it. -/
def Logged (run : CommandRun backend) (entry : LogEntry) : Prop :=
  run.ran.events.getLast? = some (.log entry)

/-- The log is told of an accepted command once. -/
theorem entries_logged {run : CommandRun backend} (accepted : run.Accepted) :
    ∃ entry, Event.statementEntries run.ran.events = [entry] ∧ run.Logged entry := by
  obtain ⟨calls, entry, events, makes, records⟩ := ran_logged accepted
  have silent : Event.statementEntries calls = [] := by
    refine List.filterMap_eq_nil_iff.mpr fun event member => ?_
    cases makes event member <;> rfl
  have told : Event.statementEntries ([.log entry] : List (Event backend)) = [entry] :=
    List.filterMap_cons_some (if_pos records.isStatement)
  refine ⟨entry, ?_, ?_⟩
  · rw [events, Event.statementEntries_append, silent, told, List.nil_append]
  · rw [Logged, events, List.getLast?_concat]

end CommandRun

/-- The events consist of the runs of accepted commands, each with its calls and its entry in one piece,
of transactions around such events, and of events that belong neither to a statement nor to the
beginning or the end of a transaction. -/
inductive Chronicle (engine : Engine backend) :
    List (CommandRun backend) → List (Event backend) → Prop where
  | nothing : Chronicle engine [] []
  | command {run : CommandRun backend} {runs : List (CommandRun backend)}
      {rest : List (Event backend)} : run.Of engine → run.Accepted → Chronicle engine runs rest →
      Chronicle engine (run :: runs) (run.ran.events ++ rest)
  | other {event : Event backend} {runs : List (CommandRun backend)} {rest : List (Event backend)} :
      event.isStatement = false → event.opened? = none → event.closed? = none →
      Chronicle engine runs rest → Chronicle engine runs (event :: rest)
  | transaction {place : Target backend} {opening closing : Event backend}
      {inner outer : List (CommandRun backend)} {inside rest : List (Event backend)} :
      opening.opened? = some place → closing.closed? = some place → Chronicle engine inner inside →
      Chronicle engine outer rest →
      Chronicle engine (inner ++ outer) (opening :: (inside ++ closing :: rest))

namespace Chronicle

variable {engine : Engine backend} {runs others : List (CommandRun backend)}
  {events rest : List (Event backend)}

theorem append (chronicle : Chronicle engine runs events) (next : Chronicle engine others rest) :
    Chronicle engine (runs ++ others) (events ++ rest) := by
  induction chronicle with
  | nothing => exact next
  | command belongs accepted _ ih =>
    rw [List.append_assoc]
    exact .command belongs accepted ih
  | other silent notOpened notClosed _ ih => exact .other silent notOpened notClosed ih
  | transaction opens closes inside _ _ ih =>
    rw [List.append_assoc, List.cons_append, List.append_assoc, List.cons_append]
    exact .transaction opens closes inside ih

/-- An event by itself that has nothing to do with statements and transactions. -/
theorem once {event : Event backend} (silent : event.isStatement = false)
    (notOpened : event.opened? = none) (notClosed : event.closed? = none) :
    Chronicle engine [] [event] := .other silent notOpened notClosed .nothing

/-- The log is told of the commands one after the other. -/
theorem entries (chronicle : Chronicle engine runs events) :
    List.Forall₂ CommandRun.Logged runs (Event.statementEntries events) := by
  induction chronicle with
  | nothing => exact .nil
  | command _ accepted _ ih =>
    obtain ⟨entry, told, logged⟩ := CommandRun.entries_logged accepted
    rw [Event.statementEntries_append, told]
    exact .cons logged ih
  | other silent _ _ _ ih =>
    rw [Event.statementEntries_cons (Event.statementEntry?_none silent)]
    exact ih
  | transaction opens closes _ _ innerTold outerTold =>
    rw [Event.statementEntries_cons (Event.statementEntry?_opened opens),
      Event.statementEntries_append,
      Event.statementEntries_cons (Event.statementEntry?_closed closes)]
    exact List.rel_append innerTold outerTold

end Chronicle

namespace RunLaw

/-- The events of a run are those of commands, transactions around them, and other events. The open
scopes stay the same. -/
def chronicle (engine : Engine backend) : RunLaw backend where
  holds start events finish := finish.frames = start.frames ∧ ∃ runs, Chronicle engine runs events
  idle _ := ⟨rfl, [], .nothing⟩
  sequence := by
    rintro start middle finish before after ⟨kept, runs, first⟩ ⟨keptAfter, others, second⟩
    exact ⟨keptAfter.trans kept, runs ++ others, first.append second⟩

/-- A whole command is accepted, or nothing happens. -/
theorem chronicle_command (engine : Engine backend) (name : String) (target : Target backend)
    (command : Command) (cap : Option Nat) (strategy : Strategy) (node : Node) :
    (chronicle engine).Of
      (Execution.run (engine.control name) engine.convert target command cap strategy node) := by
  intro session
  let run : CommandRun backend :=
    ⟨engine.control name, ⟨engine.convert, target, command⟩, cap, strategy, node, session⟩
  refine ⟨(frames_statements (engine.control name) target).run engine.convert command cap strategy
    node session, ?_⟩
  cases checked : backend.check target.connection command session.state with
  | error error =>
    rw [Execution.run_refused checked]
    exact ⟨[], .nothing⟩
  | ok =>
    have alone : Chronicle engine [run] (run.ran.events ++ []) :=
      .command ⟨⟨name, rfl⟩, rfl⟩ checked .nothing
    rw [List.append_nil] at alone
    exact ⟨[run], alone⟩

/-- A transaction is ended by one event, after which the log is told of the end. -/
theorem chronicle_finish (engine : Engine backend) (name : String) (connection : Nat)
    (savepoint : Bool) (tx : backend.Transaction) (outcome : Except SqlError Unit)
    (session : Session backend) :
    ∃ closing rest, (Scope.finish name connection savepoint tx outcome session).events =
        closing :: rest ∧ closing.closed? = some ⟨connection, some tx⟩ ∧ Chronicle engine [] rest := by
  cases outcome with
  | ok =>
    rw [Scope.finish_ok]
    refine ⟨_, _, rfl, rfl, ?_⟩
    cases (Action.commit connection tx session).value with
    | ok => exact .once rfl rfl rfl
    | error => exact .nothing
  | error error =>
    rw [Scope.finish_error]
    refine ⟨_, _, rfl, rfl, ?_⟩
    cases (Action.rollback connection tx session).value with
    | ok => exact .once rfl rfl rfl
    | error => exact .once rfl rfl rfl

theorem chronicle_transaction (engine : Engine backend) (name : String) (connection : Nat)
    (undone : α) {work : Action backend (Finished α)} (kept : (chronicle engine).Of work) :
    (chronicle engine).Of (Scope.transaction name connection undone work) := by
  intro session
  refine ⟨Scope.transaction_frames name connection undone (fun session => (kept session).1) session,
    ?_⟩
  cases started : (Scope.begun name connection session).value with
  | error error =>
    rw [Scope.transaction_refused started, Scope.begun_events, started]
    exact ⟨[], .once rfl rfl rfl⟩
  | ok tx =>
    obtain ⟨frames, runs, inner⟩ := kept (Scope.inside name connection tx session)
    rw [Scope.transaction_begun started undone work frames, Scope.begun_events, started]
    obtain ⟨closing, rest, finished, closes, outer⟩ := chronicle_finish engine name connection
      (session.parent? name connection).isSome tx
      (work (Scope.inside name connection tx session)).value.outcome
      ((work (Scope.inside name connection tx session)).session.within session.frames)
    rw [finished, List.singleton_append, ← List.cons_append]
    exact ⟨runs ++ [], .transaction rfl closes (.other rfl rfl rfl inner) outer⟩

theorem chronicle_withConnection (engine : Engine backend) (name : String) (connection : Nat)
    {work : Action backend α} (kept : (chronicle engine).Of work) :
    (chronicle engine).Of (Scope.withConnection name connection work) := by
  intro session
  refine ⟨Scope.withConnection_frames name connection (fun session => (kept session).1) session, ?_⟩
  rw [Scope.withConnection_apply]
  exact (kept _).2

/-- The events of every program are those of commands, transactions around them, and others. -/
theorem chronicle_programs (engine : Engine backend) : (chronicle engine).Programs engine where
  commands name target command cap strategy node :=
    chronicle_command engine name target command cap strategy node
  transactions name connection undone _ kept :=
    chronicle_transaction engine name connection undone kept
  connections name connection _ kept := chronicle_withConnection engine name connection kept
  alone kept session := ⟨rfl, (kept (session.within [])).2⟩
  reports _ _ := ⟨rfl, [], .once rfl rfl rfl⟩
  cancels _ := ⟨rfl, [], .nothing⟩

end RunLaw

namespace Engine

/-- What a demand comes to: nothing happens, or a single command is run. -/
theorem serve_runs (engine : Engine backend) (demand : Except RequestFault Demand) (node : Node)
    (session : Session backend) :
    (engine.serve demand node session).events = [] ∨
      ∃ run : CommandRun backend, run.Of engine ∧ engine.serve demand node session = run.ran := by
  rw [engine.serve_apply]
  rcases demand with fault | (statement | plan)
  · exact .inl rfl
  · exact .inl rfl
  · cases engine.target session with
    | error error => exact .inl rfl
    | ok target =>
      exact .inr ⟨⟨engine.control node.name, ⟨engine.convert, target, plan.command⟩, plan.cap,
        plan.strategy, node, session⟩, ⟨⟨node.name, rfl⟩, rfl⟩, rfl⟩

/-- What the log is told of commands. It is not told of a refused one, nor of an operation that comes to
no command. It is told the truth about an accepted one, after the calls that the command makes. The
events of a program are the runs of its accepted commands, in transactions and among other events that
do not belong to statements, and the entries of the log tell of these commands one after the other. -/
structure LogsCommands (engine : Engine backend) : Prop where
  refused : ∀ (run : CommandRun backend) error,
    backend.check run.context.target.connection run.context.command run.session.state =
      .error error → run.ran = ⟨⟨run.node, .error error⟩, [], run.session⟩
  accepted : ∀ run : CommandRun backend, run.Accepted →
    ∃ calls entry, run.ran.events = calls ++ [.log entry] ∧
      (∀ event ∈ calls, run.context.Makes event) ∧ run.Records calls run.ran.value entry
  operations : ∀ node session,
    Operation.parse engine.settings.dialect node.name ≠ .ok .transaction →
      (engine.invoke node session).events = [] ∨
        ∃ run : CommandRun backend, run.Of engine ∧ engine.invoke node session = run.ran
  programs : ∀ steps session,
    let ran := Program.run engine steps session
    ∃ runs, Chronicle engine runs ran.events ∧
      List.Forall₂ CommandRun.Logged runs (Event.statementEntries ran.events)

/-- The log is told of every accepted command of a program once, and what it is told is true. -/
theorem commands_logged (engine : Engine backend) : LogsCommands engine where
  refused run error refused := run.ran_refused refused
  accepted run accepted := run.ran_logged accepted
  operations node session other := by
    rcases engine.invoke_statement other with ⟨error, same⟩ | ⟨demand, same⟩
    · rw [same]
      exact .inl rfl
    · rw [same]
      exact engine.serve_runs demand node session
  programs steps session := by
    have programs := RunLaw.chronicle_programs engine
    obtain ⟨-, runs, chronicle⟩ := programs.enclosed "end" (programs.performAll steps) session
    exact ⟨runs, chronicle, chronicle.entries⟩

/-- A statement in a transaction, and another one after it. -/
def twoLogged : List Step :=
  [.transaction "pgsql.transaction" 0 [.invoke ⟨"pgsql.execute", .text "UPDATE t", []⟩],
    .invoke ⟨"pgsql.scalar", .text "SELECT n", [⟨"$1", .int 5, []⟩]⟩]

/-- The log is told of both statements, of the first one before its transaction is committed. -/
theorem commands_logged_twoLogged :
    let ran := Program.run scripted twoLogged scriptedSession
    Event.statementEntries ran.events =
        [.executed false "pgsql.execute" 0 1 "UPDATE t", .executed false "pgsql.scalar" 1 0 "SELECT n"] ∧
      ∃ runs, Chronicle scripted runs ran.events ∧
        List.Forall₂ CommandRun.Logged runs (Event.statementEntries ran.events) :=
  ⟨rfl, (commands_logged scripted).programs twoLogged scriptedSession⟩

end Engine

end QueryTree
