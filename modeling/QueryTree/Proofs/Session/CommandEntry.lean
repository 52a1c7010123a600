/-
This file says what the log gets for a command, and proves that every command that the backend accepts
is told of once, after its calls, and that what is told of it is true.
-/
import Mathlib.Data.List.Basic
import Mathlib.Data.String.Basic
import QueryTree.Proofs.Session.CommandRun
import QueryTree.Proofs.Session.StatementCalls
import QueryTree.Proofs.Text.LongestBeginning

namespace QueryTree

namespace Settings

/-- What the log gets of a text: a beginning of it that takes no more bytes than the settings say, or
nothing where they say that texts are not logged. -/
structure Logs (settings : Settings) (text logged : String) : Prop where
  beginning : logged.toList <+: text.toList
  within : ∀ limit, settings.maxLoggedBytes = some limit → logged.utf8ByteSize ≤ limit
  hidden : settings.logsText = false → logged = ""
  whole : settings.logsText = true → settings.maxLoggedBytes = none → logged = text

theorem loggedText_logs (settings : Settings) (text : String) :
    settings.Logs text (settings.loggedText text) := by
  unfold loggedText
  split
  next shown =>
    cases limited : settings.maxLoggedBytes with
    | none =>
      exact ⟨List.prefix_rfl, by simp [limited], by simp [shown], fun _ _ => rfl⟩
    | some limit =>
      simp only [truncated_eq]
      refine ⟨?_, ?_, by simp [shown], by simp [limited]⟩
      · rw [String.toList_ofList]
        exact takeBytes_prefix limit text.toList
      · intro _ same
        cases limited.symm.trans same
        exact takeBytes_size limit text.toList
  next hidden =>
    exact ⟨List.nil_prefix, fun _ _ => Nat.zero_le _, fun _ => rfl, by simp [hidden]⟩

end Settings

variable {backend : Backend} {α β : Type}

/-- The value and the events of the action in a session are such, if it gives a value. -/
def Action.Gives (session : Session backend) (holds : α → List (Event backend) → Prop)
    (action : Action backend (Except SqlError α)) : Prop :=
  ∀ value, (action session).value = .ok value → holds value (action session).events

namespace Action.Gives

variable {control : Control} {session : Session backend} {holds : α → List (Event backend) → Prop}
  {middle : β → List (Event backend) → Prop}

theorem ok {value : α} (has : holds value []) :
    Gives session holds (pure (.ok value) : Action backend (Except SqlError α)) := by
  intro _ given
  cases given
  exact has

theorem error (error : SqlError) :
    Gives session holds (pure (.error error) : Action backend (Except SqlError α)) :=
  fun _ given => nomatch given

/-- Actions in sequence, of which the second one passes an error on. -/
theorem bind {first : Action backend (Except SqlError β)}
    {next : Except SqlError β → Action backend (Except SqlError α)}
    (begun : Gives session middle first) (stopped : ∀ error, next (.error error) = pure (.error error))
    (went : ∀ value, middle value (first session).events → Gives (first session).session
      (fun given after => holds given ((first session).events ++ after)) (next (.ok value))) :
    Gives session holds (first >>= next) := by
  intro value given
  rw [bind_apply] at given ⊢
  cases outcome : (first session).value with
  | error error =>
    rw [outcome, stopped] at given
    cases given
  | ok between =>
    rw [outcome] at given
    exact went between (begun between outcome) value given

/-- A call that gives a value has been made, and its answer is the value. -/
theorem await {timed : Bool} {call : Action backend (Reply β)}
    {next : Except SqlError β → Action backend (Except SqlError α)}
    (stopped : ∀ error, next (.error error) = pure (.error error))
    (went : ∀ value, (call session).value.answer = .ok value → Gives (call session).session
      (fun given after => holds given ((call session).events ++ after)) (next (.ok value))) :
    Gives session holds (control.await timed call >>= next) := by
  intro value given
  rw [bind_apply] at given ⊢
  cases stops : control.stops session with
  | true =>
    rw [control.await_apply, if_pos stops, stopped] at given
    cases given
  | false =>
    rw [Control.await_sent stops] at given ⊢
    obtain answered | ⟨-, cancelled⟩ | ⟨limit, -, late⟩ := control.settled_cases timed (call session)
    · rw [answered] at given ⊢
      cases answer : (call session).value.answer with
      | error error =>
        rw [answer, stopped] at given
        cases given
      | ok between =>
        rw [answer] at given
        exact went between answer value given
    · rw [cancelled, stopped] at given
      cases given
    · rw [late, stopped] at given
      cases given

end Action.Gives

namespace Rows

variable {control : Control} {convert : RowConverter backend} {connection : Nat} {cap : Option Nat}

/-- The node is one for the columns of a row. -/
def IsRow (node : Node) : Prop := ∃ columns, node = rowNode columns

/-- Whatever is read of a result set is rows, by induction on the rows of the cursor. -/
theorem readSet_rows (cursor : backend.Cursor) (session : Session backend) :
    Action.Gives session (fun read _ => ∀ row ∈ read.rows, IsRow row)
      (readSet control convert connection cap cursor) := by
  induction measured : backend.size cursor using Nat.strongRecOn
    generalizing cap cursor session with
  | ind bound ih =>
    rw [readSet]
    split
    · exact .ok (List.forall_mem_nil _)
    · refine .await (fun _ => rfl) fun fetched _ => ?_
      rcases fetched with ⟨row, after, smaller⟩ | ⟨after, noLarger⟩ | ⟨error, after⟩
      · dsimp only
        cases convert row with
        | error error => exact .error error
        | ok columns =>
          refine (ih _ (measured ▸ smaller) after _ rfl).bind (fun _ => rfl) fun rest rows => .ok ?_
          exact List.forall_mem_cons.mpr ⟨⟨columns, rfl⟩, rows⟩
      · exact .ok (List.forall_mem_nil _)
      · exact .error error

theorem readSets_rows (cursor : backend.Cursor) (session : Session backend) :
    Action.Gives session (fun sets _ => ∀ set ∈ sets, ∀ row ∈ set, IsRow row)
      (readSets control convert connection cap cursor) := by
  induction measured : backend.size cursor using Nat.strongRecOn generalizing cursor session with
  | ind bound ih =>
    rw [readSets]
    refine (readSet_rows cursor session).bind (fun _ => rfl) ?_
    rintro ⟨rows, after, noLarger⟩ areRows
    refine .await (fun _ => rfl) fun advanced _ => ?_
    rcases advanced with ⟨next, smaller⟩ | ⟨next⟩ | ⟨error, next⟩
    · have shrinks : backend.size next < bound := by omega
      refine (ih _ shrinks next _ rfl).bind (fun _ => rfl) fun others later => .ok ?_
      exact List.forall_mem_cons.mpr ⟨areRows, later⟩
    · exact .ok (List.forall_mem_singleton.mpr areRows)
    · exact .error error

/-- What is made of a cursor, with the count of its rows: rows, or groups of rows. -/
theorem materialize_counts (multiple : Bool) (cursor : backend.Cursor) (session : Session backend) :
    Action.Gives session (fun given _ => if multiple then
        ∃ sets : List (List Node), (∀ set ∈ sets, ∀ row ∈ set, IsRow row) ∧
          given.1 = sets.map .group ∧ given.2 = sets.flatten.length
      else (∀ row ∈ given.1, IsRow row) ∧ given.2 = given.1.length)
      (materialize control convert connection multiple cap cursor) := by
  unfold materialize
  cases multiple with
  | false =>
    rw [if_neg Bool.false_ne_true]
    refine (readSet_rows cursor session).bind (fun _ => rfl) fun read rows => .ok ?_
    exact ⟨rows, rfl⟩
  | true =>
    rw [if_pos rfl]
    by_cases present : backend.hasSet cursor = true
    · rw [if_pos present]
      refine (readSets_rows cursor session).bind (fun _ => rfl) fun sets rows => .ok ?_
      exact ⟨sets, rows, rfl, List.length_flatten.symm⟩
    · rw [if_neg present]
      exact .ok ⟨[], nofun, rfl, rfl⟩

end Rows

/-- What is made of a cursor for its first value: the count says whether it has a first row. -/
theorem Execution.readScalar_counts {control : Control} {convert : RowConverter backend}
    {connection : Nat} (cursor : backend.Cursor) (session : Session backend) :
    let fetched := Action.nextRow connection cursor session
    Action.Gives session (fun given events => events = fetched.events ∧
        ((∃ after noLarger, fetched.value.answer = .ok (.exhausted after noLarger) ∧
            given = (.null, 0)) ∨
          ∃ row after smaller columns, fetched.value.answer = .ok (.row row after smaller) ∧
            convert row = .ok columns ∧ given = ((columns.head?.map Prod.snd).getD .null, 1)))
      (readScalar control convert connection cursor) := by
  intro fetched
  refine .await (fun _ => rfl) fun gave answered => ?_
  cases gave with
  | row row after smaller =>
    dsimp only
    cases converted : convert row with
    | error error => exact .error error
    | ok columns =>
      exact .ok
        ⟨List.append_nil _, .inr ⟨row, after, smaller, columns, answered, converted, rfl⟩⟩
  | exhausted after noLarger =>
    exact .ok ⟨List.append_nil _, .inl ⟨after, noLarger, answered, rfl⟩⟩
  | failed error => exact .error error

namespace StatementContext

/-- The event is a call of the statement, of its connection or of its cursor. -/
inductive Makes (context : StatementContext backend) : Event backend → Prop where
  | executed (reply seen) : Makes context
      (.call context.target.connection (.execute context.command context.target.transaction reply) seen)
  | opened (reply seen) : Makes context
      (.call context.target.connection
        (.openCursor context.command context.target.transaction reply) seen)
  | fetched (seen) : Makes context (.call context.target.connection .nextRow seen)
  | advanced (seen) : Makes context (.call context.target.connection .nextSet seen)

variable {context : StatementContext backend}

theorem Awaits.makes {stage : Stage backend} {session : Session backend}
    {made : Ran backend (Reply (Stage backend))} (awaits : context.Awaits stage session made) :
    ∀ event ∈ made.events, context.Makes event := by
  intro event member
  cases awaits with
  | execute =>
    rw [List.mem_singleton.mp member]
    exact .executed ..
  | openCursor =>
    rw [List.mem_singleton.mp member]
    exact .opened ..
  | nextRow =>
    rw [List.mem_singleton.mp member]
    exact .fetched _
  | nextSet =>
    rw [List.mem_singleton.mp member]
    exact .advanced _

theorem Step.makes {stage : Stage backend} {session : Session backend}
    {ran : Ran backend (Except SqlError (Stage backend))} (step : context.Step stage session ran) :
    ∀ event ∈ ran.events, context.Makes event := by
  cases step with
  | awaited awaits => exact awaits.makes
  | convert => exact List.forall_mem_nil _

theorem Calls.makes {stage : Stage backend} {session finish : Session backend}
    {events : List (Event backend)} {result : Except SqlError (Stage backend)}
    (calls : context.Calls stage session events result finish) :
    ∀ event ∈ events, context.Makes event := by
  induction calls with
  | none => simp
  | failed step => exact step.makes
  | more step _ _ ih => exact List.forall_mem_append.mpr ⟨step.makes, ih⟩

end StatementContext

/-- A command as it is handed over to be run: what it runs with, the cap on its rows, what to make of
its result, the node that is to be replaced, and the session in which it is run. -/
structure CommandRun (backend : Backend) where
  control : Control
  context : StatementContext backend
  cap : Option Nat
  strategy : Strategy
  node : Node
  session : Session backend

namespace CommandRun

variable (run : CommandRun backend)

def ran : Ran backend (Finished Node) :=
  Execution.run run.control run.context.convert run.context.target run.context.command run.cap
    run.strategy run.node run.session

/-- The backend accepts the command. -/
def Accepted : Prop :=
  backend.check run.context.target.connection run.context.command run.session.state = .ok ()

/-- The first fetch from a cursor that has been opened for the command. -/
def firstFetch (cursor : backend.Cursor) :
    Ran backend (Reply (Fetched backend.Cursor backend.Row backend.size cursor)) :=
  Action.nextRow run.context.target.connection cursor (run.context.opened run.session).session

/-- The calls of a command that succeeds, the node that is its result, and the count of rows: those
that the connection says are affected, the first row of the cursor if it has one, or the rows that are
now in the node. -/
inductive Counts : List (Event backend) → Node → Nat → Prop where
  | affected {count : Nat} : run.strategy = .nonQuery →
      (run.context.executed run.session).value.answer = .ok count →
      Counts (run.context.executed run.session).events
        (.leaf run.node.name (.int (Int64.ofNat (min count 9223372036854775807)))) count
  | noRow {cursor after : backend.Cursor} {noLarger : backend.size after ≤ backend.size cursor} :
      run.strategy = .scalar → (run.context.opened run.session).value.answer = .ok cursor →
      (run.firstFetch cursor).value.answer = .ok (.exhausted after noLarger) →
      Counts ((run.context.opened run.session).events ++ (run.firstFetch cursor).events)
        (.leaf run.node.name .null) 0
  | firstRow {cursor after : backend.Cursor} {row : backend.Row}
      {smaller : backend.size after < backend.size cursor} {columns : List (String × Value)} :
      run.strategy = .scalar → (run.context.opened run.session).value.answer = .ok cursor →
      (run.firstFetch cursor).value.answer = .ok (.row row after smaller) →
      run.context.convert row = .ok columns →
      Counts ((run.context.opened run.session).events ++ (run.firstFetch cursor).events)
        (.leaf run.node.name ((columns.head?.map Prod.snd).getD .null)) 1
  | rows {calls : List (Event backend)} {rows : List Node} : run.strategy = .rows false →
      (∀ row ∈ rows, Rows.IsRow row) → Counts calls ⟨run.node.name, .null, rows⟩ rows.length
  | groups {calls : List (Event backend)} {sets : List (List Node)} : run.strategy = .rows true →
      (∀ set ∈ sets, ∀ row ∈ set, Rows.IsRow row) →
      Counts calls ⟨run.node.name, .null, sets.map .group⟩ sets.flatten.length

/-- The entry tells the truth about a command that has made the calls and has ended as given: the count
of its rows or the error that it returns, its parameters, and its text as far as texts are logged. -/
inductive Records (calls : List (Event backend)) : Finished Node → LogEntry → Prop where
  | executed {result : Node} {rows : Nat} {slow : Bool} {text : String} :
      run.Counts calls result rows →
      run.control.settings.Logs run.context.command.text text →
      Records calls ⟨result, .ok ()⟩
        (.executed slow run.control.operation run.context.command.parameters.length rows text)
  | cancelled {text : String} : run.control.settings.Logs run.context.command.text text →
      Records calls ⟨run.node.clear, .error .cancelled⟩ (.cancelled run.control.operation text)
  | failed {error : SqlError} {text : String} : error ≠ .cancelled →
      run.control.settings.Logs run.context.command.text text →
      Records calls ⟨run.node.clear, .error error⟩
        (.failed run.control.operation run.context.command.parameters.length text error)

theorem Records.isStatement {calls : List (Event backend)} {ended : Finished Node} {entry : LogEntry}
    (records : run.Records calls ended entry) : entry.isStatement = true := by
  cases records <;> rfl

/-- What the command comes to before the log is told of it. -/
def outcome : Ran backend (Except SqlError (Node × Nat)) :=
  Execution.runStrategy run.control run.context.convert run.context.target run.context.command run.cap
    run.strategy run.node.name run.session

variable {run}

/-- A statement that succeeds makes a node of its rows or their count, and the count is right. -/
theorem outcome_counts {result : Node} {rows : Nat}
    (given : run.outcome.value = .ok (result, rows)) :
    run.Counts run.outcome.events result rows := by
  suffices gives : Action.Gives run.session (fun given events => run.Counts events given.1 given.2)
      (Execution.runStrategy run.control run.context.convert run.context.target run.context.command
        run.cap run.strategy run.node.name) from gives (result, rows) given
  cases chosen : run.strategy with
  | nonQuery =>
    refine .await (fun _ => rfl) fun count answered => .ok ?_
    rw [List.append_nil]
    exact .affected chosen answered
  | scalar =>
    refine .await (fun _ => rfl) fun cursor answered => ?_
    refine (Execution.readScalar_counts cursor _).bind (fun _ => rfl) ?_
    rintro ⟨value, count⟩ ⟨events, ⟨after, noLarger, fetched, same⟩ |
      ⟨row, after, smaller, columns, fetched, converted, same⟩⟩
    · cases same
      refine .ok ?_
      rw [events, List.append_nil]
      exact .noRow chosen answered fetched
    · cases same
      refine .ok ?_
      rw [events, List.append_nil]
      exact .firstRow chosen answered fetched converted
  | rows multiple =>
    refine .await (fun _ => rfl) fun cursor answered => ?_
    refine (Rows.materialize_counts multiple cursor _).bind (fun _ => rfl) ?_
    rintro ⟨children, count⟩ counted
    refine .ok ?_
    cases multiple with
    | false =>
      obtain ⟨areRows, total⟩ := counted
      dsimp only at areRows total
      subst total
      exact .rows chosen areRows
    | true =>
      obtain ⟨sets, areRows, grouped, total⟩ := counted
      dsimp only at grouped total
      subst grouped total
      exact .groups chosen areRows

/-- The entry for a command tells the truth. -/
theorem entry_records :
    run.Records run.outcome.events (Execution.settled run.node run.outcome.value)
      (run.control.entry run.context.command (run.outcome.value.map Prod.snd)) := by
  have logged := run.control.settings.loggedText_logs run.context.command.text
  cases ended : run.outcome.value with
  | ok given => exact .executed (outcome_counts ended) logged
  | error error =>
    cases error with
    | cancelled => exact .cancelled logged
    | _ => exact .failed nofun logged

/-- A refused command leaves everything as it was, and the log is not told of it. -/
theorem ran_refused {error : SqlError}
    (refused : backend.check run.context.target.connection run.context.command run.session.state =
      .error error) : run.ran = ⟨⟨run.node, .error error⟩, [], run.session⟩ :=
  Execution.run_refused refused run.cap run.strategy run.node

/-- An accepted command makes its calls, and then the log is told the truth about it. -/
theorem ran_logged (accepted : run.Accepted) :
    ∃ calls entry, run.ran.events = calls ++ [.log entry] ∧
      (∀ event ∈ calls, run.context.Makes event) ∧ run.Records calls run.ran.value entry := by
  have ran : run.ran = ⟨Execution.settled run.node run.outcome.value,
      run.outcome.events ++
        [.log (run.control.entry run.context.command (run.outcome.value.map Prod.snd))],
      run.outcome.session⟩ :=
    Execution.run_accepted accepted run.cap run.strategy run.node
  obtain ⟨result, calls, -⟩ := StatementContext.Follows.runStrategy run.context run.control run.cap
    run.strategy run.node.name run.session
  rw [ran]
  exact ⟨run.outcome.events, _, rfl, calls.makes, entry_records⟩

end CommandRun

end QueryTree
