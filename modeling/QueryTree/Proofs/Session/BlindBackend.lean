/-
This file compares two runs on a backend that does not look at the values of parameters: runs that
differ in these values only give the same results and make the same calls.
-/
import QueryTree.Proofs.Session.CommandRun
import QueryTree.Proofs.Session.MaskedDemand
import QueryTree.Proofs.Session.RunLaw

namespace QueryTree

/-- Two calls are answered alike: with the same answer, in states that are alike. -/
structure Served.Alike {State Observation α : Type} (alike : State → State → Prop)
    (first second : Served State Observation α) : Prop where
  answer : first.answer = second.answer
  state : alike first.state second.state
  cancels : first.cancels = second.cancels

theorem Served.Alike.flip {State Observation α : Type} {alike : State → State → Prop}
    {first second : Served State Observation α}
    (served : Served.Alike (fun first second => alike second first) first second) :
    Served.Alike alike second first :=
  ⟨served.answer.symm, served.state, served.cancels.symm⟩

/-- A backend whose answers do not depend on the values of parameters. States are alike when no call
tells them apart; calls that agree up to these values are answered alike in them. -/
structure Backend.Blind (backend : Backend) where
  alike : backend.State → backend.State → Prop
  refl : ∀ state, alike state state
  begin : ∀ {first second}, alike first second → ∀ connection parent,
    (backend.begin connection parent first).Alike alike (backend.begin connection parent second)
  commit : ∀ {first second}, alike first second → ∀ connection tx,
    (backend.commit connection tx first).Alike alike (backend.commit connection tx second)
  rollback : ∀ {first second}, alike first second → ∀ connection tx,
    (backend.rollback connection tx first).Alike alike (backend.rollback connection tx second)
  execute : ∀ {first second}, alike first second → ∀ {command other : Command},
    command.mask = other.mask → ∀ connection tx,
    (backend.execute connection command tx first).Alike alike
      (backend.execute connection other tx second)
  openCursor : ∀ {first second}, alike first second → ∀ {command other : Command},
    command.mask = other.mask → ∀ connection tx,
    (backend.openCursor connection command tx first).Alike alike
      (backend.openCursor connection other tx second)
  nextRow : ∀ {first second}, alike first second → ∀ connection cursor,
    (backend.nextRow connection cursor first).Alike alike (backend.nextRow connection cursor second)
  nextSet : ∀ {first second}, alike first second → ∀ connection cursor,
    (backend.nextSet connection cursor first).Alike alike (backend.nextSet connection cursor second)
  check : ∀ {first second}, alike first second → ∀ {command other : Command},
    command.mask = other.mask → ∀ connection,
    backend.check connection command first = backend.check connection other second

variable {backend : Backend} {α β γ δ : Type}

/-- A call without the values of its parameters. -/
def Call.mask : Call backend → Call backend
  | execute command tx reply => execute command.mask tx reply
  | openCursor command tx reply => openCursor command.mask tx reply
  | call => call

/-- An event without the values of parameters; what is seen of a call from outside may hold them. -/
def Event.mask : Event backend → Event backend
  | call connection made _ => call connection made.mask []
  | event => event

namespace Backend.Blind

variable (blind : backend.Blind)

/-- Sessions that are alike: the same scopes are open, and no call tells their states apart. -/
structure Sessions (first second : Session backend) : Prop where
  state : blind.alike first.state second.state
  frames : first.frames = second.frames
  cancelled : first.cancelled = second.cancelled

theorem Sessions.refl (session : Session backend) : blind.Sessions session session :=
  ⟨blind.refl session.state, rfl, rfl⟩

/-- The two runs are exchanged. -/
def flip : backend.Blind where
  alike first second := blind.alike second first
  refl := blind.refl
  begin alike connection parent := (blind.begin alike connection parent).flip
  commit alike connection tx := (blind.commit alike connection tx).flip
  rollback alike connection tx := (blind.rollback alike connection tx).flip
  execute alike _ _ masked connection tx := (blind.execute alike masked.symm connection tx).flip
  openCursor alike _ _ masked connection tx :=
    (blind.openCursor alike masked.symm connection tx).flip
  nextRow alike connection cursor := (blind.nextRow alike connection cursor).flip
  nextSet alike connection cursor := (blind.nextSet alike connection cursor).flip
  check alike _ _ masked connection := (blind.check alike masked.symm connection).symm

variable {blind} in
theorem Sessions.flip {first second : Session backend} (alike : blind.Sessions first second) :
    blind.flip.Sessions second first :=
  ⟨alike.state, alike.frames.symm, alike.cancelled.symm⟩

/-- Two runs with related values and the same events, up to the values of parameters. -/
structure Runs (related : α → β → Prop) (first : Ran backend α) (second : Ran backend β) :
    Prop where
  value : related first.value second.value
  events : first.events.map Event.mask = second.events.map Event.mask
  session : blind.Sessions first.session second.session

/-- Two actions whose runs agree whenever the sessions before them are alike. -/
def Agree (related : α → β → Prop) (first : Action backend α) (second : Action backend β) : Prop :=
  ∀ ⦃start other : Session backend⦄, blind.Sessions start other →
    blind.Runs related (first start) (second other)

/-- Two runs that leave the same of their nodes, or nothing but the nodes as they were. -/
structure Leaves (node other : Node) (first second : Ran backend (Finished Node)) : Prop extends
    blind.Runs (fun done result => done.outcome = result.outcome) first second where
  content : first.value.content = second.value.content ∨
    first.events = [] ∧ first.value.content = node ∧ second.value.content = other

variable {blind}

namespace Agree

theorem pure {related : α → β → Prop} {first : α} {second : β} (holds : related first second) :
    blind.Agree related (Pure.pure first) (Pure.pure second) :=
  fun _ _ alike => ⟨holds, rfl, alike⟩

/-- Actions in sequence agree when their parts do. -/
theorem bind {related : α → β → Prop} {ending : γ → δ → Prop} {first : Action backend α}
    {second : Action backend β} {next : α → Action backend γ} {other : β → Action backend δ}
    (begun : blind.Agree related first second)
    (ended : ∀ {value result}, related value result →
      blind.Agree ending (next value) (other result)) :
    blind.Agree ending (first >>= next) (second >>= other) := by
  intro start other alike
  obtain ⟨value, events, session⟩ := begun alike
  have rest := ended value session
  refine ⟨rest.value, ?_, rest.session⟩
  simp only [Action.bind_apply, List.map_append, events, rest.events]

theorem session : blind.Agree blind.Sessions Action.session Action.session :=
  fun _ _ alike => ⟨alike, rfl, alike⟩

theorem log {entry other : LogEntry} (same : entry = other) :
    blind.Agree Eq (Action.log entry) (Action.log other) :=
  fun _ _ alike => ⟨rfl, by rw [same]; rfl, alike⟩

/-- Calls agree that are answered alike and are the same up to the values of parameters. -/
theorem call {connection : Nat}
    {serve other : backend.State → Served backend.State backend.Observation α}
    {describe tell : α → Call backend}
    (served : ∀ {first second}, blind.alike first second →
      (serve first).Alike blind.alike (other second))
    (described : ∀ answer, (describe answer).mask = (tell answer).mask) :
    blind.Agree Eq (Action.call connection serve describe) (Action.call connection other tell) := by
  intro start after alike
  obtain ⟨answer, state, cancels⟩ := served alike.state
  refine ⟨answer, ?_, state, alike.frames, ?_⟩
  · simp [Action.call, Event.mask, answer, described]
  · simp only [Action.call, alike.cancelled, cancels]

theorem interrupted (control : Control) :
    blind.Agree Eq control.interrupted control.interrupted :=
  session.bind fun alike => pure (by rw [alike.cancelled])

theorem await (control : Control) (timed : Bool) {first second : Action backend (Reply α)}
    (agree : blind.Agree Eq first second) :
    blind.Agree Eq (control.await timed first) (control.await timed second) := by
  apply (interrupted control).bind
  rintro stopped _ rfl
  cases stopped with
  | true => exact pure rfl
  | false =>
    apply agree.bind
    rintro reply _ rfl
    exact (interrupted control).bind fun same => pure (by rw [same])

end Agree

/-- To agree with itself is a property of actions. -/
def repeats (blind : backend.Blind) : ActionLaw backend where
  Of action := blind.Agree Eq action action
  of_pure _ := .pure rfl
  of_bind begun ended := begun.bind fun same => same ▸ ended _

/-- Cursors deliver the same in sessions that are alike. -/
theorem fetches (blind : backend.Blind) (control : Control) (connection : Nat) :
    blind.repeats.Fetches control connection where
  row cursor := .await control false
    (.call (fun alike => blind.nextRow alike connection cursor) fun _ => rfl)
  set cursor := .await control false
    (.call (fun alike => blind.nextSet alike connection cursor) fun _ => rfl)

section Commands

variable {command other : Command} (masked : command.mask = other.mask) (control : Control)
  (convert : RowConverter backend) (target : Target backend)

include masked

/-- Commands that differ in the values of parameters only are logged in the same way. -/
theorem entry_mask (outcome : Except SqlError Nat) :
    control.entry command outcome = control.entry other outcome := by
  have text : command.mask.text = other.mask.text := congrArg Command.text masked
  change command.text = other.text at text
  have count : command.mask.parameters.length = other.mask.parameters.length := by rw [masked]
  rw [Command.mask, Command.mask, maskParameters, maskParameters, List.length_map,
    List.length_map] at count
  unfold Control.entry
  rw [text, count]

/-- Commands that differ in the values of parameters only have the same result. -/
theorem runStrategy_agree (cap : Option Nat) (strategy : Strategy) (name : String) :
    blind.Agree Eq (Execution.runStrategy control convert target command cap strategy name)
      (Execution.runStrategy control convert target other cap strategy name) := by
  have executed : blind.Agree Eq
      (control.await true (Action.execute target.connection command target.transaction))
      (control.await true (Action.execute target.connection other target.transaction)) :=
    .await control true (.call (fun alike => blind.execute alike masked _ _) fun reply =>
      congrArg (Call.execute · target.transaction reply) masked)
  have opened : blind.Agree Eq
      (control.await true (Action.openCursor target.connection command target.transaction))
      (control.await true (Action.openCursor target.connection other target.transaction)) :=
    .await control true (.call (fun alike => blind.openCursor alike masked _ _) fun reply =>
      congrArg (Call.openCursor · target.transaction reply) masked)
  cases strategy with
  | nonQuery =>
    apply executed.bind
    rintro affected _ rfl
    cases affected <;> exact .pure rfl
  | scalar =>
    apply opened.bind
    rintro cursor _ rfl
    cases cursor with
    | error => exact .pure rfl
    | ok cursor =>
      apply ((blind.fetches control target.connection).readScalar convert cursor).bind
      rintro value _ rfl
      rcases value with error | ⟨value, rows⟩ <;> exact .pure rfl
  | rows multiple =>
    apply opened.bind
    rintro cursor _ rfl
    cases cursor with
    | error => exact .pure rfl
    | ok cursor =>
      apply ((blind.fetches control target.connection).materialize convert multiple cap cursor).bind
      rintro children _ rfl
      rcases children with error | ⟨children, rows⟩ <;> exact .pure rfl

/-- Two commands that differ in the values of parameters only leave the same of nodes of one name, or
both are refused and leave the nodes as they are. -/
theorem run_leaves {start after : Session backend} (alike : blind.Sessions start after)
    (cap : Option Nat) (strategy : Strategy) {node replaced : Node}
    (named : node.name = replaced.name) :
    blind.Leaves node replaced
      (Execution.run control convert target command cap strategy node start)
      (Execution.run control convert target other cap strategy replaced after) := by
  have checked := blind.check alike.state masked target.connection
  cases accepted : backend.check target.connection command start.state with
  | error error =>
    rw [Execution.run_refused accepted, Execution.run_refused (checked ▸ accepted)]
    exact ⟨⟨rfl, rfl, alike⟩, .inr ⟨rfl, rfl, rfl⟩⟩
  | ok =>
    have runs := runStrategy_agree masked control convert target cap strategy node.name alike
    rw [Execution.run_accepted accepted, Execution.run_accepted (checked ▸ accepted), ← named,
      ← runs.value, Execution.settled_congr named]
    refine ⟨⟨rfl, ?_, runs.session⟩, .inl rfl⟩
    simp only [List.map_append, runs.events, entry_mask masked]

end Commands

end Backend.Blind

end QueryTree
