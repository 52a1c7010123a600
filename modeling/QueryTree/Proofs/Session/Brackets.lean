/-
This file proves that the transactions of a whole program, on whatever connections, are begun and ended
like brackets: at every moment each of those that are open is still to be ended, and once only.
-/
import QueryTree.Proofs.Session.Nesting

namespace QueryTree

variable {backend : Backend} {α : Type}

/-- What an event does to the transactions that are open, which are listed with their connections from
the inside: it begins another one, it ends the innermost one, or it leaves them alone. -/
inductive BracketStep :
    List (Target backend) → Event backend → List (Target backend) → Prop where
  | opened {place : Target backend} {event : Event backend} (places : List (Target backend)) :
      event.opened? = some place → BracketStep places event (place :: places)
  | closed {place : Target backend} {event : Event backend} (places : List (Target backend)) :
      event.closed? = some place → BracketStep (place :: places) event places
  | other {event : Event backend} (places : List (Target backend)) :
      event.opened? = none → event.closed? = none → BracketStep places event places

/-- The events begin and end transactions like brackets. -/
inductive Brackets :
    List (Target backend) → List (Event backend) → List (Target backend) → Prop where
  | nil (places : List (Target backend)) : Brackets places [] places
  | cons {before middle after : List (Target backend)} {event : Event backend}
      {rest : List (Event backend)} : BracketStep before event middle →
      Brackets middle rest after → Brackets before (event :: rest) after

/-- The events end the open transactions from the inside to the outside, each by one event, and between
these events no transaction is left open. -/
def Finalizes : List (Target backend) → List (Event backend) → Prop
  | [], events => Brackets [] events []
  | place :: places, events =>
      ∃ inside ending rest, events = inside ++ ending :: rest ∧ Brackets [] inside [] ∧
        ending.closed? = some place ∧ Finalizes places rest

/-- An event over an open transaction leaves it open, or ends it when there is none above it. -/
theorem BracketStep.overPlace {above base after : List (Target backend)} {place : Target backend}
    {event : Event backend} (step : BracketStep (above ++ place :: base) event after) :
    (∃ next, after = next ++ place :: base ∧ BracketStep above event next) ∨
      (above = [] ∧ event.closed? = some place ∧ after = base) := by
  generalize stacked : above ++ place :: base = places at step
  cases step with
  | opened _ opens =>
    subst stacked
    exact .inl ⟨_ :: above, rfl, .opened above opens⟩
  | other _ notOpened notClosed =>
    subst stacked
    exact .inl ⟨above, rfl, .other above notOpened notClosed⟩
  | closed _ closes =>
    cases above with
    | nil =>
      obtain ⟨rfl, rfl⟩ := List.cons.inj stacked
      exact .inr ⟨rfl, closes, rfl⟩
    | cons _ above =>
      obtain ⟨rfl, rfl⟩ := List.cons.inj stacked
      exact .inl ⟨above, rfl, .closed above closes⟩

/-- A step begins and ends what its event says. -/
theorem BracketStep.perm {before after : List (Target backend)} {event : Event backend}
    (step : BracketStep before event after) :
    (event.closed?.toList ++ after).Perm (event.opened?.toList ++ before) := by
  have apart := event.opened?_or_closed?
  cases step with
  | opened _ opens =>
    rw [opens] at apart ⊢
    rw [apart.resolve_left (Option.some_ne_none _)]
    rfl
  | closed _ closes =>
    rw [closes] at apart ⊢
    rw [apart.resolve_right (Option.some_ne_none _)]
    rfl
  | other _ notOpened notClosed => rw [notOpened, notClosed]

namespace Brackets

variable {places middle after : List (Target backend)} {first second events : List (Event backend)}

theorem once {event : Event backend} (step : BracketStep places event after) :
    Brackets places [event] after := .cons step (.nil after)

theorem append (run : Brackets places first middle) (next : Brackets middle second after) :
    Brackets places (first ++ second) after := by
  induction run with
  | nil => exact next
  | cons step _ ih => exact .cons step (ih next)

/-- What is ended by a run or open after it was begun by it or open before it. -/
theorem perm (run : Brackets places events after) :
    (Event.closed events ++ after).Perm (Event.opened events ++ places) := by
  induction run with
  | nil => rfl
  | cons step _ ih => exact Event.perm_cons step.perm ih

/-- Events that neither begin nor end a transaction leave the open ones as they are. -/
theorem of_calm {events : List (Event backend)}
    (calm : ∀ event ∈ events, event.opened? = none ∧ event.closed? = none)
    (places : List (Target backend)) : Brackets places events places := by
  induction events with
  | nil => exact .nil places
  | cons event rest ih =>
    rw [List.forall_mem_cons] at calm
    exact .cons (.other places calm.1.1 calm.1.2) (ih calm.2)

theorem split (run : Brackets places (first ++ second) after) :
    ∃ middle, Brackets places first middle ∧ Brackets middle second after := by
  induction first generalizing places with
  | nil => exact ⟨places, .nil places, run⟩
  | cons event rest ih =>
    cases run with
    | cons step run =>
      obtain ⟨middle, inner, outer⟩ := ih run
      exact ⟨middle, .cons step inner, outer⟩

/-- A run that leaves no transaction open ends an open one by one event. Until then it ends those above
it and whatever it begins itself. -/
theorem overPlace {above base : List (Target backend)} {place : Target backend}
    (run : Brackets (above ++ place :: base) events []) :
    ∃ inside ending rest, events = inside ++ ending :: rest ∧ Brackets above inside [] ∧
      ending.closed? = some place ∧ Brackets base rest [] := by
  induction events generalizing above with
  | nil =>
    generalize stacked : above ++ place :: base = places at run
    cases run
    simp at stacked
  | cons event events ih =>
    cases run with
    | cons step run =>
      rcases step.overPlace with ⟨next, rfl, inner⟩ | ⟨rfl, closes, rfl⟩
      · obtain ⟨inside, ending, rest, rfl, innerRun, closes, outerRun⟩ := ih run
        exact ⟨event :: inside, ending, rest, rfl, .cons inner innerRun, closes, outerRun⟩
      · exact ⟨[], event, events, rfl, .nil [], closes, run⟩

/-- Transactions that are open in a run that leaves none open are finalized. -/
theorem finalizes (run : Brackets places events []) : Finalizes places events := by
  induction places generalizing events with
  | nil => exact run
  | cons place places ih =>
    have stacked : Brackets ([] ++ place :: places) events [] := run
    obtain ⟨inside, ending, rest, parted, inner, closes, outer⟩ := stacked.overPlace
    exact ⟨inside, ending, rest, parted, inner, closes, ih outer⟩

end Brackets

namespace RunLaw

/-- The transactions of a run are begun and ended like brackets, and the open scopes stay the same. -/
def brackets (backend : Backend) : RunLaw backend where
  holds start events finish :=
    finish.frames = start.frames ∧ ∀ places, Brackets places events places
  idle _ := ⟨rfl, .nil⟩
  sequence first second :=
    ⟨second.1.trans first.1, fun places => (first.2 places).append (second.2 places)⟩

theorem brackets_call {connection : Nat}
    {serve : backend.State → Served backend.State backend.Observation α}
    {describe : α → Call backend}
    (calm : ∀ answer seen, (Event.call connection (describe answer) seen).opened? = none ∧
      (Event.call connection (describe answer) seen).closed? = none) :
    (brackets backend).Of (Action.call connection serve describe) := by
  intro session
  refine ⟨rfl, .of_calm fun event member => ?_⟩
  rw [List.mem_singleton.mp member]
  exact calm _ _

/-- Statements neither begin nor end a transaction. -/
theorem brackets_statements (control : Control) (target : Target backend) :
    (brackets backend).Statements control target where
  executes _ := of_await _ (brackets_call fun _ _ => ⟨rfl, rfl⟩)
  opens _ := of_await _ (brackets_call fun _ _ => ⟨rfl, rfl⟩)
  fetches _ := of_await _ (brackets_call fun _ _ => ⟨rfl, rfl⟩)
  advances _ := of_await _ (brackets_call fun _ _ => ⟨rfl, rfl⟩)
  logs _ _ _ := ⟨rfl, fun places => .once (.other places rfl rfl)⟩

end RunLaw

namespace Scope

/-- A transaction is ended whatever the outcome of its work is. -/
theorem finish_brackets (name : String) (connection : Nat) (savepoint : Bool)
    (tx : backend.Transaction) (outcome : Except SqlError Unit) (session : Session backend)
    (places : List (Target backend)) :
    Brackets (⟨connection, some tx⟩ :: places)
      (finish name connection savepoint tx outcome session).events places := by
  have noted (entries : List LogEntry) : Brackets places (entries.map Event.log) places := by
    refine .of_calm (fun event member => ?_) places
    obtain ⟨entry, -, rfl⟩ := List.mem_map.mp member
    exact ⟨rfl, rfl⟩
  cases outcome with
  | ok =>
    rw [finish_ok]
    refine .cons (.closed places rfl) ?_
    cases (Action.commit connection tx session).value with
    | ok => exact noted [_]
    | error => exact noted []
  | error error =>
    rw [finish_error]
    exact .cons (.closed places rfl) (noted [_])

end Scope

namespace RunLaw

theorem brackets_transaction (name : String) (connection : Nat) (undone : α)
    {work : Action backend (Finished α)} (kept : (brackets backend).Of work) :
    (brackets backend).Of (Scope.transaction name connection undone work) := by
  intro session
  refine ⟨Scope.transaction_frames name connection undone (fun session => (kept session).1) session,
    fun places => ?_⟩
  cases started : (Scope.begun name connection session).value with
  | error error =>
    rw [Scope.transaction_refused started, Scope.begun_events, started]
    exact .once (.other places rfl rfl)
  | ok tx =>
    have inner := (kept (Scope.inside name connection tx session)).2 (⟨connection, some tx⟩ :: places)
    rw [Scope.transaction_begun started undone work (kept _).1, Scope.begun_events, started]
    exact .cons (.opened places rfl) (.cons (.other _ rfl rfl) (inner.append (Scope.finish_brackets ..)))

theorem brackets_withConnection (name : String) (connection : Nat) {work : Action backend α}
    (kept : (brackets backend).Of work) :
    (brackets backend).Of (Scope.withConnection name connection work) := by
  intro session
  refine ⟨Scope.withConnection_frames name connection (fun session => (kept session).1) session, ?_⟩
  rw [Scope.withConnection_apply]
  exact (kept _).2

/-- Every program begins and ends its transactions like brackets. -/
theorem brackets_performs (engine : Engine backend) : (brackets backend).Performs engine where
  statements name target := brackets_statements (engine.control name) target
  transactions name connection undone _ kept := brackets_transaction name connection undone kept
  connections name connection _ kept := brackets_withConnection name connection kept
  alone kept session := ⟨rfl, (kept (session.within [])).2⟩
  reports _ _ := ⟨rfl, fun places => .once (.other places rfl rfl)⟩
  cancels _ := ⟨rfl, .nil⟩

end RunLaw

end QueryTree
