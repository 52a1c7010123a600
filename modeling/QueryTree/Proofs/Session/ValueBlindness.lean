/-
This file proves that the values which a request binds decide nothing but what is bound: requests
that differ in these values only are compiled, served and logged in the same way.
-/
import QueryTree.Proofs.Session.BlindBackend
import QueryTree.Proofs.Session.ScopeOutcome

namespace QueryTree

variable {backend : Backend} {blind : backend.Blind} {α β : Type}

/-- Two results with the same outcome and related contents. -/
def Finished.Related (related : α → β → Prop) (first : Finished α) (second : Finished β) : Prop :=
  first.outcome = second.outcome ∧ related first.content second.content

theorem Session.parent_congr {first second : Session backend} (same : first.frames = second.frames)
    (name : String) (connection : Nat) :
    first.parent? name connection = second.parent? name connection := by
  simp only [parent?, lookup, frame?, same]

namespace Backend.Blind.Agree

theorem pushFrame (frame : Frame backend) :
    blind.Agree Eq (Action.pushFrame frame) (Action.pushFrame frame) :=
  fun _ _ alike => ⟨rfl, rfl, alike.state, congrArg (frame :: ·) alike.frames, alike.cancelled⟩

theorem popFrame :
    blind.Agree Eq (@Action.popFrame backend) (@Action.popFrame backend) :=
  fun _ _ alike =>
    ⟨congrArg List.head? alike.frames, rfl, alike.state, congrArg List.tail alike.frames,
      alike.cancelled⟩

/-- A scope is ended in the same way after the same outcome. -/
theorem finish (name : String) (connection : Nat) (savepoint : Bool) (tx : backend.Transaction)
    (outcome : Except SqlError Unit) :
    blind.Agree Eq (Scope.finish name connection savepoint tx outcome)
      (Scope.finish name connection savepoint tx outcome) := by
  cases outcome with
  | ok =>
    apply (call (fun alike => blind.commit alike connection tx) fun _ => rfl).bind
    rintro answer _ rfl
    cases answer with
    | error => exact pure rfl
    | ok => exact (log rfl).bind fun _ => pure rfl
  | error error =>
    apply (call (fun alike => blind.rollback alike connection tx) fun _ => rfl).bind
    rintro answer _ rfl
    cases answer with
    | error => exact (log rfl).bind fun _ => pure rfl
    | ok => exact (log rfl).bind fun _ => pure rfl

/-- Scopes around work that agrees agree. -/
theorem transaction {related : α → β → Prop} {undone : α} {other : β}
    {work : Action backend (Finished α)} {working : Action backend (Finished β)}
    (name : String) (connection : Nat) (refused : related undone other)
    (agree : blind.Agree (Finished.Related related) work working) :
    blind.Agree (Finished.Related related) (Scope.transaction name connection undone work)
      (Scope.transaction name connection other working) := by
  apply session.bind
  intro start after alike
  have parent := Session.parent_congr alike.frames name connection
  dsimp only
  rw [parent]
  apply (call (fun alike => blind.begin alike connection _) fun _ => rfl).bind
  rintro begun _ rfl
  cases begun with
  | error => exact pure ⟨rfl, refused⟩
  | ok tx =>
    refine (log rfl).bind fun _ => (pushFrame _).bind fun _ => agree.bind ?_
    rintro done result ⟨outcome, content⟩
    apply popFrame.bind
    rintro frame _ rfl
    cases frame.bind Frame.transaction with
    | none => exact pure ⟨outcome, content⟩
    | some tx =>
      dsimp only
      rw [outcome]
      exact (finish ..).bind fun same => pure ⟨same, content⟩

end Backend.Blind.Agree

namespace Engine.Demand

/-- Only a request that asks for its text is given it. -/
theorem ofRequest_generated {dialect : Dialect} {kind : StatementKind} {node : Node}
    {statement : CompiledStatement}
    (demanded : ofRequest dialect kind node = .ok (.generated statement)) :
    node.isGenerateOnly = .ok true := by
  obtain ⟨compiled, -, demanded⟩ := bind_ok demanded
  obtain ⟨asked, read, demanded⟩ := bind_ok demanded
  cases asked with
  | true => exact read
  | false =>
    cases kind with
    | select =>
      obtain ⟨multiple, -, demanded⟩ := bind_ok demanded
      cases demanded
    | insert => cases demanded
    | update => cases demanded
    | delete => cases demanded

/-- Only a node that asks for a text is given it. -/
theorem ofNode?_generated {dialect : Dialect} {node : Node} {statement : CompiledStatement}
    (demanded : ofNode? dialect node = some (.ok (.generated statement))) :
    node.asksForText dialect = true := by
  obtain ⟨name, value, children⟩ := node
  unfold ofNode? at demanded
  unfold Node.asksForText
  cases named : Operation.parse dialect name with
  | error =>
    simp only [named] at demanded
    cases demanded
  | ok operation =>
    simp only [named] at demanded
    cases operation with
    | transaction => cases demanded
    | select =>
      obtain ⟨multiple, -, read⟩ := bind_ok (Option.some.inj demanded)
      obtain ⟨command, -, read⟩ := bind_ok read
      cases read
    | scalar =>
      obtain ⟨command, -, read⟩ := bind_ok (Option.some.inj demanded)
      cases read
    | execute =>
      obtain ⟨command, -, read⟩ := bind_ok (Option.some.inj demanded)
      cases read
    | compiled kind =>
      dsimp only
      rw [ofRequest_generated (Option.some.inj demanded)]

end Engine.Demand

namespace Engine

variable (engine : Engine backend)

/-- Transactions of an engine around work that agrees agree. -/
theorem inTransaction_agree {related : α → β → Prop} {undone : α} {other : β}
    {work : Action backend (Finished α)} {working : Action backend (Finished β)}
    (refused : related undone other) (agree : blind.Agree (Finished.Related related) work working) :
    blind.Agree (Finished.Related related) (engine.inTransaction undone work)
      (engine.inTransaction other working) := by
  intro start after alike
  rw [engine.inTransaction_apply, engine.inTransaction_apply, ← engine.target_congr alike.frames]
  cases engine.target start with
  | error error => exact ⟨⟨rfl, refused⟩, rfl, alike⟩
  | ok target =>
    exact Backend.Blind.Agree.transaction engine.scope target.connection refused agree alike

/-- Demands that differ in bound values only are served in the same way: the same is left of nodes of
one name, or a text that is asked for is given without any call. -/
theorem serve_leaves {demand other : Except RequestFault Demand}
    (masked : Demand.mask <$> demand = Demand.mask <$> other) {node replaced : Node}
    (named : node.name = replaced.name) {start after : Session backend}
    (alike : blind.Sessions start after) :
    blind.Runs (fun done result => done.outcome = result.outcome)
        (engine.serve demand node start) (engine.serve other replaced after) ∧
      (blind.Leaves node replaced (engine.serve demand node start)
          (engine.serve other replaced after) ∨
        (engine.serve demand node start).events = [] ∧
          ∃ statement, demand = .ok (.generated statement)) := by
  have unchanged {error : SqlError} : blind.Leaves node replaced
      ⟨⟨node, .error error⟩, [], start⟩ ⟨⟨replaced, .error error⟩, [], after⟩ :=
    ⟨⟨rfl, rfl, alike⟩, .inr ⟨rfl, rfl, rfl⟩⟩
  rw [engine.serve_apply, engine.serve_apply]
  rcases demand with fault | (statement | ⟨command, cap, strategy⟩)
  · rcases other with fault | demand
    · cases masked
      exact ⟨unchanged.toRuns, .inl unchanged⟩
    · cases masked
  · rcases other with fault | (statement | plan)
    · cases masked
    · exact ⟨⟨rfl, rfl, alike⟩, .inr ⟨rfl, _, rfl⟩⟩
    · cases masked
  · rcases other with fault | (statement | ⟨instead, bound, way⟩)
    · cases masked
    · cases masked
    · have plans := Demand.planned.inj (Except.ok.inj masked)
      obtain ⟨commands, rfl, rfl⟩ := Plan.mk.inj plans
      dsimp only
      rw [← engine.target_congr alike.frames]
      cases engine.target start with
      | error error => exact ⟨unchanged.toRuns, .inl unchanged⟩
      | ok target =>
        have leaves := Backend.Blind.run_leaves commands (engine.control node.name) engine.convert
          target alike cap strategy named
        rw [← named]
        exact ⟨leaves.toRuns, .inl leaves⟩

/-- Two nodes of which the same is left demand the same, up to the values to bind, or the same
unknown operation. -/
theorem invoke_demands {first second : Node}
    (same : first.mask engine.settings.dialect = second.mask engine.settings.dialect)
    (other : Operation.parse engine.settings.dialect first.name ≠ .ok .transaction) :
    (∃ error, engine.invoke first = pure ⟨first, .error error⟩ ∧
        engine.invoke second = pure ⟨second, .error error⟩) ∨
      ∃ demand instead, engine.invoke first = engine.serve demand first ∧
        engine.invoke second = engine.serve instead second ∧
        Demand.mask <$> demand = Demand.mask <$> instead ∧
        ∀ statement, demand = .ok (.generated statement) →
          first.asksForText engine.settings.dialect = true := by
  have names := congrArg Node.name same
  rw [Node.mask_name, Node.mask_name] at names
  have masked : (Demand.ofNode? engine.settings.dialect first).map (Demand.mask <$> ·) =
      (Demand.ofNode? engine.settings.dialect second).map (Demand.mask <$> ·) := by
    rw [← Demand.ofNode?_mask, same, Demand.ofNode?_mask]
  cases demanded : Demand.ofNode? engine.settings.dialect first with
  | none =>
    cases demandedToo : Demand.ofNode? engine.settings.dialect second with
    | none =>
      have unknown := (engine.invoke_undemanded (names ▸ other) demandedToo).2
      exact .inl ⟨_, (engine.invoke_undemanded other demanded).2, names ▸ unknown⟩
    | some instead => simp [demanded, demandedToo] at masked
  | some demand =>
    cases demandedToo : Demand.ofNode? engine.settings.dialect second with
    | none => simp [demanded, demandedToo] at masked
    | some instead =>
      rw [demanded, demandedToo] at masked
      refine .inr ⟨demand, instead, engine.invoke_demanded demanded,
        engine.invoke_demanded demandedToo, Option.some.inj masked, ?_⟩
      rintro statement rfl
      exact Demand.ofNode?_generated demanded

/-- What is left of nodes agrees in two runs that serve statements. -/
theorem invoke_leaves {first second : Node}
    (same : first.mask engine.settings.dialect = second.mask engine.settings.dialect)
    (other : Operation.parse engine.settings.dialect first.name ≠ .ok .transaction)
    {start after : Session backend} (alike : blind.Sessions start after) :
    blind.Runs (fun done result => done.outcome = result.outcome)
        (engine.invoke first start) (engine.invoke second after) ∧
      (blind.Leaves first second (engine.invoke first start) (engine.invoke second after) ∨
        (engine.invoke first start).events = [] ∧
          first.asksForText engine.settings.dialect = true) := by
  have names := congrArg Node.name same
  rw [Node.mask_name, Node.mask_name] at names
  obtain ⟨error, one, two⟩ | ⟨demand, instead, one, two, masked, asked⟩ :=
    engine.invoke_demands same other
  · have leaves : blind.Leaves first second ⟨⟨first, .error error⟩, [], start⟩
        ⟨⟨second, .error error⟩, [], after⟩ := ⟨⟨rfl, rfl, alike⟩, .inr ⟨rfl, rfl, rfl⟩⟩
    rw [one, two]
    exact ⟨leaves.toRuns, .inl leaves⟩
  · rw [one, two]
    obtain ⟨runs, leaves | ⟨silent, statement, demanded⟩⟩ := engine.serve_leaves masked names alike
    · exact ⟨runs, .inl leaves⟩
    · exact ⟨runs, .inr ⟨silent, asked statement demanded⟩⟩

mutual

/-- Requests that differ in bound values only are served in the same way, by induction on the tree. -/
theorem invoke_agree (blind : backend.Blind) : ∀ first second : Node,
    first.mask engine.settings.dialect = second.mask engine.settings.dialect →
    blind.Agree (Finished.Related fun content other =>
        first.asksForText engine.settings.dialect = false →
          content.mask engine.settings.dialect = other.mask engine.settings.dialect)
      (engine.invoke first) (engine.invoke second)
  | ⟨name, value, children⟩, ⟨_, otherValue, others⟩, same => by
    intro start after alike
    have names := congrArg Node.name same
    rw [Node.mask_name, Node.mask_name] at names
    cases names
    by_cases named : Operation.parse engine.settings.dialect name = .ok .transaction
    · rw [Node.mask_transaction named, Node.mask_transaction named] at same
      obtain ⟨-, rfl, inner⟩ := Node.mk.inj same
      have done := engine.inTransaction_agree (fun _ => inner)
        (invokeAll_agree blind children others inner) alike
      have first : Operation.parse engine.settings.dialect (Node.mk name value children).name =
          .ok .transaction := named
      have second : Operation.parse engine.settings.dialect (Node.mk name value others).name =
          .ok .transaction := named
      rw [engine.invoke_transaction first, engine.invoke_transaction second]
      refine ⟨⟨done.value.1, fun unasked => ?_⟩, done.events, done.session⟩
      rw [Node.asksForText, named] at unasked
      dsimp only
      rw [Node.mask_transaction named, Node.mask_transaction named, done.value.2 unasked]
    · obtain ⟨runs, leaves | ⟨-, asked⟩⟩ := engine.invoke_leaves same named alike
      · refine ⟨⟨runs.value, fun _ => ?_⟩, runs.events, runs.session⟩
        obtain equal | ⟨-, one, two⟩ := leaves.content
        · rw [equal]
        · rw [one, two, same]
      · refine ⟨⟨runs.value, fun unasked => ?_⟩, runs.events, runs.session⟩
        rw [asked] at unasked
        cases unasked

theorem invokeAll_agree (blind : backend.Blind) : ∀ first second : List Node,
    Node.maskAll engine.settings.dialect first = Node.maskAll engine.settings.dialect second →
    blind.Agree (Finished.Related fun content other =>
        Node.anyAsksForText engine.settings.dialect first = false →
          Node.maskAll engine.settings.dialect content = Node.maskAll engine.settings.dialect other)
      (engine.invokeAll first) (engine.invokeAll second)
  | [], [], _ => .pure ⟨rfl, fun _ => rfl⟩
  | [], _ :: _, same => by cases same
  | _ :: _, [], same => by cases same
  | first :: rest, second :: others, same => by
    obtain ⟨heads, tails⟩ := List.cons.inj same
    unfold Engine.invokeAll Node.anyAsksForText
    apply (invoke_agree blind first second heads).bind
    rintro ⟨content, outcome⟩ ⟨result, _⟩ ⟨rfl, left⟩
    cases outcome with
    | error error =>
      refine .pure ⟨rfl, fun unasked => ?_⟩
      obtain ⟨unasked, -⟩ := Bool.or_eq_false_iff.mp unasked
      rw [Node.maskAll, Node.maskAll, left unasked, tails]
    | ok =>
      apply (invokeAll_agree blind rest others tails).bind
      rintro ⟨contents, outcome⟩ ⟨results, _⟩ ⟨rfl, behind⟩
      refine .pure ⟨rfl, fun unasked => ?_⟩
      obtain ⟨unasked, noneAsked⟩ := Bool.or_eq_false_iff.mp unasked
      rw [Node.maskAll, Node.maskAll, left unasked, behind noneAsked]

end

end Engine

end QueryTree
