/-
This file finds the nodes of a request whose statements are executed, and proves that the values
which the request binds are seen in none of them.
-/
import QueryTree.Proofs.Session.ValueBlindness

namespace QueryTree

variable {backend : Backend}

/-- The node at a path of positions. -/
def Node.at? (node : Node) : List Nat → Option Node
  | [] => some node
  | index :: path => node.children[index]?.bind (·.at? path)

/-- The statement of the node at a path is executed: something happens when a statement is served, or
the node is executed in the transaction that a node begins. -/
inductive Engine.Executed (engine : Engine backend) : Node → Session backend → List Nat → Prop where
  | here {node : Node} {session : Session backend} :
      Operation.parse engine.settings.dialect node.name ≠ .ok .transaction →
      (engine.invoke node session).events ≠ [] → Executed engine node session []
  | inside {node : Node} {session : Session backend} {target : Target backend}
      {tx : backend.Transaction} {index : Nat} {serving : Serving backend} {path : List Nat} :
      Engine.Begins engine node session target tx →
      (engine.childServings node session target tx)[index]? = some serving →
      Executed engine serving.node serving.start path → Executed engine node session (index :: path)

/-- Scripts do not look at the values of parameters. -/
def Scripted.blind : Scripted.backend.Blind where
  alike := Eq
  refl _ := rfl
  begin same _ _ := same ▸ ⟨rfl, rfl, rfl⟩
  commit same _ _ := same ▸ ⟨rfl, rfl, rfl⟩
  rollback same _ _ := same ▸ ⟨rfl, rfl, rfl⟩
  execute same _ _ _ _ _ := same ▸ ⟨rfl, rfl, rfl⟩
  openCursor same _ _ _ _ _ := same ▸ ⟨rfl, rfl, rfl⟩
  nextRow same _ _ := same ▸ ⟨rfl, rfl, rfl⟩
  nextSet same _ _ := same ▸ ⟨rfl, rfl, rfl⟩
  check same command other masked number := by
    subst same
    have sets : command.mask.multipleResultSets = other.mask.multipleResultSets := by rw [masked]
    have bound : command.mask.parameters.isEmpty = other.mask.parameters.isEmpty := by rw [masked]
    simp only [Command.mask, maskParameters, List.isEmpty_map] at sets bound
    change check number command _ = check number other _
    simp only [check, sets, bound]

namespace Engine

variable (engine : Engine backend) {blind : backend.Blind}

/-- Two servings of nodes of which the same is left, in sessions that are alike. -/
structure ServedAlike (blind : backend.Blind) (first second : Serving backend) : Prop where
  node : first.node.mask engine.settings.dialect = second.node.mask engine.settings.dialect
  start : blind.Sessions first.start second.start

/-- Nodes of which the same is left are served one by one in the same way. -/
theorem servings_alike : ∀ {first second : List Node},
    Node.maskAll engine.settings.dialect first = Node.maskAll engine.settings.dialect second →
    ∀ {start after : Session backend}, blind.Sessions start after →
      List.Forall₂ (engine.ServedAlike blind) (engine.servings first start)
        (engine.servings second after)
  | [], [], _, _, _, _ => .nil
  | [], _ :: _, same, _, _, _ => by cases same
  | _ :: _, [], same, _, _, _ => by cases same
  | first :: rest, second :: others, same, start, after, alike => by
    obtain ⟨heads, tails⟩ := List.cons.inj same
    have runs := engine.invoke_agree blind first second heads alike
    have outcomes := runs.value.1
    cases outcome : (engine.invoke first start).value.outcome with
    | error error =>
      rw [engine.servings_failed outcome, engine.servings_failed (outcomes ▸ outcome)]
      exact .cons ⟨heads, alike⟩ .nil
    | ok =>
      rw [engine.servings_succeeded outcome, engine.servings_succeeded (outcomes ▸ outcome)]
      exact .cons ⟨heads, alike⟩ (servings_alike tails runs.session)

/-- The transactions of scopes begin in the same way in sessions that are alike. -/
theorem begun_runs {start after : Session backend} (alike : blind.Sessions start after)
    (name : String) (connection : Nat) :
    blind.Runs Eq (Scope.begun name connection start) (Scope.begun name connection after) := by
  have parent := Session.parent_congr alike.frames name connection
  unfold Scope.begun
  rw [parent]
  exact Backend.Blind.Agree.call (fun alike => blind.begin alike connection _) (fun _ => rfl) alike

/-- Transactions of two nodes of which the same is left begin in the same way. -/
theorem Begins.alike {engine : Engine backend} {node other : Node} {start after : Session backend}
    {target : Target backend} {tx : backend.Transaction}
    (begins : Begins engine node start target tx)
    (same : node.mask engine.settings.dialect = other.mask engine.settings.dialect)
    (alike : blind.Sessions start after) :
    Begins engine other after target tx ∧
      List.Forall₂ (engine.ServedAlike blind) (engine.childServings node start target tx)
        (engine.childServings other after target tx) := by
  obtain ⟨name, value, children⟩ := node
  obtain ⟨otherName, otherValue, others⟩ := other
  have names := congrArg Node.name same
  rw [Node.mask_name, Node.mask_name] at names
  cases names
  rw [Node.mask_transaction begins.named, Node.mask_transaction begins.named] at same
  obtain ⟨-, -, inner⟩ := Node.mk.inj same
  have begun := begun_runs alike engine.scope target.connection
  have inside : blind.Sessions (engine.childSession start target tx)
      (engine.childSession after target tx) :=
    ⟨begun.session.state, congrArg (_ :: ·) begun.session.frames, begun.session.cancelled⟩
  exact ⟨⟨begins.named, engine.target_congr alike.frames ▸ begins.found,
    begun.value ▸ begins.started⟩, engine.servings_alike inner inside⟩

/-- The nodes below a child are found in what its serving gives. -/
theorem Begins.content_at {engine : Engine backend} {node : Node} {session : Session backend}
    {target : Target backend} {tx : backend.Transaction}
    (begins : Begins engine node session target tx) {index : Nat} {serving : Serving backend}
    (served : (engine.childServings node session target tx)[index]? = some serving)
    (path : List Nat) :
    (engine.invoke node session).value.content.at? (index :: path) =
      (engine.ran serving).value.content.at? path := by
  obtain ⟨inside, -⟩ := List.getElem?_eq_some_iff.mp served
  rw [begins.content.2, Node.at?, List.getElem?_append_left (by simpa using inside),
    List.getElem?_map, served]
  rfl

/-- A node whose statement is executed in one run is executed in the other one, and it becomes the
same, by induction on the path. -/
theorem Executed.alike {engine : Engine backend} {node : Node} {start : Session backend}
    {path : List Nat} (executed : Executed engine node start path) {other : Node}
    {after : Session backend}
    (same : node.mask engine.settings.dialect = other.mask engine.settings.dialect)
    (alike : blind.Sessions start after) :
    Executed engine other after path ∧ ∃ result,
      (engine.invoke node start).value.content.at? path = some result ∧
        (engine.invoke other after).value.content.at? path = some result := by
  induction executed generalizing other after with
  | @here node session statement happened =>
    have names := congrArg Node.name same
    rw [Node.mask_name, Node.mask_name] at names
    obtain ⟨runs, leaves | ⟨silent, -⟩⟩ := engine.invoke_leaves same statement alike
    · have happenedToo : (engine.invoke other after).events ≠ [] := by
        intro silent
        have events := runs.events
        rw [silent, List.map_nil, List.map_eq_nil_iff] at events
        exact happened events
      obtain equal | ⟨silent, -⟩ := leaves.content
      · exact ⟨.here (names ▸ statement) happenedToo, _, rfl, congrArg some equal.symm⟩
      · exact absurd silent happened
    · exact absurd silent happened
  | @inside node session target tx index serving path begins served _ ih =>
    obtain ⟨begun, servings⟩ := begins.alike same alike
    obtain ⟨replaced, servedToo, matching⟩ := forall₂_getElem? servings served
    obtain ⟨executed, result, one, two⟩ := ih matching.node matching.start
    refine ⟨.inside begun servedToo executed, result, ?_, ?_⟩
    · rw [begins.content_at served]
      exact one
    · rw [begun.content_at servedToo]
      exact two

/-- Requests of which the same is left are compiled to the same text, with the same names of
placeholders and the same bound, or to the same error. Served by any engine on a backend that does
not look at the values of parameters, in sessions that are alike, they make the same calls up to
these values, are logged in the same way and have the same outcome; the same is left of what they
become unless the text of a statement is asked for; and the same nodes are executed, which become
the same. -/
theorem values_unseen (blind : backend.Blind) (first second : Node)
    {start after : Session backend} (alike : blind.Sessions start after) :
    (first.maskRequest = second.maskRequest → ∀ dialect kind,
      CompiledStatement.mask <$> Statement.compile dialect kind first =
        CompiledStatement.mask <$> Statement.compile dialect kind second) ∧
    (first.mask engine.settings.dialect = second.mask engine.settings.dialect →
      let ran := engine.invoke first start
      let other := engine.invoke second after
      ran.value.outcome = other.value.outcome ∧
        ran.events.map Event.mask = other.events.map Event.mask ∧
        blind.Sessions ran.session other.session ∧
        (first.asksForText engine.settings.dialect = false →
          ran.value.content.mask engine.settings.dialect =
            other.value.content.mask engine.settings.dialect) ∧
        ∀ path, (Executed engine first start path ↔ Executed engine second after path) ∧
          (Executed engine first start path → ∃ result,
            ran.value.content.at? path = some result ∧
              other.value.content.at? path = some result)) := by
  constructor
  · intro same dialect kind
    rw [← Statement.compile_mask, same, Statement.compile_mask]
  · intro same ran other
    have runs := engine.invoke_agree blind first second same alike
    refine ⟨runs.value.1, runs.events, runs.session, runs.value.2, fun path => ⟨⟨?_, ?_⟩, ?_⟩⟩
    · exact fun executed => (executed.alike same alike).1
    · exact fun executed => (executed.alike same.symm alike.flip).1
    · exact fun executed => (executed.alike same alike).2

/-- A change that binds one value in three places. -/
def changing (value : Value) : Node :=
  ⟨"pgsql.update", .text "t", [⟨"values", .null, [.leaf "a" value]⟩,
    ⟨"where", .null, [.leaf "b" value, ⟨"c.in", .null, [.leaf "" value]⟩]⟩]⟩

/-- The change and a text with a parameter, in a transaction. -/
def storing (value : Value) : Node :=
  ⟨"pgsql.transaction.create", .null,
    [changing value, ⟨"pgsql.scalar", .text "SELECT $1", [.leaf "$1" value]⟩]⟩

theorem values_unseen_storing :
    let ran := scripted.invoke (storing (.text "secret")) scriptedSession
    let other := scripted.invoke (storing .null) scriptedSession
    (changing (.text "secret")).maskRequest = (changing .null).maskRequest ∧
      CompiledStatement.mask <$> Statement.compile .sqlServer .update (changing (.text "secret")) =
        CompiledStatement.mask <$> Statement.compile .sqlServer .update (changing .null) ∧
      (storing (.text "secret")).mask .postgres = (storing .null).mask .postgres ∧
      ran.value.outcome = other.value.outcome ∧
      ran.events.map Event.mask = other.events.map Event.mask ∧
      ∃ result, ran.value.content.at? [1] = some result ∧
        other.value.content.at? [1] = some result := by
  intro ran other
  have left : (changing (.text "secret")).maskRequest = (changing .null).maskRequest := rfl
  have same : (storing (.text "secret")).mask .postgres = (storing .null).mask .postgres := rfl
  have alike := Backend.Blind.Sessions.refl Scripted.blind scriptedSession
  have compiled := (values_unseen scripted Scripted.blind _ _ alike).1 left .sqlServer .update
  obtain ⟨outcome, events, -, -, executed⟩ :=
    (values_unseen scripted Scripted.blind _ _ alike).2 same
  have named : Operation.parse .postgres "pgsql.transaction.create" = .ok .transaction := rfl
  have statement : Operation.parse .postgres "pgsql.scalar" = .ok .scalar := rfl
  have begins : Begins scripted (storing (.text "secret")) scriptedSession ⟨0, none⟩ ⟨1, false⟩ :=
    ⟨named, rfl, rfl⟩
  have scalar : Executed scripted (storing (.text "secret")) scriptedSession [1] :=
    .inside begins rfl (.here (fun other => nomatch statement.symm.trans other)
      (List.cons_ne_nil _ _))
  exact ⟨left, compiled, same, outcome, events, (executed [1]).2 scalar⟩

end Engine

end QueryTree
