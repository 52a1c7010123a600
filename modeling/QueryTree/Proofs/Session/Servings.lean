/-
This file lists the servings of nodes, each in its session, and says what serving the nodes one
after the other gives.
-/
import QueryTree.Proofs.Session.EngineRun

namespace QueryTree

variable {backend : Backend}

/-- A node and the session in which it is served. -/
structure Serving (backend : Backend) where
  node : Node
  start : Session backend

namespace Engine

variable (engine : Engine backend)

/-- What serving a node gives. -/
def ran (serving : Serving backend) : Ran backend (Finished Node) :=
  engine.invoke serving.node serving.start

/-- Nodes are served one after the other, each in the session that the one before it leaves, up to
the first failure. -/
def servings : List Node → Session backend → List (Serving backend)
  | [], _ => []
  | node :: rest, session =>
      ⟨node, session⟩ ::
        match (engine.invoke node session).value.outcome with
        | .error _ => []
        | .ok () => servings rest (engine.invoke node session).session

/-- After the first failure no node is served. -/
theorem servings_failed {node : Node} {session : Session backend} {error : SqlError}
    (failed : (engine.invoke node session).value.outcome = .error error) (rest : List Node) :
    engine.servings (node :: rest) session = [⟨node, session⟩] := by
  rw [servings, failed]

theorem servings_succeeded {node : Node} {session : Session backend}
    (succeeded : (engine.invoke node session).value.outcome = .ok ()) (rest : List Node) :
    engine.servings (node :: rest) session =
      ⟨node, session⟩ :: engine.servings rest (engine.invoke node session).session := by
  rw [servings, succeeded]

/-- The first failure ends the serving of nodes. -/
theorem invokeAll_failed {node : Node} {session : Session backend} {error : SqlError}
    (failed : (engine.invoke node session).value.outcome = .error error) (rest : List Node) :
    let first := engine.invoke node session
    engine.invokeAll (node :: rest) session =
      ⟨⟨first.value.content :: rest, .error error⟩, first.events, first.session⟩ := by
  rw [Engine.invokeAll, Action.bind_apply, failed]
  simp

theorem invokeAll_succeeded {node : Node} {session : Session backend}
    (succeeded : (engine.invoke node session).value.outcome = .ok ()) (rest : List Node) :
    let first := engine.invoke node session
    let others := engine.invokeAll rest first.session
    engine.invokeAll (node :: rest) session =
      ⟨⟨first.value.content :: others.value.content, others.value.outcome⟩,
        first.events ++ others.events, others.session⟩ := by
  rw [Engine.invokeAll, Action.bind_apply, succeeded]
  simp

/-- Nodes are served in the order in which they stand. -/
theorem servings_nodes (nodes : List Node) (session : Session backend) :
    (engine.servings nodes session).map Serving.node =
      nodes.take (engine.servings nodes session).length := by
  induction nodes generalizing session with
  | nil => rfl
  | cons node rest ih =>
    cases outcome : (engine.invoke node session).value.outcome with
    | error => simp [engine.servings_failed outcome]
    | ok => simp [engine.servings_succeeded outcome, ih]

theorem servings_mem {nodes : List Node} {session : Session backend} {serving : Serving backend}
    (served : serving ∈ engine.servings nodes session) : serving.node ∈ nodes := by
  have listed := List.mem_map_of_mem (f := Serving.node) served
  rw [servings_nodes] at listed
  exact List.mem_of_mem_take listed

/-- Every node is served inside the same open scopes. -/
theorem servings_frames {nodes : List Node} {session : Session backend} {serving : Serving backend}
    (served : serving ∈ engine.servings nodes session) :
    serving.start.frames = session.frames := by
  induction nodes generalizing session with
  | nil => cases served
  | cons node rest ih =>
    have kept := (RunLaw.frames_performs engine).serves.invoke node session
    cases outcome : (engine.invoke node session).value.outcome with
    | error =>
      rw [engine.servings_failed outcome, List.mem_singleton] at served
      rw [served]
    | ok =>
      rw [engine.servings_succeeded outcome] at served
      rcases List.mem_cons.mp served with rfl | later
      · rfl
      · exact (ih later).trans kept

/-- What nodes become, and what happens then, is what their servings give. The nodes behind the
first failure stay as they are. -/
theorem invokeAll_servings (nodes : List Node) (session : Session backend) :
    let served := engine.servings nodes session
    let done := engine.invokeAll nodes session
    done.value.content =
        (served.map fun serving => (engine.ran serving).value.content) ++ nodes.drop served.length ∧
      done.events = served.flatMap fun serving => (engine.ran serving).events := by
  induction nodes generalizing session with
  | nil => exact ⟨rfl, rfl⟩
  | cons node rest ih =>
    obtain ⟨content, events⟩ := ih (engine.invoke node session).session
    cases outcome : (engine.invoke node session).value.outcome with
    | error => simp [engine.invokeAll_failed outcome, engine.servings_failed outcome, ran]
    | ok =>
      rw [engine.invokeAll_succeeded outcome, engine.servings_succeeded outcome]
      simp [content, events, ran]

/-- Only the last serving can fail, and its failure is the outcome of all. -/
theorem servings_error {nodes : List Node} {session : Session backend}
    {serving : Serving backend} {error : SqlError}
    (served : serving ∈ engine.servings nodes session)
    (failed : (engine.ran serving).value.outcome = .error error) :
    (engine.servings nodes session).getLast? = some serving ∧
      (engine.invokeAll nodes session).value.outcome = .error error := by
  induction nodes generalizing session with
  | nil => cases served
  | cons node rest ih =>
    cases outcome : (engine.invoke node session).value.outcome with
    | error first =>
      rw [engine.servings_failed outcome] at served ⊢
      rw [List.mem_singleton.mp served] at failed ⊢
      rw [engine.invokeAll_failed outcome]
      exact ⟨rfl, outcome.symm.trans failed⟩
    | ok =>
      rw [engine.servings_succeeded outcome] at served ⊢
      rw [engine.invokeAll_succeeded outcome]
      rcases List.mem_cons.mp served with rfl | later
      · exact absurd (outcome.symm.trans failed) (by simp)
      · obtain ⟨last, failure⟩ := ih later
        exact ⟨by rw [List.getLast?_cons, last]; rfl, failure⟩

/-- A failure of all is the failure of one serving. -/
theorem invokeAll_error {nodes : List Node} {session : Session backend} {error : SqlError}
    (failed : (engine.invokeAll nodes session).value.outcome = .error error) :
    ∃ serving ∈ engine.servings nodes session,
      (engine.ran serving).value.outcome = .error error := by
  induction nodes generalizing session with
  | nil => cases failed
  | cons node rest ih =>
    cases outcome : (engine.invoke node session).value.outcome with
    | error first =>
      rw [engine.invokeAll_failed outcome] at failed
      rw [engine.servings_failed outcome]
      exact ⟨_, List.mem_singleton_self _, outcome.trans failed⟩
    | ok =>
      rw [engine.invokeAll_succeeded outcome] at failed
      rw [engine.servings_succeeded outcome]
      obtain ⟨serving, served, failure⟩ := ih failed
      exact ⟨serving, List.mem_cons_of_mem _ served, failure⟩

/-- When all have succeeded, every node has been served. -/
theorem invokeAll_ok {nodes : List Node} {session : Session backend}
    (succeeded : (engine.invokeAll nodes session).value.outcome = .ok ()) :
    (engine.servings nodes session).map Serving.node = nodes ∧
      ∀ serving ∈ engine.servings nodes session, (engine.ran serving).value.outcome = .ok () := by
  induction nodes generalizing session with
  | nil => exact ⟨rfl, by simp [servings]⟩
  | cons node rest ih =>
    cases outcome : (engine.invoke node session).value.outcome with
    | error first =>
      rw [engine.invokeAll_failed outcome] at succeeded
      cases succeeded
    | ok =>
      rw [engine.invokeAll_succeeded outcome] at succeeded
      rw [engine.servings_succeeded outcome]
      obtain ⟨nodes, others⟩ := ih succeeded
      exact ⟨by simp [nodes], List.forall_mem_cons.mpr ⟨outcome, others⟩⟩

end Engine

end QueryTree
