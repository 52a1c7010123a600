/-
This file says in which transaction a new scope is nested: in the one of the innermost scope of its
name, if that scope is on the same connection. A transaction further out counts only when no other
scope of the name stands in front of it.
-/
import QueryTree.Proofs.Session.ScopeOutcome

namespace QueryTree

variable {backend : Backend} {α : Type}

/-- The transaction that a scope holds, if it is registered under a name on a connection. -/
def Frame.held? (frame : Frame backend) (name : String) (connection : Nat) :
    Option backend.Transaction :=
  if frame.name = name ∧ frame.connection = connection then frame.transaction else none

namespace Session

/-- The transaction that is active under a name on a connection: the one of the innermost scope of the
name that holds a transaction on the connection. -/
def active? (session : Session backend) (name : String) (connection : Nat) :
    Option backend.Transaction :=
  session.frames.findSome? fun frame => frame.held? name connection

/-- The scope of the active transaction is not the innermost one of the name. -/
def Shadowed (session : Session backend) (name : String) (connection : Nat) : Prop :=
  (session.active? name connection).isSome ∧
    ∃ frame, session.frame? name = some frame ∧ frame.held? name connection = none

/-- A new scope is nested in the transaction that the innermost scope of its name holds. -/
theorem parent_held (session : Session backend) (name : String) (connection : Nat) :
    session.parent? name connection =
      (session.frame? name).bind fun frame => frame.held? name connection := by
  unfold parent? lookup
  cases found : session.frame? name with
  | none => rfl
  | some frame =>
    have named : frame.name = name := by simpa using List.find?_some found
    simp [Frame.held?, named]

/-- Scopes in front of the innermost one of a name hold nothing under the name. -/
theorem active_frame {session : Session backend} {name : String} {frame : Frame backend}
    (found : session.frame? name = some frame) (connection : Nat) :
    ∃ outer : List (Frame backend), session.active? name connection =
      (frame.held? name connection).or
        (outer.findSome? fun frame => frame.held? name connection) := by
  obtain ⟨_, inner, outer, split, others⟩ := List.find?_eq_some_iff_append.mp found
  have silent : (inner.findSome? fun frame => frame.held? name connection) = none := by
    rw [List.findSome?_eq_none_iff]
    intro frame member
    have other : frame.name ≠ name := by simpa using others frame member
    simp [Frame.held?, other]
  refine ⟨outer, ?_⟩
  rw [active?, split, List.findSome?_append, silent, List.findSome?_cons]
  cases frame.held? name connection <;> rfl

/-- Without a scope of a name no transaction is active under it. -/
theorem active_unnamed {session : Session backend} {name : String}
    (missing : session.frame? name = none) (connection : Nat) :
    session.active? name connection = none := by
  rw [active?, List.findSome?_eq_none_iff]
  intro frame member
  have other : frame.name ≠ name := by simpa using List.find?_eq_none.mp missing frame member
  simp [Frame.held?, other]

/-- The transaction in which a new scope is nested is the active one. -/
theorem active_of_parent {session : Session backend} {name : String} {connection : Nat}
    {tx : backend.Transaction} (nested : session.parent? name connection = some tx) :
    session.active? name connection = some tx := by
  rw [parent_held] at nested
  obtain ⟨frame, found, held⟩ := Option.bind_eq_some_iff.mp nested
  obtain ⟨outer, active⟩ := active_frame found connection
  rw [active, held, Option.some_or]

/-- A shadowed transaction is passed over. -/
theorem Shadowed.parent {session : Session backend} {name : String} {connection : Nat}
    (shadowed : session.Shadowed name connection) : session.parent? name connection = none := by
  obtain ⟨-, frame, found, held⟩ := shadowed
  rw [parent_held, found, Option.bind_some, held]

/-- An active transaction in which a new scope is not nested is shadowed. -/
theorem shadowed_of_parent {session : Session backend} {name : String} {connection : Nat}
    (alone : session.parent? name connection = none)
    (active : (session.active? name connection).isSome) : session.Shadowed name connection := by
  cases found : session.frame? name with
  | none =>
    rw [active_unnamed found] at active
    cases active
  | some frame =>
    rw [parent_held, found, Option.bind_some] at alone
    exact ⟨active, frame, found, alone⟩

end Session

namespace Scope

/-- A scope first begins its transaction, nested in the one that the innermost scope of its name holds
on its connection. That is the active transaction, exactly unless it is shadowed; a shadowed
transaction is passed over, and the new one is nested in none. -/
theorem transaction_nested (name : String) (connection : Nat) (undone : α)
    (work : Action backend (Finished α)) (session : Session backend) :
    let parent := session.parent? name connection
    (∃ answer seen rest, (transaction name connection undone work session).events =
      .call connection (.begin parent answer) seen :: rest) ∧
    (parent = session.active? name connection ↔ ¬ session.Shadowed name connection) ∧
    (session.Shadowed name connection → parent = none) := by
  refine ⟨⟨_, _, _, rfl⟩, ⟨fun same shadowed => ?_, fun unshadowed => ?_⟩, Session.Shadowed.parent⟩
  · have active := shadowed.1
    rw [← same, shadowed.parent] at active
    cases active
  · cases nested : session.parent? name connection with
    | some tx => exact (Session.active_of_parent nested).symm
    | none =>
      cases active : session.active? name connection with
      | none => rfl
      | some tx =>
        exact absurd (Session.shadowed_of_parent nested (by rw [active]; rfl)) unshadowed

/-- Two connections on which every call succeeds. -/
def twoConnections : Session Scripted.backend :=
  ⟨[⟨Scripted.emptyScript, 0, 0⟩, ⟨Scripted.emptyScript, 0, 0⟩], [], false⟩

/-- Scopes of one name on the first connection, on the second one, and on the first one again. -/
def crossed : List Step :=
  [.transaction "t" 0 [.transaction "t" 1 [.transaction "t" 0 []]]]

/-- A transaction is active on the first connection when the innermost scope begins another one there,
which is not nested in it. -/
theorem transaction_nested_crossed :
    let first : Scripted.backend.Transaction := (⟨1, false⟩ : Scripted.Transaction)
    let second : Scripted.backend.Transaction := (⟨2, false⟩ : Scripted.Transaction)
    let session := inside "t" 1 first (inside "t" 0 first twoConnections)
    session.active? "t" 0 = some first ∧ session.parent? "t" 0 = none ∧
      Event.calls (Program.run Engine.scripted crossed twoConnections).events =
        [(0, .begin none (.ok first)), (1, .begin none (.ok first)), (0, .begin none (.ok second)),
          (0, .commit second (.ok ())), (1, .commit first (.ok ())), (0, .commit first (.ok ()))] :=
  ⟨rfl, rfl, rfl⟩

end Scope

end QueryTree
