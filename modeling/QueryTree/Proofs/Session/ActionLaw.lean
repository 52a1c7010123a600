/-
This file proves that reading the rows of a cursor has every property of actions that holds of its
single calls, of doing nothing, and of actions in sequence.
-/
import QueryTree.Session.Execution

namespace QueryTree

/-- A property of actions that holds of doing nothing and passes to actions in sequence. -/
structure ActionLaw (backend : Backend) where
  Of : ∀ {α : Type}, Action backend α → Prop
  of_pure : ∀ {α : Type} (value : α), Of (pure value)
  of_bind : ∀ {α β : Type} {first : Action backend α} {next : α → Action backend β},
    Of first → (∀ value, Of (next value)) → Of (first >>= next)

namespace ActionLaw

variable {backend : Backend}

/-- The calls of cursors on a connection have the property. -/
structure Fetches (law : ActionLaw backend) (control : Control) (connection : Nat) : Prop where
  row : ∀ cursor, law.Of (control.await false (Action.nextRow connection cursor))
  set : ∀ cursor, law.Of (control.await false (Action.nextSet connection cursor))

namespace Fetches

variable {law : ActionLaw backend} {control : Control} {connection : Nat}

theorem readSet (fetches : law.Fetches control connection) (convert : RowConverter backend)
    (cap : Option Nat) (cursor : backend.Cursor) :
    law.Of (Rows.readSet control convert connection cap cursor) := by
  induction measured : backend.size cursor using Nat.strongRecOn generalizing cap cursor with
  | ind bound ih =>
    rw [Rows.readSet]
    split
    · exact law.of_pure _
    · apply law.of_bind (fetches.row cursor)
      intro fetched
      rcases fetched with error | ⟨row, after, smaller⟩ | ⟨after, noLarger⟩ | ⟨error, after⟩
      · exact law.of_pure _
      · dsimp only
        cases convert row with
        | error => exact law.of_pure _
        | ok columns =>
          apply law.of_bind (ih _ (measured ▸ smaller) _ after rfl)
          intro rest
          cases rest <;> exact law.of_pure _
      · exact law.of_pure _
      · exact law.of_pure _

theorem readSets (fetches : law.Fetches control connection) (convert : RowConverter backend)
    (cap : Option Nat) (cursor : backend.Cursor) :
    law.Of (Rows.readSets control convert connection cap cursor) := by
  induction measured : backend.size cursor using Nat.strongRecOn generalizing cursor with
  | ind bound ih =>
    rw [Rows.readSets]
    apply law.of_bind (fetches.readSet convert cap cursor)
    intro read
    rcases read with error | ⟨rows, after, noLarger⟩
    · exact law.of_pure _
    · apply law.of_bind (fetches.set after)
      intro advanced
      rcases advanced with error | ⟨next, smaller⟩ | ⟨next⟩ | ⟨error, next⟩
      · exact law.of_pure _
      · have shrinks : backend.size next < bound := by omega
        apply law.of_bind (ih _ shrinks next rfl)
        intro others
        cases others <;> exact law.of_pure _
      · exact law.of_pure _
      · exact law.of_pure _

theorem materialize (fetches : law.Fetches control connection) (convert : RowConverter backend)
    (multiple : Bool) (cap : Option Nat) (cursor : backend.Cursor) :
    law.Of (Rows.materialize control convert connection multiple cap cursor) := by
  unfold Rows.materialize
  split
  · split
    · apply law.of_bind (fetches.readSets convert cap cursor)
      intro sets
      cases sets <;> exact law.of_pure _
    · exact law.of_pure _
  · apply law.of_bind (fetches.readSet convert cap cursor)
    intro set
    cases set <;> exact law.of_pure _

theorem readScalar (fetches : law.Fetches control connection) (convert : RowConverter backend)
    (cursor : backend.Cursor) :
    law.Of (Execution.readScalar control convert connection cursor) := by
  apply law.of_bind (fetches.row cursor)
  intro fetched
  rcases fetched with error | ⟨row, after, smaller⟩ | ⟨after, noLarger⟩ | ⟨error, after⟩
  · exact law.of_pure _
  · dsimp only
    cases convert row <;> exact law.of_pure _
  · exact law.of_pure _
  · exact law.of_pure _

end Fetches

end ActionLaw

end QueryTree
