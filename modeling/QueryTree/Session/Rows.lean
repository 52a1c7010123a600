/-
This file reads the rows of a cursor into nodes.
-/
import QueryTree.Session.Control

namespace QueryTree

/-- A row as a node without a name, with a child for every column. -/
def rowNode (columns : List (String × Value)) : Node :=
  .group (columns.map fun (name, value) => .leaf name value)

namespace Rows

variable {backend : Backend}

/-- The rows of one result set, and the cursor after them. -/
structure SetRead (backend : Backend) (before : backend.Cursor) where
  rows : List Node
  after : backend.Cursor
  noLarger : backend.size after ≤ backend.size before

/-- The rows of the current result set are read up to the given count; no row is read only to be
thrown away. -/
def readSet (control : Control) (convert : RowConverter backend) (connection : Nat)
    (cap : Option Nat) (cursor : backend.Cursor) :
    Action backend (Except SqlError (SetRead backend cursor)) := do
  if cap = some 0 then return .ok ⟨[], cursor, Nat.le_refl _⟩
  else
    match ← control.await false (Action.nextRow connection cursor) with
    | .error error => return .error error
    | .ok (.failed error _) => return .error error
    | .ok (.exhausted after noLarger) => return .ok ⟨[], after, noLarger⟩
    | .ok (.row row after smaller) =>
        match convert row with
        | .error error => return .error error
        | .ok columns =>
            match ← readSet control convert connection (cap.map (· - 1)) after with
            | .error error => return .error error
            | .ok rest =>
                return .ok ⟨rowNode columns :: rest.rows, rest.after,
                  Nat.le_trans rest.noLarger (Nat.le_of_lt smaller)⟩
termination_by backend.size cursor

/-- The rows of all result sets from the current one on, at most the given count of each. -/
def readSets (control : Control) (convert : RowConverter backend) (connection : Nat)
    (cap : Option Nat) (cursor : backend.Cursor) :
    Action backend (Except SqlError (List (List Node))) := do
  match ← readSet control convert connection cap cursor with
  | .error error => return .error error
  | .ok ⟨rows, after, noLarger⟩ =>
      match ← control.await false (Action.nextSet connection after) with
      | .error error => return .error error
      | .ok (.failed error _) => return .error error
      | .ok (.finished _) => return .ok [rows]
      | .ok (.further next smaller) =>
          have : backend.size next < backend.size cursor := Nat.lt_of_lt_of_le smaller noLarger
          match ← readSets control convert connection cap next with
          | .error error => return .error error
          | .ok others => return .ok (rows :: others)
termination_by backend.size cursor
decreasing_by assumption

/-- The nodes of the rows of a cursor, and the count of the rows. Several result sets are kept apart
in groups, of which there are none when the cursor has no result set. -/
def materialize (control : Control) (convert : RowConverter backend) (connection : Nat)
    (multiple : Bool) (cap : Option Nat) (cursor : backend.Cursor) :
    Action backend (Except SqlError (List Node × Nat)) := do
  if multiple then
    if backend.hasSet cursor then
      match ← readSets control convert connection cap cursor with
      | .error error => return .error error
      | .ok sets => return .ok (sets.map .group, (sets.map List.length).foldr (· + ·) 0)
    else return .ok ([], 0)
  else
    match ← readSet control convert connection cap cursor with
    | .error error => return .error error
    | .ok set => return .ok (set.rows, set.rows.length)

end Rows

end QueryTree
