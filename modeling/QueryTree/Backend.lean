/-
This file holds the interface of database systems: connections that begin and end transactions and
run commands, and cursors that deliver rows. A backend is a state and the answers it gives to
calls; nothing is assumed about them, except that a cursor delivers finitely many rows.
-/
import QueryTree.Command

namespace QueryTree

/-- When a call is answered at which a statement can be suspended: at once, after a pause, or later than
any time limit. -/
inductive Reply (α : Type) where
  | ready (answer : Except SqlError α)
  | paused (answer : Except SqlError α)
  | late (answer : Except SqlError α)

/-- What a call gives: an answer, the next state, what was seen of the call from outside, and
whether the call cancelled the running program. -/
structure Served (State Observation α : Type) where
  answer : α
  state : State
  observations : List Observation
  cancels : Bool

/-- What a cursor gives for its next row, and the cursor after it, which is smaller by a row. A cursor goes
on after a failure that it tells of. -/
inductive Fetched (Cursor Row : Type) (size : Cursor → Nat) (before : Cursor) where
  | row (row : Row) (after : Cursor) (smaller : size after < size before)
  | exhausted (after : Cursor) (noLarger : size after ≤ size before)
  | failed (error : SqlError) (after : Cursor)

/-- What a cursor gives for its next result set, and the cursor after it. -/
inductive Advanced (Cursor : Type) (size : Cursor → Nat) (before : Cursor) where
  | further (after : Cursor) (smaller : size after < size before)
  | finished (after : Cursor)
  | failed (error : SqlError) (after : Cursor)

/-- A database system. Connections are numbered. -/
structure Backend where
  State : Type
  Transaction : Type
  Cursor : Type
  Row : Type
  Observation : Type
  begin : Nat → Option Transaction → State →
    Served State Observation (Except SqlError Transaction)
  commit : Nat → Transaction → State → Served State Observation (Except SqlError Unit)
  rollback : Nat → Transaction → State → Served State Observation (Except SqlError Unit)
  execute : Nat → Command → Option Transaction → State → Served State Observation (Reply Nat)
  openCursor : Nat → Command → Option Transaction → State →
    Served State Observation (Reply Cursor)
  size : Cursor → Nat
  nextRow : Nat → (cursor : Cursor) → State →
    Served State Observation (Reply (Fetched Cursor Row size cursor))
  nextSet : Nat → (cursor : Cursor) → State →
    Served State Observation (Reply (Advanced Cursor size cursor))
  hasSet : Cursor → Bool
  check : Nat → Command → State → Except SqlError Unit
  columns : Row → Except SqlError (List (String × Value))
  savepointName : Transaction → Option String
  warnsOfAbandoned : Bool

/-- The columns of a row, by name and value. -/
abbrev RowConverter (backend : Backend) := backend.Row → Except SqlError (List (String × Value))

end QueryTree
