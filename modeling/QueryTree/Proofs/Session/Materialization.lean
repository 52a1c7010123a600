/-
This file proves that the nodes of a cursor are the rows that it holds, up to the cap, and that no call
is made but those that the rows and the result sets ask for.
-/
import QueryTree.Proofs.Session.CursorContent
import QueryTree.Proofs.Session.ScopeOutcome
import QueryTree.Proofs.Statement.RequestParts
import QueryTree.Proofs.Statement.StatementLayout

namespace QueryTree

/-- A read that is planned wants at most as many rows of each result set as its request says. -/
theorem Engine.Demand.ofRequest_select {dialect : Dialect} {node : Node} {plan : Plan}
    (planned : ofRequest dialect .select node = .ok (.planned plan)) :
    ∃ multiple, node.singleFlag multipleFlag = .ok multiple ∧ plan.strategy = .rows multiple ∧
      plan.cap = some (node.numberOf "limit" Pagination.defaultLimit) := by
  obtain ⟨compiled, compiles, planned⟩ := bind_ok planned
  obtain ⟨statement, read, rfl⟩ := map_ok compiles
  obtain ⟨select, made, rfl⟩ := map_ok read
  obtain ⟨generate, -, planned⟩ := bind_ok planned
  cases generate with
  | true => cases planned
  | false =>
    obtain ⟨multiple, flagged, planned⟩ := bind_ok planned
    cases planned
    refine ⟨multiple, flagged, rfl, ?_⟩
    rw [← (Pagination.ofNode_parts (Select.ofNode_parts made).2.1).2.1]
    rfl

namespace Rows

variable {backend : Backend}

/-- The result sets that are read: all of them, or the first one, which is empty where there is none. -/
def visited (multiple : Bool) (sets : List (List backend.Row)) : List (List backend.Row) :=
  if multiple then sets else [sets.head?.getD []]

/-- The nodes of result sets: a group for each of them, or the rows alone. -/
def nodes (multiple : Bool) (sets : List (List Node)) : List Node :=
  if multiple then sets.map .group else sets.flatten

/-- The calls that read a result set: one for each row, and where several result sets are wanted
another one for the next result set. -/
def visitCalls (connection : Nat) (multiple : Bool) (cap : Option Nat) (length : Nat) :
    List (Nat × Call backend) :=
  if multiple then setCalls connection cap length
  else List.replicate (fetches cap length) (connection, .nextRow)

/-- Where several result sets are not wanted, the rows of the first one become nodes. -/
theorem materialize_first {control : Control} {convert : RowConverter backend} {connection : Nat}
    {cap : Option Nat} {cursor : backend.Cursor} {session : Session backend}
    {sets : List (List backend.Row)} {columns : backend.Row → List (String × Value)}
    (held : Holds control connection cursor session sets)
    (accepted : ∀ row ∈ kept cap (sets.head?.getD []), convert row = .ok (columns row)) :
    let ran := materialize control convert connection false cap cursor session
    let set := sets.head?.getD []
    ran.value =
        .ok ((kept cap set).map fun row => rowNode (columns row), (kept cap set).length) ∧
      Event.calls ran.events = List.replicate (fetches cap set.length) (connection, .nextRow) := by
  obtain ⟨read, value, rows, calls⟩ := readSet_first held accepted
  rw [materialize, if_neg Bool.false_ne_true, Action.bind_apply, value]
  refine ⟨?_, ?_⟩
  · simp [rows]
  · simpa using calls

/-- The result sets of a cursor become nodes, each one up to the cap, and as many calls are made as
there are rows to be had and, where several result sets are wanted, result sets. The cap of a read is
always the limit of its request. -/
theorem materialize_content {control : Control} {convert : RowConverter backend} {connection : Nat}
    {multiple : Bool} {cap : Option Nat} {cursor : backend.Cursor} {session : Session backend}
    {sets : List (List backend.Row)} {columns : backend.Row → List (String × Value)}
    (held : Holds control connection cursor session sets)
    (accepted : ∀ set ∈ visited multiple sets, ∀ row ∈ kept cap set, convert row = .ok (columns row)) :
    let ran := materialize control convert connection multiple cap cursor session
    let rows := (visited multiple sets).map fun set =>
      (kept cap set).map fun row => rowNode (columns row)
    ran.value = .ok (nodes multiple rows, rows.flatten.length) ∧
      Event.calls ran.events =
        (visited multiple sets).flatMap (fun set => visitCalls connection multiple cap set.length) ∧
      ∀ dialect node plan, Engine.Demand.ofRequest dialect .select node = .ok (.planned plan) →
        ∃ multiple, node.singleFlag Engine.multipleFlag = .ok multiple ∧
          plan.strategy = .rows multiple ∧
          plan.cap = some (node.numberOf "limit" Pagination.defaultLimit) := by
  rw [← and_assoc]
  refine ⟨?_, fun _ _ _ => Engine.Demand.ofRequest_select⟩
  cases multiple with
  | false =>
    obtain ⟨value, calls⟩ := materialize_first held
      (accepted (sets.head?.getD []) (List.mem_singleton_self _))
    refine ⟨?_, ?_⟩
    · simp [value, visited, nodes]
    · simpa [visited, visitCalls] using calls
  | true =>
    obtain ⟨holds, law, held⟩ := held
    cases sets with
    | nil =>
      rw [materialize, if_pos rfl, law.hasSet held]
      exact ⟨rfl, rfl⟩
    | cons set sets =>
      obtain ⟨values, calls⟩ := readSets_held law held accepted
      rw [materialize, if_pos rfl, law.hasSet held, List.isEmpty_cons, Bool.not_false, if_pos rfl,
        Action.bind_apply, values]
      refine ⟨?_, ?_⟩
      · rw [List.length_flatten]
        rfl
      · rw [Event.calls_append, calls]
        exact List.append_nil _

/-- Three result sets, the one in the middle without rows. -/
def threeSets : Scripted.Cursor :=
  ⟨[[.columns [("n", .int 1)], .columns [("n", .int 2)]], [], [.columns [("n", .int 3)]]], 0⟩

/-- The columns of a row that the script gives. -/
def scriptedColumns : Scripted.Row → List (String × Value)
  | .columns columns => columns
  | _ => []

/-- Of each of three result sets one row is wanted: each is asked for a row once, and given up. -/
theorem materialize_content_threeSets :
    let ran := materialize (Engine.scripted.control "pgsql.read") Engine.scripted.convert 0 true
      (some 1) threeSets Engine.scriptedSession
    ran.value = .ok
        ([.group [rowNode [("n", .int 1)]], .group [], .group [rowNode [("n", .int 3)]]], 2) ∧
      Event.calls ran.events = [(0, .nextRow), (0, .nextSet), (0, .nextRow), (0, .nextSet),
        (0, .nextRow), (0, .nextSet)] := by
  have held : Holds (Engine.scripted.control "pgsql.read") 0 threeSets Engine.scriptedSession
      threeSets.sets :=
    Scripted.holds 0 rfl (by decide)
  have given : ∀ set ∈ threeSets.sets, ∀ row ∈ set.take 1,
      Scripted.columns row = .ok (scriptedColumns row) := by
    simp [threeSets, Scripted.columns, scriptedColumns]
  have accepted : ∀ set ∈ visited true threeSets.sets, ∀ row ∈ kept (some 1) set,
      Engine.scripted.convert row = .ok (scriptedColumns row) :=
    given
  obtain ⟨value, calls, -⟩ := materialize_content held accepted
  exact ⟨value, calls⟩

end Rows

end QueryTree
