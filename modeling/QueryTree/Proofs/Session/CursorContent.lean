/-
This file says what reading a cursor gives that holds certain result sets: the rows that are kept, and
no more calls than it takes to get them.
-/
import QueryTree.Scripted
import QueryTree.Proofs.Session.ScopeRun
import QueryTree.Proofs.Session.StatementCalls

namespace QueryTree

variable {backend : Backend}

/-- What a cursor answers, at once or later, that holds certain result sets, the current one first: the
rows of the current result set one by one, then its end, and the next result set, whatever is left of the
current one. Meanwhile the operation is not cancelled. -/
structure CursorLaw (control : Control) (connection : Nat)
    (holds : backend.Cursor → Session backend → List (List backend.Row) → Prop) : Prop where
  goesOn : ∀ {cursor session sets}, holds cursor session sets → control.stops session = false
  hasSet : ∀ {cursor session sets}, holds cursor session sets →
    backend.hasSet cursor = !sets.isEmpty
  row : ∀ {cursor session row rows sets}, holds cursor session ((row :: rows) :: sets) →
    let fetch := Action.nextRow connection cursor session
    ∃ after smaller, control.settled false fetch = .ok (.row row after smaller) ∧
      holds after fetch.session (rows :: sets)
  exhausted : ∀ {cursor session sets}, holds cursor session sets → sets.head?.getD [] = [] →
    let fetch := Action.nextRow connection cursor session
    ∃ after noLarger, control.settled false fetch = .ok (.exhausted after noLarger) ∧
      holds after fetch.session sets
  further : ∀ {cursor session set next sets}, holds cursor session (set :: next :: sets) →
    let advance := Action.nextSet connection cursor session
    ∃ after smaller, control.settled false advance = .ok (.further after smaller) ∧
      holds after advance.session (next :: sets)
  finished : ∀ {cursor session set}, holds cursor session [set] →
    ∃ after, control.settled false (Action.nextSet connection cursor session) = .ok (.finished after)

/-- A cursor holds result sets in a session. -/
def Holds (control : Control) (connection : Nat) (cursor : backend.Cursor)
    (session : Session backend) (sets : List (List backend.Row)) : Prop :=
  ∃ holds, CursorLaw control connection holds ∧ holds cursor session sets

namespace Rows

/-- The rows of a result set that are kept under a cap. -/
def kept {α : Type} (cap : Option Nat) (rows : List α) : List α :=
  match cap with
  | some count => rows.take count
  | none => rows

/-- The rows of a result set that are left behind under a cap. -/
def left {α : Type} (cap : Option Nat) (rows : List α) : List α :=
  match cap with
  | some count => rows.drop count
  | none => []

/-- How often a row is asked for in a result set of a length: as often as there are rows to keep, and
once more where only the answer tells that there is no further row. -/
def fetches (cap : Option Nat) (length : Nat) : Nat :=
  match cap with
  | some count => if count ≤ length then count else length + 1
  | none => length + 1

section Cap

variable {α : Type} {cap : Option Nat}

@[simp] theorem kept_nil : kept cap ([] : List α) = [] := by
  cases cap <;> simp [kept]

@[simp] theorem left_nil : left cap ([] : List α) = [] := by
  cases cap <;> simp [left]

/-- An empty result set is asked for a row, unless none is wanted. -/
theorem fetches_zero (wanted : cap ≠ some 0) : fetches cap 0 = 1 := by
  rcases cap with _ | _ | count
  · rfl
  · exact absurd rfl wanted
  · rfl

/-- A wanted row takes one place under the cap. -/
theorem kept_cons (wanted : cap ≠ some 0) (row : α) (rows : List α) :
    kept cap (row :: rows) = row :: kept (cap.map (· - 1)) rows := by
  rcases cap with _ | _ | count
  · rfl
  · exact absurd rfl wanted
  · rfl

theorem left_cons (wanted : cap ≠ some 0) (row : α) (rows : List α) :
    left cap (row :: rows) = left (cap.map (· - 1)) rows := by
  rcases cap with _ | _ | count
  · rfl
  · exact absurd rfl wanted
  · rfl

/-- A wanted row takes one fetch. -/
theorem fetches_succ (wanted : cap ≠ some 0) (length : Nat) :
    fetches cap (length + 1) = fetches (cap.map (· - 1)) length + 1 := by
  rcases cap with _ | _ | count
  · rfl
  · exact absurd rfl wanted
  · simp only [fetches, Option.map_some, Nat.add_sub_cancel]
    split <;> split <;> omega

end Cap

variable {control : Control} {convert : RowConverter backend} {connection : Nat}
  {cursor : backend.Cursor} {session : Session backend}

/-- No row is asked for under a cap of no rows. -/
theorem readSet_zero :
    readSet control convert connection (some 0) cursor session =
      ⟨.ok ⟨[], cursor, Nat.le_refl _⟩, [], session⟩ := by
  rw [readSet, if_pos rfl]
  rfl

/-- Reading stops at the end of the result set. -/
theorem readSet_exhausted {cap : Option Nat} {after : backend.Cursor}
    {noLarger : backend.size after ≤ backend.size cursor} (goesOn : control.stops session = false)
    (wanted : cap ≠ some 0)
    (fetched : control.settled false (Action.nextRow connection cursor session) =
      .ok (.exhausted after noLarger)) :
    let fetch := Action.nextRow connection cursor session
    readSet control convert connection cap cursor session =
      ⟨.ok ⟨[], after, noLarger⟩, fetch.events, fetch.session⟩ := by
  rw [readSet, if_neg wanted, Action.bind_apply, Control.await_sent goesOn]
  simp [fetched]

/-- A row that is converted is kept, in front of those that are read behind it. -/
theorem readSet_row {cap : Option Nat} {row : backend.Row} {after : backend.Cursor}
    {smaller : backend.size after < backend.size cursor} {columns : List (String × Value)}
    {read : SetRead backend after} (goesOn : control.stops session = false) (wanted : cap ≠ some 0)
    (fetched : control.settled false (Action.nextRow connection cursor session) =
      .ok (.row row after smaller))
    (converted : convert row = .ok columns)
    (later : (readSet control convert connection (cap.map (· - 1)) after
      (Action.nextRow connection cursor session).session).value = .ok read) :
    let fetch := Action.nextRow connection cursor session
    let rest := readSet control convert connection (cap.map (· - 1)) after fetch.session
    readSet control convert connection cap cursor session =
      ⟨.ok ⟨rowNode columns :: read.rows, read.after,
          Nat.le_trans read.noLarger (Nat.le_of_lt smaller)⟩,
        fetch.events ++ rest.events, rest.session⟩ := by
  intro fetch rest
  rw [readSet, if_neg wanted, Action.bind_apply, Control.await_sent goesOn]
  simp [fetch, rest, fetched, converted, later]

/-- A result set is read up to the cap: the rows that are kept become nodes, no row is asked for in
vain, and the cursor still holds what is left behind. -/
theorem readSet_held {holds : backend.Cursor → Session backend → List (List backend.Row) → Prop}
    (law : CursorLaw control connection holds) {columns : backend.Row → List (String × Value)}
    {set : List backend.Row} {sets : List (List backend.Row)} {cap : Option Nat}
    (held : holds cursor session (set :: sets))
    (accepted : ∀ row ∈ kept cap set, convert row = .ok (columns row)) :
    let ran := readSet control convert connection cap cursor session
    ∃ read, ran.value = .ok read ∧
      read.rows = (kept cap set).map (fun row => rowNode (columns row)) ∧
      Event.calls ran.events = List.replicate (fetches cap set.length) (connection, .nextRow) ∧
      holds read.after ran.session (left cap set :: sets) := by
  induction set generalizing cap cursor session with
  | nil =>
    by_cases wanted : cap = some 0
    · subst wanted
      rw [readSet_zero]
      exact ⟨_, rfl, rfl, rfl, held⟩
    · obtain ⟨after, noLarger, fetched, rest⟩ := law.exhausted held rfl
      rw [readSet_exhausted (law.goesOn held) wanted fetched, List.length_nil, fetches_zero wanted]
      exact ⟨_, rfl, by simp, rfl, by simpa using rest⟩
  | cons row rows ih =>
    by_cases wanted : cap = some 0
    · subst wanted
      rw [readSet_zero]
      exact ⟨_, rfl, rfl, rfl, held⟩
    · rw [kept_cons wanted, List.forall_mem_cons] at accepted
      obtain ⟨converted, others⟩ := accepted
      obtain ⟨after, smaller, fetched, rest⟩ := law.row held
      obtain ⟨read, later, nodes, calls, behind⟩ := ih rest others
      rw [readSet_row (law.goesOn held) wanted fetched converted later, kept_cons wanted,
        left_cons wanted, List.length_cons, fetches_succ wanted]
      refine ⟨_, rfl, ?_, ?_, behind⟩
      · rw [nodes, List.map_cons]
      · rw [Event.calls_append, calls, List.replicate_succ]
        rfl

/-- The first result set is read up to the cap; a cursor without any is read like an empty one. -/
theorem readSet_first {columns : backend.Row → List (String × Value)}
    {sets : List (List backend.Row)} {cap : Option Nat}
    (held : Holds control connection cursor session sets)
    (accepted : ∀ row ∈ kept cap (sets.head?.getD []), convert row = .ok (columns row)) :
    let ran := readSet control convert connection cap cursor session
    let set := sets.head?.getD []
    ∃ read, ran.value = .ok read ∧
      read.rows = (kept cap set).map (fun row => rowNode (columns row)) ∧
      Event.calls ran.events = List.replicate (fetches cap set.length) (connection, .nextRow) := by
  obtain ⟨holds, law, held⟩ := held
  cases sets with
  | nil =>
    by_cases wanted : cap = some 0
    · subst wanted
      rw [readSet_zero]
      exact ⟨_, rfl, rfl, rfl⟩
    · obtain ⟨after, noLarger, fetched, -⟩ := law.exhausted held rfl
      rw [readSet_exhausted (law.goesOn held) wanted fetched]
      refine ⟨_, rfl, ?_, ?_⟩
      · rw [List.head?_nil, Option.getD_none, kept_nil, List.map_nil]
      · rw [List.head?_nil, Option.getD_none, List.length_nil, fetches_zero wanted]
        rfl
  | cons set sets =>
    obtain ⟨read, value, nodes, calls, -⟩ := readSet_held law held accepted
    exact ⟨read, value, nodes, calls⟩

/-- The last result set is read, and the cursor says that there is no other one. -/
theorem readSets_last {cap : Option Nat} {read : SetRead backend cursor} {after : backend.Cursor}
    (goesOn : control.stops (readSet control convert connection cap cursor session).session = false)
    (first : (readSet control convert connection cap cursor session).value = .ok read)
    (advanced : control.settled false (Action.nextSet connection read.after
      (readSet control convert connection cap cursor session).session) = .ok (.finished after)) :
    let set := readSet control convert connection cap cursor session
    let advance := Action.nextSet connection read.after set.session
    readSets control convert connection cap cursor session =
      ⟨.ok [read.rows], set.events ++ advance.events, advance.session⟩ := by
  intro set advance
  rw [readSets, Action.bind_apply, first]
  simp [set, advance, Control.await_sent goesOn, advanced]

/-- A result set is read, and those behind it are read after an advance. -/
theorem readSets_further {cap : Option Nat} {read : SetRead backend cursor} {after : backend.Cursor}
    {smaller : backend.size after < backend.size read.after} {others : List (List Node)}
    (goesOn : control.stops (readSet control convert connection cap cursor session).session = false)
    (first : (readSet control convert connection cap cursor session).value = .ok read)
    (advanced : control.settled false (Action.nextSet connection read.after
      (readSet control convert connection cap cursor session).session) =
        .ok (.further after smaller))
    (later : (readSets control convert connection cap after (Action.nextSet connection read.after
      (readSet control convert connection cap cursor session).session).session).value =
        .ok others) :
    let set := readSet control convert connection cap cursor session
    let advance := Action.nextSet connection read.after set.session
    let rest := readSets control convert connection cap after advance.session
    readSets control convert connection cap cursor session =
      ⟨.ok (read.rows :: others), set.events ++ (advance.events ++ rest.events), rest.session⟩ := by
  intro set advance rest
  rw [readSets, Action.bind_apply, first]
  simp [set, advance, rest, Control.await_sent goesOn, advanced, later]

/-- The calls that read a result set up to a cap and then ask for the next one. -/
def setCalls (connection : Nat) (cap : Option Nat) (length : Nat) :
    List (Nat × Call backend) :=
  List.replicate (fetches cap length) (connection, .nextRow) ++ [(connection, .nextSet)]

/-- All result sets are read up to the cap, each with an advance after it. -/
theorem readSets_held {holds : backend.Cursor → Session backend → List (List backend.Row) → Prop}
    (law : CursorLaw control connection holds) {columns : backend.Row → List (String × Value)}
    {set : List backend.Row} {sets : List (List backend.Row)} {cap : Option Nat}
    (held : holds cursor session (set :: sets))
    (accepted : ∀ other ∈ set :: sets, ∀ row ∈ kept cap other, convert row = .ok (columns row)) :
    let ran := readSets control convert connection cap cursor session
    ran.value =
        .ok ((set :: sets).map fun other => (kept cap other).map fun row => rowNode (columns row)) ∧
      Event.calls ran.events =
        (set :: sets).flatMap fun other => setCalls connection cap other.length := by
  induction sets generalizing set cursor session with
  | nil =>
    obtain ⟨read, first, nodes, calls, behind⟩ :=
      readSet_held law held (accepted set (List.mem_singleton_self set))
    obtain ⟨after, advanced⟩ := law.finished behind
    rw [readSets_last (law.goesOn behind) first advanced]
    refine ⟨?_, ?_⟩
    · rw [nodes]
      rfl
    · rw [Event.calls_append, calls, List.flatMap_singleton]
      rfl
  | cons next sets ih =>
    rw [List.forall_mem_cons] at accepted
    obtain ⟨read, first, nodes, calls, behind⟩ := readSet_held law held accepted.1
    obtain ⟨after, smaller, advanced, ahead⟩ := law.further behind
    obtain ⟨values, laterCalls⟩ := ih ahead accepted.2
    rw [readSets_further (law.goesOn behind) first advanced values]
    refine ⟨?_, ?_⟩
    · rw [nodes]
      rfl
    · rw [Event.calls_append, Event.calls_append, calls, laterCalls, List.flatMap_cons (x := set),
        setCalls, List.append_assoc]
      rfl

end Rows

namespace Scripted

/-- A row that the script gives, and not a failure in its place. -/
def Row.isGiven : Row → Bool
  | .failure _ => false
  | _ => true

theorem fetch_row {row : Row} {rows : List Row} {sets : List (List Row)} {delivered : Nat}
    (given : row.isGiven = true) :
    ∃ smaller, fetch ⟨(row :: rows) :: sets, delivered⟩ =
      .row row ⟨rows :: sets, delivered + 1⟩ smaller := by
  cases row with
  | failure => cases given
  | columns => exact ⟨_, rfl⟩
  | undecodable => exact ⟨_, rfl⟩

theorem fetch_exhausted {sets : List (List Row)} {delivered : Nat}
    (read : sets.head?.getD [] = []) :
    fetch ⟨sets, delivered⟩ = .exhausted ⟨sets, delivered⟩ (Nat.le_refl _) := by
  cases sets with
  | nil => rfl
  | cons set sets =>
    cases read
    rfl

/-- A cursor of a script holds the result sets still to come, where none of their rows fails and
cancellations do not matter. -/
theorem holds {control : Control} (connection : Nat) {cursor : Cursor}
    {session : Session Scripted.backend} (uncancelled : control.cancellable = false)
    (given : ∀ set ∈ cursor.sets, ∀ row ∈ set, row.isGiven = true) :
    Holds control connection (show Scripted.backend.Cursor from cursor) session cursor.sets := by
  refine ⟨fun (held : Cursor) _ sets =>
    held.sets = sets ∧ ∀ set ∈ sets, ∀ row ∈ set, Row.isGiven row = true, ?_, rfl, given⟩
  constructor
  case goesOn =>
    intro cursor session sets _
    rw [Control.stops, uncancelled, Bool.false_and]
  case hasSet =>
    rintro ⟨_, delivered⟩ session sets ⟨rfl, -⟩
    rfl
  case row =>
    rintro ⟨_, delivered⟩ session row rows sets ⟨rfl, given⟩
    simp only [List.forall_mem_cons] at given
    obtain ⟨⟨first, others⟩, behind⟩ := given
    obtain ⟨smaller, fetched⟩ := fetch_row first
    refine ⟨(⟨rows :: sets, delivered + 1⟩ : Cursor), smaller, congrArg Except.ok fetched, rfl, ?_⟩
    rw [List.forall_mem_cons]
    exact ⟨others, behind⟩
  case exhausted =>
    rintro ⟨_, delivered⟩ session sets ⟨rfl, given⟩ read
    exact ⟨_, _, congrArg Except.ok (fetch_exhausted read), rfl, given⟩
  case further =>
    rintro ⟨_, delivered⟩ session set next sets ⟨rfl, given⟩
    exact ⟨_, _, rfl, rfl, fun other behind => given other (List.mem_cons_of_mem _ behind)⟩
  case finished =>
    rintro ⟨_, delivered⟩ session set ⟨rfl, -⟩
    exact ⟨_, rfl⟩

end Scripted

end QueryTree
