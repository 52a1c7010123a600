/-
This file proves that a batch of statements becomes one group for each statement that returns rows, with
exactly the rows of that statement.
-/
import QueryTree.Proofs.Postgres.NestedAtomicity
import QueryTree.Proofs.Postgres.ResultSets
import QueryTree.Proofs.Session.CursorContent
import QueryTree.Proofs.Session.GeneratedAgreement
import QueryTree.Proofs.Session.StatementFailure

namespace QueryTree.Postgres

/-- What can be asked of a cursor: its next row or its next result set. -/
inductive Move where
  | fetch
  | advance
deriving DecidableEq, Repr

namespace Cursor

/-- The rows that moves deliver. Those of each position are kept apart: the ones before the first
advance, then the ones after it, and so on. -/
def delivered (cursor : Cursor) : List Move → List (List Row)
  | [] => [[]]
  | .fetch :: moves =>
      match cursor.fetch with
      | .row row after _ => (delivered after moves).modifyHead (row :: ·)
      | .exhausted after _ => delivered after moves
      | .failed _ after => delivered after moves
  | .advance :: moves =>
      match cursor.advance with
      | .further after _ => [] :: delivered after moves
      | .finished after => [] :: delivered after moves
      | .failed _ after => [] :: delivered after moves

/-- A fetch takes a row off the result set at the front. -/
theorem delivered_row (row : TextRow) (rows : List TextRow) (sets : List (List TextRow))
    (moves : List Move) :
    delivered (.buffered ((row :: rows) :: sets)) (.fetch :: moves) =
      (delivered (.buffered (rows :: sets)) moves).modifyHead (.text row :: ·) := rfl

/-- Without a row at the front a fetch changes nothing. -/
theorem delivered_exhausted {sets : List (List TextRow)} (read : sets.head?.getD [] = [])
    (moves : List Move) :
    delivered (.buffered sets) (.fetch :: moves) = delivered (.buffered sets) moves := by
  cases sets with
  | nil => rfl
  | cons set sets =>
    cases read
    rfl

/-- An advance gives up the result set at the front, with what is left of it. -/
theorem delivered_advance (sets : List (List TextRow)) (moves : List Move) :
    delivered (.buffered sets) (.advance :: moves) =
      [] :: delivered (.buffered sets.tail) moves := by
  match sets with
  | [] => rfl
  | [_] => rfl
  | _ :: _ :: _ => rfl

/-- Whatever is asked of it, a cursor delivers at a position only rows of the result set at that
position, from its first row on and in order. -/
theorem delivered_prefix {sets : List (List TextRow)} {moves : List Move} {position : Nat}
    {rows : List Row} (given : (delivered (.buffered sets) moves)[position]? = some rows) :
    rows <+: (sets[position]?.getD []).map .text := by
  induction moves generalizing sets position rows with
  | nil =>
    cases position with
    | zero =>
      cases given
      exact List.nil_prefix
    | succ position => cases given
  | cons move moves ih =>
    cases move with
    | fetch =>
      match sets with
      | (row :: others) :: sets =>
        rw [delivered_row] at given
        cases position with
        | zero =>
          rw [List.getElem?_modifyHead_zero, Option.map_eq_some_iff] at given
          obtain ⟨behind, found, rfl⟩ := given
          exact List.cons_prefix_cons.mpr ⟨rfl, ih found⟩
        | succ position =>
          rw [List.getElem?_modifyHead_succ] at given
          have found := ih given
          rwa [List.getElem?_cons_succ] at found ⊢
      | [] :: sets =>
        rw [delivered_exhausted rfl] at given
        exact ih given
      | [] =>
        rw [delivered_exhausted rfl] at given
        exact ih given
    | advance =>
      rw [delivered_advance] at given
      cases position with
      | zero =>
        cases given
        exact List.nil_prefix
      | succ position =>
        have found := ih given
        rwa [List.getElem?_tail] at found

/-- A cursor of a batch holds its result sets. Reading them does not cancel the operation. -/
theorem holds {control : Control} (connection : Nat) {session : Session backend}
    (goesOn : control.stops session = false) (sets : List (List TextRow)) :
    Holds control connection (show backend.Cursor from .buffered sets) session
      (sets.map (List.map Row.text)) := by
  have kept {session : Session backend} (goesOn : control.stops session = false) :
      control.stops { session with cancelled := session.cancelled || false } = false := by
    simpa [Control.stops] using goesOn
  let held (cursor : Cursor) (session : Session backend) (contents : List (List Row)) : Prop :=
    control.stops session = false ∧
      ∃ sets, cursor = .buffered sets ∧ contents = sets.map (List.map Row.text)
  apply Exists.intro held
  constructor
  · constructor
    case goesOn =>
      intro cursor session contents known
      exact known.1
    case hasSet =>
      rintro cursor session contents ⟨-, sets, rfl, rfl⟩
      cases sets <;> rfl
    case row =>
      rintro cursor session row rows contents ⟨goesOn, sets, rfl, same⟩
      obtain ⟨set, sets, rfl, front, rfl⟩ := List.map_eq_cons_iff.mp same.symm
      obtain ⟨first, others, rfl, rfl, rfl⟩ := List.map_eq_cons_iff.mp front
      exact ⟨buffered (others :: sets), _, rfl, kept goesOn, others :: sets, rfl, rfl⟩
    case exhausted =>
      rintro cursor session contents ⟨goesOn, sets, rfl, rfl⟩ read
      cases sets with
      | nil => exact ⟨_, _, rfl, kept goesOn, [], rfl, rfl⟩
      | cons set sets =>
        cases set with
        | nil => exact ⟨_, _, rfl, kept goesOn, [] :: sets, rfl, rfl⟩
        | cons => cases read
    case further =>
      rintro cursor session set next contents ⟨goesOn, sets, rfl, same⟩
      obtain ⟨front, behind, rfl, -, rest⟩ := List.map_eq_cons_iff.mp same.symm
      obtain ⟨second, sets, rfl, rfl, rfl⟩ := List.map_eq_cons_iff.mp rest
      exact ⟨_, _, rfl, kept goesOn, second :: sets, rfl, rfl⟩
    case finished =>
      rintro cursor session set ⟨goesOn, sets, rfl, same⟩
      obtain ⟨front, rfl, -⟩ := List.map_eq_singleton_iff.mp same.symm
      exact ⟨_, rfl⟩
  · exact ⟨goesOn, sets, rfl, rfl⟩

end Cursor

/-- The text of a batch is sent without cancelling anything. -/
theorem Client.runText_cancels (text : String) (server : Server) :
    (runText text server).cancels = false := by
  unfold runText sending
  dsimp only
  split
  · split <;> rfl
  · rfl

/-- A batch is answered with the result sets of its messages. -/
theorem Connection.openBatch_settle (text : String) (server : Server) (interrupted : Bool)
    (limit : Option Duration) :
    (openBatch ⟨text, [], true⟩ server).answer.settle interrupted limit =
      ((Client.runText text server).answer.settle interrupted limit).map fun messages =>
        .buffered (Batch.resultSets messages) := by
  have accepted : check ⟨text, [], true⟩ = .ok () := rfl
  rw [openBatch, accepted]
  dsimp only
  cases (Client.runText text server).answer with
  | ready => rfl
  | paused => cases interrupted <;> rfl
  | late => cases interrupted <;> cases limit <;> rfl

end QueryTree.Postgres

namespace QueryTree

variable {backend : Backend}

/-- Every result set of a cursor becomes a group, with all of its rows. -/
theorem Rows.materialize_groups {control : Control} {convert : RowConverter backend}
    {connection : Nat} {cursor : backend.Cursor} {session : Session backend}
    {sets : List (List backend.Row)} {columns : backend.Row → List (String × Value)}
    (held : Holds control connection cursor session sets)
    (accepted : ∀ set ∈ sets, ∀ row ∈ set, convert row = .ok (columns row)) :
    ∃ count, (materialize control convert connection true none cursor session).value =
      .ok (sets.map fun set => .group (set.map fun row => rowNode (columns row)), count) := by
  obtain ⟨holds, law, held⟩ := held
  rw [materialize, if_pos rfl, law.hasSet held]
  cases sets with
  | nil => exact ⟨0, rfl⟩
  | cons set sets =>
    have keptAll : ∀ other ∈ set :: sets, ∀ row ∈ kept none other, convert row = .ok (columns row) :=
      accepted
    obtain ⟨values, -⟩ := readSets_held law held keptAll
    rw [List.isEmpty_cons, Bool.not_false, if_pos rfl, Action.bind_apply, values]
    apply Exists.intro
    simp only [kept, Action.pure_apply, List.map_map, Function.comp_def]
    rfl

end QueryTree

namespace QueryTree.Postgres

variable {engine : Engine backend} {session : Session backend} {node : Node}
  {messages : List Message}

/-- The columns of a row that comes from a batch. -/
def Row.batchColumns (columns : TextRow → List (String × Value)) : Row → List (String × Value)
  | .text row => columns row
  | .typed .. => []

/-- The groups of a batch hold the columns of its rows. -/
theorem Row.groups_batch (columns : TextRow → List (String × Value)) (sets : List (List TextRow)) :
    (sets.map (List.map Row.text)).map
        (fun set => Node.group (set.map fun row => rowNode (Row.batchColumns columns row))) =
      sets.map fun rows => .group (rows.map fun row => rowNode (columns row)) := by
  rw [List.map_map]
  apply List.map_congr_left
  intro rows _
  rw [Function.comp_apply, List.map_map]
  rfl

/-- A node asks for the result sets of a batch, and there is a place to send it to, where messages
answer it in time. -/
structure AnswersBatch (engine : Engine backend) (session : Session backend) (node : Node)
    (messages : List Message) : Prop where
  named : Operation.parse engine.settings.dialect node.name = .ok .select
  flagged : node.singleFlag Engine.multipleFlag = .ok true
  unbound : ∀ child ∈ node.children, child.name = Engine.multipleFlag
  connected : ∃ target, engine.target session = .ok target
  goesOn : (engine.control node.name).stops session = false
  answered : ∃ text, node.text = .ok text ∧
    (Client.runText text session.state).answer.settle false engine.settings.statementTimeout =
      .ok messages

namespace AnswersBatch

/-- A batch is demanded as it is, without parameters. -/
theorem demanded (answers : AnswersBatch engine session node messages) {text : String}
    (read : node.text = .ok text) :
    Engine.Demand.ofNode? engine.settings.dialect node =
      some (.ok (.planned ⟨⟨text, [], true⟩, none, .rows true⟩)) := by
  have parameters : (node.children.map fun child => (child.name, child.value)).filter
      (fun parameter => parameter.1 != Engine.multipleFlag) = [] := by
    rw [List.filter_eq_nil_iff, List.forall_mem_map]
    intro child member
    simp [answers.unbound child member]
  unfold Engine.Demand.ofNode?
  rw [answers.named]
  show some (Engine.Demand.ofSelect node) = _
  rw [Engine.Demand.ofSelect, answers.flagged, Command.ofNode, read]
  show some (Except.ok _) = _
  rw [Command.without, parameters]

/-- A batch is opened with the result sets of its messages. -/
theorem opened (answers : AnswersBatch engine session node messages) {text : String}
    (read : node.text = .ok text) (target : Target backend) :
    let control := engine.control node.name
    let opened := control.await true
      (Action.openCursor target.connection ⟨text, [], true⟩ target.transaction) session
    opened.value = .ok (.buffered (Batch.resultSets messages)) ∧
      control.stops opened.session = false := by
  intro control opened
  obtain ⟨text', read', answered⟩ := answers.answered
  cases read.symm.trans read'
  have uncancelled : (Connection.openBatch ⟨text, [], true⟩ session.state).cancels = false :=
    Client.runText_cancels text session.state
  have goesOn : control.stops
      (Action.openCursor target.connection ⟨text, [], true⟩ target.transaction session).session =
        false := by
    have before := answers.goesOn
    show (control.cancellable && (session.cancelled ||
      (Connection.openBatch ⟨text, [], true⟩ session.state).cancels)) = false
    rwa [uncancelled, Bool.or_false]
  have settled := Connection.openBatch_settle text session.state false
    engine.settings.statementTimeout
  rw [answered] at settled
  have sent : opened = _ := control.await_apply true
    (Action.openCursor target.connection ⟨text, [], true⟩ target.transaction) session
  rw [sent, answers.goesOn, if_neg Bool.false_ne_true, goesOn]
  constructor
  · exact settled
  · rfl

/-- The result sets of the batch are left in the node. -/
theorem invoke (answers : AnswersBatch engine session node messages)
    {columns : TextRow → List (String × Value)}
    (accepted : ∀ row ∈ messages.filterMap Message.row?,
      engine.convert (.text row) = .ok (columns row)) :
    (engine.invoke node session).value =
      ⟨⟨node.name, .null, (Batch.resultSets messages).map fun rows =>
        .group (rows.map fun row => rowNode (columns row))⟩, .ok ()⟩ := by
  obtain ⟨text, read, -⟩ := answers.answered
  obtain ⟨target, found⟩ := answers.connected
  have planned : Engine.Planned engine node session ⟨⟨text, [], true⟩, none, .rows true⟩ target :=
    ⟨answers.demanded read, found⟩
  have checked : backend.check target.connection ⟨text, [], true⟩ session.state = .ok () := rfl
  obtain ⟨opened, goesOn⟩ := answers.opened read target
  have rows : ∀ set ∈ (Batch.resultSets messages).map (List.map Row.text), ∀ row ∈ set,
      engine.convert row = .ok (Row.batchColumns columns row) := by
    intro set member row inside
    obtain ⟨texts, known, rfl⟩ := List.mem_map.mp member
    obtain ⟨content, given, rfl⟩ := List.mem_map.mp inside
    apply accepted content
    rw [← List.nil_append (messages.filterMap _)]
    exact Batch.flatten_setsFrom messages none ▸ List.mem_flatten.mpr ⟨texts, known, given⟩
  obtain ⟨count, groups⟩ := Rows.materialize_groups
    (Cursor.holds target.connection goesOn (Batch.resultSets messages)) rows
  rw [planned.invoke, Execution.run_accepted checked, Execution.runStrategy_opened none true
    node.name opened]
  dsimp only
  rw [groups, ← Row.groups_batch]
  rfl

end AnswersBatch

/-- No row of a batch is lost, and every statement that returns rows has a result set of its own, in
order. A node that asks for the result sets is left with one group for each such statement, which holds
exactly its rows. Whatever is asked of their cursor, it delivers at each position only rows of the
result set at that position. -/
theorem batch_resultSets :
    (∀ messages, (Batch.resultSets messages).flatten = messages.filterMap Message.row?) ∧
    (∀ messages responses, Batch.Answers responses messages →
      Batch.resultSets messages = responses.filterMap Response.rows?) ∧
    (∀ (engine : Engine backend) session node messages responses,
      AnswersBatch engine session node messages → Batch.Answers responses messages →
      ∀ columns : TextRow → List (String × Value),
        (∀ row ∈ messages.filterMap Message.row?, engine.convert (.text row) = .ok (columns row)) →
        (engine.invoke node session).value =
          ⟨⟨node.name, .null, (responses.filterMap Response.rows?).map fun rows =>
            .group (rows.map fun row => rowNode (columns row))⟩, .ok ()⟩) ∧
    ∀ (sets : List (List TextRow)) moves (position : Nat) rows,
      (Cursor.delivered (.buffered sets) moves)[position]? = some rows →
        rows <+: (sets[position]?.getD []).map Row.text := by
  apply And.intro
  · intro messages
    exact Batch.flatten_setsFrom messages none
  apply And.intro
  · intro messages responses answers
    exact answers.resultSets
  apply And.intro
  · intro engine session node messages responses asked answers columns accepted
    rw [asked.invoke accepted, answers.resultSets]
  · intro sets moves position rows given
    exact Cursor.delivered_prefix given

/-- The script answers with two rows, the count of a change, no rows, and one row. -/
def mixedAnswer : List ScriptedMessage :=
  [.description ["a"], .row [some "1"], .row [none], .completion, .completion,
    .description ["b"], .completion, .description ["a"], .row [some "2"], .completion]

/-- A session on one connection to a server with an answer to a batch. -/
def batchSession (messages : List ScriptedMessage) : Session backend :=
  ⟨⟨[{ Answer.empty with messages := messages }], [], 0⟩, [⟨"pgsql.connect", 0, none⟩], false⟩

/-- A batch of four statements, the second one of which changes rows. -/
def mixedBatch : Node :=
  ⟨"pgsql.select", .text "SELECT a FROM t; UPDATE t SET a = 1; SELECT b FROM u; SELECT a FROM v",
    [.leaf "multiple-result-sets" (.bool true)]⟩

/-- The columns of a row of a batch, all of them texts. -/
def TextRow.values (row : TextRow) : List (String × Value) :=
  (row.columns.zip row.texts).map fun (name, value) => (name, Value.ofOption .text value)

/-- There is a group for each of the three statements that return rows, also for the one without any,
and none for the change. After two advances the cursor delivers the row of the last set, whatever is
left of the first one. -/
theorem batch_resultSets_mixed :
    let one : TextRow := ⟨["a"], [some "1"]⟩
    let null : TextRow := ⟨["a"], [none]⟩
    let two : TextRow := ⟨["a"], [some "2"]⟩
    (standardEngine.invoke mixedBatch (batchSession mixedAnswer)).value =
        ⟨⟨"pgsql.select", .null,
          [.group [rowNode [("a", .text "1")], rowNode [("a", .null)]], .group [],
            .group [rowNode [("a", .text "2")]]]⟩, .ok ()⟩ ∧
      Cursor.delivered (.buffered [[one, null], [], [two]]) [.fetch, .advance, .advance, .fetch] =
        [[.text one], [], [.text two]] ∧
      [Row.text two] <+: [.text two] := by
  intro one null two
  have delivered : Cursor.delivered (.buffered [[one, null], [], [two]])
      [.fetch, .advance, .advance, .fetch] = [[.text one], [], [.text two]] := rfl
  have asked : AnswersBatch standardEngine (batchSession mixedAnswer) mixedBatch
      [.description ["a"], .row one, .row null, .completion, .completion, .description ["b"],
        .completion, .description ["a"], .row two, .completion] := {
    named := rfl
    flagged := rfl
    unbound := by simp [mixedBatch, Node.leaf, Engine.multipleFlag]
    connected := ⟨⟨0, none⟩, rfl⟩
    goesOn := rfl
    answered := ⟨_, rfl, rfl⟩ }
  have answers : Batch.Answers
      [.rows ["a"] [one, null], .change, .rows ["b"] [], .rows ["a"] [two]]
      [.description ["a"], .row one, .row null, .completion, .completion, .description ["b"],
        .completion, .description ["a"], .row two, .completion] := by
    decide
  have left := batch_resultSets.2.2.1 standardEngine _ _ _ _ asked answers TextRow.values
    fun _ _ => rfl
  have third := batch_resultSets.2.2.2 [[one, null], [], [two]]
    [.fetch, .advance, .advance, .fetch] 2 [.text two] (by rw [delivered]; rfl)
  exact ⟨left, delivered, third⟩

end QueryTree.Postgres
