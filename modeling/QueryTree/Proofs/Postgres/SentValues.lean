/-
This file says which values a client sends for a command: nothing, or exactly once the values of all its
parameters in their order, each encoded for the type that the server expects at its position.
-/
import QueryTree.Postgres.Connection
import QueryTree.Proofs.Session.CommandRun
import QueryTree.Proofs.Session.RunLaw
import QueryTree.Proofs.Session.StatementCalls

namespace QueryTree.Postgres

variable {α β : Type}

namespace Parameter

/-- The values are sent as bytes, one after the other, each for the type at its position. -/
inductive Encodes : List Value → List ColumnType → List (Option Bytes) → Prop where
  | nil : Encodes [] [] []
  | cons {value : Value} {type : ColumnType} {sent : Option Bytes} {values : List Value}
      {types : List ColumnType} {rest : List (Option Bytes)} :
      encode value type = .ok sent → Encodes values types rest →
      Encodes (value :: values) (type :: types) (sent :: rest)

theorem encodeAll_cons_ok {position : Nat} {value : Value} {type : ColumnType}
    {rest : List (Value × ColumnType)} {bytes : List (Option Bytes)} :
    encodeAll position ((value, type) :: rest) = .ok bytes ↔
      ∃ sent others, encode value type = .ok sent ∧
        encodeAll (position + 1) rest = .ok others ∧ bytes = sent :: others := by
  rw [encodeAll]
  cases encode value type with
  | error => simp
  | ok sent =>
    cases encodeAll (position + 1) rest with
    | error fault =>
      constructor
      · exact nofun
      · rintro ⟨_, _, -, same, -⟩
        cases same
    | ok others =>
      constructor
      · intro same
        cases same
        exact ⟨sent, others, rfl, rfl, rfl⟩
      · rintro ⟨_, _, same, same', rfl⟩
        cases same
        cases same'
        rfl

/-- All values are encoded when there are as many as types and none is refused. -/
theorem encodes_iff (position : Nat) {values : List Value} {types : List ColumnType}
    {bytes : List (Option Bytes)} :
    Encodes values types bytes ↔
      values.length = types.length ∧ encodeAll position (values.zip types) = .ok bytes := by
  induction values generalizing position types bytes with
  | nil =>
    cases types with
    | nil =>
      constructor
      · intro encodes
        cases encodes
        exact ⟨rfl, rfl⟩
      · rintro ⟨-, same⟩
        cases same
        exact .nil
    | cons type types =>
      constructor
      · exact nofun
      · exact nofun
  | cons value values ih =>
    cases types with
    | nil =>
      constructor
      · exact nofun
      · exact nofun
    | cons type types =>
      rw [List.zip_cons_cons, encodeAll_cons_ok]
      constructor
      · rintro (_ | ⟨encoded, rest⟩)
        obtain ⟨aligned, others⟩ := (ih (position + 1)).mp rest
        exact ⟨congrArg Nat.succ aligned, _, _, encoded, others, rfl⟩
      · rintro ⟨aligned, sent, others, encoded, rest, rfl⟩
        exact .cons encoded ((ih (position + 1)).mpr ⟨Nat.succ.inj aligned, rest⟩)

/-- The bytes at a position are those of the value at the same position. -/
theorem Encodes.getElem? {values : List Value} {types : List ColumnType}
    {bytes : List (Option Bytes)} (encodes : Encodes values types bytes) {position : Nat}
    {value : Value} (given : values[position]? = some value) :
    ∃ type sent, types[position]? = some type ∧ bytes[position]? = some sent ∧
      encode value type = .ok sent := by
  induction encodes generalizing position with
  | nil => cases given
  | cons encoded _ ih =>
    cases position with
    | zero =>
      cases given
      exact ⟨_, _, rfl, rfl, encoded⟩
    | succ position => exact ih given

/-- The values decide what is sent. -/
theorem Encodes.unique {values : List Value} {types : List ColumnType}
    {bytes others : List (Option Bytes)} (first : Encodes values types bytes)
    (second : Encodes values types others) : bytes = others :=
  Except.ok.inj (((encodes_iff 0).mp first).2.symm.trans ((encodes_iff 0).mp second).2)

end Parameter

/-- The values that a client binds, if it binds any. -/
def Seen.bound? : Seen → Option (List (Option Bytes))
  | bind parameters => some parameters
  | query _ => none
  | parse _ => none

/-- The values that a client binds, in order. -/
def boundIn (seen : List Seen) : List (List (Option Bytes)) := seen.filterMap Seen.bound?

/-- The values that are bound during a run. -/
def bound (events : List (Event backend)) : List (List (Option Bytes)) :=
  events.flatMap fun
    | .call _ _ seen => boundIn seen
    | .log _ => []
    | .report _ => []

@[simp] theorem bound_append (first second : List (Event backend)) :
    bound (first ++ second) = bound first ++ bound second := List.flatMap_append

/-- Values are bound at most once, and exactly those that are as told. -/
structure BoundOnce (bound : List (List (Option Bytes))) (Told : List (Option Bytes) → Prop) :
    Prop where
  once : bound.length ≤ 1
  exactly : ∀ bytes, bytes ∈ bound ↔ Told bytes

namespace BoundOnce

variable {told other : List (Option Bytes) → Prop}

theorem none (untold : ∀ bytes, ¬ told bytes) : BoundOnce [] told where
  once := Nat.zero_le 1
  exactly bytes := by simp [untold bytes]

theorem single {bytes : List (Option Bytes)} (tells : told bytes)
    (only : ∀ others, told others → others = bytes) : BoundOnce [bytes] told where
  once := Nat.le_refl 1
  exactly others := by
    rw [List.mem_singleton]
    constructor
    · rintro rfl
      exact tells
    · exact only others

theorem congr {bound : List (List (Option Bytes))} (once : BoundOnce bound told)
    (same : ∀ bytes, told bytes ↔ other bytes) : BoundOnce bound other where
  once := once.once
  exactly bytes := (once.exactly bytes).trans (same bytes)

end BoundOnce

/-- The text of a statement is sent, and the server prepares it in time. -/
structure Client.Prepares (text : String) (server : Server) : Prop where
  sendable : isSendable text = true
  prompt : server.next.1.delay ≠ some .prepare
  accepted : server.next.1.prepareFault = none

/-- The bytes are bound for a command: it is not a batch, its text is prepared, and they are its
parameters as the server expects them. The names of the parameters play no part. -/
structure Client.Binds (command : Command) (server : Server) (bytes : List (Option Bytes)) :
    Prop where
  single : command.multipleResultSets = false
  prepares : Client.Prepares command.text server
  encodes : Parameter.Encodes (command.parameters.map Prod.snd) server.next.1.parameterTypes bytes

/-- A prepared command binds the values of its parameters. -/
theorem Client.runPrepared_bound {command : Command} (single : command.multipleResultSets = false)
    (server : Server) (use : Answer → Except SqlError α) :
    BoundOnce (boundIn (runPrepared command server use).observations)
      (Client.Binds command server) := by
  unfold runPrepared sending
  split
  case isFalse unsendable =>
    apply BoundOnce.none
    intro bytes binds
    exact unsendable binds.prepares.sendable
  case isTrue sendable =>
    dsimp only
    split
    case isTrue late =>
      apply BoundOnce.none
      intro bytes binds
      exact binds.prepares.prompt late
    case isFalse prompt =>
      split
      case h_1 fault refused =>
        apply BoundOnce.none
        intro bytes binds
        cases refused.symm.trans binds.prepares.accepted
      case h_2 accepted =>
        split
        case isTrue different =>
          apply BoundOnce.none
          intro bytes binds
          exact different ((Parameter.encodes_iff 0).mp binds.encodes).1
        case isFalse aligned =>
          split
          case h_1 fault refused =>
            apply BoundOnce.none
            intro bytes binds
            cases refused.symm.trans ((Parameter.encodes_iff 0).mp binds.encodes).2
          case h_2 bytes encoded =>
            have binds : Client.Binds command server bytes := {
              single := single
              prepares := ⟨sendable, prompt, accepted⟩
              encodes := (Parameter.encodes_iff 0).mpr ⟨Decidable.not_not.mp aligned, encoded⟩ }
            apply BoundOnce.single binds
            intro others also
            exact also.encodes.unique binds.encodes

/-- A text that is sent as it is has no values. -/
theorem Client.runText_bound (text : String) (server : Server) :
    boundIn (runText text server).observations = [] := by
  unfold runText sending
  split
  · split
    · rfl
    · rfl
  · rfl

/-- A cursor that is opened for a command binds its values; for a batch nothing is bound. -/
theorem Connection.openCursor_bound (command : Command) (server : Server) :
    BoundOnce (boundIn (openCursor command server).observations)
      (Client.Binds command server) := by
  unfold openCursor
  split
  case isTrue multiple =>
    have unbound : boundIn (openBatch command server).observations = [] := by
      unfold openBatch
      split
      · rfl
      · exact Client.runText_bound command.text server
    rw [unbound]
    apply BoundOnce.none
    intro bytes binds
    cases multiple.symm.trans binds.single
  case isFalse single =>
    exact Client.runPrepared_bound (Bool.eq_false_iff.mpr single) server Client.streamOf

/-- A run during which nothing is bound. -/
def unboundLaw : RunLaw backend where
  holds _ events _ := bound events = []
  idle _ := rfl
  sequence first second := by rw [bound_append, first, second, List.append_nil]

/-- The rows of a cursor are fetched without binding anything. -/
theorem unboundLaw_reading (control : Control) (connection : Nat) :
    unboundLaw.toActionLaw.Fetches control connection where
  row _ := unboundLaw.of_await fun _ => rfl
  set _ := unboundLaw.of_await fun _ => rfl

/-- What is bound before the rest of a run that binds nothing. -/
theorem bound_bind {first : Action backend α} {next : α → Action backend β}
    (unbound : ∀ value, unboundLaw.Of (next value)) (session : Session backend) :
    bound ((first >>= next) session).events = bound (first session).events := by
  rw [Action.bind_apply, bound_append, unbound _ (first session).session, List.append_nil]

variable {control : Control} {session : Session backend}

/-- A call that is left out after a cancellation binds what the client binds. -/
theorem bound_await {timed : Bool} {connection : Nat} {serve : Server → Served Server Seen (Reply α)}
    {describe : Reply α → Call backend} {told : List (Option Bytes) → Prop}
    (once : BoundOnce (boundIn (serve session.state).observations) told) :
    BoundOnce (bound (control.await timed (Action.call connection serve describe) session).events)
      fun bytes => control.stops session = false ∧ told bytes := by
  rw [control.await_apply]
  cases stops : control.stops session with
  | true =>
    apply BoundOnce.none
    rintro bytes ⟨goesOn, -⟩
    cases goesOn
  | false =>
    have called : bound (Action.call connection serve describe session).events =
        boundIn (serve session.state).observations := List.append_nil _
    rw [if_neg Bool.false_ne_true, called]
    apply once.congr
    intro bytes
    exact (and_iff_right rfl).symm

/-- Once a cursor has been opened, its values are bound; reading it binds nothing more. -/
theorem bound_opened {target : Target backend} {command : Command}
    {next : Except SqlError backend.Cursor → Action backend β}
    (stopped : ∀ error, unboundLaw.Of (next (.error error)))
    (read : ∀ cursor, unboundLaw.Of (next (.ok cursor))) :
    BoundOnce
      (bound ((control.await true (Action.openCursor target.connection command target.transaction) >>=
        next) session).events)
      fun bytes => control.stops session = false ∧ Client.Binds command session.state bytes := by
  have unbound : ∀ opened, unboundLaw.Of (next opened) := by
    intro opened
    cases opened with
    | error error => exact stopped error
    | ok cursor => exact read cursor
  rw [bound_bind unbound]
  exact bound_await (Connection.openCursor_bound command session.state)

/-- Running a command binds its values, unless the operation has been cancelled. -/
theorem runStrategy_bound {convert : RowConverter backend} {target : Target backend}
    {command : Command} {strategy : Strategy} (cap : Option Nat) (name : String)
    (executes : strategy = .nonQuery → command.multipleResultSets = false) :
    BoundOnce
      (bound (Execution.runStrategy control convert target command cap strategy name session).events)
      fun bytes => control.stops session = false ∧ Client.Binds command session.state bytes := by
  have reading := unboundLaw_reading control target.connection
  unfold Execution.runStrategy
  cases strategy with
  | nonQuery =>
    dsimp only
    rw [bound_bind]
    · exact bound_await (Client.runPrepared_bound (executes rfl) session.state Client.countOf)
    · intro affected
      cases affected <;> exact unboundLaw.of_pure _
  | scalar =>
    apply bound_opened
    · intro error
      exact unboundLaw.of_pure _
    · intro cursor
      apply unboundLaw.of_bind (reading.readScalar convert cursor)
      intro value
      rcases value with error | ⟨value, rows⟩ <;> exact unboundLaw.of_pure _
  | rows multiple =>
    apply bound_opened
    · intro error
      exact unboundLaw.of_pure _
    · intro cursor
      apply unboundLaw.of_bind (reading.materialize convert multiple cap cursor)
      intro children
      rcases children with error | ⟨children, rows⟩ <;> exact unboundLaw.of_pure _

/-- Only a batch is not accepted. -/
theorem Connection.check_single {command : Command} (single : command.multipleResultSets = false) :
    check command = .ok () := by
  unfold check
  rw [single]
  rfl

/-- A command that is run and logged binds its values, unless the operation has been cancelled. -/
theorem run_bound {convert : RowConverter backend} {target : Target backend} {command : Command}
    {strategy : Strategy} (cap : Option Nat) (node : Node)
    (executes : strategy = .nonQuery → command.multipleResultSets = false) :
    BoundOnce
      (bound (Execution.run control convert target command cap strategy node session).events)
      fun bytes => control.stops session = false ∧ Client.Binds command session.state bytes := by
  cases checked : backend.check target.connection command session.state with
  | error error =>
    rw [Execution.run_refused checked]
    apply BoundOnce.none
    rintro bytes ⟨-, binds⟩
    cases checked.symm.trans (Connection.check_single binds.single)
  | ok =>
    rw [Execution.run_accepted checked]
    dsimp only
    rw [bound_append]
    show BoundOnce (_ ++ []) _
    rw [List.append_nil]
    exact runStrategy_bound cap node.name executes

end QueryTree.Postgres
