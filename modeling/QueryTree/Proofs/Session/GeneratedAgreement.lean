/-
This file proves that a request which asks for its statement only gets the statement that it would
otherwise run: run on its own, the statement does what the request does.
-/
import QueryTree.Proofs.Session.CommandRun
import QueryTree.Proofs.Session.EngineRun
import QueryTree.Proofs.Session.Materialization
import QueryTree.Proofs.Statement.PlaceholderOrder
import QueryTree.Proofs.Statement.UnreadFragments

namespace QueryTree

/-- A compiled statement is read back from its node. -/
theorem Command.ofNode_toNode (statement : CompiledStatement) (name : String) :
    ofNode (statement.toNode name) = .ok (ofStatement statement) := by
  change Except.ok _ = _
  simp [CompiledStatement.toNode, Node.leaf, Function.comp_def, ofStatement]

/-- The parameters of a compiled statement are named by placeholders. -/
theorem Statement.compile_names {dialect : Dialect} {kind : StatementKind} {node : Node}
    {compiled : CompiledStatement} (compiles : compile dialect kind node = .ok compiled) :
    ∀ parameter ∈ compiled.parameters, ∃ position, parameter.1 = dialect.placeholder position := by
  obtain ⟨statement, -, rfl⟩ := map_ok compiles
  intro parameter member
  have named := List.mem_map_of_mem (f := Prod.fst) member
  change parameter.1 ∈ (Piece.parameters _ _).map Prod.fst at named
  rw [Piece.parameters_names] at named
  obtain ⟨position, -, same⟩ := List.mem_map.mp named
  exact ⟨position, same.symm⟩

/-- The flag for several result sets is no placeholder. -/
theorem Dialect.placeholder_ne_multipleFlag (dialect : Dialect) (position : Nat) :
    dialect.placeholder position ≠ Engine.multipleFlag := by
  intro same
  have characters := congrArg String.toList same
  simp only [placeholder, placeholderCharacters, String.toList_ofList] at characters
  cases style : dialect.placeholderStyle <;> simp [style, Engine.multipleFlag] at characters

variable {backend : Backend}

namespace Execution

variable {control : Control} {convert : RowConverter backend} {target : Target backend}
  {command : Command} {session : Session backend}

/-- Without a cursor there are no rows, however many are wanted. -/
theorem runStrategy_unopened {error : SqlError} (cap : Option Nat) (multiple : Bool) (name : String)
    (failed : (control.await true (Action.openCursor target.connection command target.transaction)
      session).value = .error error) :
    let opened := control.await true (Action.openCursor target.connection command target.transaction)
      session
    runStrategy control convert target command cap (.rows multiple) name session =
      ⟨.error error, opened.events, opened.session⟩ := by
  intro opened
  simp [runStrategy, opened, failed]

/-- The rows of an open cursor are read. -/
theorem runStrategy_opened {cursor : backend.Cursor} (cap : Option Nat) (multiple : Bool)
    (name : String)
    (given : (control.await true (Action.openCursor target.connection command target.transaction)
      session).value = .ok cursor) :
    let opened := control.await true (Action.openCursor target.connection command target.transaction)
      session
    let read := Rows.materialize control convert target.connection multiple cap cursor
      opened.session
    runStrategy control convert target command cap (.rows multiple) name session =
      ⟨read.value.map fun (children, rows) => (⟨name, .null, children⟩, rows),
        opened.events ++ read.events, read.session⟩ := by
  intro opened read
  cases outcome : read.value with
  | error error => simp_all [runStrategy, Except.map, opened, read]
  | ok result => simp_all [runStrategy, Except.map, opened, read]

end Execution

namespace Engine

variable {engine : Engine backend}

/-- A command has a place to run, and the backend accepts it there. -/
structure Accepts (engine : Engine backend) (command : Command) (session : Session backend)
    (target : Target backend) : Prop where
  found : engine.target session = .ok target
  accepted : backend.check target.connection command session.state = .ok ()

/-- A command has no place to run, or the backend does not accept it there. -/
inductive Rejects (engine : Engine backend) (command : Command) (session : Session backend) :
    SqlError → Prop where
  | unconnected {error : SqlError} : engine.target session = .error error →
      Rejects engine command session error
  | unaccepted {target : Target backend} {error : SqlError} : engine.target session = .ok target →
      backend.check target.connection command session.state = .error error →
      Rejects engine command session error

/-- A command that cannot be begun leaves its node as it was. -/
theorem serve_rejected {command : Command} {cap : Option Nat} {strategy : Strategy}
    {session : Session backend} {error : SqlError} (rejects : engine.Rejects command session error)
    (node : Node) :
    engine.serve (.ok (.planned ⟨command, cap, strategy⟩)) node session =
      ⟨⟨node, .error error⟩, [], session⟩ := by
  rw [serve_apply]
  cases rejects with
  | unconnected missing => simp only [missing]
  | unaccepted found unaccepted =>
    simp only [found]
    exact Execution.run_refused unaccepted ..

/-- A command that is begun does the same for all nodes of a name. -/
theorem serve_accepted {command : Command} {cap : Option Nat} {strategy : Strategy}
    {session : Session backend} {target : Target backend}
    (accepts : engine.Accepts command session target) (node : Node) :
    let control := engine.control node.name
    let ran := Execution.runStrategy control engine.convert target command cap strategy node.name
      session
    engine.serve (.ok (.planned ⟨command, cap, strategy⟩)) node session =
      ⟨Execution.settled (.empty node.name) ran.value,
        ran.events ++ [.log (control.entry command (ran.value.map Prod.snd))], ran.session⟩ := by
  intro control ran
  have named : node.name = (Node.empty node.name).name := rfl
  rw [serve_apply]
  simp only [accepts.found]
  rw [Execution.run_accepted accepts.accepted, Execution.settled_congr named]

/-- A request for the same statement that runs it: it differs in its flags only, of which none asks for
the text alone or for several result sets. -/
structure RunsInstead (kind : StatementKind) (request direct : Node) : Prop where
  same : direct.unflagged kind.flags = request.unflagged kind.flags
  runs : direct.isGenerateOnly = .ok false
  single : kind = .select → direct.singleFlag multipleFlag = .ok false

theorem RunsInstead.name {kind : StatementKind} {request direct : Node}
    (instead : RunsInstead kind request direct) : direct.name = request.name := by
  have same := congrArg Node.name instead.same
  exact same

/-- What a request demands that runs its statement. -/
theorem RunsInstead.demand {dialect : Dialect} {kind : StatementKind} {request direct : Node}
    {compiled : CompiledStatement} (compiles : Statement.compile dialect kind request = .ok compiled)
    (instead : RunsInstead kind request direct) :
    Demand.ofRequest dialect kind direct =
      .ok (.planned ⟨.ofStatement compiled, if kind = .select then compiled.maxRows else none,
        if kind = .select then .rows false else .nonQuery⟩) := by
  have direct_compiles := (Statement.compile_congr instead.same).trans compiles
  rw [Demand.ofRequest, direct_compiles]
  change (direct.isGenerateOnly >>= _) = _
  rw [instead.runs]
  cases kind with
  | select =>
    change (direct.singleFlag multipleFlag >>= _) = _
    rw [instead.single rfl]
    rfl
  | insert => rfl
  | update => rfl
  | delete => rfl

/-- What a statement demands that is read back from its node, for its count of rows. -/
theorem Demand.ofRaw_toNode (compiled : CompiledStatement) (name : String) :
    Demand.ofRaw .nonQuery (compiled.toNode name) =
      .ok (.planned ⟨.ofStatement compiled, none, .nonQuery⟩) := by
  rw [ofRaw, Command.ofNode_toNode]
  rfl

/-- What a statement demands that is read back from its node, for rows. -/
theorem Demand.ofSelect_toNode {dialect : Dialect} {kind : StatementKind} {node : Node}
    {compiled : CompiledStatement} (compiles : Statement.compile dialect kind node = .ok compiled)
    (name : String) :
    Demand.ofSelect (compiled.toNode name) =
      .ok (.planned ⟨.ofStatement compiled, none, .rows false⟩) := by
  have unflagged : ∀ parameter ∈ compiled.parameters, parameter.1 ≠ multipleFlag := by
    intro parameter member
    obtain ⟨position, named⟩ := Statement.compile_names compiles parameter member
    rw [named]
    exact dialect.placeholder_ne_multipleFlag position
  have unasked : (compiled.toNode name).singleFlag multipleFlag = .ok false := by
    have missing : (compiled.toNode name).findAll multipleFlag = [] := by
      rw [Node.findAll, List.filter_eq_nil_iff]
      intro child member
      obtain ⟨parameter, given, rfl⟩ := List.mem_map.mp member
      simpa [Node.leaf] using unflagged parameter given
    rw [Node.singleFlag, Node.single, missing]
    rfl
  have kept : (Command.ofStatement compiled).without multipleFlag = .ofStatement compiled := by
    have all : compiled.parameters.filter (fun parameter => parameter.1 != multipleFlag) =
        compiled.parameters :=
      List.filter_eq_self.mpr fun parameter member => by simpa using unflagged parameter member
    rw [Command.without]
    exact congrArg (Command.mk compiled.text · false) all
  rw [ofSelect, unasked, Command.ofNode_toNode]
  change Except.ok _ = _
  rw [kept]
  rfl

/-- Of two operations each leaves its node as it was, and both fail alike, where their command cannot be
begun. -/
def RejectedAlike (engine : Engine backend) (command : Command) (session : Session backend)
    (first second : Node × Action backend (Finished Node)) : Prop :=
  ∀ error, engine.Rejects command session error →
    first.2 session = ⟨⟨first.1, .error error⟩, [], session⟩ ∧
      second.2 session = ⟨⟨second.1, .error error⟩, [], session⟩

/-- Two operations do the same where their command is begun. -/
def AcceptedAlike (engine : Engine backend) (command : Command) (session : Session backend)
    (first second : Action backend (Finished Node)) : Prop :=
  ∀ target, engine.Accepts command session target → first session = second session

/-- Two reads of one command open the same cursor where the command is begun. Without a cursor they do
the same. With one they have the same rows, where the first result set of the cursor has no more rows
than are wanted and the rows are converted. -/
def ReadAlike (engine : Engine backend) (compiled : CompiledStatement) (name : String)
    (session : Session backend) (first second : Action backend (Finished Node)) : Prop :=
  ∀ target, engine.Accepts (.ofStatement compiled) session target →
    let control := engine.control name
    let opened := control.await true
      (Action.openCursor target.connection (.ofStatement compiled) target.transaction) session
    (∃ rest, (first session).events = opened.events ++ rest) ∧
    (∃ rest, (second session).events = opened.events ++ rest) ∧
    (∀ error, opened.value = .error error → first session = second session) ∧
    ∀ cursor sets (columns : backend.Row → List (String × Value)), opened.value = .ok cursor →
      Holds control target.connection cursor opened.session sets →
      (∀ limit, compiled.maxRows = some limit → (sets.head?.getD []).length ≤ limit) →
      (∀ row ∈ sets.head?.getD [], engine.convert row = .ok (columns row)) →
      let rows := (sets.head?.getD []).map fun row => rowNode (columns row)
      (first session).value = ⟨⟨name, .null, rows⟩, .ok ()⟩ ∧
        (second session).value = ⟨⟨name, .null, rows⟩, .ok ()⟩

/-- A read is served by the cursor that is opened for it. -/
theorem serve_rows {compiled : CompiledStatement} {session : Session backend}
    {target : Target backend} (accepts : engine.Accepts (.ofStatement compiled) session target)
    (cap : Option Nat) (node : Node) :
    let control := engine.control node.name
    let opened := control.await true
      (Action.openCursor target.connection (.ofStatement compiled) target.transaction) session
    let ran := engine.serve (.ok (.planned ⟨.ofStatement compiled, cap, .rows false⟩)) node session
    (∃ rest, ran.events = opened.events ++ rest) ∧
      (∀ error, opened.value = .error error →
        ran = ⟨⟨.empty node.name, .error error⟩,
          opened.events ++ [.log (control.entry (.ofStatement compiled) (.error error))],
          opened.session⟩) ∧
      ∀ cursor sets (columns : backend.Row → List (String × Value)), opened.value = .ok cursor →
        Holds control target.connection cursor opened.session sets →
        (∀ row ∈ Rows.kept cap (sets.head?.getD []), engine.convert row = .ok (columns row)) →
        ran.value = ⟨⟨node.name, .null,
          (Rows.kept cap (sets.head?.getD [])).map fun row => rowNode (columns row)⟩, .ok ()⟩ := by
  intro control opened ran
  have served : ran = _ := serve_accepted accepts node
  refine ⟨?_, ?_, ?_⟩
  · cases outcome : opened.value with
    | error error =>
      rw [served, Execution.runStrategy_unopened cap false node.name outcome]
      exact ⟨_, rfl⟩
    | ok cursor =>
      rw [served, Execution.runStrategy_opened cap false node.name outcome]
      exact ⟨_, List.append_assoc ..⟩
  · intro error failed
    rw [served, Execution.runStrategy_unopened cap false node.name failed]
    rfl
  · intro cursor sets columns given held accepted
    obtain ⟨value, -⟩ := Rows.materialize_first held accepted
    rw [served, Execution.runStrategy_opened cap false node.name given]
    change Execution.settled _ (Except.map _ (Rows.materialize control engine.convert
      target.connection false cap cursor opened.session).value) = _
    rw [value]
    rfl

theorem RejectedAlike.of_serve {command : Command} {firstCap secondCap : Option Nat}
    {strategy : Strategy} {session : Session backend} (one other : Node) :
    RejectedAlike engine command session
      (one, engine.serve (.ok (.planned ⟨command, firstCap, strategy⟩)) one)
      (other, engine.serve (.ok (.planned ⟨command, secondCap, strategy⟩)) other) :=
  fun _ rejects => ⟨serve_rejected rejects one, serve_rejected rejects other⟩

theorem AcceptedAlike.of_serve {command : Command} {cap : Option Nat} {strategy : Strategy}
    {session : Session backend} {one other : Node} (named : one.name = other.name) :
    AcceptedAlike engine command session
      (engine.serve (.ok (.planned ⟨command, cap, strategy⟩)) one)
      (engine.serve (.ok (.planned ⟨command, cap, strategy⟩)) other) := by
  intro target accepts
  rw [serve_accepted accepts, serve_accepted accepts, named]

/-- A limit that the first result set keeps makes no difference to a read. -/
theorem ReadAlike.of_serve {compiled : CompiledStatement} {session : Session backend}
    {one other : Node} (named : one.name = other.name) :
    ReadAlike engine compiled one.name session
      (engine.serve (.ok (.planned ⟨.ofStatement compiled, none, .rows false⟩)) one)
      (engine.serve (.ok (.planned ⟨.ofStatement compiled, compiled.maxRows, .rows false⟩)) other) := by
  intro target accepts control opened
  obtain ⟨firstEvents, firstFailure, firstRows⟩ := serve_rows accepts none one
  obtain ⟨secondEvents, secondFailure, secondRows⟩ :=
    serve_rows accepts compiled.maxRows other
  rw [← named] at secondEvents secondFailure secondRows
  refine ⟨firstEvents, secondEvents, fun error failed => ?_, ?_⟩
  · rw [firstFailure error failed, secondFailure error failed]
  · intro cursor sets columns given held few accepted
    have all : Rows.kept compiled.maxRows (sets.head?.getD []) = sets.head?.getD [] := by
      cases limited : compiled.maxRows with
      | none => rfl
      | some limit => exact List.take_of_length_le (few limit limited)
    have rows := secondRows cursor sets columns given held (by rwa [all])
    rw [all] at rows
    exact ⟨firstRows cursor sets columns given held accepted, rows⟩

/-- A request that asks for its statement only makes no call and needs no connection; its node becomes
the text of the statement, with the parameters as children in order, from which the statement's command
is read back. Run on its own, the statement of a change does the same as the request that runs it, and
that of a read has the same rows as its request, up to the limit; where it cannot be begun, each of the
two is left as it was. -/
theorem generated_agrees {kind : StatementKind} {request : Node} {compiled : CompiledStatement}
    (compiles : Statement.compile engine.settings.dialect kind request = .ok compiled)
    (generates : request.isGenerateOnly = .ok true) :
    let generated : Node := ⟨request.name, .text compiled.text,
      compiled.parameters.map fun (name, value) => .leaf name value⟩
    (∀ session, engine.compiled kind request session = ⟨⟨generated, .ok ()⟩, [], session⟩) ∧
    (∀ (statement : CompiledStatement) name,
      Command.ofNode (statement.toNode name) = .ok (.ofStatement statement)) ∧
    ∀ direct, RunsInstead kind request direct → ∀ session,
      let command := Command.ofStatement compiled
      (kind ≠ .select →
        RejectedAlike engine command session (generated, engine.execute generated)
            (direct, engine.compiled kind direct) ∧
          AcceptedAlike engine command session (engine.execute generated)
            (engine.compiled kind direct)) ∧
      (kind = .select →
        RejectedAlike engine command session (generated, engine.select generated)
            (direct, engine.compiled kind direct) ∧
          ReadAlike engine compiled request.name session (engine.select generated)
            (engine.compiled kind direct)) := by
  intro generated
  have made : generated = compiled.toNode request.name := rfl
  refine ⟨fun session => ?_, Command.ofNode_toNode, fun direct instead session => ?_⟩
  · have demanded : Demand.ofRequest engine.settings.dialect kind request =
        .ok (.generated compiled) := by
      rw [Demand.ofRequest, compiles]
      change (request.isGenerateOnly >>= _) = _
      rw [generates]
      rfl
    rw [Engine.compiled, demanded, serve_apply]
    rfl
  · intro command
    have named : generated.name = direct.name := instead.name.symm
    have run : engine.compiled kind direct = engine.serve _ direct := rfl
    rw [instead.demand compiles] at run
    refine ⟨fun change => ?_, fun read => ?_⟩
    · rw [if_neg change, if_neg change] at run
      have raw : engine.execute generated =
          engine.serve (.ok (.planned ⟨command, none, .nonQuery⟩)) generated := by
        rw [made, execute, Demand.ofRaw_toNode]
      rw [raw, run]
      exact ⟨.of_serve generated direct, .of_serve named⟩
    · rw [if_pos read, if_pos read] at run
      have raw : engine.select generated =
          engine.serve (.ok (.planned ⟨command, none, .rows false⟩)) generated := by
        rw [made, select, Demand.ofSelect_toNode compiles]
      rw [raw, run]
      exact ⟨.of_serve generated direct, .of_serve named⟩

/-- A request for a new row, which is run. -/
def newUser : Node :=
  ⟨"pgsql.create", .text "users", [⟨"values", .null, [.leaf "name" (.text "Ann")]⟩]⟩

/-- The request for the new row that asks for the statement only. -/
def newUserText : Node := newUser.push (.leaf "generate-only" (.bool true))

/-- The statement of the new row. -/
def newUserStatement : CompiledStatement :=
  ⟨"INSERT INTO \"users\" (\"name\") VALUES ($1)", [("$1", .text "Ann")], none⟩

/-- The statement of a new row is handed out and then run like its request. -/
theorem generated_agrees_newUser :
    let generated := newUserStatement.toNode "pgsql.create"
    Statement.compile .postgres .insert newUserText = .ok newUserStatement ∧
      newUserText.isGenerateOnly = .ok true ∧ RunsInstead .insert newUserText newUser ∧
      scripted.compiled .insert newUserText scriptedSession =
        ⟨⟨generated, .ok ()⟩, [], scriptedSession⟩ ∧
      scripted.execute generated scriptedSession =
        scripted.compiled .insert newUser scriptedSession := by
  have compiles : Statement.compile scripted.settings.dialect .insert newUserText =
      .ok newUserStatement := rfl
  have generates : newUserText.isGenerateOnly = .ok true := rfl
  have instead : RunsInstead .insert newUserText newUser := ⟨rfl, rfl, nofun⟩
  obtain ⟨handed, -, runs⟩ := generated_agrees compiles generates
  obtain ⟨-, alike⟩ := (runs newUser instead scriptedSession).1 (by decide)
  exact ⟨compiles, generates, instead, handed scriptedSession, alike ⟨0, none⟩ ⟨rfl, rfl⟩⟩

/-- Without a connection the statement is left in its node and the request in its own. -/
theorem generated_agrees_unconnected :
    let session : Session Scripted.backend := ⟨[], [], false⟩
    let generated := (scripted.compiled .insert newUserText session).value.content
    let error : SqlError := .connection (.unregistered "pgsql.connect")
    RunsInstead .insert newUserText newUser ∧ generated = newUserStatement.toNode "pgsql.create" ∧
      scripted.execute generated session = ⟨⟨generated, .error error⟩, [], session⟩ ∧
      scripted.compiled .insert newUser session = ⟨⟨newUser, .error error⟩, [], session⟩ ∧
      generated ≠ newUser := by
  refine ⟨⟨rfl, rfl, nofun⟩, rfl, rfl, rfl, ?_⟩
  intro same
  have lengths := congrArg (fun node => (node.children.flatMap Node.children).length) same
  exact absurd lengths (by decide)

end Engine

end QueryTree
