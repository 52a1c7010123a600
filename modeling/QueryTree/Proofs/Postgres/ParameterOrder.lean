/-
This file proves in which order the children of a raw statement are bound to its parameters. The names of
the children do not reach the server: a value goes to the parameter that has its position.
-/
import QueryTree.Proofs.Postgres.NestedAtomicity
import QueryTree.Proofs.Postgres.SentValues
import QueryTree.Proofs.Statement.StatementLayout

namespace QueryTree

/-- Different positions have different placeholders. -/
theorem Dialect.placeholder_injective (dialect : Dialect) {first second : Nat}
    (same : dialect.placeholder first = dialect.placeholder second) : first = second :=
  dialect.placeholderCharacters_injective (String.ofList_injective same)

/-- The operations on a text with parameters. -/
inductive RawOperation where
  | select
  | scalar
  | execute
deriving DecidableEq, Repr

namespace RawOperation

def operation : RawOperation → Operation
  | select => .select
  | scalar => .scalar
  | execute => .execute

/-- What the operation demands of a node. -/
def demand : RawOperation → Node → Except RequestFault Engine.Demand
  | select => Engine.Demand.ofSelect
  | scalar => Engine.Demand.ofRaw .scalar
  | execute => Engine.Demand.ofRaw .nonQuery

/-- The parameters of a text are the children of its node, by name and value. For rows, a child can be
the flag for several result sets instead. -/
def parameters (raw : RawOperation) (node : Node) : List (String × Value) :=
  let children := node.children.map fun child => (child.name, child.value)
  match raw with
  | select => children.filter fun parameter => parameter.1 != Engine.multipleFlag
  | scalar => children
  | execute => children

/-- The text is not for several result sets. -/
def IsSingle (raw : RawOperation) (node : Node) : Prop :=
  raw = select → node.singleFlag Engine.multipleFlag = .ok false

/-- The plan for a node sends its text with its parameters. -/
structure Plans (raw : RawOperation) (node : Node) (plan : Engine.Plan) : Prop where
  text : node.text = .ok plan.command.text
  parameters : plan.command.parameters = raw.parameters node
  single : plan.command.multipleResultSets = false ↔ raw.IsSingle node
  executes : plan.strategy = .nonQuery → plan.command.multipleResultSets = false

/-- A text for a value or a count is planned with all the children of its node. -/
theorem plans_of_ofRaw {raw : RawOperation} (other : raw ≠ select) {strategy : Strategy} {node : Node}
    {demanded : Engine.Demand} (read : Engine.Demand.ofRaw strategy node = .ok demanded) :
    ∃ plan, demanded = .planned plan ∧ raw.Plans node plan := by
  obtain ⟨command, given, read⟩ := bind_ok read
  obtain ⟨text, told, given⟩ := bind_ok given
  cases given
  cases read
  refine ⟨_, rfl, ?_⟩
  exact {
    text := told
    parameters := by
      cases raw with
      | select => exact absurd rfl other
      | scalar => rfl
      | execute => rfl
    single := by simp [IsSingle, other]
    executes := fun _ => rfl }

/-- A node is planned as it stands. -/
theorem plans_of_demand {raw : RawOperation} {node : Node} {demanded : Engine.Demand}
    (read : raw.demand node = .ok demanded) : ∃ plan, demanded = .planned plan ∧ raw.Plans node plan := by
  cases raw with
  | select =>
    obtain ⟨multiple, flag, read⟩ := bind_ok read
    obtain ⟨command, given, read⟩ := bind_ok read
    obtain ⟨text, told, given⟩ := bind_ok given
    cases given
    cases read
    refine ⟨_, rfl, ?_⟩
    exact {
      text := told
      parameters := rfl
      single := by simp [IsSingle, flag]
      executes := nofun }
  | scalar =>
    have other : scalar ≠ select := nofun
    exact plans_of_ofRaw other read
  | execute =>
    have other : execute ≠ select := nofun
    exact plans_of_ofRaw other read

/-- A node with a text is refused only for its flag. -/
theorem not_single_of_fault {raw : RawOperation} {node : Node} {fault : RequestFault} {text : String}
    (refused : raw.demand node = .error fault) (read : node.text = .ok text) :
    ¬ raw.IsSingle node := by
  intro single
  cases raw with
  | select =>
    rw [demand, Engine.Demand.ofSelect, single rfl, Command.ofNode, read] at refused
    cases refused
  | scalar =>
    rw [demand, Engine.Demand.ofRaw, Command.ofNode, read] at refused
    cases refused
  | execute =>
    rw [demand, Engine.Demand.ofRaw, Command.ofNode, read] at refused
    cases refused

end RawOperation

end QueryTree

namespace QueryTree.Postgres

variable {engine : Engine backend} {raw : RawOperation} {node : Node} {session : Session backend}

/-- The types of the parameters that the server expects in the next statement. -/
def expectedTypes (session : Session backend) : List ColumnType :=
  (Server.next session.state).1.parameterTypes

/-- The values of a raw statement are sent as bytes: there is a place to send it to, where the server
prepares its text, and at each position the bytes are the value of the child there. -/
structure Sends (engine : Engine backend) (raw : RawOperation) (node : Node)
    (session : Session backend) (bytes : List (Option Bytes)) : Prop where
  connected : ∃ target, engine.target session = .ok target
  goesOn : (engine.control node.name).stops session = false
  single : raw.IsSingle node
  prepares : ∃ text, node.text = .ok text ∧ Client.Prepares text session.state
  encodes : Parameter.Encodes ((raw.parameters node).map Prod.snd) (expectedTypes session) bytes

/-- A planned raw statement sends its values as its command is bound. -/
theorem sends_iff {plan : Engine.Plan} (plans : raw.Plans node plan) {bytes : List (Option Bytes)} :
    Sends engine raw node session bytes ↔
      (∃ target, engine.target session = .ok target) ∧
        (engine.control node.name).stops session = false ∧
        Client.Binds plan.command session.state bytes := by
  constructor
  · intro sends
    obtain ⟨text, read, prepares⟩ := sends.prepares
    cases plans.text.symm.trans read
    refine ⟨sends.connected, sends.goesOn, plans.single.mpr sends.single, prepares, ?_⟩
    rw [plans.parameters]
    exact sends.encodes
  · rintro ⟨connected, goesOn, binds⟩
    have encodes := binds.encodes
    rw [plans.parameters] at encodes
    exact ⟨connected, goesOn, plans.single.mp binds.single, ⟨_, plans.text, binds.prepares⟩, encodes⟩

/-- A raw statement binds the values of its children in their order, and nothing else. -/
theorem serve_bound (engine : Engine backend) (raw : RawOperation) (node : Node)
    (session : Session backend) :
    BoundOnce (bound (engine.serve (raw.demand node) node session).events)
      (Sends engine raw node session) := by
  rw [engine.serve_apply]
  cases demanded : raw.demand node with
  | error fault =>
    apply BoundOnce.none
    intro bytes sends
    obtain ⟨text, read, -⟩ := sends.prepares
    exact RawOperation.not_single_of_fault demanded read sends.single
  | ok demand =>
    obtain ⟨plan, rfl, plans⟩ := RawOperation.plans_of_demand demanded
    dsimp only
    cases found : engine.target session with
    | error error =>
      apply BoundOnce.none
      intro bytes sends
      obtain ⟨target, connected⟩ := sends.connected
      cases found.symm.trans connected
    | ok target =>
      have connected : ∃ target, engine.target session = .ok target := ⟨target, found⟩
      apply (run_bound plan.cap node plans.executes).congr
      intro bytes
      rw [sends_iff plans]
      exact (and_iff_right connected).symm

/-- Every value goes to the parameter whose placeholder is its name. -/
def BoundByName (parameters : List (String × Value)) (types : List ColumnType)
    (bytes : List (Option Bytes)) : Prop :=
  ∀ value index, (Dialect.postgres.placeholder index, value) ∈ parameters →
    ∃ type sent, types[index]? = some type ∧ bytes[index]? = some sent ∧
      Parameter.encode value type = .ok sent

/-- In the order of the placeholders, a parameter has the position that its name stands for. -/
theorem boundByName_of_ordered {parameters : List (String × Value)} {types : List ColumnType}
    {bytes : List (Option Bytes)}
    (ordered : parameters.map Prod.fst =
      (List.range parameters.length).map Dialect.postgres.placeholder)
    (encodes : Parameter.Encodes (parameters.map Prod.snd) types bytes) :
    BoundByName parameters types bytes := by
  intro value index member
  obtain ⟨position, found⟩ := List.mem_iff_getElem?.mp member
  have inside : position < parameters.length := (List.getElem?_eq_some_iff.mp found).1
  have named : (parameters.map Prod.fst)[position]? = some (Dialect.postgres.placeholder index) := by
    rw [List.getElem?_map, found]
    rfl
  rw [ordered, List.getElem?_map, List.getElem?_range inside] at named
  have same : position = index := Dialect.postgres.placeholder_injective (Option.some.inj named)
  subst same
  apply encodes.getElem?
  rw [List.getElem?_map, found]
  rfl

/-- The values of a raw statement are sent exactly once, if at all, and at each position the value of the
child there, whatever the children are named. When the children stand in the order of their
placeholders, every value goes to the parameter that its name stands for. -/
theorem raw_bound (engine : Engine backend) (raw : RawOperation) (node : Node)
    (session : Session backend) :
    let ran := Program.operate engine raw.operation node session
    let parameters := raw.parameters node
    (Operation.parse engine.settings.dialect node.name = .ok raw.operation →
      engine.invoke node session = ran) ∧
    BoundOnce (bound ran.events) (Sends engine raw node session) ∧
    (parameters.map Prod.fst = (List.range parameters.length).map Dialect.postgres.placeholder →
      ∀ bytes ∈ bound ran.events, BoundByName parameters (expectedTypes session) bytes) := by
  intro ran parameters
  have served : ran = engine.serve (raw.demand node) node session := by
    cases raw <;> rfl
  have once : BoundOnce (bound ran.events) (Sends engine raw node session) := by
    rw [served]
    exact serve_bound engine raw node session
  apply And.intro
  · intro named
    have demanded : Engine.Demand.ofNode? engine.settings.dialect node = some (raw.demand node) := by
      unfold Engine.Demand.ofNode?
      rw [named]
      cases raw <;> rfl
    rw [engine.invoke_demanded demanded, served]
  apply And.intro
  · exact once
  · intro ordered bytes member
    exact boundByName_of_ordered ordered ((once.exactly bytes).mp member).encodes

/-- A session on one connection to a server that prepares a statement for parameters of some types. -/
def preparingSession (types : List ColumnType) : Session backend :=
  ⟨⟨[{ Answer.empty with parameterTypes := types, tag := "UPDATE 1" }], [], 0⟩,
    [⟨"pgsql.connect", 0, none⟩], false⟩

/-- A change with two parameters, given by their names. -/
def changing (first second : String × Value) : Node :=
  ⟨"pgsql.execute", .text "UPDATE t SET a = $1 WHERE b = $2",
    [.leaf first.1 first.2, .leaf second.1 second.2]⟩

/-- In the order of their placeholders, the values reach the parameters that they are meant for. -/
theorem raw_bound_ordered :
    let session := preparingSession [.int4, .int4]
    let ran := standardEngine.invoke (changing ("$1", .int 5) ("$2", .int 7)) session
    bound ran.events = [[some [0, 0, 0, 5], some [0, 0, 0, 7]]] ∧
      BoundByName [("$1", .int 5), ("$2", .int 7)] [.int4, .int4]
        [some [0, 0, 0, 5], some [0, 0, 0, 7]] := by
  intro session ran
  have sent : bound ran.events = [[some [0, 0, 0, 5], some [0, 0, 0, 7]]] := rfl
  obtain ⟨same, -, named⟩ := raw_bound standardEngine .execute
    (changing ("$1", .int 5) ("$2", .int 7)) session
  have ordered := named rfl [some [0, 0, 0, 5], some [0, 0, 0, 7]]
  rw [← same rfl] at ordered
  exact ⟨sent, ordered (by rw [sent]; exact List.mem_singleton_self _)⟩

/-- The same children in the other order are sent in that order: each value goes to the parameter of the
other one. -/
theorem raw_bound_swapped :
    let session := preparingSession [.int4, .int4]
    let ran := standardEngine.invoke (changing ("$2", .int 7) ("$1", .int 5)) session
    (changing ("$2", .int 7) ("$1", .int 5)).children.Perm
        (changing ("$1", .int 5) ("$2", .int 7)).children ∧
      bound ran.events = [[some [0, 0, 0, 7], some [0, 0, 0, 5]]] ∧
      ¬ BoundByName [("$2", .int 7), ("$1", .int 5)] [.int4, .int4]
        [some [0, 0, 0, 7], some [0, 0, 0, 5]] := by
  intro session ran
  apply And.intro
  · exact List.Perm.swap ..
  apply And.intro
  · rfl
  · intro named
    obtain ⟨type, sent, expected, given, encoded⟩ := named (.int 7) 1 List.mem_cons_self
    cases expected
    cases given
    exact absurd encoded (by decide)

end QueryTree.Postgres
