/-
This file leaves the bound values out of nodes and of what they demand, and proves that what is left
of a demand depends on what is left of its node only.
-/
import QueryTree.Proofs.Session.EngineRun
import QueryTree.Proofs.Statement.MaskedRequest

namespace QueryTree

/-- The values of a command's parameters are left out. -/
def Command.mask (command : Command) : Command :=
  { command with parameters := maskParameters command.parameters }

namespace Engine.Demand

/-- The values that are demanded to be bound are left out. -/
def mask : Demand → Demand
  | generated statement => generated statement.mask
  | planned plan => planned { plan with command := plan.command.mask }

end Engine.Demand

theorem CompiledStatement.mask_mask (statement : CompiledStatement) :
    statement.mask.mask = statement.mask := by
  simp [mask, maskParameters, Function.comp_def]

namespace Node

/-- A parameter of a text loses its value; the flag for several result sets is no parameter. -/
def maskParameter (child : Node) : Node :=
  if child.name = Engine.multipleFlag then child else child.maskValue

/-- The values of the parameters of a text are left out. -/
def maskText (node : Node) : Node := { node with children := node.children.map maskParameter }

mutual

/-- The values that the operations of a tree bind are left out. -/
def mask (dialect : Dialect) : Node → Node
  | ⟨name, value, children⟩ =>
      match Operation.parse dialect name with
      | .ok .transaction => ⟨name, value, maskAll dialect children⟩
      | .ok .select => maskText ⟨name, value, children⟩
      | .ok .scalar => maskText ⟨name, value, children⟩
      | .ok .execute => maskText ⟨name, value, children⟩
      | .ok (.compiled _) => maskRequest ⟨name, value, children⟩
      | .error _ => maskRequest ⟨name, value, children⟩

def maskAll (dialect : Dialect) : List Node → List Node
  | [] => []
  | node :: rest => mask dialect node :: maskAll dialect rest

end

mutual

/-- Whether an operation of a tree asks for the text of its statement only. -/
def asksForText (dialect : Dialect) : Node → Bool
  | ⟨name, value, children⟩ =>
      match Operation.parse dialect name with
      | .ok .transaction => anyAsksForText dialect children
      | .ok (.compiled _) =>
          match isGenerateOnly ⟨name, value, children⟩ with
          | .ok asked => asked
          | .error _ => false
      | _ => false

def anyAsksForText (dialect : Dialect) : List Node → Bool
  | [] => false
  | node :: rest => asksForText dialect node || anyAsksForText dialect rest

end

@[simp] theorem maskParameter_name (child : Node) : child.maskParameter.name = child.name := by
  unfold maskParameter
  split <;> rfl

theorem mask_name (dialect : Dialect) (node : Node) : (node.mask dialect).name = node.name := by
  obtain ⟨name, value, children⟩ := node
  rw [mask]
  split <;> rfl

theorem mask_transaction {dialect : Dialect} {name : String}
    (named : Operation.parse dialect name = .ok .transaction) (value : Value)
    (children : List Node) :
    mask dialect ⟨name, value, children⟩ = ⟨name, value, maskAll dialect children⟩ := by
  rw [mask, named]

/-- The flag for several result sets is not left out. -/
theorem singleFlag_maskText (node : Node) :
    node.maskText.singleFlag Engine.multipleFlag = node.singleFlag Engine.multipleFlag := by
  have flags : node.maskText.findAll Engine.multipleFlag = node.findAll Engine.multipleFlag := by
    simp only [findAll, maskText, List.filter_map, Function.comp_def, maskParameter_name]
    conv_rhs => rw [← List.map_id (node.children.filter _)]
    apply List.map_congr_left
    intro child member
    have named : child.name = Engine.multipleFlag := by simpa using (List.mem_filter.mp member).2
    rw [maskParameter, if_pos named]
    rfl
  rw [singleFlag, singleFlag, single, single, flags]

/-- A request keeps its flags. -/
theorem singleFlag_maskRequest (node : Node) {name : String} (notValues : name ≠ "values")
    (notWhere : name ≠ "where") : node.maskRequest.singleFlag name = node.singleFlag name := by
  rw [singleFlag, singleFlag, node.single_mask_other notValues notWhere]

end Node

namespace Command

/-- The names of a text's parameters are all that is left of them. -/
theorem ofNode_maskText (node : Node) : mask <$> ofNode node.maskText = mask <$> ofNode node := by
  have text : node.maskText.text = node.text := rfl
  have parameters : maskParameters (node.maskText.children.map fun child => (child.name, child.value)) =
      maskParameters (node.children.map fun child => (child.name, child.value)) := by
    simp [maskParameters, Node.maskText, Function.comp_def]
  simp only [ofNode, text, map_bind, map_pure, mask, parameters]

theorem mask_without (command : Command) (name : String) :
    (command.without name).mask = command.mask.without name := by
  simp [mask, without, maskParameters, List.filter_map, Function.comp_def]

end Command

namespace Engine.Demand

/-- What a request demands depends on what is left of it. -/
theorem ofRequest_mask (dialect : Dialect) (kind : StatementKind) (node : Node) :
    mask <$> ofRequest dialect kind node.maskRequest = mask <$> ofRequest dialect kind node := by
  have asked : node.maskRequest.isGenerateOnly = node.isGenerateOnly :=
    node.singleFlag_maskRequest (by decide) (by decide)
  have multiple : node.maskRequest.singleFlag multipleFlag = node.singleFlag multipleFlag :=
    node.singleFlag_maskRequest (by decide) (by decide)
  rw [ofRequest, ofRequest, Statement.compile_mask, asked, multiple, bind_map_left, map_bind,
    map_bind]
  congr
  funext statement
  rw [map_bind, map_bind]
  congr
  funext generates
  cases generates with
  | true => exact congrArg (fun masked => Except.ok (generated masked)) statement.mask_mask
  | false =>
    have command (cap : Option Nat) (strategy : Strategy) :
        (Except.ok (mask (planned ⟨.ofStatement statement.mask, cap, strategy⟩)) :
          Except RequestFault Demand) =
        .ok (mask (planned ⟨.ofStatement statement, cap, strategy⟩)) :=
      congrArg (fun masked => Except.ok (planned ⟨.ofStatement masked, cap, strategy⟩))
        statement.mask_mask
    cases kind with
    | select =>
      cases node.singleFlag multipleFlag with
      | error => rfl
      | ok several => exact command statement.maxRows (.rows several)
    | insert => exact command none .nonQuery
    | update => exact command none .nonQuery
    | delete => exact command none .nonQuery

theorem ofRaw_mask (strategy : Strategy) (node : Node) :
    mask <$> ofRaw strategy node.maskText = mask <$> ofRaw strategy node := by
  have planned (node : Node) : mask <$> ofRaw strategy node =
      (fun command => planned ⟨command, none, strategy⟩) <$> Command.mask <$> Command.ofNode node := by
    simp only [ofRaw, map_bind, map_pure, mask, Functor.map_map]
    rfl
  rw [planned, planned, Command.ofNode_maskText]

theorem ofSelect_mask (node : Node) : mask <$> ofSelect node.maskText = mask <$> ofSelect node := by
  have planned (node : Node) : mask <$> ofSelect node = (do
      let multiple ← node.singleFlag multipleFlag
      (fun command => planned ⟨{ command.without multipleFlag with multipleResultSets := multiple },
        none, .rows multiple⟩) <$> Command.mask <$> Command.ofNode node) := by
    simp only [ofSelect, map_bind, map_pure, mask, Functor.map_map, ← Command.mask_without]
    rfl
  rw [planned, planned, node.singleFlag_maskText, Command.ofNode_maskText]

/-- What the operation of a node demands depends on what is left of the node. -/
theorem ofNode?_mask (dialect : Dialect) (node : Node) :
    (ofNode? dialect (node.mask dialect)).map (mask <$> ·) =
      (ofNode? dialect node).map (mask <$> ·) := by
  rw [ofNode?, ofNode?, Node.mask_name]
  obtain ⟨name, value, children⟩ := node
  unfold Node.mask
  cases Operation.parse dialect name with
  | error => rfl
  | ok operation =>
    cases operation with
    | transaction => rfl
    | select => exact congrArg some (ofSelect_mask _)
    | scalar => exact congrArg some (ofRaw_mask _ _)
    | execute => exact congrArg some (ofRaw_mask _ _)
    | compiled kind => exact congrArg some (ofRequest_mask _ _ _)

end Engine.Demand

end QueryTree
