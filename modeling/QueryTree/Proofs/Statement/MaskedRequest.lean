/-
This file leaves the bound values out of requests and statements, and proves that compiling depends
on nothing that is left out.
-/
import QueryTree.Proofs.Statement.BoundValues

namespace QueryTree

namespace Node

/-- The value is left out. -/
def maskValue (node : Node) : Node := { node with value := .null }

/-- The values that a single condition binds are left out: those of a comparison and of the members
of a list. -/
def maskLeaf (node : Node) : Node :=
  match (Condition.splitName node.name).2 with
  | .comparison _ => node.maskValue
  | .membership => { node with children := node.children.map maskValue }
  | .isNull => node

mutual

/-- The values that the single conditions of a tree bind are left out. -/
def maskCondition : Node → Node
  | ⟨name, value, children⟩ =>
      match GroupKind.ofName? name with
      | some _ => ⟨name, value, maskConditions children⟩
      | none => maskLeaf ⟨name, value, children⟩

def maskConditions : List Node → List Node
  | [] => []
  | node :: rest => maskCondition node :: maskConditions rest

end

/-- The values that the children of a fragment bind are left out. -/
def maskListed (name : String) (nodes : List Node) : List Node :=
  if name = "values" then nodes.map maskValue
  else if name = "where" then maskConditions nodes
  else nodes

def maskFragment (fragment : Node) : Node :=
  { fragment with children := maskListed fragment.name fragment.children }

/-- The values that a request binds are left out. -/
def maskRequest (node : Node) : Node := { node with children := node.children.map maskFragment }

end Node

/-- A parameter stands for any value. -/
def Piece.mask : Piece → Piece
  | parameter _ => parameter .null
  | piece => piece

/-- The values of assignments are left out. -/
def Assignment.mask (assignment : Assignment) : Assignment := (assignment.1, .null)

namespace Condition

mutual

/-- The values of a condition are left out. -/
def mask : Condition → Condition
  | compare column comparison _ => compare column comparison .null
  | member column values => member column (values.map fun _ => .null)
  | isNull column expected => isNull column expected
  | group kind conditions => group kind (maskAll conditions)

def maskAll : List Condition → List Condition
  | [] => []
  | condition :: rest => mask condition :: maskAll rest

end

end Condition

/-- The values of a statement are left out. -/
def Statement.mask : Statement → Statement
  | select read => select { read with conditions := Condition.maskAll read.conditions }
  | insert row => insert { row with assignments := row.assignments.map Assignment.mask }
  | update change => update { change with
      assignments := change.assignments.map Assignment.mask
      conditions := Condition.maskAll change.conditions }
  | delete removal => delete { removal with conditions := Condition.maskAll removal.conditions }

/-- The values of parameters are left out. -/
def maskParameters (parameters : List (String × Value)) : List (String × Value) :=
  parameters.map fun parameter => (parameter.1, .null)

def CompiledStatement.mask (statement : CompiledStatement) : CompiledStatement :=
  { statement with parameters := maskParameters statement.parameters }

namespace Piece

/-- The text of pieces does not depend on the values of their parameters. -/
theorem text_mask (dialect : Dialect) (position : Nat) (pieces : List Piece) :
    text dialect position (pieces.map mask) = text dialect position pieces := by
  induction pieces generalizing position with
  | nil => rfl
  | cons piece rest ih =>
    cases piece <;> exact congrArg (_ ++ ·) (ih _)

theorem values_mask (pieces : List Piece) :
    values (pieces.map mask) = (values pieces).map fun _ => .null := by
  induction pieces with
  | nil => rfl
  | cons piece rest ih =>
    cases piece with
    | parameter value => exact congrArg (.null :: ·) ih
    | keyword word => exact ih
    | identifier name => exact ih
    | numeral number => exact ih

theorem parameters_mask (dialect : Dialect) (pieces : List Piece) :
    parameters dialect (pieces.map mask) = maskParameters (parameters dialect pieces) := by
  apply List.ext_getElem
  · simp [parameters, maskParameters, values_mask]
  · intro index _ _
    simp [parameters, maskParameters, values_mask]

/-- Pieces without parameters have nothing to leave out. -/
theorem map_mask_unbound {pieces : List Piece} (unbound : values pieces = []) :
    pieces.map mask = pieces := by
  induction pieces with
  | nil => rfl
  | cons piece rest ih =>
    cases piece with
    | parameter value => simp [values, value?] at unbound
    | keyword word => exact congrArg (.keyword word :: ·) (ih unbound)
    | identifier name => exact congrArg (.identifier name :: ·) (ih unbound)
    | numeral number => exact congrArg (.numeral number :: ·) (ih unbound)

/-- Runs of pieces are masked one by one. -/
theorem separated_mask {separator : Keyword} (runs : List (List Piece)) :
    (separated separator runs).map mask = separated separator (runs.map (List.map mask)) := by
  induction runs with
  | nil => rfl
  | cons first others ih =>
    cases others with
    | nil => rfl
    | cons second others =>
      rw [separated, List.map_append, List.map_cons, ih]
      · rfl
      · simp

end Piece

namespace Condition

mutual

/-- The pieces of a condition without its values are its pieces without their values. -/
theorem pieces_mask : ∀ condition : Condition, condition.mask.pieces = condition.pieces.map Piece.mask
  | compare column comparison value => rfl
  | member column values => by
    rw [mask, pieces, pieces]
    cases values with
    | nil => rfl
    | cons value rest => simp [Piece.separated_mask, Piece.mask, Function.comp_def]
  | isNull column expected => rfl
  | group kind conditions => by
    rw [mask, pieces, pieces, joined_mask, List.map_append, List.map_cons]
    rfl

theorem joined_mask (separator : Keyword) : ∀ conditions : List Condition,
    joined separator (maskAll conditions) = (joined separator conditions).map Piece.mask
  | [] => rfl
  | [condition] => pieces_mask condition
  | condition :: second :: rest => by
    have first := pieces_mask condition
    have others := joined_mask separator (second :: rest)
    calc joined separator (maskAll (condition :: second :: rest))
        = condition.mask.pieces ++
            .keyword separator :: joined separator (maskAll (second :: rest)) := rfl
      _ = condition.pieces.map Piece.mask ++
            .keyword separator :: (joined separator (second :: rest)).map Piece.mask := by
          rw [first, others]
      _ = (condition.pieces ++ .keyword separator :: joined separator (second :: rest)).map
            Piece.mask := by
          rw [List.map_append]
          rfl

end

theorem clause_mask (conditions : List Condition) :
    clause (maskAll conditions) = (clause conditions).map Piece.mask := by
  cases conditions with
  | nil => rfl
  | cons condition rest => exact congrArg (.keyword .whereClause :: ·) (joined_mask _ _)

end Condition

namespace Statement

theorem beforeWhere_mask (statement : Statement) :
    statement.mask.beforeWhere = statement.beforeWhere.map Piece.mask := by
  cases statement with
  | select read => exact (Piece.map_mask_unbound (beforeWhere_select_values read)).symm
  | insert row =>
    simp [mask, beforeWhere, Insert.pieces, Piece.separated_mask, Assignment.mask, Piece.mask,
      Function.comp_def]
  | update change =>
    simp [mask, beforeWhere, Piece.separated_mask, Assignment.mask, Piece.mask, Function.comp_def]
  | delete removal => rfl

theorem conditions_mask (statement : Statement) :
    statement.mask.conditions = Condition.maskAll statement.conditions := by
  cases statement <;> rfl

/-- The body of a statement without its values is its body without their values. -/
theorem body_mask (statement : Statement) : statement.mask.body = statement.body.map Piece.mask := by
  rw [body_where, body_where, List.map_append, beforeWhere_mask, conditions_mask,
    Condition.clause_mask]

/-- A statement is written in the same way, whatever its values are. -/
theorem written_mask (dialect : Dialect) (statement : Statement) :
    statement.mask.written dialect = (statement.written dialect).mask := by
  have rows : statement.mask.maxRows = statement.maxRows := by cases statement <;> rfl
  have ended (text : List Char) : statement.mask.ended dialect text = statement.ended dialect text := by
    cases statement <;> rfl
  simp only [written, CompiledStatement.mask, body_mask, ended, Piece.text_mask,
    Piece.parameters_mask, rows]

end Statement

namespace Node

@[simp] theorem maskFragment_name (fragment : Node) : fragment.maskFragment.name = fragment.name :=
  rfl

@[simp] theorem maskLeaf_name (node : Node) : node.maskLeaf.name = node.name := by
  unfold maskLeaf
  split <;> rfl

/-- Fragments other than assignments and conditions bind no value. -/
theorem maskFragment_other {fragment : Node} (notValues : fragment.name ≠ "values")
    (notWhere : fragment.name ≠ "where") : fragment.maskFragment = fragment := by
  obtain ⟨name, value, children⟩ := fragment
  simp [maskFragment, maskListed, notValues, notWhere]

theorem checkFragments_mask (node : Node) (allowed : List String) :
    node.maskRequest.checkFragments allowed = node.checkFragments allowed := by
  unfold checkFragments maskRequest
  simp only [List.find?_map, Function.comp_def, maskFragment_name]
  cases node.children.find? _ <;> rfl

theorem findAll_mask (node : Node) (name : String) :
    node.maskRequest.findAll name = (node.findAll name).map maskFragment := by
  simp only [findAll, maskRequest, List.filter_map, Function.comp_def, maskFragment_name]

theorem findAll_mask_other (node : Node) {name : String} (notValues : name ≠ "values")
    (notWhere : name ≠ "where") : node.maskRequest.findAll name = node.findAll name := by
  rw [findAll_mask]
  conv_rhs => rw [← List.map_id (node.findAll name)]
  apply List.map_congr_left
  intro fragment member
  have named : fragment.name = name := by simpa using (List.mem_filter.mp member).2
  exact maskFragment_other (named ▸ notValues) (named ▸ notWhere)

theorem single_mask_other (node : Node) {name : String} (notValues : name ≠ "values")
    (notWhere : name ≠ "where") : node.maskRequest.single name = node.single name := by
  rw [single, single, node.findAll_mask_other notValues notWhere]

/-- The children of a fragment lose the values that they bind. -/
theorem fragment_mask (node : Node) (name : String) :
    node.maskRequest.fragment name = maskListed name <$> node.fragment name := by
  have nothing : maskListed name [] = [] := by
    simp only [maskListed, List.map_nil, maskConditions, ite_self]
  unfold fragment single
  rw [findAll_mask]
  cases found : node.findAll name with
  | nil => exact congrArg Except.ok nothing.symm
  | cons first others =>
    cases others with
    | nil =>
      have member : first ∈ node.findAll name := by simp [found]
      have named : first.name = name := by simpa using (List.mem_filter.mp member).2
      exact congrArg Except.ok (congrArg (maskListed · first.children) named)
    | cons second others => rfl

end Node

/-- What is read from each of several items is changed item by item. -/
theorem mapM_map_result {ε α β γ : Type} (read : α → Except ε β) (change : β → γ) (items : List α) :
    (items.mapM fun item => change <$> read item) = List.map change <$> items.mapM read := by
  induction items with
  | nil => rfl
  | cons item rest ih =>
    simp only [List.mapM_cons, ih, bind_map_left, map_bind, map_pure, List.map_cons]

namespace Assignment

theorem ofNode_mask (node : Node) : ofNode node.maskValue = mask <$> ofNode node := by
  unfold ofNode
  rw [map_bind]
  rfl

theorem ofRequest_mask (node : Node) :
    ofRequest node.maskRequest = List.map mask <$> ofRequest node := by
  have each (nodes : List Node) :
      (Node.maskListed "values" nodes).mapM ofNode = List.map mask <$> nodes.mapM ofNode := by
    rw [← mapM_map_result, ← funext ofNode_mask]
    exact List.mapM_map
  rw [ofRequest, ofRequest, node.fragment_mask, bind_map_left, map_bind]
  congr
  funext nodes
  rw [each, bind_map_left, map_bind]
  congr
  funext assignments
  cases assignments <;> rfl

end Assignment

namespace Condition

theorem ofLeaf_mask (node : Node) : ofLeaf node.maskLeaf = mask <$> ofLeaf node := by
  obtain ⟨name, value, children⟩ := node
  unfold Node.maskLeaf
  rcases parts : splitName name with ⟨stated, test⟩
  cases test with
  | comparison comparison =>
    simp only [parts, ofLeaf, Node.maskValue, map_bind]
    congr
    funext column
    cases children <;> rfl
  | membership =>
    simp only [parts, ofLeaf, map_bind, List.map_map]
    congr
    funext column
    simp [mask, Node.maskValue, Function.comp_def]
  | isNull =>
    simp only [parts, ofLeaf, map_bind]
    congr
    funext column
    split
    · rfl
    · cases value.asBool? <;> rfl

theorem maskConditions_isEmpty (nodes : List Node) :
    (Node.maskConditions nodes).isEmpty = nodes.isEmpty := by
  cases nodes <;> rfl

mutual

/-- A condition is read in the same way, whatever its values are, by recursion on its tree. -/
theorem ofNode_mask : ∀ node : Node, ofNode node.maskCondition = mask <$> ofNode node
  | ⟨name, value, children⟩ => by
    rw [Node.maskCondition]
    cases named : GroupKind.ofName? name with
    | none =>
      have masked : GroupKind.ofName? (Node.mk name value children).maskLeaf.name = none := by
        rw [Node.maskLeaf_name, named]
      rw [ofNode_single masked, ofNode_single named, ofLeaf_mask]
    | some kind =>
      simp only [ofNode, named, maskConditions_isEmpty]
      split
      · rfl
      · rw [ofNodes_mask children, bind_map_left, map_bind]
        rfl

theorem ofNodes_mask : ∀ nodes : List Node,
    ofNodes (Node.maskConditions nodes) = maskAll <$> ofNodes nodes
  | [] => rfl
  | node :: rest => by
    have first := ofNode_mask node
    have others := ofNodes_mask rest
    rw [Node.maskConditions, ofNodes, ofNodes, first, others]
    simp only [bind_map_left, map_bind, map_pure, maskAll]

end

theorem ofRequest_mask (node : Node) :
    ofRequest node.maskRequest = maskAll <$> ofRequest node := by
  rw [ofRequest, ofRequest, node.fragment_mask, bind_map_left, map_bind]
  congr
  funext nodes
  exact ofNodes_mask nodes

end Condition

theorem Pagination.ofNode_mask (node : Node) : ofNode node.maskRequest = ofNode node := by
  have limit : bound node.maskRequest "limit" = bound node "limit" := by
    rw [bound, bound, node.single_mask_other (by decide) (by decide)]
  have offset : bound node.maskRequest "offset" = bound node "offset" := by
    rw [bound, bound, node.single_mask_other (by decide) (by decide)]
  have order : node.maskRequest.fragment "order" = node.fragment "order" := by
    rw [Node.fragment, Node.fragment, node.single_mask_other (by decide) (by decide)]
  rw [ofNode, ofNode, limit, offset, order]

namespace Statement

/-- A request is read in the same way, whatever the values are that it binds. -/
theorem ofNode_mask (kind : StatementKind) (node : Node) :
    ofNode kind node.maskRequest = mask <$> ofNode kind node := by
  have table : node.maskRequest.table = node.table := rfl
  have conditions := Condition.ofRequest_mask node
  have assignments := Assignment.ofRequest_mask node
  cases kind with
  | select =>
    have columns : node.maskRequest.fragment "columns" = node.fragment "columns" := by
      rw [Node.fragment, Node.fragment, node.single_mask_other (by decide) (by decide)]
    have joins : node.maskRequest.findAll "join" = node.findAll "join" :=
      node.findAll_mask_other (by decide) (by decide)
    change select <$> Select.ofNode node.maskRequest = mask <$> select <$> Select.ofNode node
    simp only [Select.ofNode, node.checkFragments_mask, table, Pagination.ofNode_mask, columns,
      joins, conditions, map_bind, bind_map_left, map_pure, mask]
  | insert =>
    change insert <$> Insert.ofNode node.maskRequest = mask <$> insert <$> Insert.ofNode node
    simp only [Insert.ofNode, node.checkFragments_mask, table, assignments, map_bind, bind_map_left,
      map_pure, mask]
  | update =>
    change update <$> Update.ofNode node.maskRequest = mask <$> update <$> Update.ofNode node
    simp only [Update.ofNode, node.checkFragments_mask, table, assignments, conditions, map_bind,
      bind_map_left, map_pure, mask]
  | delete =>
    change delete <$> Delete.ofNode node.maskRequest = mask <$> delete <$> Delete.ofNode node
    simp only [Delete.ofNode, node.checkFragments_mask, table, conditions, map_bind, bind_map_left]
    congr
    funext _
    congr
    funext name
    congr
    funext listed
    cases listed <;> rfl

/-- A request is compiled in the same way, whatever the values are that it binds. -/
theorem compile_mask (dialect : Dialect) (kind : StatementKind) (node : Node) :
    compile dialect kind node.maskRequest =
      CompiledStatement.mask <$> compile dialect kind node := by
  change written dialect <$> ofNode kind node.maskRequest =
    CompiledStatement.mask <$> written dialect <$> ofNode kind node
  rw [ofNode_mask, Functor.map_map, Functor.map_map]
  exact congrArg (· <$> ofNode kind node) (funext (written_mask dialect))

end Statement

end QueryTree
