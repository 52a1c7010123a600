/-
This file says what the conditions and joins of a request may carry to no effect, and proves that a
request without it is compiled in the same way.
-/
import QueryTree.Proofs.Statement.RequestParts
import QueryTree.Proofs.Statement.UnreadFragments

namespace QueryTree

/-- A change of items that each of them is read without. -/
theorem mapM_unchanged {ε α β : Type} {read : α → Except ε β} {change : α → α} {items : List α}
    (same : ∀ item ∈ items, read (change item) = read item) :
    (items.map change).mapM read = items.mapM read := by
  induction items with
  | nil => rfl
  | cons item rest ih =>
    rw [List.forall_mem_cons] at same
    rw [List.map_cons, List.mapM_cons, List.mapM_cons, same.1, ih same.2]

namespace Node

/-- The direct children are changed one by one. -/
def mapChildren (change : Node → Node) (node : Node) : Node :=
  { node with children := node.children.map change }

section MapChildren

variable {change : Node → Node}

theorem checkFragments_mapChildren (named : ∀ child, (change child).name = child.name) (node : Node)
    (allowed : List String) :
    (node.mapChildren change).checkFragments allowed = node.checkFragments allowed := by
  unfold checkFragments mapChildren
  simp only [List.find?_map, Function.comp_def, named]
  cases node.children.find? _ with
  | none => rfl
  | some child => simp only [Option.map_some, named]

theorem findAll_mapChildren (named : ∀ child, (change child).name = child.name) (node : Node)
    (name : String) : (node.mapChildren change).findAll name = (node.findAll name).map change := by
  simp only [findAll, mapChildren, List.filter_map, Function.comp_def, named]

/-- Children of a name that is not concerned stay as they are. -/
theorem findAll_unconcerned (named : ∀ child, (change child).name = child.name) {name : String}
    (same : ∀ child : Node, child.name = name → change child = child) (node : Node) :
    (node.mapChildren change).findAll name = node.findAll name := by
  rw [findAll_mapChildren named]
  have kept : (node.findAll name).map change = (node.findAll name).map id := by
    apply List.map_congr_left
    intro child member
    exact same child (by simpa using (List.mem_filter.mp member).2)
  rw [kept, List.map_id]

end MapChildren

/-- A membership does not look at a value of its own. -/
def essentialLeaf (leaf : Node) : Node :=
  if (Condition.splitName leaf.name).2 = .membership then { leaf with value := .null } else leaf

mutual

/-- A condition without the values that its memberships carry themselves. -/
def essentialCondition : Node → Node
  | ⟨name, value, children⟩ =>
      match GroupKind.ofName? name with
      | some _ => ⟨name, value, essentialConditions children⟩
      | none => essentialLeaf ⟨name, value, children⟩

def essentialConditions : List Node → List Node
  | [] => []
  | node :: rest => essentialCondition node :: essentialConditions rest

end

/-- The conditions lose the values of memberships themselves, and a join its request for the text. -/
def essentialFragment (fragment : Node) : Node :=
  if fragment.name = "where" then
    { fragment with children := essentialConditions fragment.children }
  else if fragment.name = "join" then fragment.unflagged ["generate-only"]
  else fragment

/-- A request without the content of its conditions and joins that has no effect. -/
def essential (node : Node) : Node := node.mapChildren essentialFragment

theorem essentialLeaf_name (leaf : Node) : leaf.essentialLeaf.name = leaf.name := by
  unfold essentialLeaf
  split <;> rfl

theorem essentialFragment_name (fragment : Node) : fragment.essentialFragment.name = fragment.name := by
  unfold essentialFragment
  split
  · rfl
  · split <;> rfl

theorem essentialConditions_eq_map (nodes : List Node) :
    essentialConditions nodes = nodes.map essentialCondition := by
  induction nodes with
  | nil => rfl
  | cons node rest ih => rw [essentialConditions, ih, List.map_cons]

theorem essentialFragment_where {fragment : Node} (named : fragment.name = "where") :
    fragment.essentialFragment =
      { fragment with children := fragment.children.map essentialCondition } := by
  rw [essentialFragment, if_pos named, essentialConditions_eq_map]

theorem essentialFragment_join {fragment : Node} (named : fragment.name = "join") :
    fragment.essentialFragment = fragment.unflagged ["generate-only"] := by
  rw [essentialFragment, if_neg (by rw [named]; decide), if_pos named]

theorem essentialFragment_other {fragment : Node} (notWhere : fragment.name ≠ "where")
    (notJoin : fragment.name ≠ "join") : fragment.essentialFragment = fragment := by
  rw [essentialFragment, if_neg notWhere, if_neg notJoin]

theorem checkFragments_essential (node : Node) (allowed : List String) :
    node.essential.checkFragments allowed = node.checkFragments allowed :=
  checkFragments_mapChildren essentialFragment_name node allowed

/-- Fragments other than conditions and joins stay as they are. -/
theorem fragment_essential (node : Node) (name : String) (notWhere : name ≠ "where")
    (notJoin : name ≠ "join") :
    node.essential.single name = node.single name ∧ node.essential.fragment name = node.fragment name := by
  have same : node.essential.findAll name = node.findAll name :=
    findAll_unconcerned essentialFragment_name
      (fun _ named => essentialFragment_other (named ▸ notWhere) (named ▸ notJoin)) node
  have single : node.essential.single name = node.single name := by
    rw [Node.single, Node.single, same]
  constructor
  · exact single
  · rw [fragment, fragment, single]

/-- The conditions of a request lose the values of memberships themselves. -/
theorem fragment_essential_where (node : Node) :
    node.essential.fragment "where" = (node.fragment "where").map (List.map essentialCondition) := by
  have found := findAll_mapChildren essentialFragment_name node "where"
  unfold fragment single
  rw [essential, found]
  match conditions : node.findAll "where" with
  | [] => rfl
  | [child] =>
    have named : child.name = "where" := by
      have member : child ∈ node.findAll "where" := by simp [conditions]
      simpa using (List.mem_filter.mp member).2
    rw [List.map_singleton, essentialFragment_where named]
    rfl
  | first :: second :: rest => rfl

/-- The single conditions of a tree lose the values that memberships carry themselves, by induction on
the tree. -/
theorem leaves_essential (node : Node) :
    (Expression.ofNode node.essentialCondition).leaves =
      (Expression.ofNode node).leaves.map essentialLeaf := by
  induction node using Node.induction with
  | step node ih =>
    obtain ⟨name, value, children⟩ := node
    rw [essentialCondition]
    cases named : GroupKind.ofName? name with
    | none =>
      have single : GroupKind.ofName? (Node.mk name value children).essentialLeaf.name = none := by
        rw [essentialLeaf_name, named]
      rw [Expression.leaves_single single, Expression.leaves_single named, List.map_singleton]
    | some kind =>
      dsimp only
      rw [essentialConditions_eq_map, Expression.leaves_group named, Expression.leaves_group named,
        List.flatMap_map, List.map_flatMap]
      exact List.flatMap_congr ih

theorem listed_essential_where (node : Node) :
    node.essential.listed "where" = (node.listed "where").map essentialCondition := by
  rw [listed, listed, essential, findAll_mapChildren essentialFragment_name, List.flatMap_map,
    List.map_flatMap]
  apply List.flatMap_congr
  intro fragment member
  have named : fragment.name = "where" := by simpa using (List.mem_filter.mp member).2
  rw [essentialFragment_where named]

theorem conditions_essential (node : Node) :
    node.essential.conditions = node.conditions.map essentialLeaf := by
  rw [conditions, conditions, Expression.ofFragment, Expression.ofFragment, Expression.leaves,
    Expression.leaves, Expression.leavesAll_ofNodes, Expression.leavesAll_ofNodes,
    listed_essential_where, List.flatMap_map, List.map_flatMap]
  exact List.flatMap_congr fun child _ => leaves_essential child

/-- No membership of the request carries a value of its own any more. -/
theorem essential_membership (node : Node) : ∀ leaf ∈ node.essential.conditions,
    (Condition.splitName leaf.name).2 = .membership → leaf.value = .null := by
  rw [conditions_essential, List.forall_mem_map]
  intro leaf _ member
  rw [essentialLeaf_name] at member
  rw [essentialLeaf, if_pos member]

/-- No join of the request asks for the text any more. -/
theorem essential_join (node : Node) : ∀ join ∈ node.essential.findAll "join",
    ∀ child ∈ join.children, child.name ≠ "generate-only" := by
  rw [essential, findAll_mapChildren essentialFragment_name, List.forall_mem_map]
  intro join member child inside
  have named : join.name = "join" := by simpa using (List.mem_filter.mp member).2
  rw [essentialFragment_join named] at inside
  simpa using (List.mem_filter.mp inside).2

end Node

namespace Condition

/-- A single condition is read without a value that a membership carries itself. -/
theorem ofLeaf_essential (leaf : Node) : ofLeaf leaf.essentialLeaf = ofLeaf leaf := by
  unfold Node.essentialLeaf
  split
  next member =>
    unfold ofLeaf
    dsimp only
    generalize splitName leaf.name = split at member ⊢
    obtain ⟨name, test⟩ := split
    cases member
    rfl
  next => rfl

/-- A condition is read without the values that its memberships carry themselves, by induction on its
tree. -/
theorem ofNode_essential (node : Node) : ofNode node.essentialCondition = ofNode node := by
  induction node using Node.induction with
  | step node ih =>
    obtain ⟨name, value, children⟩ := node
    rw [Node.essentialCondition]
    cases named : GroupKind.ofName? name with
    | none =>
      have single : GroupKind.ofName? (Node.mk name value children).essentialLeaf.name = none := by
        rw [Node.essentialLeaf_name, named]
      rw [ofNode_single single, ofNode_single named, ofLeaf_essential]
    | some kind =>
      dsimp only
      rw [Node.essentialConditions_eq_map, ofNode, ofNode, named]
      dsimp only
      rw [List.isEmpty_map, ofNodes_eq_mapM, ofNodes_eq_mapM, mapM_unchanged ih]

theorem ofRequest_essential (node : Node) : ofRequest node.essential = ofRequest node := by
  rw [ofRequest, ofRequest, node.fragment_essential_where]
  cases node.fragment "where" with
  | error => rfl
  | ok nodes =>
    show ofNodes (nodes.map Node.essentialCondition) = ofNodes nodes
    rw [ofNodes_eq_mapM, ofNodes_eq_mapM]
    exact mapM_unchanged fun child _ => ofNode_essential child

end Condition

/-- A join is read in the same way without a request for the text. -/
theorem Join.ofNode_unflagged (join : Node) :
    ofNode (join.unflagged ["generate-only"]) = ofNode join := by
  rw [ofNode, ofNode, Node.table_unflagged, Node.checkFragments_unflagged (by decide), JoinKind.ofNode,
    JoinKind.ofNode, Node.single_unflagged (by decide), Node.fragment_unflagged (by decide)]

theorem Join.mapM_essential (node : Node) :
    (node.essential.findAll "join").mapM ofNode = (node.findAll "join").mapM ofNode := by
  rw [Node.essential, Node.findAll_mapChildren Node.essentialFragment_name]
  apply mapM_unchanged
  intro join member
  have named : join.name = "join" := by simpa using (List.mem_filter.mp member).2
  rw [Node.essentialFragment_join named, ofNode_unflagged]

theorem Assignment.ofRequest_essential (node : Node) : ofRequest node.essential = ofRequest node := by
  rw [ofRequest, ofRequest, (node.fragment_essential "values" (by decide) (by decide)).2]
  rfl

theorem Pagination.ofNode_essential (node : Node) : ofNode node.essential = ofNode node := by
  have offset := (node.fragment_essential "offset" (by decide) (by decide)).1
  have limit := (node.fragment_essential "limit" (by decide) (by decide)).1
  have order := (node.fragment_essential "order" (by decide) (by decide)).2
  rw [ofNode, ofNode, bound, bound, bound, bound, offset, limit, order]

namespace Statement

/-- A request is read in the same way without the content that has no effect. -/
theorem ofNode_essential (kind : StatementKind) (node : Node) :
    ofNode kind node.essential = ofNode kind node := by
  have table : node.essential.table = node.table := rfl
  have conditions := Condition.ofRequest_essential node
  have assignments := Assignment.ofRequest_essential node
  cases kind with
  | select =>
    have columns := (node.fragment_essential "columns" (by decide) (by decide)).2
    change (Select.ofNode _).map select = (Select.ofNode node).map select
    rw [Select.ofNode, Select.ofNode, node.checkFragments_essential, table,
      Pagination.ofNode_essential, columns, Join.mapM_essential, conditions]
  | insert =>
    change (Insert.ofNode _).map insert = (Insert.ofNode node).map insert
    rw [Insert.ofNode, Insert.ofNode, node.checkFragments_essential, table, assignments]
  | update =>
    change (Update.ofNode _).map update = (Update.ofNode node).map update
    rw [Update.ofNode, Update.ofNode, node.checkFragments_essential, table, assignments, conditions]
  | delete =>
    change (Delete.ofNode _).map delete = (Delete.ofNode node).map delete
    rw [Delete.ofNode, Delete.ofNode, node.checkFragments_essential, table, conditions]
    rfl

/-- A request is compiled in the same way without the content that has no effect. -/
theorem compile_essential (dialect : Dialect) (kind : StatementKind) (node : Node) :
    compile dialect kind node.essential = compile dialect kind node := by
  rw [compile, compile, ofNode_essential]

end Statement

end QueryTree
