/-
This file proves that the flags of a request, which say what is done with its statement, have no part
in the statement itself.
-/
import QueryTree.Statement.Basic

namespace QueryTree

namespace Node

/-- The node without the direct children of certain names. -/
def unflagged (flags : List String) (node : Node) : Node :=
  { node with children := node.children.filter fun child => !flags.contains child.name }

theorem table_unflagged (flags : List String) (node : Node) :
    (node.unflagged flags).table = node.table := rfl

theorem findAll_unflagged {flags : List String} {name : String} (other : name ∉ flags) (node : Node) :
    (node.unflagged flags).findAll name = node.findAll name := by
  rw [findAll, findAll, unflagged, List.filter_filter]
  refine List.filter_congr fun child _ => ?_
  by_cases named : child.name = name
  · simp [named, other]
  · simp [named]

theorem single_unflagged {flags : List String} {name : String} (other : name ∉ flags) (node : Node) :
    (node.unflagged flags).single name = node.single name := by
  rw [single, single, findAll_unflagged other]

theorem fragment_unflagged {flags : List String} {name : String} (other : name ∉ flags)
    (node : Node) : (node.unflagged flags).fragment name = node.fragment name := by
  rw [fragment, fragment, single_unflagged other]

/-- Flags that are allowed are not what a check of fragments finds. -/
theorem checkFragments_unflagged {flags allowed : List String}
    (known : ∀ flag ∈ flags, flag ∈ allowed ∨ flag = "generate-only") (node : Node) :
    (node.unflagged flags).checkFragments allowed = node.checkFragments allowed := by
  have found : (node.unflagged flags).children.find? (fun child =>
        !(allowed.contains child.name || child.name == "generate-only")) =
      node.children.find? fun child =>
        !(allowed.contains child.name || child.name == "generate-only") := by
    rw [unflagged, List.find?_filter]
    congr 1
    funext child
    by_cases flag : child.name ∈ flags
    · rcases known child.name flag with allowed | only
      · simp [allowed]
      · simp [only]
    · have read : flags.contains child.name = false := by simpa using flag
      simp only [read, Bool.not_false, true_and, Bool.decide_eq_true]
  rw [checkFragments, checkFragments, found]
  rfl

end Node

theorem Condition.ofRequest_unflagged {flags : List String} (other : "where" ∉ flags) (node : Node) :
    ofRequest (node.unflagged flags) = ofRequest node := by
  rw [ofRequest, ofRequest, Node.fragment_unflagged other]

theorem Assignment.ofRequest_unflagged {flags : List String} (other : "values" ∉ flags)
    (node : Node) : ofRequest (node.unflagged flags) = ofRequest node := by
  rw [ofRequest, ofRequest, Node.fragment_unflagged other]
  rfl

theorem Pagination.ofNode_unflagged {flags : List String} (notOffset : "offset" ∉ flags)
    (notLimit : "limit" ∉ flags) (notOrder : "order" ∉ flags) (node : Node) :
    ofNode (node.unflagged flags) = ofNode node := by
  simp only [ofNode, bound, Node.single_unflagged notOffset, Node.single_unflagged notLimit,
    Node.fragment_unflagged notOrder]

namespace StatementKind

/-- The fragments of a request that say what is done with its statement. -/
def flags : StatementKind → List String
  | select => ["generate-only", "multiple-result-sets"]
  | _ => ["generate-only"]

end StatementKind

namespace Statement

/-- A request is read in the same way without its flags. -/
theorem ofNode_unflagged (kind : StatementKind) (node : Node) :
    ofNode kind (node.unflagged kind.flags) = ofNode kind node := by
  cases kind with
  | select =>
    change (Select.ofNode _).map select = (Select.ofNode node).map select
    rw [Select.ofNode, Select.ofNode, Node.checkFragments_unflagged (by decide),
      Node.table_unflagged, Pagination.ofNode_unflagged (by decide) (by decide) (by decide),
      Node.fragment_unflagged (by decide), Node.findAll_unflagged (by decide),
      Condition.ofRequest_unflagged (by decide)]
  | insert =>
    change (Insert.ofNode _).map insert = (Insert.ofNode node).map insert
    rw [Insert.ofNode, Insert.ofNode, Node.checkFragments_unflagged (by decide),
      Node.table_unflagged, Assignment.ofRequest_unflagged (by decide)]
  | update =>
    change (Update.ofNode _).map update = (Update.ofNode node).map update
    rw [Update.ofNode, Update.ofNode, Node.checkFragments_unflagged (by decide),
      Node.table_unflagged, Assignment.ofRequest_unflagged (by decide),
      Condition.ofRequest_unflagged (by decide)]
  | delete =>
    change (Delete.ofNode _).map delete = (Delete.ofNode node).map delete
    rw [Delete.ofNode, Delete.ofNode, Node.checkFragments_unflagged (by decide),
      Node.table_unflagged, Condition.ofRequest_unflagged (by decide)]
    rfl

/-- A request is compiled in the same way without its flags. -/
theorem compile_unflagged (dialect : Dialect) (kind : StatementKind) (node : Node) :
    compile dialect kind (node.unflagged kind.flags) = compile dialect kind node := by
  rw [compile, compile, ofNode_unflagged]

/-- Requests that differ in their flags only are compiled in the same way. -/
theorem compile_congr {dialect : Dialect} {kind : StatementKind} {node other : Node}
    (same : node.unflagged kind.flags = other.unflagged kind.flags) :
    compile dialect kind node = compile dialect kind other := by
  rw [← compile_unflagged, same, compile_unflagged]

end Statement

end QueryTree
