/-
This file proves that the order of a request's fragments has no part in its statement, but for the
order of the joins among themselves.
-/
import QueryTree.Proofs.Statement.RequestGrammar
import QueryTree.Proofs.Statement.UnreadFragments

namespace QueryTree

namespace Node

/-- A request with its direct children in another order, in which the joins keep theirs. -/
structure Reordered (node other : Node) : Prop where
  name : other.name = node.name
  value : other.value = node.value
  children : other.children.Perm node.children
  joins : other.findAll "join" = node.findAll "join"

/-- Both checks of fragments have the same outcome, or each finds an unknown fragment. -/
inductive CheckedAlike (node other : Node) (allowed : List String) : Prop where
  | same : other.checkFragments allowed = node.checkFragments allowed →
      CheckedAlike node other allowed
  | unknown {fragment otherFragment : String} :
      node.checkFragments allowed = .error (.unknownFragment fragment node.name) →
      other.checkFragments allowed = .error (.unknownFragment otherFragment node.name) →
      CheckedAlike node other allowed

/-- A check of fragments fails only with an unknown one. -/
theorem checkFragments_error {node : Node} {allowed : List String} {fault : RequestFault}
    (failed : node.checkFragments allowed = .error fault) :
    ∃ fragment, fault = .unknownFragment fragment node.name := by
  unfold checkFragments at failed
  split at failed
  next child _ =>
    cases failed
    exact ⟨child.name, rfl⟩
  next => cases failed

namespace Reordered

variable {node other : Node}

theorem table (reordered : Reordered node other) : other.table = node.table := by
  rw [Node.table, Node.table, reordered.name, reordered.value]

/-- A fragment that is read once is found wherever it stands. -/
theorem single (reordered : Reordered node other) (name : String) :
    other.single name = node.single name := by
  have found : (other.findAll name).Perm (node.findAll name) := reordered.children.filter _
  unfold Node.single
  match here : node.findAll name with
  | [] =>
    rw [here] at found
    rw [found.eq_nil]
  | [child] =>
    rw [here] at found
    rw [found.eq_singleton]
  | first :: second :: rest =>
    rw [here] at found
    match there : other.findAll name with
    | [] => simp [there] at found
    | [child] => simp [there] at found
    | _ :: _ :: _ => rfl

theorem fragment (reordered : Reordered node other) (name : String) :
    other.fragment name = node.fragment name := by
  rw [Node.fragment, Node.fragment, reordered.single]

/-- Which unknown fragment is found first depends on the order, but not that there is one. -/
theorem checkFragments (reordered : Reordered node other) (allowed : List String) :
    CheckedAlike node other allowed := by
  have known : Reads (other.checkFragments allowed) ↔ Reads (node.checkFragments allowed) := by
    simp only [reads_checkFragments, reordered.children.mem_iff]
  cases here : node.checkFragments allowed with
  | ok =>
    obtain ⟨_, there⟩ := known.mpr ⟨(), here⟩
    exact .same (there.trans here.symm)
  | error fault =>
    rw [here] at known
    obtain ⟨otherFault, there⟩ := Reads.not_iff.mp (known.not.mpr (Reads.not_error fault))
    obtain ⟨_, rfl⟩ := checkFragments_error here
    obtain ⟨_, rfl⟩ := checkFragments_error there
    rw [reordered.name] at there
    exact .unknown here there

end Reordered

end Node

namespace Statement

open Node

variable {kind : StatementKind} {node other : Node}

/-- A request with an unknown fragment is refused for it. -/
theorem ofNode_unknown {fault : RequestFault}
    (unknown : node.checkFragments kind.fragments = .error fault) :
    ofNode kind node = .error fault := by
  cases kind with
  | select =>
    change (Select.ofNode node).map select = _
    rw [Select.ofNode, show node.checkFragments Select.fragments = .error fault from unknown]
    rfl
  | insert =>
    change (Insert.ofNode node).map insert = _
    rw [Insert.ofNode, show node.checkFragments ["values"] = .error fault from unknown]
    rfl
  | update =>
    change (Update.ofNode node).map update = _
    rw [Update.ofNode, show node.checkFragments ["values", "where"] = .error fault from unknown]
    rfl
  | delete =>
    change (Delete.ofNode node).map delete = _
    rw [Delete.ofNode, show node.checkFragments ["where"] = .error fault from unknown]
    rfl

theorem compile_unknown (dialect : Dialect) {fault : RequestFault}
    (unknown : node.checkFragments kind.fragments = .error fault) :
    compile dialect kind node = .error fault := by
  rw [compile, ofNode_unknown unknown]
  rfl

/-- Where the fragments are checked alike, they are read alike in every order. -/
theorem ofNode_reordered (reordered : Reordered node other)
    (checked : other.checkFragments kind.fragments = node.checkFragments kind.fragments) :
    ofNode kind other = ofNode kind node := by
  have conditions : Condition.ofRequest other = Condition.ofRequest node := by
    rw [Condition.ofRequest, Condition.ofRequest, reordered.fragment]
  have assignments : Assignment.ofRequest other = Assignment.ofRequest node := by
    rw [Assignment.ofRequest, Assignment.ofRequest, reordered.fragment, reordered.name]
  cases kind with
  | select =>
    have pagination : Pagination.ofNode other = Pagination.ofNode node := by
      simp only [Pagination.ofNode, Pagination.bound, reordered.single, reordered.fragment]
    change (Select.ofNode other).map select = (Select.ofNode node).map select
    rw [Select.ofNode, Select.ofNode,
      show other.checkFragments Select.fragments = node.checkFragments Select.fragments from checked,
      reordered.table, pagination, reordered.fragment, reordered.joins, conditions]
  | insert =>
    change (Insert.ofNode other).map insert = (Insert.ofNode node).map insert
    rw [Insert.ofNode, Insert.ofNode,
      show other.checkFragments ["values"] = node.checkFragments ["values"] from checked,
      reordered.table, assignments]
  | update =>
    change (Update.ofNode other).map update = (Update.ofNode node).map update
    rw [Update.ofNode, Update.ofNode,
      show other.checkFragments ["values", "where"] = node.checkFragments ["values", "where"]
        from checked,
      reordered.table, assignments, conditions]
  | delete =>
    change (Delete.ofNode other).map delete = (Delete.ofNode node).map delete
    rw [Delete.ofNode, Delete.ofNode,
      show other.checkFragments ["where"] = node.checkFragments ["where"] from checked,
      reordered.table, conditions, reordered.name]

/-- For all dialects, kinds of statements and requests: with the direct children in any order that the
joins have among themselves, the request is compiled in the same way, or it is refused in both orders for
an unknown fragment. With flags added or taken out at any place it is compiled in the same way. -/
theorem compile_reordered (dialect : Dialect) (kind : StatementKind) (node : Node) :
    (∀ children : List Node, children.Perm node.children →
      (children.filter fun child => child.name == "join") =
        (node.children.filter fun child => child.name == "join") →
      compile dialect kind { node with children := children } = compile dialect kind node ∨
        ∃ fragment otherFragment,
          compile dialect kind node = .error (.unknownFragment fragment node.name) ∧
          compile dialect kind { node with children := children } =
            .error (.unknownFragment otherFragment node.name)) ∧
    ∀ children : List Node,
      (children.filter fun child => !kind.flags.contains child.name) =
        (node.children.filter fun child => !kind.flags.contains child.name) →
      compile dialect kind { node with children := children } = compile dialect kind node := by
  constructor
  · intro children perm joins
    have reordered : Reordered node { node with children := children } := ⟨rfl, rfl, perm, joins⟩
    cases reordered.checkFragments kind.fragments with
    | same checked =>
      left
      rw [compile, compile, ofNode_reordered reordered checked]
    | unknown here there =>
      exact .inr ⟨_, _, compile_unknown dialect here, compile_unknown dialect there⟩
  · intro children same
    apply compile_congr
    unfold unflagged
    rw [same]

set_option maxRecDepth 2000 in
/-- The conditions and the limit of a read may stand behind its joins and columns, and the read may say
that it is for its text only. -/
theorem compile_reordered_joinsFirst :
    let join (table column : String) : Node :=
      ⟨"join", .text table, [⟨"on", .null, [.leaf "a.id" (.text column)]⟩]⟩
    let front : List Node := [⟨"where", .null, [.leaf "a.x" (.int 7)]⟩, .leaf "limit" (.int 5)]
    let back : List Node := [join "b" "b.a", join "c" "c.a", ⟨"columns", .null, [.empty "b.y"]⟩]
    let request (children : List Node) : Node := ⟨"read", .text "a", children⟩
    let compiled : CompiledStatement := ⟨"SELECT \"b\".\"y\" FROM \"a\" " ++
      "INNER JOIN \"b\" ON \"a\".\"id\" = \"b\".\"a\" INNER JOIN \"c\" ON \"a\".\"id\" = \"c\".\"a\" " ++
      "WHERE \"a\".\"x\" = $1 LIMIT 5", [("$1", .int 7)], some 5⟩
    (back ++ front).Perm (front ++ back) ∧
      compile .postgres .select (request (front ++ back)) = .ok compiled ∧
      compile .postgres .select (request (back ++ front)) = .ok compiled ∧
      compile .postgres .select
        (request (.leaf "generate-only" (.bool true) :: (front ++ back))) = .ok compiled := by
  intro join front back request compiled
  have perm : (back ++ front).Perm (front ++ back) := List.perm_append_comm
  have compiles : compile .postgres .select (request (front ++ back)) = .ok compiled := rfl
  obtain ⟨reordered, flagged⟩ := compile_reordered .postgres .select (request (front ++ back))
  refine ⟨perm, compiles, ?_, (flagged _ rfl).trans compiles⟩
  obtain same | ⟨fragment, _, refused, -⟩ := reordered (back ++ front) perm rfl
  · exact same.trans compiles
  · rw [compiles] at refused
    cases refused

end Statement

end QueryTree
