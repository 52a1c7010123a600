/-
This file proves that the columns and values of a request's conditions are in its statement, and that a
value of a membership itself and a request for the text inside a join are passed over.
-/
import QueryTree.Proofs.Statement.IgnoredContent
import QueryTree.Proofs.Statement.RequestGrammar
import QueryTree.Proofs.Statement.WhereClause

namespace QueryTree

/-- A single condition of a request is used by one that is read from the statement: both are about the
same column, and the values that the nodes carry are those of the placeholders. -/
inductive Node.UsedBy (lookup : List Char → Option Value) (leaf : Node) : Leaf (List Char) → Prop where
  | compare {name : String} {column : Identifier} {comparison : Comparison} {operand : List Char} :
      Asks leaf.name name (.comparison comparison) → Identifier.parse name = .ok column →
      leaf.children = [] → lookup operand = some leaf.value →
      UsedBy lookup leaf (.compare column comparison operand)
  | isNull {name : String} {column : Identifier} {expected : Bool} :
      Asks leaf.name name .isNull → Identifier.parse name = .ok column →
      leaf.children = [] → leaf.value = .bool expected →
      UsedBy lookup leaf (.isNull column expected)
  | member {name : String} {column : Identifier} {operands : List (List Char)} :
      Asks leaf.name name .membership → Identifier.parse name = .ok column →
      List.Forall₂ (fun operand child => lookup operand = some child.value) operands leaf.children →
      UsedBy lookup leaf (.member column operands)
  | never {name : String} : Asks leaf.name name .membership → leaf.children = [] →
      UsedBy lookup leaf .never

/-- Where two lists are turned into the same results, each item of one goes with one of the other. -/
theorem forall₂_of_results {α β γ : Type} {first : α → Option γ} {second : β → Option γ}
    {lefts : List α} {rights : List β} {results : List γ} (left : lefts.map first = results.map some)
    (right : rights.map second = results.map some) :
    List.Forall₂ (fun left right => ∃ result, first left = some result ∧ second right = some result)
      lefts rights := by
  induction results generalizing lefts rights with
  | nil =>
    cases List.map_eq_nil_iff.mp left
    cases List.map_eq_nil_iff.mp right
    exact .nil
  | cons result results ih =>
    obtain ⟨item, others, rfl, made, left⟩ := List.map_eq_cons_iff.mp left
    obtain ⟨other, behind, rfl, found, right⟩ := List.map_eq_cons_iff.mp right
    exact .cons ⟨result, made, found⟩ (ih left right)

namespace Leaf

/-- The operands of a membership that have values have one each. -/
theorem operands_values {lookup : List Char → Option Value} {operands : List (List Char)}
    {children : List Node} (resolved : operands.mapM lookup = some (children.map Node.value)) :
    List.Forall₂ (fun operand child => lookup operand = some child.value) operands children := by
  induction operands generalizing children with
  | nil =>
    cases children with
    | nil => exact .nil
    | cons => cases resolved
  | cons operand operands ih =>
    rw [List.mapM_cons] at resolved
    obtain ⟨value, bound, resolved⟩ := Option.bind_eq_some_iff.mp resolved
    obtain ⟨values, others, resolved⟩ := Option.bind_eq_some_iff.mp resolved
    cases children with
    | nil => cases resolved
    | cons child children =>
      cases resolved
      exact .cons bound (ih others)

/-- What a condition was before its placeholders had values. -/
theorem resolve_some {lookup : List Char → Option Value} {read : Leaf (List Char)}
    {found : Leaf Value} (resolved : read.resolve lookup = some found) :
    match found with
    | .compare column comparison value =>
        ∃ operand, read = .compare column comparison operand ∧ lookup operand = some value
    | .member column values =>
        ∃ operands, read = .member column operands ∧ operands.mapM lookup = some values
    | .isNull column expected => read = .isNull column expected
    | .never => read = .never := by
  cases read with
  | compare column comparison operand =>
    obtain ⟨value, bound, rfl⟩ := Option.map_eq_some_iff.mp resolved
    exact ⟨operand, rfl, bound⟩
  | member column operands =>
    obtain ⟨values, bound, rfl⟩ := Option.map_eq_some_iff.mp resolved
    exact ⟨operands, rfl, bound⟩
  | isNull column expected =>
    cases resolved
    rfl
  | never =>
    cases resolved
    rfl

/-- A condition that is read with the values of a single condition uses it. -/
theorem usedBy_of_resolved {lookup : List Char → Option Value} {read : Leaf (List Char)}
    {node : Node} {found : Leaf Value} (resolved : read.resolve lookup = some found)
    (stated : ofNode? node = some found) (takes : (Condition.splitName node.name).2.Takes node) :
    node.UsedBy lookup read := by
  have asks : Asks node.name (Condition.splitName node.name).1 (Condition.splitName node.name).2 :=
    Condition.asks_iff.mpr rfl
  have before := resolve_some resolved
  unfold ofNode? at stated
  generalize Condition.splitName node.name = split at asks takes stated
  obtain ⟨name, test⟩ := split
  dsimp only at asks takes stated
  cases parsed : Identifier.parse name with
  | error => simp [parsed] at stated
  | ok column =>
    simp only [parsed] at stated
    cases test with
    | comparison comparison =>
      cases stated
      obtain ⟨operand, rfl, bound⟩ := before
      exact .compare asks parsed takes bound
    | membership =>
      cases children : node.children with
      | nil =>
        rw [children] at stated
        cases stated
        rw [before]
        exact .never asks children
      | cons child others =>
        rw [children] at stated
        cases stated
        obtain ⟨operands, rfl, bound⟩ := before
        have values := operands_values bound
        rw [← children] at values
        exact .member asks parsed values
    | isNull =>
      obtain ⟨childless, expected, carried⟩ := takes
      rw [carried] at stated
      cases stated
      rw [before]
      exact .isNull asks parsed childless carried

end Leaf

namespace Statement

/-- The conditions of a request are used by those that are read from its statement, one by one. -/
theorem written_uses {kind : StatementKind} {node : Node} {statement : Statement}
    (parsed : ofNode kind node = .ok statement) (dialect : Dialect)
    (stated : node.listed "where" ≠ []) :
    ∃ emitted read,
      statement.StatesWhere dialect (statement.written dialect).text.toList emitted read ∧
      List.Forall₂ (Node.UsedBy (statement.written dialect).lookup) node.conditions read.leaves := by
  have conditions := Condition.ofRequest_parts (conditions_ofNode parsed)
  have filled : statement.conditions ≠ [] :=
    (forall₂_ne_nil (Condition.ofNodes_forall₂ conditions)).mp stated
  have binds := statement.written_binds dialect
  obtain ⟨readable, means⟩ := Predicate.ofNodes_means _ _ conditions binds
  obtain ⟨emitted, written⟩ := written_statesWhere dialect filled readable
  obtain ⟨found, resolved, same⟩ := (Predicate.Means.all means).anySingle.leaves
  have grammatical : node.GrammaticalRequest kind := reads_ofNode.mp ⟨statement, parsed⟩
  have fit := Condition.conditions_fit grammatical.conditions
  have pairs := (List.forall₂_and_left _ _).mpr ⟨fit, forall₂_of_results same resolved⟩
  have used := pairs.imp fun leaf read pair => by
    obtain ⟨⟨-, takes⟩, result, stated, resolved⟩ := pair
    exact Leaf.usedBy_of_resolved resolved stated takes
  exact ⟨emitted, _, written, used⟩

/-- A compiled request has its single conditions used one by one in the conditions of its text, and its
joins have no children but the kind, the pairs of columns and a request for the text. A request with
any other child of a join, or with a child or a value that a single condition does not take, is refused.
A value that a membership carries itself and the request for the text inside a join are passed over:
without them the request is compiled in the same way. They are not all that has no effect: the names and
children of a membership's members, the value of the node that holds the pairs of columns, and what is
below a pair or the kind of a join are not looked at either. -/
theorem compile_uses (dialect : Dialect) (kind : StatementKind) (node : Node) :
    (∀ compiled, compile dialect kind node = .ok compiled →
      (node.listed "where" ≠ [] → ∃ statement emitted read, ofNode kind node = .ok statement ∧
        statement.StatesWhere dialect compiled.text.toList emitted read ∧
        List.Forall₂ (Node.UsedBy compiled.lookup) node.conditions read.leaves) ∧
      ∀ join ∈ node.findAll "join", ∀ child ∈ join.children,
        child.name ∈ ["type", "on", "generate-only"]) ∧
    ((∃ leaf ∈ node.conditions, ¬ (Condition.splitName leaf.name).2.Takes leaf) ∨
      (∃ join ∈ node.findAll "join", ∃ child ∈ join.children,
        child.name ∉ ["type", "on", "generate-only"]) →
      ∃ fault, compile dialect kind node = .error fault) ∧
    compile dialect kind node.essential = compile dialect kind node ∧
    (∀ leaf ∈ node.essential.conditions,
      (Condition.splitName leaf.name).2 = .membership → leaf.value = .null) ∧
    ∀ join ∈ node.essential.findAll "join", ∀ child ∈ join.children,
      child.name ≠ "generate-only" := by
  have grammatical {compiled : CompiledStatement} (compiles : compile dialect kind node = .ok compiled) :
      node.GrammaticalRequest kind := by
    obtain ⟨statement, read, -⟩ := map_ok compiles
    exact reads_ofNode.mp ⟨statement, read⟩
  apply And.intro
  · intro compiled compiles
    constructor
    · intro stated
      obtain ⟨statement, parsed, rfl⟩ := map_ok compiles
      obtain ⟨emitted, read, written, used⟩ := written_uses parsed dialect stated
      exact ⟨statement, emitted, read, parsed, written, used⟩
    · intro join member
      exact ((grammatical compiles).joins join member).known
  apply And.intro
  · intro other
    cases outcome : compile dialect kind node with
    | error fault => exact ⟨fault, rfl⟩
    | ok compiled =>
      rcases other with ⟨leaf, member, misfit⟩ | ⟨join, member, child, inside, unknown⟩
      · exact absurd (Condition.conditions_fit (grammatical outcome).conditions leaf member).2 misfit
      · exact absurd (((grammatical outcome).joins join member).known child inside) unknown
  · exact ⟨compile_essential dialect kind node, node.essential_membership, node.essential_join⟩

/-- A removal of the rows that are in no list and have a value. -/
def listedRemoval : Node :=
  ⟨"delete", .text "t", [⟨"where", .null, [.leaf "a" (.int 1),
    ⟨"not", .null, [⟨"b.in", .null, [.leaf "" (.int 2), .leaf "" (.int 3)]⟩]⟩]⟩]⟩

/-- A removal whose comparison has a child. -/
def childRemoval : Node :=
  ⟨"delete", .text "t", [⟨"where", .null, [⟨"a.lt", .int 1, [.leaf "" (.int 2)]⟩]⟩]⟩

/-- All three values of a removal are used; a comparison with a child is refused. -/
theorem compile_uses_values :
    let text := "DELETE FROM \"t\" WHERE \"a\" = $1 AND NOT (\"b\" IN ($2, $3))"
    let compiled : CompiledStatement :=
      ⟨text, [("$1", .int 1), ("$2", .int 2), ("$3", .int 3)], none⟩
    compile .postgres .delete listedRemoval = .ok compiled ∧
      (∃ statement emitted read, ofNode .delete listedRemoval = .ok statement ∧
        statement.StatesWhere .postgres text.toList emitted read ∧
        List.Forall₂ (Node.UsedBy compiled.lookup) listedRemoval.conditions read.leaves) ∧
      ∃ fault, compile .postgres .delete childRemoval = .error fault := by
  intro text compiled
  have compiles : compile .postgres .delete listedRemoval = .ok compiled := rfl
  have stated : listedRemoval.listed "where" ≠ [] := List.cons_ne_nil _ _
  have misfit : ∃ leaf ∈ childRemoval.conditions, ¬ (Condition.splitName leaf.name).2.Takes leaf :=
    ⟨⟨"a.lt", .int 1, [.leaf "" (.int 2)]⟩, List.mem_singleton_self _, List.cons_ne_nil _ _⟩
  have used := ((compile_uses .postgres .delete listedRemoval).1 compiled compiles).1 stated
  have refused := (compile_uses .postgres .delete childRemoval).2.1 (.inl misfit)
  exact ⟨compiles, used, refused⟩

/-- A removal of the rows that are not in a list, which carries its only value itself. -/
def valuedRemoval : Node :=
  ⟨"delete", .text "t", [⟨"where", .null, [⟨"not", .null, [.leaf "id.in" (.int 5)]⟩]⟩]⟩

/-- A read with a join that asks for the text. -/
def flaggedJoin : Node :=
  ⟨"read", .text "t", [⟨"join", .text "u",
    [⟨"on", .null, [.leaf "t.a" (.text "u.a")]⟩, .leaf "generate-only" (.bool true)]⟩]⟩

/-- The value of a membership itself is dropped, so that the removal concerns all rows; and a join that
asks for the text is run. -/
theorem compile_uses_dropped :
    compile .postgres .delete valuedRemoval =
        .ok ⟨"DELETE FROM \"t\" WHERE NOT (1=0)", [], none⟩ ∧
      compile .postgres .select flaggedJoin =
        .ok ⟨"SELECT * FROM \"t\" INNER JOIN \"u\" ON \"t\".\"a\" = \"u\".\"a\" LIMIT 25", [],
          some 25⟩ :=
  ⟨rfl, rfl⟩

end Statement

end QueryTree
