/-
This file gives the conditions of a request their meaning as a boolean expression, and proves that
the conditions read from the request are read back from their text with this meaning.
-/
import Mathlib.Data.List.Forall2
import QueryTree.Proofs.Statement.ConditionReading

namespace QueryTree

theorem bind_ok {ε α β : Type} {first : Except ε α} {next : α → Except ε β} {result : β}
    (succeeded : first >>= next = .ok result) :
    ∃ value, first = .ok value ∧ next value = .ok result := by
  cases first with
  | error => cases succeeded
  | ok value => exact ⟨value, rfl, succeeded⟩

/-- The single condition that a node states, with the values that it carries. -/
def Leaf.ofNode? (node : Node) : Option (Leaf Value) :=
  let (name, test) := Condition.splitName node.name
  match Identifier.parse name with
  | .error _ => none
  | .ok column =>
      match test with
      | .comparison comparison => some (.compare column comparison node.value)
      | .membership =>
          some (if node.children.isEmpty then .never
            else .member column (node.children.map Node.value))
      | .isNull => node.value.asBool?.map (.isNull column)

namespace Expression

mutual

/-- The meaning of a node: a conjunction, a disjunction, the negation of a conjunction, or a single
condition. -/
def ofNode : Node → Expression Node
  | ⟨name, value, children⟩ =>
      if name = "and" then .all (ofNodes children)
      else if name = "or" then .any (ofNodes children)
      else if name = "not" then .negation (.all (ofNodes children))
      else .leaf ⟨name, value, children⟩

def ofNodes : List Node → List (Expression Node)
  | [] => []
  | node :: rest => ofNode node :: ofNodes rest

end

/-- The conditions of a request have to hold together. -/
def ofFragment (nodes : List Node) : Expression Node := .all (ofNodes nodes)

/-- The truth of a meaning; membership in nothing never holds. -/
def meaningTruth (given : Nat → Truth) (tree : Expression Node) : Truth :=
  tree.truth (fun node => (Leaf.ofNode? node).any Leaf.isNever) given 0

/-- The truth of an expression that has been read. -/
def readTruth (given : Nat → Truth) (read : Expression (Leaf (List Char))) : Truth :=
  read.truth Leaf.isNever given 0

end Expression

/-- A condition with the values of its placeholders, when all of them have one. -/
def Leaf.resolve (lookup : List Char → Option Value) : Leaf (List Char) → Option (Leaf Value)
  | compare column comparison operand => (lookup operand).map (.compare column comparison)
  | member column operands => (operands.mapM lookup).map (.member column)
  | isNull column expected => some (.isNull column expected)
  | never => some .never

namespace Predicate

/-- What has been read means the same as a tree: the conditions are the same in the same order, and
so is the truth. -/
structure Means (lookup : List Char → Option Value) (read : Expression (Leaf (List Char)))
    (tree : Expression Node) : Prop where
  leaves : ∃ found : List (Leaf Value), read.leaves.map (Leaf.resolve lookup) = found.map some ∧
    tree.leaves.map Leaf.ofNode? = found.map some
  truth : ∀ given start, read.truth Leaf.isNever given start =
    tree.truth (fun node => (Leaf.ofNode? node).any Leaf.isNever) given start

namespace Means

variable {lookup : List Char → Option Value} {read : Expression (Leaf (List Char))}
  {tree : Expression Node} {reads : List (Expression (Leaf (List Char)))}
  {trees : List (Expression Node)}

theorem length (means : Means lookup read tree) : read.leaves.length = tree.leaves.length := by
  obtain ⟨found, first, second⟩ := means.leaves
  have sameRead := congrArg List.length first
  have sameTree := congrArg List.length second
  simp only [List.length_map] at sameRead sameTree
  omega

theorem leavesAll (means : List.Forall₂ (Means lookup) reads trees) :
    ∃ found : List (Leaf Value),
      (Expression.leavesAll reads).map (Leaf.resolve lookup) = found.map some ∧
      (Expression.leavesAll trees).map Leaf.ofNode? = found.map some := by
  induction means with
  | nil => exact ⟨[], rfl, rfl⟩
  | cons first others ih =>
    obtain ⟨found, read, tree⟩ := first.leaves
    obtain ⟨later, reads, trees⟩ := ih
    refine ⟨found ++ later, ?_, ?_⟩
    · rw [Expression.leavesAll, List.map_append, List.map_append, read, reads]
    · rw [Expression.leavesAll, List.map_append, List.map_append, tree, trees]

theorem truths (means : List.Forall₂ (Means lookup) reads trees) (given : Nat → Truth)
    (start : Nat) : Expression.truths Leaf.isNever given start reads =
      Expression.truths (fun node => (Leaf.ofNode? node).any Leaf.isNever) given start trees := by
  induction means generalizing start with
  | nil => rfl
  | cons first others ih => rw [Expression.truths, Expression.truths, first.truth, first.length, ih]

theorem all (means : List.Forall₂ (Means lookup) reads trees) :
    Means lookup (.all reads) (.all trees) where
  leaves := leavesAll means
  truth given start := by rw [Expression.truth, Expression.truth, truths means]

theorem any (means : List.Forall₂ (Means lookup) reads trees) :
    Means lookup (.any reads) (.any trees) where
  leaves := leavesAll means
  truth given start := by rw [Expression.truth, Expression.truth, truths means]

theorem negation (means : Means lookup read tree) :
    Means lookup (.negation read) (.negation tree) where
  leaves := means.leaves
  truth given start := by rw [Expression.truth, Expression.truth, means.truth]

/-- A conjunction of one condition is the condition. -/
theorem allSingle (means : Means lookup read tree) : Means lookup (.all [read]) tree where
  leaves := by simpa [Expression.leaves, Expression.leavesAll] using means.leaves
  truth given start := by simp [Expression.truth, Expression.truths, means.truth]

/-- A disjunction of one condition is the condition. -/
theorem anySingle (means : Means lookup read tree) : Means lookup (.any [read]) tree where
  leaves := by simpa [Expression.leaves, Expression.leavesAll] using means.leaves
  truth given start := by simp [Expression.truth, Expression.truths, means.truth]

theorem alternatives (means : List.Forall₂ (Means lookup) reads trees) :
    Means lookup (.any (reads.map fun inner => .all [inner])) (.any trees) := by
  apply any
  rw [List.forall₂_map_left_iff]
  exact means.imp fun _ _ same => same.allSingle

end Means

/-- The placeholders from a position on stand for the values. -/
def Binds (dialect : Dialect) (lookup : List Char → Option Value) (position : Nat)
    (values : List Value) : Prop :=
  ∀ index value, values[index]? = some value →
    lookup (dialect.placeholderCharacters (position + index)) = some value

namespace Binds

variable {dialect : Dialect} {lookup : List Char → Option Value} {position : Nat}
  {first second : List Value}

theorem left (binds : Binds dialect lookup position (first ++ second)) :
    Binds dialect lookup position first := by
  intro index value found
  obtain ⟨inside, -⟩ := List.getElem?_eq_some_iff.mp found
  exact binds index value (by rw [List.getElem?_append_left inside, found])

theorem right (binds : Binds dialect lookup position (first ++ second)) :
    Binds dialect lookup (position + first.length) second := by
  intro index value found
  have bound := binds (first.length + index) value
    (by rw [List.getElem?_append_right (by omega)]; simpa using found)
  rwa [← Nat.add_assoc] at bound

/-- The operands of a membership test stand for its values. -/
theorem mapM (binds : Binds dialect lookup position first) :
    (placeholders dialect position first).mapM lookup = some first := by
  induction first generalizing position with
  | nil => rfl
  | cons value rest ih =>
    have head : lookup (dialect.placeholderCharacters position) = some value := binds 0 value rfl
    have tail : Binds dialect lookup (position + 1) rest := by
      rw [← List.singleton_append] at binds
      exact binds.right
    rw [placeholders_cons, List.mapM_cons, head, ih tail]
    rfl

end Binds

theorem values_valuePieces (values : List Value) : Piece.values (valuePieces values) = values := by
  induction values with
  | nil => rfl
  | cons value rest ih =>
    cases rest with
    | nil => rfl
    | cons second others =>
      rw [valuePieces, List.map_cons, List.map_cons, Piece.separated, Piece.values_append]
      · exact congrArg (value :: ·) ih
      · simp

theorem values_member (column : Identifier) (values : List Value) :
    Piece.values (Condition.member column values).pieces = values := by
  cases values with
  | nil => rfl
  | cons value rest =>
    have inner := values_valuePieces (value :: rest)
    change Piece.values (([.identifier column, .keyword .inList] ++ valuePieces (value :: rest)) ++
      [.keyword .closeGroup]) = _
    rw [Piece.values_append, Piece.values_append, inner]
    exact List.append_nil _

theorem values_joined (separator : Keyword) (conditions : List Condition) :
    Piece.values (Condition.joined separator conditions) =
      conditions.flatMap fun condition => Piece.values condition.pieces := by
  induction conditions with
  | nil => rfl
  | cons first others ih =>
    cases others with
    | nil => simp [Condition.joined]
    | cons second others =>
      rw [Condition.joined, Piece.values_append, List.flatMap_cons]
      · exact congrArg _ ih
      · simp

theorem values_clause (conditions : List Condition) :
    Piece.values (Condition.clause conditions) =
      conditions.flatMap fun condition => Piece.values condition.pieces := by
  cases conditions with
  | nil => rfl
  | cons first others => exact values_joined .conjunction (first :: others)

theorem values_group (kind : GroupKind) (conditions : List Condition) :
    Piece.values (Condition.group kind conditions).pieces =
      conditions.flatMap fun condition => Piece.values condition.pieces := by
  have inner := values_joined kind.separator conditions
  change Piece.values (([.keyword kind.opening] ++ Condition.joined kind.separator conditions) ++
    [.keyword .closeGroup]) = _
  rw [Piece.values_append, Piece.values_append, inner]
  exact List.append_nil _

/-- A column that has been parsed has a name. -/
theorem parse_parts_ne_nil {name : String} {column : Identifier}
    (parsed : Identifier.parse name = .ok column) : column.parts ≠ [] := by
  unfold Identifier.parse at parsed
  split at parsed
  · cases parsed
  · cases segments : Identifier.segments name.toList with
    | nil => exact absurd segments (Identifier.segments_ne_nil _)
    | cons segment rest =>
      rw [segments, Identifier.readParts] at parsed
      split at parsed
      · split at parsed
        · cases parsed
          simp
        · cases parsed
      · cases first : Identifier.readName name segment with
        | error fault => simp [first, bind, Except.bind, Except.map] at parsed
        | ok head =>
          cases others : Identifier.readParts name rest with
          | error fault => simp [first, others, bind, Except.bind, Except.map] at parsed
          | ok parts =>
            simp [first, others, bind, Except.bind, Except.map, pure, Except.pure] at parsed
            simp [← parsed]

/-- What a node states as a single condition: the column is parsed, and the test decides the rest. -/
theorem ofLeaf_cases {node : Node} {condition : Condition}
    (read : Condition.ofLeaf node = .ok condition) :
    ∃ column, column.parts ≠ [] ∧
      ((∃ comparison, condition = .compare column comparison node.value ∧
          Leaf.ofNode? node = some (.compare column comparison node.value)) ∨
        (condition = .member column (node.children.map Node.value) ∧
          Leaf.ofNode? node = some (if node.children.isEmpty then .never
            else .member column (node.children.map Node.value))) ∨
        ∃ expected, condition = .isNull column expected ∧
          Leaf.ofNode? node = some (.isNull column expected)) := by
  unfold Condition.ofLeaf at read
  unfold Leaf.ofNode?
  generalize Condition.splitName node.name = split at read ⊢
  obtain ⟨name, test⟩ := split
  obtain ⟨column, parsed, read⟩ := bind_ok read
  refine ⟨column, parse_parts_ne_nil parsed, ?_⟩
  simp only [parsed]
  cases test with
  | membership =>
    cases read
    exact .inr (.inl ⟨rfl, rfl⟩)
  | comparison comparison =>
    simp only at read
    split at read
    · cases read
      exact .inl ⟨comparison, rfl, rfl⟩
    · cases read
  | isNull =>
    simp only at read
    split at read
    · cases read
    · cases asked : node.value.asBool? with
      | none => simp [asked] at read
      | some expected =>
        rw [asked] at read
        cases read
        exact .inr (.inr ⟨expected, rfl, rfl⟩)

theorem ofLeaf_readable {node : Node} {condition : Condition}
    (read : Condition.ofLeaf node = .ok condition) : condition.Readable := by
  obtain ⟨column, named, ⟨comparison, rfl, -⟩ | ⟨rfl, -⟩ | ⟨expected, rfl, -⟩⟩ := ofLeaf_cases read
  · exact .compare comparison node.value named
  · exact .member _ named
  · exact .isNull expected named

/-- A single condition that has been read means what its node states. -/
theorem means_leaf {lookup : List Char → Option Value} {read : Leaf (List Char)} {node : Node}
    {found : Leaf Value} (resolved : read.resolve lookup = some found)
    (stated : Leaf.ofNode? node = some found) (same : read.isNever = found.isNever) :
    Means lookup (.leaf read) (.leaf node) where
  leaves := ⟨[found], by simp [Expression.leaves, resolved], by simp [Expression.leaves, stated]⟩
  truth given start := by simp [Expression.truth, stated, same]

theorem ofLeaf_means {dialect : Dialect} {lookup : List Char → Option Value} {node : Node}
    {condition : Condition} (read : Condition.ofLeaf node = .ok condition) {position : Nat}
    (binds : Binds dialect lookup position (Piece.values condition.pieces)) :
    Means lookup (reading dialect position condition) (.leaf node) := by
  obtain ⟨column, named, ⟨comparison, rfl, stated⟩ | ⟨rfl, stated⟩ | ⟨expected, rfl, stated⟩⟩ :=
    ofLeaf_cases read
  · have bound : lookup (dialect.placeholderCharacters position) = some node.value :=
      binds 0 node.value rfl
    exact means_leaf (by simp [Leaf.resolve, bound]) stated rfl
  · rw [values_member] at binds
    cases children : node.children with
    | nil =>
      simp only [children, List.isEmpty_nil, if_true] at stated
      refine means_leaf ?_ stated rfl
      rfl
    | cons child others =>
      rw [children] at binds stated
      refine means_leaf ?_ stated rfl
      change ((placeholders dialect position _).mapM lookup).map _ = _
      rw [binds.mapM]
      rfl
  · exact means_leaf rfl stated rfl

/-- The kinds of groups by their names. -/
theorem ofName?_cases (name : String) :
    (name = "and" ∧ GroupKind.ofName? name = some .all) ∨
      (name = "or" ∧ GroupKind.ofName? name = some .any) ∨
      (name = "not" ∧ GroupKind.ofName? name = some .notAll) ∨
      (name ≠ "and" ∧ name ≠ "or" ∧ name ≠ "not" ∧ GroupKind.ofName? name = none) := by
  unfold GroupKind.ofName?
  split
  · exact .inl ⟨rfl, rfl⟩
  · exact .inr (.inl ⟨rfl, rfl⟩)
  · exact .inr (.inr (.inl ⟨rfl, rfl⟩))
  · exact .inr (.inr (.inr ⟨‹_›, ‹_›, ‹_›, rfl⟩))

/-- A group is read from a node that has children. -/
theorem ofNode_group {name : String} {value : Value} {children : List Node} {kind : GroupKind}
    {condition : Condition} (named : GroupKind.ofName? name = some kind)
    (read : Condition.ofNode ⟨name, value, children⟩ = .ok condition) :
    children ≠ [] ∧ ∃ conditions, Condition.ofNodes children = .ok conditions ∧
      condition = .group kind conditions := by
  rw [Condition.ofNode, named] at read
  simp only at read
  split at read
  · cases read
  · rename_i filled
    obtain ⟨conditions, inner, made⟩ := bind_ok read
    cases made
    exact ⟨by simpa using filled, conditions, inner, rfl⟩

theorem ofNodes_length {nodes : List Node} {conditions : List Condition}
    (read : Condition.ofNodes nodes = .ok conditions) : conditions.length = nodes.length := by
  induction nodes generalizing conditions with
  | nil =>
    cases read
    rfl
  | cons node rest ih =>
    rw [Condition.ofNodes] at read
    obtain ⟨first, -, read⟩ := bind_ok read
    obtain ⟨others, readOthers, made⟩ := bind_ok read
    cases made
    exact congrArg (· + 1) (ih readOthers)

mutual

/-- A condition that has been read from a node is read back with the meaning of the node, by
induction on the tree. -/
theorem ofNode_means {dialect : Dialect} {lookup : List Char → Option Value} :
    ∀ (node : Node) {condition : Condition} (position : Nat),
      Condition.ofNode node = .ok condition →
      Binds dialect lookup position (Piece.values condition.pieces) →
      condition.Readable ∧ Means lookup (reading dialect position condition) (Expression.ofNode node)
  | ⟨name, value, children⟩, condition, position, read, binds => by
    have group (kind : GroupKind) (named : GroupKind.ofName? name = some kind) :
        ∃ conditions, condition = .group kind conditions ∧ condition.Readable ∧
          List.Forall₂ (Means lookup) (readings dialect position conditions)
            (Expression.ofNodes children) := by
      obtain ⟨nonempty, conditions, inner, rfl⟩ := ofNode_group named read
      rw [values_group] at binds
      obtain ⟨readable, means⟩ := ofNodes_means children position inner binds
      refine ⟨conditions, rfl, .group ?_ readable, means⟩
      rintro rfl
      exact nonempty (List.length_eq_zero_iff.mp (ofNodes_length inner).symm)
    obtain ⟨rfl, named⟩ | ⟨rfl, named⟩ | ⟨rfl, named⟩ | ⟨notAnd, notOr, notNot, named⟩ :=
      ofName?_cases name
    · obtain ⟨conditions, rfl, readable, means⟩ := group .all named
      exact ⟨readable, (Means.all means).anySingle⟩
    · obtain ⟨conditions, rfl, readable, means⟩ := group .any named
      exact ⟨readable, Means.alternatives means⟩
    · obtain ⟨conditions, rfl, readable, means⟩ := group .notAll named
      exact ⟨readable, (Means.all means).anySingle.negation⟩
    · rw [Condition.ofNode, named] at read
      rw [Expression.ofNode, if_neg notAnd, if_neg notOr, if_neg notNot]
      exact ⟨ofLeaf_readable read, ofLeaf_means read binds⟩

theorem ofNodes_means {dialect : Dialect} {lookup : List Char → Option Value} :
    ∀ (nodes : List Node) {conditions : List Condition} (position : Nat),
      Condition.ofNodes nodes = .ok conditions →
      Binds dialect lookup position
        (conditions.flatMap fun condition => Piece.values condition.pieces) →
      (∀ condition ∈ conditions, condition.Readable) ∧
        List.Forall₂ (Means lookup) (readings dialect position conditions) (Expression.ofNodes nodes)
  | [], conditions, position, read, binds => by
    cases read
    exact ⟨by simp, .nil⟩
  | node :: rest, conditions, position, read, binds => by
    rw [Condition.ofNodes] at read
    obtain ⟨first, readFirst, read⟩ := bind_ok read
    obtain ⟨others, readOthers, made⟩ := bind_ok read
    cases made
    rw [List.flatMap_cons] at binds
    obtain ⟨readable, means⟩ := ofNode_means node position readFirst binds.left
    obtain ⟨readables, later⟩ := ofNodes_means rest _ readOthers binds.right
    exact ⟨List.forall_mem_cons.mpr ⟨readable, readables⟩, .cons means later⟩

end

end Predicate

end QueryTree
