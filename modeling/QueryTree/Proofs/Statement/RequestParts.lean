/-
This file says which parts of a request a statement is read from: its conditions from the single
conditions of a tree, and its names and numbers from the nodes that state them.
-/
import QueryTree.Proofs.Statement.StatementLayout

namespace QueryTree

/-- What is read from each of several items, in order. -/
theorem mapM_forall₂ {ε α β : Type} {read : α → Except ε β} {items : List α} {results : List β}
    (succeeded : items.mapM read = .ok results) :
    List.Forall₂ (fun item result => read item = .ok result) items results := by
  induction items generalizing results with
  | nil =>
    cases succeeded
    exact .nil
  | cons item rest ih =>
    rw [List.mapM_cons] at succeeded
    obtain ⟨result, first, succeeded⟩ := bind_ok succeeded
    obtain ⟨others, later, made⟩ := bind_ok succeeded
    cases made
    exact .cons first (ih later)

/-- Everything on the right is related to something on the left. -/
theorem forall₂_mem_right {α β : Type} {related : α → β → Prop} {items : List α} {results : List β}
    (pairs : List.Forall₂ related items results) {result : β} (member : result ∈ results) :
    ∃ item ∈ items, related item result := by
  induction pairs with
  | nil => cases member
  | cons first others ih =>
    rcases List.mem_cons.mp member with rfl | later
    · exact ⟨_, List.mem_cons_self, first⟩
    · obtain ⟨item, listed, read⟩ := ih later
      exact ⟨item, List.mem_cons_of_mem _ listed, read⟩

theorem forall₂_ne_nil {α β : Type} {related : α → β → Prop} {items : List α} {results : List β}
    (pairs : List.Forall₂ related items results) : items ≠ [] ↔ results ≠ [] := by
  cases pairs with
  | nil => exact iff_of_false (not_not_intro rfl) (not_not_intro rfl)
  | cons => exact iff_of_true (List.cons_ne_nil _ _) (List.cons_ne_nil _ _)

/-- What stands at a position on the left is related to what stands there on the right. -/
theorem forall₂_getElem? {α β : Type} {related : α → β → Prop} {items : List α} {results : List β}
    (pairs : List.Forall₂ related items results) {index : Nat} {item : α}
    (found : items[index]? = some item) :
    ∃ result, results[index]? = some result ∧ related item result := by
  induction pairs generalizing index with
  | nil => cases found
  | cons first _ ih =>
    cases index with
    | zero =>
      cases found
      exact ⟨_, rfl, first⟩
    | succ index => exact ih found

namespace Expression

/-- The single conditions of several trees are those of each tree, in order. -/
theorem leavesAll_ofNodes (nodes : List Node) :
    leavesAll (ofNodes nodes) = nodes.flatMap fun node => (ofNode node).leaves := by
  induction nodes with
  | nil => rfl
  | cons node rest ih => rw [ofNodes, leavesAll, ih, List.flatMap_cons]

/-- The single conditions of a group are those of its children. -/
theorem leaves_group {name : String} {kind : GroupKind} (named : GroupKind.ofName? name = some kind)
    (value : Value) (children : List Node) :
    (ofNode ⟨name, value, children⟩).leaves = children.flatMap fun node => (ofNode node).leaves := by
  rw [← leavesAll_ofNodes]
  obtain ⟨rfl, -⟩ | ⟨rfl, -⟩ | ⟨rfl, -⟩ | ⟨-, -, -, none⟩ := Predicate.ofName?_cases name
  · rfl
  · rfl
  · rfl
  · rw [none] at named
    cases named

theorem leaves_single {node : Node} (single : GroupKind.ofName? node.name = none) :
    (ofNode node).leaves = [node] := by
  obtain ⟨name, value, children⟩ := node
  obtain ⟨-, some⟩ | ⟨-, some⟩ | ⟨-, some⟩ | ⟨notAnd, notOr, notNot, -⟩ :=
    Predicate.ofName?_cases name
  · simp [some] at single
  · simp [some] at single
  · simp [some] at single
  · rw [ofNode, if_neg notAnd, if_neg notOr, if_neg notNot]
    rfl

end Expression

namespace Condition

theorem ofNode_single {node : Node} (single : GroupKind.ofName? node.name = none) :
    ofNode node = ofLeaf node := by
  obtain ⟨name, value, children⟩ := node
  rw [ofNode, single]

/-- Conditions are read from nodes one by one. -/
theorem ofNodes_eq_mapM (nodes : List Node) : ofNodes nodes = nodes.mapM ofNode := by
  induction nodes with
  | nil => rfl
  | cons node rest ih => rw [ofNodes, List.mapM_cons, ih]

theorem ofNodes_forall₂ {nodes : List Node} {conditions : List Condition}
    (read : ofNodes nodes = .ok conditions) :
    List.Forall₂ (fun node condition => ofNode node = .ok condition) nodes conditions :=
  mapM_forall₂ ((ofNodes_eq_mapM nodes).symm.trans read)

/-- Induction on the trees from which conditions are read. -/
theorem ofNode_induction {motive : Node → Condition → Prop}
    (single : ∀ node condition, GroupKind.ofName? node.name = none →
      ofLeaf node = .ok condition → motive node condition)
    (group : ∀ name value children kind conditions, GroupKind.ofName? name = some kind →
      List.Forall₂ motive children conditions →
      motive ⟨name, value, children⟩ (.group kind conditions)) (node : Node) :
    ∀ condition, ofNode node = .ok condition → motive node condition := by
  induction node using Node.induction with
  | step node ih =>
    obtain ⟨name, value, children⟩ := node
    intro condition read
    cases named : GroupKind.ofName? name with
    | none =>
      rw [ofNode, named] at read
      exact single _ _ named read
    | some kind =>
      obtain ⟨-, conditions, inner, rfl⟩ := Predicate.ofNode_group named read
      have pairs := (List.forall₂_and_left _ _).mpr ⟨ih, ofNodes_forall₂ inner⟩
      exact group _ _ _ _ _ named (pairs.imp fun child condition each =>
        each.1 condition each.2)

end Condition

namespace Node

/-- The children of the fragments of a name. -/
def listed (node : Node) (name : String) : List Node := (node.findAll name).flatMap children

/-- A fragment that can be read is the only one of its name. -/
theorem listed_of_fragment {node : Node} {name : String} {nodes : List Node}
    (found : node.fragment name = .ok nodes) : node.listed name = nodes := by
  unfold fragment single at found
  unfold listed
  split at found
  next none =>
    cases found
    simp [none]
  next child only =>
    cases found
    simp [only]
  next => cases found

/-- The single conditions of a request, from the first one to the last. -/
def conditions (node : Node) : List Node := (Expression.ofFragment (node.listed "where")).leaves

/-- The number that a child of a name carries, or else the given one. -/
def numberOf (node : Node) (name : String) (otherwise : Nat) : Nat :=
  match (node.find? name).bind fun child => child.value.asInt? with
  | some number => number.toInt.toNat
  | none => otherwise

end Node

namespace Assignment

theorem ofRequest_parts {node : Node} {assignments : List Assignment}
    (read : ofRequest node = .ok assignments) :
    (node.listed "values").mapM ofNode = .ok assignments := by
  obtain ⟨nodes, found, read⟩ := bind_ok read
  obtain ⟨columns, made, read⟩ := bind_ok read
  split at read
  · cases read
  · cases read
    rw [Node.listed_of_fragment found]
    exact made

end Assignment

namespace Condition

theorem ofRequest_parts {node : Node} {conditions : List Condition}
    (read : ofRequest node = .ok conditions) :
    ofNodes (node.listed "where") = .ok conditions := by
  obtain ⟨nodes, found, made⟩ := bind_ok read
  rw [Node.listed_of_fragment found]
  exact made

end Condition

namespace OrderTerm

theorem ofNode_parts {node : Node} {term : OrderTerm} (read : ofNode node = .ok term) :
    Identifier.parse node.name = .ok term.column ∧
      Direction.ofValue? node.value = some term.direction := by
  unfold ofNode at read
  split at read
  next direction stated =>
    obtain ⟨column, parsed, made⟩ := bind_ok read
    cases made
    exact ⟨parsed, stated⟩
  next => cases read

end OrderTerm

namespace Pagination

/-- A bound is the number of the only child of its name. -/
theorem bound_numberOf {node : Node} {name : String} {number : Option Nat} (otherwise : Nat)
    (read : bound node name = .ok number) :
    number.getD otherwise = node.numberOf name otherwise := by
  obtain ⟨child, found, read⟩ := bind_ok read
  have first : node.find? name = child := by
    unfold Node.find?
    rw [← List.head?_filter]
    change (node.findAll name).head? = child
    unfold Node.single at found
    split at found
    next none =>
      cases found
      rw [none]
      rfl
    next only listed =>
      cases found
      rw [listed]
      rfl
    next => cases found
  unfold Node.numberOf
  rw [first]
  cases child with
  | none =>
    cases read
    rfl
  | some child =>
    obtain ⟨natural, isNatural, made⟩ := bind_ok read
    cases made
    obtain ⟨integer, isInteger, natural_eq⟩ := bind_ok isNatural
    unfold Node.integer at isInteger
    split at isInteger
    next value carried =>
      cases isInteger
      split at natural_eq
      · cases natural_eq
      · cases natural_eq
        simp [carried]
    next => cases isInteger

theorem ofNode_parts {node : Node} {pagination : Pagination}
    (read : ofNode node = .ok pagination) :
    (node.listed "order").mapM OrderTerm.ofNode = .ok pagination.order ∧
      pagination.limit = node.numberOf "limit" defaultLimit ∧
      pagination.offset.getD 0 = node.numberOf "offset" 0 := by
  obtain ⟨offset, readOffset, read⟩ := bind_ok read
  obtain ⟨limit, readLimit, read⟩ := bind_ok read
  obtain ⟨nodes, found, read⟩ := bind_ok read
  obtain ⟨order, made, read⟩ := bind_ok read
  cases read
  rw [Node.listed_of_fragment found]
  exact ⟨made, bound_numberOf defaultLimit readLimit, bound_numberOf 0 readOffset⟩

end Pagination

namespace Join

theorem ofNode_parts {node : Node} {join : Join} (read : ofNode node = .ok join) :
    node.table = .ok join.table ∧
      (node.listed "on").mapM conditionOfNode = .ok join.conditions := by
  obtain ⟨table, readTable, read⟩ := bind_ok read
  obtain ⟨_, -, read⟩ := bind_ok read
  obtain ⟨kind, -, read⟩ := bind_ok read
  obtain ⟨nodes, found, read⟩ := bind_ok read
  split at read
  · cases read
  · obtain ⟨conditions, made, read⟩ := bind_ok read
    cases read
    rw [Node.listed_of_fragment found]
    exact ⟨readTable, made⟩

end Join

namespace Select

theorem ofNode_parts {node : Node} {select : Select} (read : ofNode node = .ok select) :
    node.table = .ok select.table ∧ Pagination.ofNode node = .ok select.pagination ∧
      (node.listed "columns").mapM Column.ofNode = .ok select.columns ∧
      (node.findAll "join").mapM Join.ofNode = .ok select.joins ∧
      Condition.ofNodes (node.listed "where") = .ok select.conditions := by
  obtain ⟨_, -, read⟩ := bind_ok read
  obtain ⟨table, readTable, read⟩ := bind_ok read
  obtain ⟨pagination, readPagination, read⟩ := bind_ok read
  obtain ⟨nodes, found, read⟩ := bind_ok read
  obtain ⟨columns, readColumns, read⟩ := bind_ok read
  obtain ⟨joins, readJoins, read⟩ := bind_ok read
  obtain ⟨conditions, readConditions, read⟩ := bind_ok read
  cases read
  rw [Node.listed_of_fragment found]
  exact ⟨readTable, readPagination, readColumns, readJoins, Condition.ofRequest_parts readConditions⟩

end Select

namespace Insert

theorem ofNode_parts {node : Node} {insert : Insert} (read : ofNode node = .ok insert) :
    node.table = .ok insert.table ∧
      (node.listed "values").mapM Assignment.ofNode = .ok insert.assignments := by
  obtain ⟨_, -, read⟩ := bind_ok read
  obtain ⟨table, readTable, read⟩ := bind_ok read
  obtain ⟨assignments, readAssignments, read⟩ := bind_ok read
  cases read
  exact ⟨readTable, Assignment.ofRequest_parts readAssignments⟩

end Insert

namespace Update

theorem ofNode_parts {node : Node} {update : Update} (read : ofNode node = .ok update) :
    node.table = .ok update.table ∧
      (node.listed "values").mapM Assignment.ofNode = .ok update.assignments ∧
      Condition.ofNodes (node.listed "where") = .ok update.conditions := by
  obtain ⟨_, -, read⟩ := bind_ok read
  obtain ⟨table, readTable, read⟩ := bind_ok read
  obtain ⟨assignments, readAssignments, read⟩ := bind_ok read
  obtain ⟨conditions, readConditions, read⟩ := bind_ok read
  cases read
  exact ⟨readTable, Assignment.ofRequest_parts readAssignments,
    Condition.ofRequest_parts readConditions⟩

end Update

namespace Delete

theorem ofNode_parts {node : Node} {delete : Delete} (read : ofNode node = .ok delete) :
    node.table = .ok delete.table ∧
      Condition.ofNodes (node.listed "where") = .ok delete.conditions := by
  obtain ⟨_, -, read⟩ := bind_ok read
  obtain ⟨table, readTable, read⟩ := bind_ok read
  obtain ⟨conditions, readConditions, read⟩ := bind_ok read
  split at read
  · cases read
  · cases read
    exact ⟨readTable, Condition.ofRequest_parts readConditions⟩

end Delete

end QueryTree
