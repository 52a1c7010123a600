/-
This file says which requests are well formed, and proves that exactly these are compiled. All others
are refused with a fault of the request.
-/
import QueryTree.Engine
import QueryTree.Proofs.Statement.ConditionGrammar

namespace QueryTree

/-- The value is one of certain words, in any case. -/
def Value.States (words : List String) (value : Value) : Prop :=
  ∃ word, value = .text word ∧ String.ofList (word.toList.map Char.toLower) ∈ words

theorem lowered_eq_iff (word given : String) :
    String.ofList (word.toList.map Char.toLower) = given ↔
      word.toList.map Char.toLower = given.toList := by
  rw [← String.toList_inj, String.toList_ofList]

namespace Node

/-- A join is well formed: it names a table, states at most one kind, and has exactly one list of pairs
of columns, which is not empty. -/
structure GrammaticalJoin (node : Node) : Prop where
  table : node.value.Identifies
  known : ∀ child ∈ node.children, child.name ∈ ["type", "on", "generate-only"]
  single : (node.findAll "type").length ≤ 1
  kind : ∀ child ∈ node.findAll "type", child.value.States ["inner", "left", "right", "full"]
  on : ∃ pairs, node.findAll "on" = [pairs] ∧ pairs.children ≠ [] ∧
    ∀ pair ∈ pairs.children, Identifies pair.name ∧ pair.value.Identifies

end Node

/-- The fragments that a request of a kind may have. -/
def StatementKind.fragments : StatementKind → List String
  | select => ["columns", "where", "join", "order", "offset", "limit", "multiple-result-sets"]
  | insert => ["values"]
  | update => ["values", "where"]
  | delete => ["where"]

/-- A request is well formed for a statement of a kind. -/
structure Node.GrammaticalRequest (kind : StatementKind) (node : Node) : Prop where
  /-- Every direct child is a fragment of the kind, or asks for the text only. -/
  known : ∀ child ∈ node.children, child.name ∈ kind.fragments ∨ child.name = "generate-only"
  /-- The value names the table. -/
  table : node.value.Identifies
  /-- The fragments that are read once are there once at most. -/
  single : ∀ name ∈ ["columns", "where", "order", "offset", "limit", "values"],
    (node.findAll name).length ≤ 1
  /-- The bounds are integers that are not negative. -/
  bounds : ∀ name ∈ ["offset", "limit"], ∀ child ∈ node.findAll name,
    ∃ number : Int64, child.value = .int number ∧ 0 ≤ number.toInt
  /-- The order is made of columns with a direction, which may be missing. -/
  order : ∀ child ∈ node.listed "order", Identifies child.name ∧
    (child.value = .null ∨ child.value.States ["asc", "desc"])
  /-- The columns may have another name. -/
  columns : ∀ child ∈ node.listed "columns", Identifies child.name ∧
    (child.value = .null ∨ child.value.Identifies)
  joins : ∀ child ∈ node.findAll "join", child.GrammaticalJoin
  conditions : ∀ child ∈ node.listed "where", child.GrammaticalCondition
  assignments : ∀ child ∈ node.listed "values", Identifies child.name
  /-- A new row and a change assign at least one column. -/
  assigned : kind = .insert ∨ kind = .update → node.listed "values" ≠ []
  /-- A removal has at least one condition. -/
  conditioned : kind = .delete → node.listed "where" ≠ []

namespace Node

variable {node : Node} {name : String}

theorem listed_unnamed (none : node.findAll name = []) : node.listed name = [] := by
  rw [listed, none]
  rfl

theorem reads_checkFragments {allowed : List String} :
    Reads (node.checkFragments allowed) ↔
      ∀ child ∈ node.children, child.name ∈ allowed ∨ child.name = "generate-only" := by
  rw [← checkFragments_ok]
  exact ⟨fun ⟨_, read⟩ => read, fun read => ⟨(), read⟩⟩

theorem reads_table : Reads node.table ↔ node.value.Identifies := by
  unfold table Value.Identifies
  cases node.value with
  | text text =>
    constructor
    · exact fun reads => ⟨text, rfl, reads⟩
    · rintro ⟨_, ⟨⟩, reads⟩
      exact reads
  | _ => exact iff_of_false (Reads.not_error _) nofun

/-- The value of a node is read as an identifier by way of its text. -/
theorem reads_text {α : Type} {make : Identifier → α} :
    Reads (node.text >>= fun text => Identifier.parse text >>= fun identifier =>
        pure (make identifier)) ↔ node.value.Identifies := by
  unfold text Value.Identifies
  cases node.value with
  | text text =>
    refine Iff.trans Reads.bind_pure ⟨fun reads => ⟨text, rfl, reads⟩, ?_⟩
    rintro ⟨_, ⟨⟩, reads⟩
    exact reads
  | _ => exact iff_of_false (Reads.not_error _) nofun

/-- What is read from the only child of a name, or from its absence. -/
theorem reads_single {α : Type} {next : Option Node → Except RequestFault α} {carries : Node → Prop}
    (missing : Reads (next none)) (present : ∀ child, Reads (next (some child)) ↔ carries child) :
    Reads (node.single name >>= next) ↔
      (node.findAll name).length ≤ 1 ∧ ∀ child ∈ node.findAll name, carries child := by
  unfold single
  match node.findAll name with
  | [] => exact iff_of_true missing ⟨Nat.zero_le 1, nofun⟩
  | [child] => exact (present child).trans (by simp)
  | first :: second :: rest => exact iff_of_false (Reads.not_error _) (by simp)

/-- What is read from the children of the only fragment of a name. -/
theorem reads_fragment {α : Type} {next : List Node → Except RequestFault α} :
    Reads (node.fragment name >>= next) ↔
      (node.findAll name).length ≤ 1 ∧ Reads (next (node.listed name)) := by
  unfold fragment single listed
  match node.findAll name with
  | [] => exact (and_iff_right (Nat.zero_le 1)).symm
  | [child] => exact (show Reads (next child.children) ↔ _ by simp)
  | first :: second :: rest => exact iff_of_false (Reads.not_error _) (by simp)

end Node

namespace OrderTerm

theorem ofValue?_isSome {value : Value} :
    (∃ direction, Direction.ofValue? value = some direction) ↔
      value = .null ∨ value.States ["asc", "desc"] := by
  unfold Direction.ofValue? Value.States
  cases value with
  | null => exact iff_of_true ⟨_, rfl⟩ (.inl rfl)
  | text word =>
    simp only [reduceCtorEq, Value.text.injEq, false_or, exists_eq_left', List.mem_cons,
      List.not_mem_nil, or_false, lowered_eq_iff]
    split
    next ascending => exact iff_of_true ⟨_, rfl⟩ (.inl ascending)
    next other =>
      split
      next descending => exact iff_of_true ⟨_, rfl⟩ (.inr descending)
      next neither => exact iff_of_false nofun (not_or.mpr ⟨other, neither⟩)
  | _ => exact iff_of_false nofun nofun

theorem reads_ofNode {node : Node} :
    Reads (ofNode node) ↔
      Identifies node.name ∧ (node.value = .null ∨ node.value.States ["asc", "desc"]) := by
  rw [ofNode, ← ofValue?_isSome]
  cases Direction.ofValue? node.value with
  | none => exact iff_of_false (Reads.not_error _) nofun
  | some direction =>
    refine Iff.trans Reads.bind_pure (and_iff_left ?_).symm
    exact ⟨direction, rfl⟩

end OrderTerm

namespace Pagination

theorem reads_bound {node : Node} {name : String} :
    Reads (bound node name) ↔ (node.findAll name).length ≤ 1 ∧
      ∀ child ∈ node.findAll name, ∃ number : Int64, child.value = .int number ∧ 0 ≤ number.toInt := by
  refine Node.reads_single (Reads.of_pure none) fun child => Iff.trans Reads.bind_pure ?_
  unfold Node.natural Node.integer
  cases child.value with
  | int number =>
    change Reads (if number.toInt < 0 then _ else _) ↔ _
    split
    next negative =>
      refine iff_of_false (Reads.not_error _) ?_
      rintro ⟨_, ⟨⟩, natural⟩
      omega
    next natural => exact iff_of_true (Reads.of_ok _) ⟨number, rfl, by omega⟩
  | _ => exact iff_of_false (Reads.not_error _) nofun

/-- The order and the bounds are read apart from each other. -/
theorem reads_ofNode {node : Node} :
    Reads (ofNode node) ↔ Reads (bound node "offset") ∧ Reads (bound node "limit") ∧
      (node.findAll "order").length ≤ 1 ∧
      ∀ child ∈ node.listed "order", Identifies child.name ∧
        (child.value = .null ∨ child.value.States ["asc", "desc"]) := by
  refine Reads.bind_and fun offset _ => Reads.bind_and fun limit _ => ?_
  rw [Node.reads_fragment, Reads.bind_pure, Reads.mapM]
  simp only [OrderTerm.reads_ofNode]

end Pagination

theorem Column.reads_ofNode {node : Node} :
    Reads (ofNode node) ↔
      Identifies node.name ∧ (node.value = .null ∨ node.value.Identifies) := by
  refine Reads.bind_and fun column _ => ?_
  unfold Value.Identifies
  cases node.value with
  | null => exact iff_of_true (Reads.of_pure _) (.inl rfl)
  | text label =>
    refine Iff.trans Reads.bind_pure ⟨fun reads => .inr ⟨label, rfl, reads⟩, ?_⟩
    rintro (missing | ⟨_, ⟨⟩, reads⟩)
    · cases missing
    · exact reads
  | _ => exact iff_of_false (Reads.not_error _) nofun

namespace Join

theorem ofName?_isSome {name : String} :
    (∃ kind, JoinKind.ofName? name = some kind) ↔ name ∈ ["inner", "left", "right", "full"] := by
  unfold JoinKind.ofName?
  split
  case h_5 notInner notLeft notRight notFull =>
    refine iff_of_false nofun ?_
    simp only [List.mem_cons, List.not_mem_nil, or_false, not_or]
    exact ⟨notInner, notLeft, notRight, notFull⟩
  all_goals exact iff_of_true ⟨_, rfl⟩ (by decide)

theorem reads_kind {node : Node} :
    Reads (JoinKind.ofNode node) ↔ (node.findAll "type").length ≤ 1 ∧
      ∀ child ∈ node.findAll "type", child.value.States ["inner", "left", "right", "full"] := by
  refine Node.reads_single (Reads.of_pure _) fun child => ?_
  dsimp only
  unfold Node.text Value.States
  cases child.value with
  | text word =>
    simp only [← ofName?_isSome, Value.text.injEq, exists_eq_left']
    dsimp only [Value.asText?, bind, Except.bind]
    cases JoinKind.ofName? (String.ofList (word.toList.map Char.toLower)) with
    | none =>
      refine iff_of_false (Reads.not_error _) ?_
      rintro ⟨_, ⟨⟩⟩
    | some kind => exact iff_of_true (Reads.of_pure kind) ⟨kind, rfl⟩
  | _ =>
    refine iff_of_false (Reads.not_error _) ?_
    rintro ⟨_, ⟨⟩, _⟩

theorem reads_condition {node : Node} :
    Reads (conditionOfNode node) ↔ Identifies node.name ∧ node.value.Identifies :=
  Reads.bind_and fun _ _ => Node.reads_text

/-- The pairs of columns are read from the only list of them, which is not empty. -/
theorem reads_conditions {node : Node} {α : Type} {make : List (Identifier × Identifier) → α} :
    Reads (node.fragment "on" >>= fun conditions =>
        if conditions.isEmpty then .error .joinWithoutCondition
        else conditions.mapM conditionOfNode >>= fun pairs => pure (make pairs)) ↔
      ∃ pairs, node.findAll "on" = [pairs] ∧ pairs.children ≠ [] ∧
        ∀ pair ∈ pairs.children, Identifies pair.name ∧ pair.value.Identifies := by
  rw [Node.reads_fragment, Node.listed]
  match node.findAll "on" with
  | [] => exact iff_of_false (fun ⟨_, reads⟩ => Reads.not_error _ reads) nofun
  | [pairs] =>
    simp only [List.flatMap_singleton, List.length_singleton, Nat.le_refl, true_and, List.cons.injEq,
      and_true, exists_eq_left']
    split
    next empty => exact iff_of_false (Reads.not_error _) fun holds => holds.1 (by simpa using empty)
    next nonempty =>
      rw [Reads.bind_pure, Reads.mapM]
      simp only [reads_condition]
      exact (and_iff_right (by simpa using nonempty)).symm
  | first :: second :: rest => exact iff_of_false (by simp) (by simp)

/-- A join is read exactly when it is well formed. -/
theorem reads_ofNode {node : Node} : Reads (ofNode node) ↔ node.GrammaticalJoin := by
  have parts : Reads (ofNode node) ↔ node.value.Identifies ∧
      (∀ child ∈ node.children, child.name ∈ ["type", "on"] ∨ child.name = "generate-only") ∧
      ((node.findAll "type").length ≤ 1 ∧
        ∀ child ∈ node.findAll "type", child.value.States ["inner", "left", "right", "full"]) ∧
      ∃ pairs, node.findAll "on" = [pairs] ∧ pairs.children ≠ [] ∧
        ∀ pair ∈ pairs.children, Identifies pair.name ∧ pair.value.Identifies := by
    rw [← Node.reads_table, ← Node.reads_checkFragments, ← reads_kind]
    exact Reads.bind_and fun _ _ => Reads.bind_and fun _ _ => Reads.bind_and fun _ _ => reads_conditions
  rw [parts]
  constructor
  · rintro ⟨table, known, ⟨single, kind⟩, on⟩
    exact ⟨table, fun child member => by simpa [or_assoc] using known child member, single, kind, on⟩
  · rintro ⟨table, known, single, kind, on⟩
    exact ⟨table, fun child member => by simpa [or_assoc] using known child member, ⟨single, kind⟩, on⟩

end Join

/-- The conditions of a request are read when its only list of conditions is well formed. -/
theorem Condition.reads_ofRequest {node : Node} :
    Reads (ofRequest node) ↔ (node.findAll "where").length ≤ 1 ∧
      ∀ child ∈ node.listed "where", child.GrammaticalCondition := by
  refine Node.reads_fragment.trans (and_congr_right fun _ => ?_)
  rw [ofNodes_eq_mapM, Reads.mapM]
  simp only [reads_ofNode]

/-- The assignments of a request are read from its only list of them, which is not empty. -/
theorem Assignment.reads_ofRequest {node : Node} :
    Reads (ofRequest node) ↔ (node.findAll "values").length ≤ 1 ∧
      (∀ child ∈ node.listed "values", Identifies child.name) ∧ node.listed "values" ≠ [] := by
  refine Node.reads_fragment.trans (and_congr_right fun _ => ?_)
  have names : Reads ((node.listed "values").mapM ofNode) ↔
      ∀ child ∈ node.listed "values", Identifies child.name := by
    simp only [Reads.mapM, ofNode, Reads.bind_pure, Identifies]
  rw [← names]
  refine Reads.bind_and fun assignments read => ?_
  rw [forall₂_ne_nil (mapM_forall₂ read)]
  exact Reads.nonempty

namespace Node

/-- Changes have no other fragments than assignments and conditions. -/
theorem GrammaticalRequest.of_change {kind : StatementKind} {node : Node} (changes : kind ≠ .select)
    (known : ∀ child ∈ node.children, child.name ∈ kind.fragments ∨ child.name = "generate-only")
    (table : node.value.Identifies)
    (conditions : (node.findAll "where").length ≤ 1 ∧
      ∀ child ∈ node.listed "where", child.GrammaticalCondition)
    (assignments : (node.findAll "values").length ≤ 1 ∧
      ∀ child ∈ node.listed "values", Identifies child.name)
    (assigned : kind = .insert ∨ kind = .update → node.listed "values" ≠ [])
    (conditioned : kind = .delete → node.listed "where" ≠ []) : node.GrammaticalRequest kind := by
  have foreign : ∀ name ∈ ["columns", "order", "offset", "limit", "join"],
      name ∉ kind.fragments ∧ name ≠ "generate-only" := by
    cases kind with
    | select => exact absurd rfl changes
    | _ => decide
  have absent (name : String) (reading : name ∈ ["columns", "order", "offset", "limit", "join"]) :
      node.findAll name = [] :=
    findAll_unnamed known (foreign name reading).1 (foreign name reading).2
  have columns := absent "columns" (by decide)
  have order := absent "order" (by decide)
  have offset := absent "offset" (by decide)
  have limit := absent "limit" (by decide)
  have joins := absent "join" (by decide)
  exact {
    known, table, assigned, conditioned
    single := by simp [columns, order, offset, limit, conditions.1, assignments.1]
    bounds := by simp [offset, limit]
    order := by simp [listed_unnamed order]
    columns := by simp [listed_unnamed columns]
    joins := by simp [joins]
    conditions := conditions.2
    assignments := assignments.2 }

end Node

/-- A read is read from a request that is well formed. -/
theorem Select.reads_ofNode {node : Node} :
    Reads (ofNode node) ↔ node.GrammaticalRequest .select := by
  have parts : Reads (ofNode node) ↔
      (∀ child ∈ node.children, child.name ∈ fragments ∨ child.name = "generate-only") ∧
      node.value.Identifies ∧ Reads (Pagination.ofNode node) ∧
      (node.findAll "columns").length ≤ 1 ∧ Reads ((node.listed "columns").mapM Column.ofNode) ∧
      Reads ((node.findAll "join").mapM Join.ofNode) ∧ Reads (Condition.ofRequest node) := by
    rw [← Node.reads_checkFragments, ← Node.reads_table]
    refine Reads.bind_and fun _ _ => Reads.bind_and fun _ _ => Reads.bind_and fun _ _ => ?_
    refine Node.reads_fragment.trans (and_congr_right fun _ => ?_)
    exact Reads.bind_and fun _ _ => Reads.bind_and fun _ _ => Reads.bind_pure
  simp only [parts, Pagination.reads_ofNode, Pagination.reads_bound, Reads.mapM, Column.reads_ofNode,
    Join.reads_ofNode, Condition.reads_ofRequest]
  constructor
  · rintro ⟨known, table, ⟨offset, limit, order⟩, singleColumns, columns, joins, conditions⟩
    have values : node.findAll "values" = [] :=
      Node.findAll_unnamed known (by decide) (by decide)
    exact {
      known, table, columns, joins
      single := by simp [singleColumns, conditions.1, order.1, offset.1, limit.1, values]
      bounds := by simpa using ⟨offset.2, limit.2⟩
      order := order.2
      conditions := conditions.2
      assignments := by simp [Node.listed_unnamed values]
      assigned := nofun
      conditioned := nofun }
  · intro request
    have single (name) (read) := request.single name read
    have bounds (name) (read) := request.bounds name read
    exact ⟨request.known, request.table,
      ⟨⟨single "offset" (by decide), bounds "offset" (by decide)⟩,
        ⟨single "limit" (by decide), bounds "limit" (by decide)⟩,
        single "order" (by decide), request.order⟩,
      single "columns" (by decide), request.columns, request.joins,
      single "where" (by decide), request.conditions⟩

/-- A new row is read from a request that is well formed. -/
theorem Insert.reads_ofNode {node : Node} :
    Reads (ofNode node) ↔ node.GrammaticalRequest .insert := by
  have parts : Reads (ofNode node) ↔
      (∀ child ∈ node.children, child.name ∈ ["values"] ∨ child.name = "generate-only") ∧
      node.value.Identifies ∧ Reads (Assignment.ofRequest node) := by
    rw [← Node.reads_checkFragments, ← Node.reads_table]
    exact Reads.bind_and fun _ _ => Reads.bind_and fun _ _ => Reads.bind_pure
  rw [parts, Assignment.reads_ofRequest]
  constructor
  · rintro ⟨known, table, single, assignments, assigned⟩
    have conditions : node.findAll "where" = [] :=
      Node.findAll_unnamed known (by decide) (by decide)
    exact .of_change nofun known table (by simp [conditions, Node.listed_unnamed conditions])
      ⟨single, assignments⟩ (fun _ => assigned) nofun
  · intro request
    exact ⟨request.known, request.table, request.single "values" (by decide), request.assignments,
      request.assigned (.inl rfl)⟩

/-- A change is read from a request that is well formed. -/
theorem Update.reads_ofNode {node : Node} :
    Reads (ofNode node) ↔ node.GrammaticalRequest .update := by
  have parts : Reads (ofNode node) ↔
      (∀ child ∈ node.children, child.name ∈ ["values", "where"] ∨ child.name = "generate-only") ∧
      node.value.Identifies ∧ Reads (Assignment.ofRequest node) ∧ Reads (Condition.ofRequest node) := by
    rw [← Node.reads_checkFragments, ← Node.reads_table]
    exact Reads.bind_and fun _ _ => Reads.bind_and fun _ _ => Reads.bind_and fun _ _ => Reads.bind_pure
  rw [parts, Assignment.reads_ofRequest, Condition.reads_ofRequest]
  constructor
  · rintro ⟨known, table, ⟨single, assignments, assigned⟩, conditions⟩
    exact .of_change nofun known table conditions ⟨single, assignments⟩ (fun _ => assigned) nofun
  · intro request
    exact ⟨request.known, request.table,
      ⟨request.single "values" (by decide), request.assignments, request.assigned (.inr rfl)⟩,
      request.single "where" (by decide), request.conditions⟩

/-- A removal is read from a request that is well formed. -/
theorem Delete.reads_ofNode {node : Node} :
    Reads (ofNode node) ↔ node.GrammaticalRequest .delete := by
  have parts : Reads (ofNode node) ↔
      (∀ child ∈ node.children, child.name ∈ ["where"] ∨ child.name = "generate-only") ∧
      node.value.Identifies ∧ Reads (Condition.ofRequest node) ∧ node.listed "where" ≠ [] := by
    rw [← Node.reads_checkFragments, ← Node.reads_table]
    refine Reads.bind_and fun _ _ => Reads.bind_and fun _ _ => Reads.bind_and fun conditions read => ?_
    rw [forall₂_ne_nil (Condition.ofNodes_forall₂ (Condition.ofRequest_parts read))]
    exact Reads.nonempty
  rw [parts, Condition.reads_ofRequest]
  constructor
  · rintro ⟨known, table, conditions, conditioned⟩
    have values : node.findAll "values" = [] :=
      Node.findAll_unnamed known (by decide) (by decide)
    exact .of_change nofun known table conditions (by simp [values, Node.listed_unnamed values])
      (by simp) fun _ => conditioned
  · intro request
    exact ⟨request.known, request.table, ⟨request.single "where" (by decide), request.conditions⟩,
      request.conditioned rfl⟩

namespace Statement

/-- A statement is read from a request exactly when the request is well formed. -/
theorem reads_ofNode {kind : StatementKind} {node : Node} :
    Reads (ofNode kind node) ↔ node.GrammaticalRequest kind := by
  cases kind with
  | select => exact Reads.map.trans Select.reads_ofNode
  | insert => exact Reads.map.trans Insert.reads_ofNode
  | update => exact Reads.map.trans Update.reads_ofNode
  | delete => exact Reads.map.trans Delete.reads_ofNode

/-- A request is compiled, in every dialect, exactly when it is well formed. Any other one is refused
with a fault of the request, which is the error of every engine that serves it: the node and the session
stay as they were, and nothing is called. -/
theorem compile_accepts (dialect : Dialect) (kind : StatementKind) (node : Node) :
    ((∃ compiled, compile dialect kind node = .ok compiled) ↔ node.GrammaticalRequest kind) ∧
    (¬ node.GrammaticalRequest kind ↔ ∃ fault, compile dialect kind node = .error fault ∧
      ∀ (backend : Backend) (engine : Engine backend), engine.settings.dialect = dialect →
        ∀ session, engine.compiled kind node session =
          ⟨⟨node, .error (.request fault)⟩, [], session⟩) := by
  have accepts : Reads (compile dialect kind node) ↔ node.GrammaticalRequest kind :=
    Reads.map.trans reads_ofNode
  refine ⟨accepts, ?_⟩
  rw [← accepts, Reads.not_iff]
  refine exists_congr fun fault => (and_iff_left_of_imp fun refused => ?_).symm
  intro backend engine same session
  have demand : Engine.Demand.ofRequest engine.settings.dialect kind node = .error fault := by
    rw [Engine.Demand.ofRequest, same, refused]
    rfl
  rw [Engine.compiled, demand]
  rfl

end Statement

end QueryTree
