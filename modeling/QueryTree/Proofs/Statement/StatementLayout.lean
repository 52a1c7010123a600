/-
This file takes statements apart into what stands in front of their conditions, the conditions, and
what stands behind them, and finds the values of their placeholders.
-/
import QueryTree.Proofs.Statement.ConditionMeaning
import QueryTree.Statement.Basic
import QueryTree.Statement.Tail
import QueryTree.Text.Digits

namespace QueryTree

theorem map_ok {ε α β : Type} {first : Except ε α} {change : α → β} {result : β}
    (succeeded : first.map change = .ok result) : ∃ value, first = .ok value ∧ change value = result := by
  cases first with
  | error => cases succeeded
  | ok value => exact ⟨value, rfl, Except.ok.inj succeeded⟩

namespace Piece

/-- Pieces that bind no value have the same text wherever they stand. -/
theorem text_unbound (dialect : Dialect) (position : Nat) {pieces : List Piece}
    (unbound : values pieces = []) :
    text dialect position pieces = unboundText dialect.quote pieces := by
  induction pieces with
  | nil => rfl
  | cons piece rest ih =>
    cases piece with
    | parameter value => simp [values, value?] at unbound
    | keyword word => exact congrArg (_ ++ ·) (ih unbound)
    | identifier name => exact congrArg (_ ++ ·) (ih unbound)
    | numeral number => exact congrArg (_ ++ ·) (ih unbound)

theorem values_separated (separator : Keyword) (runs : List (List Piece)) :
    values (separated separator runs) = runs.flatMap values := by
  induction runs with
  | nil => rfl
  | cons first others ih =>
    cases others with
    | nil => simp [separated]
    | cons second others =>
      rw [separated, values_append, List.flatMap_cons]
      · exact congrArg _ ih
      · simp

end Piece

namespace Dialect

/-- Different positions have different placeholders. -/
theorem placeholderCharacters_injective (dialect : Dialect) {first second : Nat}
    (same : dialect.placeholderCharacters first = dialect.placeholderCharacters second) :
    first = second := by
  unfold placeholderCharacters at same
  split at same
  · injection same with _ digits
    have next := Text.toDigits_injective digits
    omega
  · injection same with _ rest
    injection rest with _ digits
    exact Text.toDigits_injective digits

end Dialect

namespace CompiledStatement

/-- The value of a placeholder. -/
def lookup (statement : CompiledStatement) (placeholder : List Char) : Option Value :=
  (statement.parameters.find? fun parameter => parameter.1.toList == placeholder).map Prod.snd

/-- The placeholder at a position stands for the value there. -/
theorem lookup_placeholder {dialect : Dialect} {pieces : List Piece} {statement : CompiledStatement}
    (binds : statement.parameters = Piece.parameters dialect pieces) {position : Nat} {value : Value}
    (found : (Piece.values pieces)[position]? = some value) :
    statement.lookup (dialect.placeholderCharacters position) = some value := by
  obtain ⟨inside, at_position⟩ := List.getElem?_eq_some_iff.mp found
  have first : (Piece.parameters dialect pieces).find? (fun parameter =>
      parameter.1.toList == dialect.placeholderCharacters position) =
        some (dialect.placeholder position, value) := by
    rw [List.find?_eq_some_iff_getElem]
    refine ⟨by simp [Dialect.placeholder], position, by simpa [Piece.parameters] using inside,
      by simp [Piece.parameters, at_position], ?_⟩
    intro earlier before
    have other : dialect.placeholderCharacters earlier ≠ dialect.placeholderCharacters position :=
      fun same => by
        have := dialect.placeholderCharacters_injective same
        omega
    simp [Piece.parameters, Dialect.placeholder, other]
  rw [lookup, binds, first]
  rfl

/-- The placeholders behind a run of pieces stand for the values of the next one. -/
theorem lookup_binds {dialect : Dialect} {before run : List Piece} {statement : CompiledStatement}
    (binds : statement.parameters = Piece.parameters dialect (before ++ run)) :
    Predicate.Binds dialect statement.lookup (Piece.values before).length (Piece.values run) := by
  intro index value found
  apply lookup_placeholder binds
  rw [Piece.values_append, List.getElem?_append_right (by omega), Nat.add_sub_cancel_left, found]

end CompiledStatement

namespace Pagination

theorem orderPieces_values (terms : List OrderTerm) : Piece.values (orderPieces terms) = [] := by
  unfold orderPieces
  split
  · rfl
  · have inner := Piece.values_separated .comma (terms.map OrderTerm.pieces)
    rw [List.flatMap_map] at inner
    apply inner.trans
    rw [List.flatMap_eq_nil_iff]
    intro term member
    rfl

/-- The clause that orders and limits a read binds no value. -/
theorem pieces_values (style : TailStyle) (pagination : Pagination) :
    Piece.values (pagination.pieces style) = [] := by
  have order := orderPieces_values pagination.order
  cases style with
  | limitOffset =>
    rw [pieces, Piece.values_append, Piece.values_append, order]
    cases pagination.offset <;> rfl
  | fetchNext =>
    rw [pieces, Piece.values_append]
    split
    · rfl
    · rw [order]
      rfl

/-- The clause begins with an order or with a limit. -/
theorem pieces_head (style : TailStyle) (pagination : Pagination) :
    ∃ word rest, pagination.pieces style = .keyword word :: rest ∧
      (word = .orderBy ∨ word = .orderByNothing ∨ word = .limit) := by
  cases style with
  | limitOffset =>
    cases order : pagination.order with
    | nil => exact ⟨.limit, _, by rw [pieces, order]; rfl, .inr (.inr rfl)⟩
    | cons term others => exact ⟨.orderBy, _, by rw [pieces, order]; rfl, .inl rfl⟩
  | fetchNext =>
    cases order : pagination.order with
    | nil => exact ⟨.orderByNothing, _, by rw [pieces, order]; rfl, .inr (.inl rfl)⟩
    | cons term others => exact ⟨.orderBy, _, by rw [pieces, order]; rfl, .inl rfl⟩

end Pagination

namespace Node

/-- A check of fragments finds nothing when all children are known. -/
theorem checkFragments_ok {node : Node} {allowed : List String} :
    node.checkFragments allowed = .ok () ↔
      ∀ child ∈ node.children, child.name ∈ allowed ∨ child.name = "generate-only" := by
  unfold checkFragments
  split
  next unknown found =>
    refine iff_of_false nofun fun known => ?_
    have foreign := List.find?_some found
    have listed := List.mem_of_find?_eq_some found
    rcases known unknown listed with named | only
    · simp [named] at foreign
    · simp [only] at foreign
  next found =>
    refine iff_of_true rfl fun child member => ?_
    simpa [Classical.or_iff_not_imp_left] using List.find?_eq_none.mp found child member

/-- A request has no fragments of a name that is not known. -/
theorem findAll_unnamed {node : Node} {name : String} {allowed : List String}
    (known : ∀ child ∈ node.children, child.name ∈ allowed ∨ child.name = "generate-only")
    (foreign : name ∉ allowed) (named : name ≠ "generate-only") : node.findAll name = [] := by
  rw [findAll, List.filter_eq_nil_iff]
  intro child member same
  simp only [beq_iff_eq] at same
  subst same
  rcases known child member with listed | only
  · exact foreign listed
  · exact named only

/-- A request that has no fragment of a name states nothing in it. -/
theorem fragment_unnamed {node : Node} {name : String} {allowed : List String}
    (checked : node.checkFragments allowed = .ok ()) (foreign : name ∉ allowed)
    (named : name ≠ "generate-only") : node.fragment name = .ok [] := by
  unfold fragment single
  rw [findAll_unnamed (checkFragments_ok.mp checked) foreign named]
  rfl

end Node

namespace Statement

/-- The pieces in front of the conditions. -/
def beforeWhere : Statement → List Piece
  | select read =>
      .keyword .select :: Column.listPieces read.columns
        ++ .keyword .fromTable :: .identifier read.table :: read.joins.flatMap Join.pieces
  | insert row => row.pieces
  | update change =>
      .keyword .update :: .identifier change.table :: .keyword .set
        :: Piece.separated .comma (change.assignments.map fun (column, value) =>
          [.identifier column, .keyword .equal, .parameter value])
  | delete removal => [.keyword .deleteFrom, .identifier removal.table]

def conditions : Statement → List Condition
  | select read => read.conditions
  | insert _ => []
  | update change => change.conditions
  | delete removal => removal.conditions

theorem body_where (statement : Statement) :
    statement.body = statement.beforeWhere ++ Condition.clause statement.conditions := by
  cases statement with
  | select read => rfl
  | insert row => simp [body, beforeWhere, conditions, Condition.clause]
  | update change => simp [body, beforeWhere, conditions, Update.pieces]
  | delete removal => simp [body, beforeWhere, conditions, Delete.pieces]

/-- The pieces behind the body where reads are limited in a known way. -/
def ending (style : TailStyle) : Statement → List Piece
  | select read => read.pagination.pieces style
  | _ => []

/-- The pieces of a whole statement where reads are limited in a known way. -/
def pieces (style : TailStyle) (statement : Statement) : List Piece :=
  statement.body ++ statement.ending style

theorem ending_values (style : TailStyle) (statement : Statement) :
    Piece.values (statement.ending style) = [] := by
  cases statement with
  | select read => exact read.pagination.pieces_values style
  | insert row => rfl
  | update change => rfl
  | delete removal => rfl

theorem pieces_values (style : TailStyle) (statement : Statement) :
    Piece.values (statement.pieces style) = Piece.values statement.body := by
  rw [pieces, Piece.values_append, ending_values, List.append_nil]

/-- Where reads are limited in a known way, the clause for it is written behind the body. -/
theorem ended_known {dialect : Dialect} {style : TailStyle} (known : dialect.tail = style.tail)
    (statement : Statement) (text : List Char) :
    statement.ended dialect text =
      text ++ Piece.unboundText dialect.quote (statement.ending style) := by
  cases statement with
  | select read => rw [ended, known, TailStyle.tail, ending]
  | insert row => exact (List.append_nil text).symm
  | update change => exact (List.append_nil text).symm
  | delete removal => exact (List.append_nil text).symm

/-- Where reads are limited in a known way, the text of a statement is that of its pieces. -/
theorem text_known {dialect : Dialect} {style : TailStyle} (known : dialect.tail = style.tail)
    (statement : Statement) :
    (statement.written dialect).text.toList = Piece.text dialect 0 (statement.pieces style) := by
  rw [written, String.toList_ofList, ended_known known, pieces, Piece.text_append,
    Piece.text_unbound dialect _ (statement.ending_values style)]

/-- Behind the body a statement ends, or an order or a limit follows. -/
theorem ending_cases (style : TailStyle) (statement : Statement) :
    statement.ending style = [] ∨ ∃ word rest, statement.ending style = .keyword word :: rest ∧
      (word = .orderBy ∨ word = .orderByNothing ∨ word = .limit) := by
  cases statement with
  | select read => exact .inr (read.pagination.pieces_head style)
  | insert row => exact .inl rfl
  | update change => exact .inl rfl
  | delete removal => exact .inl rfl

/-- The conditions of a statement are read from the conditions that the request states. -/
theorem conditions_ofNode {kind : StatementKind} {node : Node} {statement : Statement}
    (read : ofNode kind node = .ok statement) :
    Condition.ofRequest node = .ok statement.conditions := by
  cases kind with
  | select =>
    obtain ⟨select, made, rfl⟩ := map_ok read
    obtain ⟨_, -, made⟩ := bind_ok made
    obtain ⟨table, -, made⟩ := bind_ok made
    obtain ⟨pagination, -, made⟩ := bind_ok made
    obtain ⟨listed, -, made⟩ := bind_ok made
    obtain ⟨columns, -, made⟩ := bind_ok made
    obtain ⟨joins, -, made⟩ := bind_ok made
    obtain ⟨conditions, found, made⟩ := bind_ok made
    cases made
    exact found
  | insert =>
    obtain ⟨insert, made, rfl⟩ := map_ok read
    obtain ⟨_, checked, -⟩ := bind_ok made
    rw [Condition.ofRequest, Node.fragment_unnamed checked (by decide) (by decide)]
    rfl
  | update =>
    obtain ⟨update, made, rfl⟩ := map_ok read
    obtain ⟨_, -, made⟩ := bind_ok made
    obtain ⟨table, -, made⟩ := bind_ok made
    obtain ⟨assignments, -, made⟩ := bind_ok made
    obtain ⟨conditions, found, made⟩ := bind_ok made
    cases made
    exact found
  | delete =>
    obtain ⟨delete, made, rfl⟩ := map_ok read
    obtain ⟨_, -, made⟩ := bind_ok made
    obtain ⟨table, -, made⟩ := bind_ok made
    obtain ⟨conditions, found, made⟩ := bind_ok made
    split at made
    · cases made
    · cases made
      exact found

end Statement

end QueryTree
