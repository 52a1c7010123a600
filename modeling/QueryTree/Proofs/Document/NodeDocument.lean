/-
This file proves that a tree is read back from its text with every name, every value of its kind and the
children in their order.
-/
import QueryTree.Node.Document
import QueryTree.Proofs.Document.ValueDocument

namespace QueryTree.Node

/-- A property of values holds everywhere in a tree. -/
inductive Every (holds : Value → Prop) : Node → Prop where
  | node {name : String} {value : Value} {children : List Node} : holds value →
      (∀ child ∈ children, Every holds child) → Every holds ⟨name, value, children⟩

mutual

/-- The tree with the signs of decimal zeros left out. -/
def unsignedZeros : Node → Node
  | ⟨name, value, children⟩ => ⟨name, value.unsignedZero, unsignedZerosAll children⟩

def unsignedZerosAll : List Node → List Node
  | [] => []
  | node :: rest => node.unsignedZeros :: unsignedZerosAll rest

end

/-- The sign of a zero makes no difference to the equality of trees. -/
theorem same_unsignedZeros {node : Node} (exact : node.Every Value.IsExact) :
    node.unsignedZeros.same node = true := by
  induction exact with
  | @node name value children exact each ih =>
    have all : sameAll (unsignedZerosAll children) children = true := by
      clear each
      induction children with
      | nil => rw [unsignedZerosAll, sameAll]
      | cons child others behind =>
        obtain ⟨first, rest⟩ := List.forall_mem_cons.mp ih
        rw [unsignedZerosAll, sameAll, first, behind rest, Bool.and_self]
    rw [unsignedZeros, same, beq_self_eq_true, Value.same_unsignedZero exact, all, Bool.and_self,
      Bool.and_self]

theorem listToJson_eq_map (nodes : List Node) : listToJson nodes = nodes.map toJson := by
  induction nodes with
  | nil => rfl
  | cons node others ih => rw [listToJson, ih, List.map_cons]

theorem toJson_legible {node : Node} (exact : node.Every Value.IsExact) : node.toJson.Legible := by
  induction exact with
  | @node name value children exact each ih =>
    have items : (Json.array (listToJson children)).Legible := by
      refine .array fun item member => ?_
      rw [listToJson_eq_map] at member
      obtain ⟨child, inside, rfl⟩ := List.mem_map.mp member
      exact ih child inside
    rw [toJson]
    refine .object fun field member => ?_
    rcases List.mem_cons.mp member with rfl | member
    · exact .text name
    rcases List.mem_append.mp member with member | member
    · split at member
      · cases member
      · cases List.mem_singleton.mp member
        exact Value.toJson_legible exact
    · split at member
      · cases member
      · cases List.mem_singleton.mp member
        exact items

theorem listOfSource?_listToJson {levels : Nat} {children : List Node}
    (each : ∀ child ∈ children, ofSource? levels child.toJson.source = some child.unsignedZeros) :
    listOfSource? levels (Json.itemSources (listToJson children)) = some (unsignedZerosAll children) := by
  induction children with
  | nil => rfl
  | cons child others ih =>
    obtain ⟨first, rest⟩ := List.forall_mem_cons.mp each
    rw [listToJson, Json.itemSources, listOfSource?, first, ih rest]
    rfl

/-- The field of a value is read, and where it is missing the value stays null. -/
theorem readFields_value {value : Value} (exact : value.IsExact) {levels : Nat}
    (shallow : value.isNull = false → value.toJson.depth ≤ levels) (name : Option String)
    (children : Option (List Node)) (rest : List (String × Json)) :
    ∃ read : Option Value, read.getD .null = value.unsignedZero ∧
      readFields levels ⟨name, none, children⟩
          (Json.fieldSources ((if value.isNull then [] else [("value", value.toJson)]) ++ rest)) =
        readFields levels ⟨name, read, children⟩ (Json.fieldSources rest) := by
  cases null : value.isNull with
  | true =>
    refine ⟨none, ?_, rfl⟩
    rw [Value.eq_null null]
    rfl
  | false =>
    refine ⟨some value.unsignedZero, rfl, ?_⟩
    have read := Value.ofSource?_toJson exact (shallow null)
    rw [if_neg Bool.false_ne_true, List.singleton_append, Json.fieldSources, readFields.eq_def]
    simp [read]

/-- The field of the children is read, and where it is missing there are none. -/
theorem readFields_children {levels : Nat} {children : List Node}
    (each : ∀ child ∈ children, ∀ levels, child.toJson.depth ≤ levels →
      ofSource? levels child.toJson.source = some child.unsignedZeros)
    (shallow : children.isEmpty = false → (Json.array (listToJson children)).depth ≤ levels)
    (name : Option String) (value : Option Value) :
    ∃ read : Option (List Node), read.getD [] = unsignedZerosAll children ∧
      readFields levels ⟨name, value, none⟩ (Json.fieldSources
          (if children.isEmpty then [] else [("children", .array (listToJson children))])) =
        some ⟨name, value, read⟩ := by
  cases empty : children.isEmpty with
  | true =>
    refine ⟨none, ?_, rfl⟩
    rw [List.isEmpty_iff.mp empty]
    rfl
  | false =>
    refine ⟨some (unsignedZerosAll children), rfl, ?_⟩
    have depth := shallow empty
    obtain ⟨levels, rfl⟩ := Nat.exists_eq_succ_of_ne_zero (Nat.ne_zero_of_lt depth)
    have all : listOfSource? levels (Json.itemSources (listToJson children)) =
        some (unsignedZerosAll children) := by
      refine listOfSource?_listToJson fun child member => each child member levels ?_
      refine Nat.le_trans (Json.depth_le_itemDepth ?_) (Nat.le_of_succ_le_succ depth)
      rw [listToJson_eq_map]
      exact List.mem_map_of_mem member
    have read : childrenOfSource? (levels + 1) (Json.array (listToJson children)).source =
        some (unsignedZerosAll children) := by
      rw [Json.source, childrenOfSource?, all]
    rw [if_neg Bool.false_ne_true, Json.fieldSources, readFields.eq_def]
    simp [read, Json.fieldSources, readFields]

/-- A tree is read back from its form. -/
theorem ofSource?_toJson {node : Node} (exact : node.Every Value.IsExact) {levels : Nat}
    (shallow : node.toJson.depth ≤ levels) :
    ofSource? levels node.toJson.source = some node.unsignedZeros := by
  induction exact generalizing levels with
  | @node name value children exact each ih =>
    rw [toJson] at shallow ⊢
    obtain ⟨levels, rfl⟩ := Nat.exists_eq_succ_of_ne_zero (Nat.ne_zero_of_lt shallow)
    have below := Nat.le_of_succ_le_succ shallow
    have valueFits (present : value.isNull = false) : value.toJson.depth ≤ levels :=
      Nat.le_trans (@Json.depth_le_fieldDepth ("value", value.toJson) _ (by simp [present])) below
    have childrenFit (present : children.isEmpty = false) :
        (Json.array (listToJson children)).depth ≤ levels :=
      Nat.le_trans (@Json.depth_le_fieldDepth ("children", .array (listToJson children)) _
        (by simp [present])) below
    obtain ⟨readValue, valueHeld, valueRead⟩ := readFields_value exact valueFits (some name) none
      (if children.isEmpty then [] else [("children", .array (listToJson children))])
    obtain ⟨readChildren, childrenHeld, childrenRead⟩ :=
      readFields_children (fun child member levels => ih child member) childrenFit (some name) readValue
    have named (rest : List (String × Json)) :
        readFields levels ⟨none, none, none⟩ (Json.fieldSources (("name", .text name) :: rest)) =
          readFields levels ⟨some name, none, none⟩ (Json.fieldSources rest) := by
      rw [Json.fieldSources, readFields.eq_def]
      simp [Json.source]
    rw [Json.source, List.cons_append, ofSource?, named, valueRead, childrenRead]
    simp only [Draft.node?, Option.bind_eq_bind, Option.bind_some, valueHeld, childrenHeld, unsignedZeros]
    rfl

/-- A tree is read back from its text, if it is nested no deeper than what is read may be and its real
numbers are read back, as they are where it has none: the tree that is read has the names, the values and the
children of the one that was written, and only a zero among decimal numbers has lost its sign, so that the
two are equal. -/
theorem document_restored (node : Node) (exact : node.Every Value.IsExact)
    (shallow : node.toJson.depth ≤ Json.nestingLimit) :
    ofText? node.toText = some node.unsignedZeros ∧ node.unsignedZeros.same node = true := by
  refine ⟨?_, same_unsignedZeros exact⟩
  rw [ofText?, toText, JsonSource.ofText?_toText (toJson_legible exact)]
  exact ofSource?_toJson exact shallow

/-- A document with a text that looks like a date, and with numbers of both kinds. -/
def alikeDocument : Json :=
  .object [("date", .text "2024-02-29"), ("list", .array [.integer 1, .real ⟨0x3ff0000000000000⟩, .null])]

/-- A row in which values of different kinds look alike: a date and a text, null and a document that is
null, an integer and decimal numbers. -/
def alikeRow : Node :=
  ⟨"row", .null, [
    leaf "day" (.date ⟨8825, by decide, by decide⟩),
    leaf "dayText" (.text "2024-02-29"),
    leaf "nothing" .null,
    leaf "nullDocument" (.json .null),
    leaf "count" (.int 1),
    leaf "amount" (.decimal ⟨false, 100, 2, by decide, by decide⟩),
    leaf "zero" (.decimal ⟨true, 0, 2, by decide, by decide⟩),
    ⟨"document", .json alikeDocument, [leaf "bytes" (.bytes [0, 255])]⟩]⟩

theorem alikeDocument_exact : (Value.json alikeDocument).IsExact := by
  have one : Binary64.IsReadBack ⟨0x3ff0000000000000⟩ := ⟨by decide, rfl, rfl⟩
  have legible : ∀ item ∈ [.integer 1, .real ⟨0x3ff0000000000000⟩, .null], Json.Legible item := by
    simpa using ⟨.integer _, .real one, .null⟩
  have proper : ∀ item ∈ [.integer 1, .real ⟨0x3ff0000000000000⟩, .null], Json.Proper item := by
    simpa using ⟨.integer (by decide) (by decide), .real _, .null⟩
  have ordered : "date" < "list" := by decide
  exact ⟨.object (by simpa using ⟨.text _, .array legible⟩),
    .object (by simpa using ⟨.text _, .array proper⟩) (List.pairwise_pair.mpr ordered)⟩

theorem alikeRow_restored :
    alikeRow.Every Value.IsExact ∧ alikeRow.toJson.depth ≤ Json.nestingLimit ∧
      ofText? alikeRow.toText = some alikeRow.unsignedZeros ∧
      alikeRow.unsignedZeros.same alikeRow = true := by
  have leafExact {name : String} {value : Value} (exact : value.IsExact) :
      (leaf name value).Every Value.IsExact := .node exact nofun
  have exact : alikeRow.Every Value.IsExact := by
    refine .node trivial fun child member => ?_
    simp only [List.mem_cons, List.not_mem_nil, or_false] at member
    rcases member with rfl | rfl | rfl | rfl | rfl | rfl | rfl | rfl
    · exact leafExact trivial
    · exact leafExact trivial
    · exact leafExact trivial
    · exact leafExact ⟨.null, .null⟩
    · exact leafExact trivial
    · exact leafExact trivial
    · exact leafExact trivial
    · exact .node alikeDocument_exact fun child member => List.mem_singleton.mp member ▸ leafExact trivial
  have shallow : alikeRow.toJson.depth ≤ Json.nestingLimit := by decide
  exact ⟨exact, shallow, document_restored alikeRow exact shallow⟩

end QueryTree.Node
