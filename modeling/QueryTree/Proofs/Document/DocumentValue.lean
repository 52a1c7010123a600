/-
This file proves that a document as it is written has the value of the document that was written.
-/
import QueryTree.Proofs.Document.DocumentText

namespace QueryTree

namespace Json

mutual

/-- The levels of arrays and objects that are nested in a document. -/
def depth : Json → Nat
  | .array items => itemDepth items + 1
  | .object fields => fieldDepth fields + 1
  | _ => 0

def itemDepth : List Json → Nat
  | [] => 0
  | item :: rest => max item.depth (itemDepth rest)

def fieldDepth : List (String × Json) → Nat
  | [] => 0
  | (_, value) :: rest => max value.depth (fieldDepth rest)

end

theorem depth_le_itemDepth {item : Json} {items : List Json} (member : item ∈ items) :
    item.depth ≤ itemDepth items := by
  induction items with
  | nil => cases member
  | cons first others ih =>
    rw [itemDepth]
    rcases List.mem_cons.mp member with rfl | later
    · exact Nat.le_max_left _ _
    · exact Nat.le_trans (ih later) (Nat.le_max_right _ _)

theorem depth_le_fieldDepth {field : String × Json} {fields : List (String × Json)}
    (member : field ∈ fields) : field.2.depth ≤ fieldDepth fields := by
  induction fields with
  | nil => cases member
  | cons first others ih =>
    obtain ⟨name, value⟩ := first
    rw [fieldDepth]
    rcases List.mem_cons.mp member with rfl | later
    · exact Nat.le_max_left _ _
    · exact Nat.le_trans (ih later) (Nat.le_max_right _ _)

/-- Fields stand in the order of their names, each name once. -/
def Ordered (fields : List (String × Json)) : Prop :=
  fields.Pairwise fun left right => left.1 < right.1

/-- The documents that a value can hold: integers of a machine word, signed or not, and fields in the order
of their names. -/
inductive Proper : Json → Prop where
  | null : Proper .null
  | bool (value : Bool) : Proper (.bool value)
  | integer {value : Int} : -9223372036854775808 ≤ value → value < 18446744073709551616 →
      Proper (.integer value)
  | real (value : Binary64) : Proper (.real value)
  | text (value : String) : Proper (.text value)
  | array {items : List Json} : (∀ item ∈ items, Proper item) → Proper (.array items)
  | object {fields : List (String × Json)} : (∀ field ∈ fields, Proper field.2) → Ordered fields →
      Proper (.object fields)

/-- A field whose name comes after the others is put behind them. -/
theorem insertField_last {name : String} {collected : List (String × Json)}
    (last : ∀ field ∈ collected, field.1 < name) (value : Json) :
    insertField name value collected = collected ++ [(name, value)] := by
  induction collected with
  | nil => rfl
  | cons field others ih =>
    obtain ⟨other, otherValue⟩ := field
    obtain ⟨before, behind⟩ := List.forall_mem_cons.mp last
    have different : name ≠ other := fun same => String.lt_irrefl name (same ▸ before)
    rw [insertField, if_neg different, if_neg (String.lt_asymm before), ih behind]
    rfl

/-- A document whose real numbers are read back equals itself. -/
theorem same_self {document : Json} (legible : document.Legible) : document.same document = true := by
  induction legible with
  | null => rw [same]
  | bool value => rw [same, beq_self_eq_true]
  | integer value => rw [same, beq_self_eq_true]
  | real readBack => rw [same, readBack.same_self]
  | text value => rw [same, beq_self_eq_true]
  | @array items inner ih =>
    rw [same]
    clear inner
    induction items with
    | nil => rw [sameItems]
    | cons item others behind =>
      obtain ⟨first, rest⟩ := List.forall_mem_cons.mp ih
      rw [sameItems, first, behind rest, Bool.and_self]
  | @object fields inner ih =>
    rw [same]
    clear inner
    induction fields with
    | nil => rw [sameFields]
    | cons field others behind =>
      obtain ⟨name, value⟩ := field
      obtain ⟨first, rest⟩ := List.forall_mem_cons.mp ih
      rw [sameFields, beq_self_eq_true, first, behind rest, Bool.and_self, Bool.and_self]

end Json

namespace JsonSource

theorem itemsToJson?_itemSources {levels : Nat} {items : List Json}
    (each : ∀ item ∈ items, item.source.toJson? levels = some item) :
    itemsToJson? levels (Json.itemSources items) = some items := by
  induction items with
  | nil => rfl
  | cons item others ih =>
    obtain ⟨first, rest⟩ := List.forall_mem_cons.mp each
    rw [Json.itemSources, itemsToJson?, first, ih rest]
    rfl

/-- Fields in the order of their names are put one behind the other. -/
theorem fieldsToJson?_fieldSources {levels : Nat} {collected fields : List (String × Json)}
    (each : ∀ field ∈ fields, field.2.source.toJson? levels = some field.2)
    (ordered : Json.Ordered (collected ++ fields)) :
    fieldsToJson? levels collected (Json.fieldSources fields) = some (collected ++ fields) := by
  induction fields generalizing collected with
  | nil => rw [Json.fieldSources, fieldsToJson?, List.append_nil]
  | cons field others ih =>
    obtain ⟨name, value⟩ := field
    obtain ⟨first, rest⟩ := List.forall_mem_cons.mp each
    have last : ∀ field ∈ collected, field.1 < name := fun field member =>
      (List.pairwise_append.mp ordered).2.2 field member (name, value) List.mem_cons_self
    rw [List.append_cons] at ordered ⊢
    rw [Json.fieldSources, fieldsToJson?]
    simp only [first, Option.bind_eq_bind, Option.bind_some]
    rw [Json.insertField_last last, ih rest ordered]

/-- What is read of a document is the document. -/
theorem toJson?_source {document : Json} (legible : document.Legible) (proper : document.Proper)
    {levels : Nat} (shallow : document.depth ≤ levels) :
    document.source.toJson? levels = some document := by
  induction legible generalizing levels with
  | null => rw [Json.source, toJson?]
  | bool value => rw [Json.source, toJson?]
  | integer value =>
    cases proper with
    | integer low high => rw [Json.source, toJson?, JsonNumeral.value?_ofInt low high]
  | real readBack => rw [Json.source, toJson?, readBack.read]
  | text value =>
    rw [Json.source, toJson?]
    rfl
  | array inner ih =>
    cases proper with
    | array each =>
      obtain ⟨levels, rfl⟩ := Nat.exists_eq_succ_of_ne_zero (Nat.ne_zero_of_lt shallow)
      have below := Nat.le_of_succ_le_succ shallow
      rw [Json.source, toJson?, itemsToJson?_itemSources fun item member =>
        ih item member (each item member) (Nat.le_trans (Json.depth_le_itemDepth member) below)]
      rfl
  | @object fields inner ih =>
    cases proper with
    | object each ordered =>
      obtain ⟨levels, rfl⟩ := Nat.exists_eq_succ_of_ne_zero (Nat.ne_zero_of_lt shallow)
      have below := Nat.le_of_succ_le_succ shallow
      have read := @fieldsToJson?_fieldSources levels [] fields (fun field member =>
        ih field member (each field member) (Nat.le_trans (Json.depth_le_fieldDepth member) below)) ordered
      rw [Json.source, toJson?, read]
      rfl

end JsonSource

end QueryTree
