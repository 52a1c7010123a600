/-
This file says which trees of conditions can be read, and proves that exactly these are: groups that
are not empty, and single conditions that carry what their test takes.
-/
import QueryTree.Proofs.Statement.RequestParts

namespace QueryTree

/-- The reading succeeds. -/
def Reads {ε α : Type} (read : Except ε α) : Prop := ∃ value, read = .ok value

namespace Reads

variable {ε α β : Type}

theorem of_ok (value : α) : Reads (.ok value : Except ε α) := ⟨value, rfl⟩

theorem of_pure (value : α) : Reads (pure value : Except ε α) := ⟨value, rfl⟩

theorem not_error (error : ε) : ¬ Reads (.error error : Except ε α) := fun ⟨_, read⟩ => nomatch read

/-- A reading either succeeds or gives an error. -/
theorem not_iff {read : Except ε α} : ¬ Reads read ↔ ∃ error, read = .error error := by
  cases read with
  | error error => exact iff_of_true (not_error error) ⟨error, rfl⟩
  | ok value => exact iff_of_false (not_not_intro (of_ok value)) nofun

theorem bind {first : Except ε α} {next : α → Except ε β} :
    Reads (first >>= next) ↔ ∃ value, first = .ok value ∧ Reads (next value) := by
  constructor
  · rintro ⟨result, succeeded⟩
    obtain ⟨value, read, later⟩ := bind_ok succeeded
    exact ⟨value, read, result, later⟩
  · rintro ⟨value, rfl, later⟩
    exact later

/-- Two readings in sequence succeed when each does, where the second one does not depend on what the
first one gives. -/
theorem bind_and {first : Except ε α} {next : α → Except ε β} {behind : Prop}
    (later : ∀ value, first = .ok value → (Reads (next value) ↔ behind)) :
    Reads (first >>= next) ↔ Reads first ∧ behind := by
  rw [bind]
  constructor
  · rintro ⟨value, read, reads⟩
    exact ⟨⟨value, read⟩, (later value read).mp reads⟩
  · rintro ⟨⟨value, read⟩, holds⟩
    exact ⟨value, read, (later value read).mpr holds⟩

/-- What is made of a value does not matter. -/
theorem bind_pure {first : Except ε α} {make : α → β} :
    Reads (first >>= fun value => pure (make value)) ↔ Reads first := by
  rw [bind_and fun value _ => iff_of_true (of_pure (make value)) trivial, and_true]

theorem map {first : Except ε α} {change : α → β} : Reads (first.map change) ↔ Reads first := by
  cases first with
  | error error => exact iff_of_false (not_error error) (not_error error)
  | ok value => exact iff_of_true (of_ok (change value)) (of_ok value)

/-- A list is read when each of its items is. -/
theorem mapM {read : α → Except ε β} {items : List α} :
    Reads (items.mapM read) ↔ ∀ item ∈ items, Reads (read item) := by
  induction items with
  | nil => exact iff_of_true (of_pure []) nofun
  | cons item rest ih =>
    rw [List.mapM_cons, List.forall_mem_cons, ← ih]
    exact bind_and fun _ _ => bind_pure

/-- A list that has to have items is read when it has. -/
theorem nonempty {items : List α} {error : ε} {value : β} :
    Reads (if items.isEmpty then .error error else pure value) ↔ items ≠ [] := by
  cases items with
  | nil => exact iff_of_false (not_error error) (not_not_intro rfl)
  | cons item rest => exact iff_of_true (of_pure value) (List.cons_ne_nil item rest)

end Reads

/-- The text names a table or a column. -/
def Identifies (text : String) : Prop := Reads (Identifier.parse text)

/-- The value is a text that names a table or a column. -/
def Value.Identifies (value : Value) : Prop := ∃ text, value = .text text ∧ QueryTree.Identifies text

namespace Identifier

/-- The segments of two texts with a point between them. -/
theorem segments_append (front back : List Char) :
    segments (front ++ '.' :: back) = segments front ++ segments back := by
  induction front with
  | nil => simp [segments]
  | cons character rest ih =>
    rw [List.cons_append, segments, segments, ih]
    split
    · rfl
    · cases found : segments rest with
      | nil => exact absurd found (segments_ne_nil rest)
      | cons first others => rfl

/-- A text without points is its only segment. -/
theorem segments_single {text : List Char} (plain : '.' ∉ text) : segments text = [text] := by
  induction text with
  | nil => rfl
  | cons character rest ih =>
    rw [List.mem_cons, not_or] at plain
    rw [segments, if_neg (Ne.symm plain.1), ih plain.2]

theorem joined_concat {front : List (List Char)} (nonempty : front ≠ []) (last : List Char) :
    joined (front ++ [last]) = joined front ++ '.' :: last := by
  induction front with
  | nil => exact absurd rfl nonempty
  | cons segment rest ih =>
    cases rest with
    | nil => rfl
    | cons second others =>
      simp only [List.cons_append, joined, List.append_assoc] at ih ⊢
      rw [ih (List.cons_ne_nil second others)]

/-- A text with several segments is those before the last one, a point, and the last one. -/
theorem parted {text : List Char} (several : (segments text).dropLast ≠ []) :
    joined (segments text).dropLast ++ '.' :: (segments text).getLast?.getD [] = text := by
  have nonempty := segments_ne_nil text
  rw [← joined_concat several, List.getLast?_eq_some_getLast nonempty, Option.getD_some,
    List.dropLast_append_getLast, joined_segments]

end Identifier

/-- No test is named with a point. -/
theorem Test.ofSuffix?_plain {suffix : String} {test : Test} (named : ofSuffix? suffix = some test) :
    '.' ∉ suffix.toList := by
  unfold ofSuffix? at named
  split at named
  case h_10 => cases named
  all_goals decide

/-- The column and the test that the name of a single condition asks for: the name is a column, a point
and the suffix of a test, or else it is a column that has to be equal. -/
inductive Asks : String → String → Test → Prop where
  | test {suffix : String} {test : Test} (column : String) : Test.ofSuffix? suffix = some test →
      Asks (column ++ "." ++ suffix) column test
  | equality {name : String} :
      (∀ column suffix, name = column ++ "." ++ suffix → Test.ofSuffix? suffix = none) →
      Asks name name (.comparison .equal)

namespace Condition

theorem splitName_test {suffix : String} {test : Test} (column : String)
    (named : Test.ofSuffix? suffix = some test) :
    splitName (column ++ "." ++ suffix) = (column, test) := by
  have segments : Identifier.segments (column ++ "." ++ suffix).toList =
      Identifier.segments column.toList ++ [suffix.toList] := by
    rw [← Identifier.segments_single (Test.ofSuffix?_plain named), ← Identifier.segments_append]
    simp
  simp only [splitName, segments, List.dropLast_concat, List.getLast?_concat, Option.getD_some,
    String.ofList_toList, named]
  cases found : Identifier.segments column.toList with
  | nil => exact absurd found (Identifier.segments_ne_nil column.toList)
  | cons first others =>
    dsimp only
    rw [← found, Identifier.joined_segments, String.ofList_toList]

theorem splitName_equality {name : String}
    (untested : ∀ column suffix, name = column ++ "." ++ suffix → Test.ofSuffix? suffix = none) :
    splitName name = (name, .comparison .equal) := by
  unfold splitName
  dsimp only
  split
  · rfl
  next named several =>
    have parted : name = String.ofList (Identifier.joined (Identifier.segments name.toList).dropLast) ++
        "." ++ String.ofList ((Identifier.segments name.toList).getLast?.getD []) := by
      rw [← String.toList_inj]
      simp [Identifier.parted several]
    rw [untested _ _ parted] at named
    cases named
  · rfl

/-- The splitting of a name finds what it asks for. -/
theorem asks_iff {name column : String} {test : Test} :
    Asks name column test ↔ splitName name = (column, test) := by
  constructor
  · intro asks
    cases asks with
    | test _ named => exact splitName_test _ named
    | equality untested => exact splitName_equality untested
  · intro split
    by_cases tested : ∃ column suffix test, name = column ++ "." ++ suffix ∧
        Test.ofSuffix? suffix = some test
    · obtain ⟨front, suffix, found, rfl, named⟩ := tested
      rw [splitName_test front named] at split
      cases split
      exact .test _ named
    · have untested : ∀ column suffix, name = column ++ "." ++ suffix →
          Test.ofSuffix? suffix = none := by
        intro front suffix parted
        rw [Option.eq_none_iff_forall_ne_some]
        exact fun found named => tested ⟨front, suffix, found, parted, named⟩
      rw [splitName_equality untested] at split
      cases split
      exact .equality untested

end Condition

/-- What a single condition may carry for its test. -/
def Test.Takes : Test → Node → Prop
  | comparison _, node => node.children = []
  | membership, _ => True
  | isNull, node => node.children = [] ∧ ∃ expected, node.value = .bool expected

/-- A tree of conditions is well formed: its groups are not empty, and its single conditions name a
column and carry what their test takes. -/
inductive Node.GrammaticalCondition : Node → Prop where
  | group {node : Node} : node.name ∈ ["and", "or", "not"] → node.children ≠ [] →
      (∀ child ∈ node.children, GrammaticalCondition child) → GrammaticalCondition node
  | single {node : Node} {column : String} {test : Test} : node.name ∉ ["and", "or", "not"] →
      Asks node.name column test → Identifies column → test.Takes node → GrammaticalCondition node

namespace Condition

/-- A single condition is read when its column is and it carries what its test takes. -/
theorem reads_ofLeaf {node : Node} {column : String} {test : Test}
    (asks : Asks node.name column test) :
    Reads (ofLeaf node) ↔ Identifies column ∧ test.Takes node := by
  unfold ofLeaf
  rw [asks_iff.mp asks]
  refine Reads.bind_and fun identifier _ => ?_
  cases test with
  | membership => exact iff_of_true (Reads.of_pure _) trivial
  | comparison comparison =>
    dsimp only
    by_cases childless : node.children = []
    · rw [if_pos (by simp [childless])]
      exact iff_of_true (Reads.of_pure _) childless
    · rw [if_neg (by simp [childless])]
      exact iff_of_false (Reads.not_error _) childless
  | isNull =>
    dsimp only [Test.Takes]
    by_cases childless : node.children = []
    · rw [if_neg (by simp [childless])]
      cases node.value with
      | bool expected => exact iff_of_true (Reads.of_pure _) ⟨childless, expected, rfl⟩
      | _ => exact iff_of_false (Reads.not_error _) nofun
    · rw [if_pos (by simp [childless])]
      exact iff_of_false (Reads.not_error _) fun takes => childless takes.1

theorem ofName?_none {name : String} : GroupKind.ofName? name = none ↔ name ∉ ["and", "or", "not"] := by
  obtain ⟨rfl, named⟩ | ⟨rfl, named⟩ | ⟨rfl, named⟩ | ⟨notAnd, notOr, notNot, named⟩ :=
    Predicate.ofName?_cases name
  · rw [named]
    decide
  · rw [named]
    decide
  · rw [named]
    decide
  · rw [named]
    simp [notAnd, notOr, notNot]

/-- Conditions are read exactly from the trees that are well formed, by induction on the tree. -/
theorem reads_ofNode (node : Node) : Reads (ofNode node) ↔ node.GrammaticalCondition := by
  induction node using Node.induction with
  | step node ih =>
    obtain ⟨name, value, children⟩ := node
    rw [ofNode]
    cases named : GroupKind.ofName? name with
    | none =>
      have single := ofName?_none.mp named
      have asks : Asks (Node.mk name value children).name (splitName name).1 (splitName name).2 :=
        asks_iff.mpr rfl
      refine (reads_ofLeaf asks).trans ⟨?_, ?_⟩
      · exact fun ⟨identifies, takes⟩ => .single single asks identifies takes
      · intro grammatical
        cases grammatical with
        | group grouped => exact absurd grouped single
        | single _ other identifies takes =>
          have same := (asks_iff.mp other).symm.trans (asks_iff.mp asks)
          cases same
          exact ⟨identifies, takes⟩
    | some kind =>
      have grouped : name ∈ ["and", "or", "not"] := by
        by_contra single
        rw [ofName?_none.mpr single] at named
        cases named
      dsimp only
      by_cases childless : children = []
      · rw [if_pos (by simp [childless])]
        refine iff_of_false (Reads.not_error _) fun grammatical => ?_
        cases grammatical with
        | group _ nonempty => exact nonempty childless
        | single single => exact single grouped
      · rw [if_neg (by simp [childless]), Reads.bind_pure, ofNodes_eq_mapM, Reads.mapM]
        constructor
        · exact fun reads => .group grouped childless fun child member =>
            (ih child member).mp (reads child member)
        · intro grammatical
          cases grammatical with
          | group _ _ inner => exact fun child member => (ih child member).mpr (inner child member)
          | single single => exact absurd grouped single

/-- The single conditions of a tree that is read are read themselves, by induction on the tree. -/
theorem reads_leaves :
    ∀ node condition, ofNode node = .ok condition →
      ∀ leaf ∈ (Expression.ofNode node).leaves, Reads (ofLeaf leaf) := by
  apply ofNode_induction
  · intro node condition single read
    rw [Expression.leaves_single single, List.forall_mem_singleton]
    exact ⟨condition, read⟩
  · intro name value children kind conditions named inner leaf member
    rw [Expression.leaves_group named] at member
    obtain ⟨child, listed, inside⟩ := List.mem_flatMap.mp member
    obtain ⟨condition, -, each⟩ := forall₂_mem_right inner.flip listed
    exact each leaf inside

/-- The single conditions of a request whose conditions are well formed name columns and carry what
their tests take. -/
theorem conditions_fit {node : Node}
    (grammatical : ∀ child ∈ node.listed "where", child.GrammaticalCondition) :
    ∀ leaf ∈ node.conditions, Identifies (splitName leaf.name).1 ∧ (splitName leaf.name).2.Takes leaf := by
  have leaves : node.conditions =
      (node.listed "where").flatMap fun child => (Expression.ofNode child).leaves := by
    rw [Node.conditions, Expression.ofFragment, Expression.leaves, Expression.leavesAll_ofNodes]
  intro leaf member
  rw [leaves] at member
  obtain ⟨child, listed, inside⟩ := List.mem_flatMap.mp member
  obtain ⟨condition, read⟩ := (reads_ofNode child).mpr (grammatical child listed)
  exact (reads_ofLeaf (asks_iff.mpr rfl)).mp (reads_leaves child condition read leaf inside)

end Condition

end QueryTree
