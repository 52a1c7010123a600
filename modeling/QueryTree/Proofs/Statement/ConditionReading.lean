/-
This file proves that the text of conditions is read with the structure that the conditions have.
-/
import QueryTree.Proofs.Statement.LeafReading

namespace QueryTree

namespace Condition

/-- The columns of a condition have names, and its groups are not empty. -/
inductive Readable : Condition → Prop where
  | compare {column : Identifier} (comparison value) : column.parts ≠ [] →
      Readable (.compare column comparison value)
  | member {column : Identifier} (values) : column.parts ≠ [] → Readable (.member column values)
  | isNull {column : Identifier} (expected) : column.parts ≠ [] → Readable (.isNull column expected)
  | group {kind conditions} : conditions ≠ [] → (∀ condition ∈ conditions, Readable condition) →
      Readable (.group kind conditions)

/-- How many values a condition binds. -/
def bound (condition : Condition) : Nat := (Piece.values condition.pieces).length

end Condition

namespace Predicate

mutual

/-- The expression that a condition is read as, when its first placeholder has a position. -/
def reading (dialect : Dialect) (position : Nat) : Condition → Expression (Leaf (List Char))
  | .compare column comparison _ =>
      .leaf (.compare column comparison (dialect.placeholderCharacters position))
  | .member column values =>
      .leaf (if values.isEmpty then .never
        else .member column (placeholders dialect position values))
  | .isNull column expected => .leaf (.isNull column expected)
  | .group kind conditions =>
      match kind with
      | .all => .any [.all (readings dialect position conditions)]
      | .any => .any ((readings dialect position conditions).map fun inner => .all [inner])
      | .notAll => .negation (.any [.all (readings dialect position conditions)])

def readings (dialect : Dialect) (position : Nat) :
    List Condition → List (Expression (Leaf (List Char)))
  | [] => []
  | condition :: rest =>
      reading dialect position condition ::
        readings dialect (position + condition.bound) rest

end

namespace Reader

/-- What a word between conditions does to the reader. -/
def join (kind : GroupKind) : Reader → Reader :=
  match kind with
  | .all => conjoin
  | .any => disjoin
  | .notAll => conjoin

/-- Conditions have been read with a word between them. -/
def conditions (kind : GroupKind) (reader : Reader) : List (Expression (Leaf (List Char))) → Reader
  | [] => reader
  | [last] => reader.condition last
  | first :: second :: rest => ((reader.condition first).join kind).conditions kind (second :: rest)

/-- The reader goes on behind what a step has read. -/
theorem run_step {quote : Char} {reader next : Reader} {text rest : List Char}
    (step : reader.step? quote text = some (next, rest)) (shorter : rest.length < text.length) :
    reader.run quote text = next.run quote rest := by
  rw [run, step]
  simp [shorter]

/-- The reader stops where no step is possible. -/
theorem run_stop {quote : Char} {reader : Reader} {text : List Char}
    (stop : reader.step? quote text = none) : reader.run quote text = (reader, text) := by
  rw [run, stop]

theorem run_join (quote : Char) (kind : GroupKind) {reader : Reader} (awaits : reader.awaits = false)
    (rest : List Char) :
    reader.run quote (kind.separator.text.toList ++ rest) = (reader.join kind).run quote rest := by
  have and : (Keyword.conjunction.text.toList ++ rest).dropPrefix? " AND ".toList = some rest :=
    dropPrefix?_word " AND " rest
  have or : (Keyword.disjunction.text.toList ++ rest).dropPrefix? " OR ".toList = some rest :=
    dropPrefix?_word " OR " rest
  have other : (Keyword.disjunction.text.toList ++ rest).dropPrefix? " AND ".toList = none := by
    simp [Keyword.text, List.dropPrefix?]
  cases kind with
  | any =>
    refine run_step ?_ (by simp [GroupKind.separator, Keyword.text]; omega)
    simp only [step?, awaits, operator?, GroupKind.separator, other, or]
    rfl
  | all =>
    refine run_step ?_ (by simp [GroupKind.separator, Keyword.text]; omega)
    simp only [step?, awaits, operator?, GroupKind.separator, and]
    rfl
  | notAll =>
    refine run_step ?_ (by simp [GroupKind.separator, Keyword.text]; omega)
    simp only [step?, awaits, operator?, GroupKind.separator, and]
    rfl

/-- A closing parenthesis makes the group a condition of the one around it. -/
theorem run_close (quote : Char) {reader : Reader} (awaits : reader.awaits = false) {level : Level}
    {outer : List Level} (inside : reader.outer = level :: outer) (rest : List Char) :
    reader.run quote (Keyword.closeGroup.text.toList ++ rest) =
      (condition ⟨true, level, outer⟩ reader.level.expression).run quote rest := by
  have close : (Keyword.closeGroup.text.toList ++ rest).dropPrefix? ")".toList = some rest :=
    dropPrefix?_word ")" rest
  have and : (Keyword.closeGroup.text.toList ++ rest).dropPrefix? " AND ".toList = none := by
    simp [Keyword.text, List.dropPrefix?]
  have or : (Keyword.closeGroup.text.toList ++ rest).dropPrefix? " OR ".toList = none := by
    simp [Keyword.text, List.dropPrefix?]
  refine run_step ?_ (by simp [Keyword.text])
  simp only [step?, awaits, operator?, and, or, close, closeGroup?, inside]
  rfl

/-- A single condition is read in one step. -/
theorem run_leaf {quote : Char} {reader : Reader} (awaits : reader.awaits = true)
    {leaf : Leaf (List Char)} {text rest : List Char} (read : readLeaf quote text = some (leaf, rest))
    (shorter : rest.length < text.length) :
    reader.run quote text = (reader.condition (.leaf leaf)).run quote rest := by
  refine run_step ?_ shorter
  simp only [step?, awaits, if_true, operand?, read]

theorem run_open {quote : Char} {reader : Reader} (awaits : reader.awaits = true) {rest : List Char}
    (unnamed : quote = '(' → readName '(' rest = none) :
    reader.run quote (Keyword.openGroup.text.toList ++ rest) =
      reader.openGroup.run quote rest := by
  have word : (Keyword.openGroup.text.toList ++ rest).dropPrefix? "(".toList = some rest :=
    dropPrefix?_word "(" rest
  have other : (Keyword.openGroup.text.toList ++ rest).dropPrefix? "NOT ".toList = none := by
    simp [Keyword.text, List.dropPrefix?]
  refine run_step ?_ (by simp [Keyword.text])
  simp only [step?, awaits, if_true, operand?, readLeaf_open unnamed, other, word]
  rfl

theorem run_openNegation {quote : Char} {reader : Reader} (awaits : reader.awaits = true)
    {rest : List Char} (unnamed : quote = '(' → readName '(' rest = none) :
    reader.run quote (Keyword.openNegation.text.toList ++ rest) =
      reader.negate.openGroup.run quote rest := by
  have word : (Keyword.openNegation.text.toList ++ rest).dropPrefix? "NOT ".toList =
      some (Keyword.openGroup.text.toList ++ rest) :=
    dropPrefix?_word "NOT " (Keyword.openGroup.text.toList ++ rest)
  have negated : reader.negate.awaits = true := awaits
  rw [← run_open negated unnamed]
  refine run_step ?_ (by simp [Keyword.text])
  simp only [step?, awaits, if_true, operand?, readLeaf_negation quote rest, word]

/-- A group is opened by its mark. -/
theorem run_opening {quote : Char} (kind : GroupKind) {reader : Reader}
    (awaits : reader.awaits = true) {rest : List Char}
    (unnamed : quote = '(' → readName '(' rest = none) :
    reader.run quote (kind.opening.text.toList ++ rest) =
      (match kind with
        | .notAll => reader.negate
        | _ => reader).openGroup.run quote rest := by
  cases kind with
  | all => exact run_open awaits unnamed
  | any => exact run_open awaits unnamed
  | notAll => exact run_openNegation awaits unnamed

theorem join_awaits (kind : GroupKind) (reader : Reader) : (reader.join kind).awaits = true := by
  cases kind <;> rfl

/-- Conditions joined by `AND` stand next to each other. -/
theorem conditions_conjoin {kind : GroupKind} (conjoins : join kind = conjoin) {reader : Reader}
    (plain : reader.level.negations = 0) {expressions : List (Expression (Leaf (List Char)))}
    (nonempty : expressions ≠ []) :
    reader.conditions kind expressions =
      ⟨false, ⟨reader.level.alternatives, reader.level.conditions ++ expressions, 0⟩,
        reader.outer⟩ := by
  induction expressions generalizing reader with
  | nil => exact absurd rfl nonempty
  | cons first others ih =>
    cases others with
    | nil => simp [conditions, condition, Level.add, plain, Level.negated]
    | cons second others =>
      rw [conditions, conjoins, ih rfl (by simp)]
      simp [conjoin, condition, Level.add, plain, Level.negated]

/-- Conditions joined by `OR` are alternatives. -/
theorem conditions_disjoin (reader : Reader) (plain : reader.level.negations = 0)
    (fresh : reader.level.conditions = []) {expressions : List (Expression (Leaf (List Char)))}
    (nonempty : expressions ≠ []) :
    (reader.conditions .any expressions).awaits = false ∧
      (reader.conditions .any expressions).outer = reader.outer ∧
      (reader.conditions .any expressions).level.expression =
        .any (reader.level.alternatives ++ expressions.map fun inner => .all [inner]) := by
  induction expressions generalizing reader with
  | nil => exact absurd rfl nonempty
  | cons first others ih =>
    cases others with
    | nil => simp [conditions, condition, Level.add, Level.expression, plain, fresh, Level.negated]
    | cons second others =>
      obtain ⟨awaits, outer, expression⟩ := ih ((reader.condition first).join .any) rfl rfl
        (by simp)
      rw [conditions]
      refine ⟨awaits, outer, expression.trans ?_⟩
      simp [join, disjoin, condition, Level.add, Level.disjoin, plain, fresh, Level.negated]

end Reader

/-- The text of a condition is read as one condition, wherever one has to follow. -/
def ReadAs (dialect : Dialect) (condition : Condition) : Prop :=
  ∀ (position : Nat) (reader : Reader) (rest : List Char), reader.awaits = true → EndsDigits rest →
    reader.run dialect.quote (Piece.text dialect position condition.pieces ++ rest) =
      (reader.condition (reading dialect position condition)).run dialect.quote rest

theorem text_joined (dialect : Dialect) (position : Nat) (separator : Keyword)
    (first second : Condition) (others : List Condition) (rest : List Char) :
    Piece.text dialect position (Condition.joined separator (first :: second :: others)) ++ rest =
      Piece.text dialect position first.pieces ++ (separator.text.toList ++
        (Piece.text dialect (position + first.bound)
          (Condition.joined separator (second :: others)) ++ rest)) := by
  rw [Condition.joined, Piece.text_append]
  · simp [Piece.text, Piece.characters, Piece.value?, Condition.bound]
  · simp

/-- Conditions with a word between them are read one after the other, by induction on the list. -/
theorem run_conditions (dialect : Dialect) (kind : GroupKind) {conditions : List Condition}
    (read : ∀ condition ∈ conditions, ReadAs dialect condition) (nonempty : conditions ≠ [])
    (position : Nat) {reader : Reader} {rest : List Char} (awaits : reader.awaits = true)
    (ends : EndsDigits rest) :
    reader.run dialect.quote
        (Piece.text dialect position (Condition.joined kind.separator conditions) ++ rest) =
      (reader.conditions kind (readings dialect position conditions)).run dialect.quote rest := by
  induction conditions generalizing position reader with
  | nil => exact absurd rfl nonempty
  | cons first others ih =>
    have readFirst := read first List.mem_cons_self
    cases others with
    | nil => exact readFirst position reader rest awaits ends
    | cons second others =>
      have separated : EndsDigits (kind.separator.text.toList ++
          (Piece.text dialect (position + first.bound)
            (Condition.joined kind.separator (second :: others)) ++ rest)) := by
        cases kind <;> simp [EndsDigits, GroupKind.separator, Keyword.text]
      rw [text_joined, readFirst position reader _ awaits separated, Reader.run_join _ kind rfl]
      exact ih (fun condition member => read condition (List.mem_cons_of_mem first member))
        (by simp) (position + first.bound) (Reader.join_awaits kind _)

theorem text_compare (dialect : Dialect) (position : Nat) (column : Identifier)
    (comparison : Comparison) (value : Value) (rest : List Char) :
    Piece.text dialect position (Condition.compare column comparison value).pieces ++ rest =
      column.quoted dialect.quote ++ (comparison.keyword.text.toList ++
        (dialect.placeholderCharacters position ++ rest)) := by
  simp [Condition.pieces, Piece.text, Piece.characters, Piece.value?]

theorem text_isNull (dialect : Dialect) (position : Nat) (column : Identifier) (expected : Bool)
    (rest : List Char) :
    Piece.text dialect position (Condition.isNull column expected).pieces ++ rest =
      column.quoted dialect.quote ++
        ((if expected then Keyword.isNull else Keyword.isNotNull).text.toList ++ rest) := by
  simp [Condition.pieces, Piece.text, Piece.characters]

theorem text_never (dialect : Dialect) (position : Nat) (column : Identifier) (rest : List Char) :
    Piece.text dialect position (Condition.member column []).pieces ++ rest =
      Keyword.never.text.toList ++ rest := by
  simp [Condition.pieces, Piece.text, Piece.characters]

theorem text_member (dialect : Dialect) (position : Nat) (column : Identifier) {values : List Value}
    (nonempty : values ≠ []) (rest : List Char) :
    Piece.text dialect position (Condition.member column values).pieces ++ rest =
      column.quoted dialect.quote ++ (Keyword.inList.text.toList ++
        (Piece.text dialect position (valuePieces values) ++
          (Keyword.closeGroup.text.toList ++ rest))) := by
  have filled : values.isEmpty = false := by simpa using nonempty
  simp [Condition.pieces, filled, Piece.text, Piece.characters, Piece.value?, Piece.text_append,
    valuePieces]

theorem text_group (dialect : Dialect) (position : Nat) (kind : GroupKind)
    (conditions : List Condition) (rest : List Char) :
    Piece.text dialect position (Condition.group kind conditions).pieces ++ rest =
      kind.opening.text.toList ++
        (Piece.text dialect position (Condition.joined kind.separator conditions) ++
          (Keyword.closeGroup.text.toList ++ rest)) := by
  simp [Condition.pieces, Piece.text, Piece.characters, Piece.value?, Piece.text_append]

/-- No condition begins with a name and a parenthesis. -/
theorem readName_condition {dialect : Dialect} (quoted : dialect.quote = '(') {condition : Condition}
    (readable : condition.Readable) (position : Nat) (rest : List Char) :
    readName '(' (Piece.text dialect position condition.pieces ++ rest) = none := by
  cases readable with
  | compare comparison value named =>
    rw [text_compare, quoted]
    exact readName_column named _
  | isNull expected named =>
    rw [text_isNull, quoted]
    exact readName_column named _
  | member values named =>
    cases values with
    | nil =>
      rw [text_never]
      exact readName_never rest
    | cons value others =>
      rw [text_member dialect position _ (by simp), quoted]
      exact readName_column named _
  | @group kind conditions nonempty inside =>
    rw [text_group]
    cases kind with
    | all => exact readName_open _
    | any => exact readName_open _
    | notAll => exact readName_negation _

theorem readName_joined {dialect : Dialect} (quoted : dialect.quote = '(') (separator : Keyword)
    {conditions : List Condition} (nonempty : conditions ≠ [])
    (readable : ∀ condition ∈ conditions, condition.Readable) (position : Nat) (rest : List Char) :
    readName '(' (Piece.text dialect position (Condition.joined separator conditions) ++ rest) =
      none := by
  cases conditions with
  | nil => exact absurd rfl nonempty
  | cons first others =>
    have unnamed := readName_condition quoted (readable first List.mem_cons_self) position
    cases others with
    | nil => exact unnamed rest
    | cons second others =>
      rw [text_joined]
      exact unnamed _

theorem readings_ne_nil (dialect : Dialect) (position : Nat) {conditions : List Condition}
    (nonempty : conditions ≠ []) : readings dialect position conditions ≠ [] := by
  cases conditions with
  | nil => exact absurd rfl nonempty
  | cons first others => simp [readings]

theorem readAs_compare (dialect : Dialect) {column : Identifier} (named : column.parts ≠ [])
    (comparison : Comparison) (value : Value) :
    ReadAs dialect (.compare column comparison value) := by
  intro position reader rest awaits ends
  have blank : (comparison.keyword.text.toList ++
      (dialect.placeholderCharacters position ++ rest)).head? = some ' ' := by
    cases comparison <;> rfl
  rw [text_compare]
  apply Reader.run_leaf awaits
  · rw [readLeaf_column dialect.quote named blank]
    exact readTest_compare dialect column comparison position ends
  · cases comparison <;> simp [Comparison.keyword, Keyword.text] <;> omega

theorem readAs_isNull (dialect : Dialect) {column : Identifier} (named : column.parts ≠ [])
    (expected : Bool) : ReadAs dialect (.isNull column expected) := by
  intro position reader rest awaits ends
  have blank : ((if expected then Keyword.isNull else Keyword.isNotNull).text.toList ++
      rest).head? = some ' ' := by
    cases expected <;> rfl
  rw [text_isNull]
  apply Reader.run_leaf awaits
  · rw [readLeaf_column dialect.quote named blank]
    exact readTest_isNull column expected rest
  · cases expected <;> simp [Keyword.text] <;> omega

/-- Membership in nothing is read as a condition that never holds. -/
theorem readAs_never (dialect : Dialect) (column : Identifier) :
    ReadAs dialect (.member column []) := by
  intro position reader rest awaits ends
  have word : (Keyword.never.text.toList ++ rest).dropPrefix? "1=0".toList = some rest :=
    dropPrefix?_word "1=0" rest
  rw [text_never]
  apply Reader.run_leaf awaits
  · rw [readLeaf, word]
    rfl
  · simp only [Keyword.text, List.length_append, String.length_toList]
    have filled : 0 < "1=0".length := by decide
    omega

theorem readAs_member (dialect : Dialect) {column : Identifier} (named : column.parts ≠ [])
    {values : List Value} (filled : values ≠ []) : ReadAs dialect (.member column values) := by
  intro position reader rest awaits ends
  have reads : reading dialect position (.member column values) =
      .leaf (.member column (placeholders dialect position values)) := by
    simp [reading, filled]
  rw [text_member dialect position column filled, reads]
  apply Reader.run_leaf awaits
  · rw [readLeaf_column dialect.quote named rfl]
    exact readTest_member dialect column position filled rest
  · simp [Keyword.text]
    omega

/-- A group is read with its own structure when its conditions are. -/
theorem readAs_group (dialect : Dialect) (kind : GroupKind) {conditions : List Condition}
    (nonempty : conditions ≠ []) (readable : ∀ condition ∈ conditions, condition.Readable)
    (each : ∀ condition ∈ conditions, ReadAs dialect condition) :
    ReadAs dialect (.group kind conditions) := by
  intro position reader rest awaits ends
  have unnamed (quoted : dialect.quote = '(') := readName_joined quoted kind.separator nonempty
    readable position (Keyword.closeGroup.text.toList ++ rest)
  have closes : EndsDigits (Keyword.closeGroup.text.toList ++ rest) := by
    simp [EndsDigits, Keyword.text]
  have inner := readings_ne_nil dialect position nonempty
  rw [text_group, Reader.run_opening kind awaits unnamed,
    run_conditions dialect kind each nonempty position rfl closes]
  cases kind with
  | all =>
    rw [Reader.conditions_conjoin rfl rfl inner, Reader.run_close dialect.quote rfl rfl]
    rfl
  | any =>
    obtain ⟨closed, outer, expression⟩ :=
      Reader.conditions_disjoin reader.openGroup rfl rfl inner
    rw [Reader.run_close dialect.quote closed outer, expression]
    rfl
  | notAll =>
    rw [Reader.conditions_conjoin rfl rfl inner, Reader.run_close dialect.quote rfl rfl]
    rfl

/-- Every condition is read with its own structure, by induction on the condition. -/
theorem run_condition (dialect : Dialect) {condition : Condition} (readable : condition.Readable) :
    ReadAs dialect condition := by
  induction readable with
  | compare comparison value named => exact readAs_compare dialect named comparison value
  | isNull expected named => exact readAs_isNull dialect named expected
  | @member column values named =>
    by_cases filled : values = []
    · subst filled
      exact readAs_never dialect column
    · exact readAs_member dialect named filled
  | @group kind conditions nonempty readable ih =>
    exact readAs_group dialect kind nonempty readable ih

end Predicate

end QueryTree
