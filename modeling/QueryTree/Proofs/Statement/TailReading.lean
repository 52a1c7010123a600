/-
This file reads the clause that orders and limits a read from its text, in either of its two forms, and
proves that the clause of a read is read back as its order and its bounds.
-/
import QueryTree.Proofs.Statement.LeafReading
import QueryTree.Proofs.Statement.StatementLayout

namespace QueryTree

/-- Which rows of a read are wanted: their order, how many of them are skipped, and how many are
returned at most. -/
structure Window where
  order : List OrderTerm
  skipped : Nat
  count : Nat
deriving DecidableEq, Repr

namespace Window

/-- A number in decimal digits. -/
def readNumber (text : List Char) : Option (Nat × List Char) :=
  let digits := text.takeWhile Char.isDigit
  if digits = [] then none
  else some (Nat.ofDigitChars 10 digits 0, text.dropWhile Char.isDigit)

/-- A number behind a word. -/
def readBound (word : String) (text : List Char) : Option (Nat × List Char) :=
  (text.dropPrefix? word.toList).bind readNumber

def readDirection (text : List Char) : Option (Direction × List Char) :=
  match text.dropPrefix? " ASC".toList with
  | some rest => some (.ascending, rest)
  | none => (text.dropPrefix? " DESC".toList).map fun rest => (.descending, rest)

/-- A column and its direction. -/
def readTerm (quote : Char) (text : List Char) : Option (OrderTerm × List Char) :=
  (Predicate.readParts quote text).bind fun (parts, rest) =>
    (readDirection rest).map fun (direction, rest) => (⟨⟨parts⟩, direction⟩, rest)

/-- Columns and their directions, with commas between them. -/
def readTerms (quote : Char) (text : List Char) : Option (List OrderTerm × List Char) :=
  match readTerm quote text with
  | none => none
  | some (term, rest) =>
      match rest.dropPrefix? ", ".toList with
      | none => some ([term], rest)
      | some behind =>
          if behind.length < text.length then
            (readTerms quote behind).map fun (others, rest) => (term :: others, rest)
          else none
termination_by text.length

/-- The order, if there is any. An order by nothing is none. -/
def readOrder (quote : Char) (text : List Char) : Option (List OrderTerm × List Char) :=
  match text.dropPrefix? " ORDER BY (SELECT NULL)".toList with
  | some rest => some ([], rest)
  | none =>
      match text.dropPrefix? " ORDER BY ".toList with
      | some rest => readTerms quote rest
      | none => some ([], text)

/-- How many rows are skipped, to the end of the text. At the end none are. -/
def readSkip (text : List Char) : Option Nat :=
  if text = [] then some 0
  else (readBound " OFFSET " text).bind fun (skipped, rest) =>
    if rest = [] then some skipped else none

/-- How many rows are skipped and how many are returned, in the form that states the skip first. -/
def readFetch (text : List Char) : Option (Nat × Nat) :=
  (readBound " OFFSET " text).bind fun (skipped, rest) =>
    (readBound " ROWS FETCH NEXT " rest).bind fun (count, rest) =>
      if rest = " ROWS ONLY".toList then some (skipped, count) else none

/-- How many rows are skipped and how many are returned, to the end of the text. -/
def readBounds (text : List Char) : Option (Nat × Nat) :=
  match readBound " LIMIT " text with
  | some (count, rest) => (readSkip rest).map fun skipped => (skipped, count)
  | none => readFetch text

/-- The whole text behind the conditions of a read. -/
def read? (quote : Char) (text : List Char) : Option Window :=
  (readOrder quote text).bind fun (order, rest) =>
    (readBounds rest).map fun (skipped, count) => ⟨order, skipped, count⟩

/-- A number is read back where no digit follows. -/
theorem readNumber_toDigits (number : Nat) {rest : List Char} (ends : EndsDigits rest) :
    readNumber (Nat.toDigits 10 number ++ rest) = some (number, rest) := by
  have digits := Text.isDigit_of_mem_toDigits number
  unfold readNumber
  rw [(ends.cut digits).1, (ends.cut digits).2]
  simp [Nat.ofDigitChars_toDigits, Nat.toDigits_ne_nil]

theorem readBound_word (word : String) (number : Nat) {rest : List Char} (ends : EndsDigits rest) :
    readBound word (word.toList ++ (Nat.toDigits 10 number ++ rest)) = some (number, rest) := by
  rw [readBound, Predicate.dropPrefix?_word]
  exact readNumber_toDigits number ends

theorem readDirection_text (direction : Direction) (rest : List Char) :
    readDirection (direction.keyword.text.toList ++ rest) = some (direction, rest) := by
  cases direction with
  | ascending =>
    have word : (Keyword.ascending.text.toList ++ rest).dropPrefix? " ASC".toList = some rest :=
      Predicate.dropPrefix?_word " ASC" rest
    simp only [readDirection, Direction.keyword, word]
  | descending =>
    have other : (Keyword.descending.text.toList ++ rest).dropPrefix? " ASC".toList = none := by
      simp [Keyword.text, List.dropPrefix?]
    have word : (Keyword.descending.text.toList ++ rest).dropPrefix? " DESC".toList = some rest :=
      Predicate.dropPrefix?_word " DESC" rest
    simp only [readDirection, Direction.keyword, other, word, Option.map_some]

/-- The text of a column to order by. -/
def termText (quote : Char) (term : OrderTerm) : List Char :=
  term.column.quoted quote ++ term.direction.keyword.text.toList

theorem readTerm_text (quote : Char) {term : OrderTerm} (named : term.column.parts ≠ [])
    (rest : List Char) : readTerm quote (termText quote term ++ rest) = some (term, rest) := by
  have blank : (term.direction.keyword.text.toList ++ rest).head? = some ' ' := by
    cases term.direction <;> rfl
  have read := Predicate.readParts_quoted quote named blank
  rw [readTerm, termText, List.append_assoc, Identifier.quoted, read]
  simp [readDirection_text]

/-- Columns to order by are read back in front of a blank, by induction on them. -/
theorem readTerms_text (quote : Char) {terms : List OrderTerm}
    (nonempty : terms ≠ []) (named : ∀ term ∈ terms, term.column.parts ≠ []) {rest : List Char}
    (blank : rest.head? = some ' ') :
    readTerms quote
        (Piece.unboundText quote (Piece.separated .comma (terms.map OrderTerm.pieces)) ++ rest) =
      some (terms, rest) := by
  induction terms with
  | nil => exact absurd rfl nonempty
  | cons term others ih =>
    obtain ⟨first, later⟩ := List.forall_mem_cons.mp named
    cases others with
    | nil =>
      have text : Piece.unboundText quote (Piece.separated .comma ([term].map OrderTerm.pieces)) =
          termText quote term := by
        simp [Piece.separated, OrderTerm.pieces, Piece.unboundText, Piece.characters, termText]
      have other : rest.dropPrefix? ", ".toList = none := by
        cases rest with
        | nil => rfl
        | cons character behind =>
          cases blank
          simp [List.dropPrefix?]
      rw [readTerms, text, readTerm_text quote first]
      simp only [other]
    | cons second others =>
      have read := ih (List.cons_ne_nil _ _) later
      have text : Piece.unboundText quote
          (Piece.separated .comma ((term :: second :: others).map OrderTerm.pieces)) =
            termText quote term ++ (", ".toList ++ Piece.unboundText quote
              (Piece.separated .comma ((second :: others).map OrderTerm.pieces))) := by
        simp [Piece.separated, OrderTerm.pieces, Piece.unboundText, Piece.characters, termText, Keyword.text]
      rw [readTerms, text]
      simp only [List.append_assoc]
      rw [readTerm_text quote first]
      simp only [Predicate.dropPrefix?_word, read]
      rw [if_pos (by simp; omega)]
      rfl

/-- No column to order by begins with a parenthesis. -/
theorem terms_first {quote : Char} (other : quote ≠ '(') {term : OrderTerm}
    (named : term.column.parts ≠ []) (others : List OrderTerm) (rest : List Char) :
    ∃ first behind, Piece.unboundText quote
        (Piece.separated .comma ((term :: others).map OrderTerm.pieces)) ++ rest = first :: behind ∧
      first ≠ '(' := by
  have begun : ∃ more, Piece.separated .comma ((term :: others).map OrderTerm.pieces) =
      .identifier term.column :: more := by
    cases others with
    | nil => exact ⟨_, rfl⟩
    | cons second others => exact ⟨_, rfl⟩
  obtain ⟨more, separated⟩ := begun
  obtain ⟨part, tail, split, -⟩ := Predicate.quoted_first quote named
    (Piece.unboundText quote more ++ rest)
  refine ⟨(part.quoted quote).head?.getD quote,
    (part.quoted quote).tail ++ tail, ?_, ?_⟩
  · rw [separated, Piece.unboundText, List.flatMap_cons, List.append_assoc]
    refine Eq.trans split ?_
    cases part <;> rfl
  · cases part with
    | named name => exact other
    | wildcard => exact show '*' ≠ '(' by decide

/-- The order is read back in front of the bounds. -/
theorem readOrder_text {quote : Char} (other : quote ≠ '(') {terms : List OrderTerm}
    (named : ∀ term ∈ terms, term.column.parts ≠ []) {word : Keyword}
    (bounds : word = .limit ∨ word = .offset) (rest : List Char) :
    readOrder quote
        (Piece.unboundText quote (Pagination.orderPieces terms) ++ (word.text.toList ++ rest)) =
      some (terms, word.text.toList ++ rest) := by
  cases terms with
  | nil =>
    have unordered : (word.text.toList ++ rest).dropPrefix? " ORDER BY (SELECT NULL)".toList = none ∧
        (word.text.toList ++ rest).dropPrefix? " ORDER BY ".toList = none := by
      rcases bounds with rfl | rfl <;> simp [Keyword.text, List.dropPrefix?]
    change readOrder quote (word.text.toList ++ rest) = _
    simp only [readOrder, unordered.1, unordered.2]
  | cons term others =>
    have blank : (word.text.toList ++ rest).head? = some ' ' := by
      rcases bounds with rfl | rfl <;> rfl
    have read := readTerms_text quote (List.cons_ne_nil term others) named blank
    have text : Piece.unboundText quote (Pagination.orderPieces (term :: others)) =
        " ORDER BY ".toList ++ Piece.unboundText quote
          (Piece.separated .comma ((term :: others).map OrderTerm.pieces)) := rfl
    obtain ⟨first, behind, begun, different⟩ := terms_first other (named term List.mem_cons_self)
      others (word.text.toList ++ rest)
    have ordered : (" ORDER BY ".toList ++ (first :: behind)).dropPrefix?
        " ORDER BY (SELECT NULL)".toList = none := by
      simp [List.dropPrefix?, different]
    rw [text, List.append_assoc, readOrder, begun, ordered, Predicate.dropPrefix?_word, ← begun]
    exact read

/-- An order by nothing is read as no order. -/
theorem readOrder_nothing (quote : Char) (rest : List Char) :
    readOrder quote (Keyword.orderByNothing.text.toList ++ rest) = some ([], rest) := by
  have word : (Keyword.orderByNothing.text.toList ++ rest).dropPrefix?
      " ORDER BY (SELECT NULL)".toList = some rest := Predicate.dropPrefix?_word _ rest
  simp only [readOrder, word]

theorem readBound_last (word : String) (number : Nat) :
    readBound word (word.toList ++ Nat.toDigits 10 number) = some (number, []) := by
  have read := @readBound_word word number [] nofun
  rwa [List.append_nil] at read

/-- The text that skips rows behind a limit. -/
def skipText (offset : Option Nat) : List Char :=
  offset.elim [] fun skipped => " OFFSET ".toList ++ Nat.toDigits 10 skipped

theorem skipText_ends (offset : Option Nat) : EndsDigits (skipText offset) := by
  have word (rest : List Char) : EndsDigits (" OFFSET ".toList ++ rest) := by simp [EndsDigits]
  cases offset with
  | none =>
    intro character member
    cases member
  | some skipped => exact word _

theorem readSkip_text (offset : Option Nat) : readSkip (skipText offset) = some (offset.getD 0) := by
  have filled (rest : List Char) : " OFFSET ".toList ++ rest ≠ [] := by simp
  cases offset with
  | none => rfl
  | some skipped =>
    rw [readSkip, skipText, Option.elim_some, if_neg (filled _), readBound_last, Option.bind_some]
    exact if_pos rfl

theorem readFetch_text (skipped count : Nat) :
    readFetch (" OFFSET ".toList ++ (Nat.toDigits 10 skipped ++ (" ROWS FETCH NEXT ".toList ++
      (Nat.toDigits 10 count ++ " ROWS ONLY".toList)))) = some (skipped, count) := by
  have ends (rest : List Char) : EndsDigits (" ROWS FETCH NEXT ".toList ++ rest) := by
    simp [EndsDigits]
  have last : EndsDigits " ROWS ONLY".toList := by simp [EndsDigits]
  rw [readFetch, readBound_word " OFFSET " skipped (ends _), Option.bind_some]
  dsimp only
  rw [readBound_word " ROWS FETCH NEXT " count last, Option.bind_some]
  exact if_pos rfl

/-- The bounds of a read are read back in both forms. -/
theorem readBounds_limit (count : Nat) (offset : Option Nat) :
    readBounds (" LIMIT ".toList ++ (Nat.toDigits 10 count ++ skipText offset)) =
      some (offset.getD 0, count) := by
  simp only [readBounds, readBound_word " LIMIT " count (skipText_ends offset), readSkip_text,
    Option.map_some]

theorem readBounds_fetch (skipped count : Nat) :
    readBounds (" OFFSET ".toList ++ (Nat.toDigits 10 skipped ++ (" ROWS FETCH NEXT ".toList ++
      (Nat.toDigits 10 count ++ " ROWS ONLY".toList)))) = some (skipped, count) := by
  have unlimited (rest : List Char) : readBound " LIMIT " (" OFFSET ".toList ++ rest) = none := by
    have other : (" OFFSET ".toList ++ rest).dropPrefix? " LIMIT ".toList = none := by
      simp [List.dropPrefix?]
    rw [readBound, other]
    rfl
  simp only [readBounds, unlimited, readFetch_text]

/-- The text of the clause in the form with `LIMIT`. -/
theorem text_limit (quote : Char) (pagination : Pagination) :
    Piece.unboundText quote (pagination.pieces .limitOffset) =
      Piece.unboundText quote (Pagination.orderPieces pagination.order) ++ (Keyword.limit.text.toList ++
        (Nat.toDigits 10 pagination.limit ++ skipText pagination.offset)) := by
  unfold Pagination.pieces
  rw [Piece.unboundText_append, Piece.unboundText_append]
  cases pagination.offset with
  | none => simp [Piece.unboundText, Piece.characters, skipText]
  | some offset => simp [Piece.unboundText, Piece.characters, skipText, Keyword.text]

/-- The text of the clause in the form with `FETCH NEXT`. -/
theorem text_fetch (quote : Char) (pagination : Pagination) :
    Piece.unboundText quote (pagination.pieces .fetchNext) =
      (if pagination.order.isEmpty then Keyword.orderByNothing.text.toList
        else Piece.unboundText quote (Pagination.orderPieces pagination.order)) ++
      (" OFFSET ".toList ++ (Nat.toDigits 10 (pagination.offset.getD 0) ++
        (" ROWS FETCH NEXT ".toList ++ (Nat.toDigits 10 pagination.limit ++ " ROWS ONLY".toList)))) := by
  unfold Pagination.pieces
  rw [Piece.unboundText_append]
  split
  · simp [Piece.unboundText, Piece.characters, Keyword.text]
  · simp [Piece.unboundText, Piece.characters, Keyword.text]

/-- The clause of a read is read back as its order and its bounds, in either form. -/
theorem read?_text {quote : Char} (other : quote ≠ '(') {pagination : Pagination}
    (named : ∀ term ∈ pagination.order, term.column.parts ≠ []) (style : TailStyle) :
    read? quote (Piece.unboundText quote (pagination.pieces style)) =
      some ⟨pagination.order, pagination.offset.getD 0, pagination.limit⟩ := by
  have ordered {word : Keyword} (bounds : word = .limit ∨ word = .offset) (rest : List Char) :=
    readOrder_text other named bounds rest
  rw [read?]
  cases style with
  | limitOffset =>
    have bounds := readBounds_limit pagination.limit pagination.offset
    rw [text_limit, ordered (.inl rfl), Option.bind_some]
    dsimp only [Keyword.text]
    rw [bounds]
    rfl
  | fetchNext =>
    have bounds := readBounds_fetch (pagination.offset.getD 0) pagination.limit
    rw [text_fetch]
    split
    next empty =>
      rw [readOrder_nothing, Option.bind_some, List.isEmpty_iff.mp empty]
      dsimp only
      rw [bounds]
      rfl
    next =>
      have read := ordered (.inr rfl) (Nat.toDigits 10 (pagination.offset.getD 0) ++
        (" ROWS FETCH NEXT ".toList ++ (Nat.toDigits 10 pagination.limit ++ " ROWS ONLY".toList)))
      dsimp only [Keyword.text] at read
      rw [read, Option.bind_some]
      dsimp only
      rw [bounds]
      rfl

end Window

end QueryTree
