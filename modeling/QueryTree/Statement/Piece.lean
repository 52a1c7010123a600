/-
This file holds the pieces that statements are put together from, and their assembly into text
with numbered placeholders.
-/
import QueryTree.Dialect

namespace QueryTree

/-- The fixed words and marks of statements. -/
inductive Keyword where
  | select | allColumns | fromTable | label | comma
  | innerJoin | leftJoin | rightJoin | fullJoin | on
  | whereClause | conjunction | disjunction | openGroup | openNegation | closeGroup
  | equal | notEqual | less | lessOrEqual | greater | greaterOrEqual | like
  | isNull | isNotNull | inList | never
  | insertInto | openColumns | openValues | update | set | deleteFrom
  | orderBy | ascending | descending | limit | offset
  | orderByNothing | fetchNext | rowsOnly
deriving DecidableEq, Repr

/-- The text of a word with the blanks around it. -/
def Keyword.text : Keyword → String
  | select => "SELECT "
  | allColumns => "*"
  | fromTable => " FROM "
  | label => " AS "
  | comma => ", "
  | innerJoin => " INNER JOIN "
  | leftJoin => " LEFT JOIN "
  | rightJoin => " RIGHT JOIN "
  | fullJoin => " FULL OUTER JOIN "
  | on => " ON "
  | whereClause => " WHERE "
  | conjunction => " AND "
  | disjunction => " OR "
  | openGroup => "("
  | openNegation => "NOT ("
  | closeGroup => ")"
  | equal => " = "
  | notEqual => " <> "
  | less => " < "
  | lessOrEqual => " <= "
  | greater => " > "
  | greaterOrEqual => " >= "
  | like => " LIKE "
  | isNull => " IS NULL"
  | isNotNull => " IS NOT NULL"
  | inList => " IN ("
  | never => "1=0"
  | insertInto => "INSERT INTO "
  | openColumns => " ("
  | openValues => ") VALUES ("
  | update => "UPDATE "
  | set => " SET "
  | deleteFrom => "DELETE FROM "
  | orderBy => " ORDER BY "
  | ascending => " ASC"
  | descending => " DESC"
  | limit => " LIMIT "
  | offset => " OFFSET "
  | orderByNothing => " ORDER BY (SELECT NULL)"
  | fetchNext => " ROWS FETCH NEXT "
  | rowsOnly => " ROWS ONLY"

/-- A piece of a statement. A parameter stands for its placeholder. -/
inductive Piece where
  | keyword (word : Keyword)
  | identifier (name : Identifier)
  | numeral (number : Nat)
  | parameter (value : Value)

namespace Piece

/-- The value that a piece binds. -/
def value? : Piece → Option Value
  | parameter value => some value
  | _ => none

/-- The characters of a piece; those of a parameter are the placeholder. -/
def characters (quote : Char) (placeholder : List Char) : Piece → List Char
  | keyword word => word.text.toList
  | identifier name => name.quoted quote
  | numeral number => Nat.toDigits 10 number
  | parameter _ => placeholder

/-- Runs of pieces with a word between them. -/
def separated (separator : Keyword) : List (List Piece) → List Piece
  | [] => []
  | [pieces] => pieces
  | pieces :: rest => pieces ++ keyword separator :: separated separator rest

/-- The characters of pieces, with placeholders numbered from a position on. -/
def text (dialect : Dialect) : (position : Nat) → List Piece → List Char
  | _, [] => []
  | position, piece :: rest =>
      piece.characters dialect.quote (dialect.placeholderCharacters position)
        ++ text dialect (if piece.value?.isSome then position + 1 else position) rest

/-- The characters of pieces without parameters. -/
def unboundText (quote : Char) (pieces : List Piece) : List Char :=
  pieces.flatMap (characters quote [])

/-- The values of the parameters among pieces, in order. -/
def values (pieces : List Piece) : List Value := pieces.filterMap value?

/-- The values of the parameters with the placeholders that stand for them. -/
def parameters (dialect : Dialect) (pieces : List Piece) : List (String × Value) :=
  (values pieces).mapIdx fun position value => (dialect.placeholder position, value)

@[simp] theorem text_nil (dialect : Dialect) (position : Nat) : text dialect position [] = [] := rfl

theorem unboundText_append (quote : Char) (left right : List Piece) :
    unboundText quote (left ++ right) = unboundText quote left ++ unboundText quote right :=
  List.flatMap_append

theorem values_append (left right : List Piece) : values (left ++ right) = values left ++ values right :=
  List.filterMap_append

/-- The text of two runs of pieces; the second run counts on from the first. -/
theorem text_append (dialect : Dialect) (position : Nat) (left right : List Piece) :
    text dialect position (left ++ right)
      = text dialect position left ++ text dialect (position + (values left).length) right := by
  induction left generalizing position with
  | nil => simp [values]
  | cons piece rest ih =>
      rw [List.cons_append, text, text, ih, List.append_assoc]
      congr 2
      cases piece <;> simp [values, value?, List.filterMap_cons, Nat.add_comm, Nat.add_left_comm]

end Piece

/-- The text of a statement, its parameters in the order of their placeholders, and the greatest
count of rows to keep. -/
structure CompiledStatement where
  text : String
  parameters : List (String × Value)
  maxRows : Option Nat

end QueryTree
