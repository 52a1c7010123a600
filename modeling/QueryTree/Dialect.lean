/-
This file holds what statements of different database systems differ in: the name in front of
operations, the quotes of identifiers, the spelling of placeholders and the clause that orders and
limits a read.
-/
import QueryTree.Identifier

namespace QueryTree

/-- How a placeholder is spelled: `$1`, `$2`, … or `@p0`, `@p1`, …. -/
inductive PlaceholderStyle where
  | dollar
  | at
deriving DecidableEq, Repr

inductive Direction where
  | ascending
  | descending
deriving DecidableEq, Repr

/-- A column to order by. -/
structure OrderTerm where
  column : Identifier
  direction : Direction
deriving DecidableEq, Repr

/-- The order of a read, the rows it skips and the rows it returns at most. -/
structure Pagination where
  order : List OrderTerm
  offset : Option Nat
  limit : Nat
deriving DecidableEq, Repr

/-- A way to end a read: from its order and bounds, the quote of identifiers and the text in front, it
makes the whole text. -/
abbrev Tail := Pagination → Char → List Char → List Char

structure Dialect where
  name : String
  quote : Char
  placeholderStyle : PlaceholderStyle
  tail : Tail

namespace Dialect

/-- The characters of the placeholder at a position, which counts from zero. -/
def placeholderCharacters (dialect : Dialect) (position : Nat) : List Char :=
  match dialect.placeholderStyle with
  | .dollar => '$' :: Nat.toDigits 10 (position + 1)
  | .at => '@' :: 'p' :: Nat.toDigits 10 position

/-- The placeholder at a position, which counts from zero. -/
def placeholder (dialect : Dialect) (position : Nat) : String :=
  String.ofList (dialect.placeholderCharacters position)

/-- The scope under which connections are found. -/
def connectScope (dialect : Dialect) : String := dialect.name ++ ".connect"

/-- The scope under which transactions are found. -/
def transactionScope (dialect : Dialect) : String := dialect.name ++ ".transaction"

end Dialect

end QueryTree
