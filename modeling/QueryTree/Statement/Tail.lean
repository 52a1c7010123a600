/-
This file holds the clauses that order and limit reads in known database systems, and the dialects of
these systems.
-/
import QueryTree.Statement.Piece

namespace QueryTree

def Direction.keyword : Direction → Keyword
  | ascending => .ascending
  | descending => .descending

def OrderTerm.pieces (term : OrderTerm) : List Piece :=
  [.identifier term.column, .keyword term.direction.keyword]

/-- The known ways to limit a read: by `LIMIT` and `OFFSET`, or by `OFFSET` and `FETCH NEXT`. -/
inductive TailStyle where
  | limitOffset
  | fetchNext
deriving DecidableEq, Repr

namespace Pagination

/-- The clause that orders by the given terms. -/
def orderPieces (terms : List OrderTerm) : List Piece :=
  if terms.isEmpty then []
  else .keyword .orderBy :: Piece.separated .comma (terms.map OrderTerm.pieces)

/-- The clause that orders and limits a read. Where rows can only be skipped in an ordered read, an
order by nothing and a skip of no rows are stated. -/
def pieces (style : TailStyle) (pagination : Pagination) : List Piece :=
  match style with
  | .limitOffset =>
      orderPieces pagination.order ++ [.keyword .limit, .numeral pagination.limit]
        ++ (match pagination.offset with
          | some offset => [.keyword .offset, .numeral offset]
          | none => [])
  | .fetchNext =>
      (if pagination.order.isEmpty then [.keyword .orderByNothing] else orderPieces pagination.order)
        ++ [.keyword .offset, .numeral (pagination.offset.getD 0), .keyword .fetchNext,
          .numeral pagination.limit, .keyword .rowsOnly]

end Pagination

namespace TailStyle

/-- The clause is written behind the text. -/
def tail (style : TailStyle) : Tail := fun pagination quote text =>
  text ++ Piece.unboundText quote (pagination.pieces style)

instance : Coe TailStyle Tail := ⟨tail⟩

end TailStyle

namespace Dialect

def postgres : Dialect := ⟨"pgsql", '"', .dollar, TailStyle.limitOffset⟩

def sqlServer : Dialect := ⟨"mssql", '"', .at, TailStyle.fetchNext⟩

end Dialect

/-- The clause of a dialect alone. -/
def Pagination.text (dialect : Dialect) (pagination : Pagination) : String :=
  String.ofList (dialect.tail pagination dialect.quote [])

end QueryTree
