/-
This file holds the operations that nodes ask for by name: the name of a dialect, a point, and the
name of the operation.
-/
import QueryTree.Dialect
import QueryTree.Statement.Basic

namespace QueryTree

inductive Operation where
  | select
  | scalar
  | execute
  | compiled (kind : StatementKind)
  | transaction
deriving DecidableEq, Repr

namespace Operation

/-- The operations by their names without the dialect. -/
def ofWord? (word : String) : Option Operation :=
  match word with
  | "select" => some select
  | "scalar" => some scalar
  | "execute" => some execute
  | "read" => some (compiled .select)
  | "create" => some (compiled .insert)
  | "update" => some (compiled .update)
  | "delete" => some (compiled .delete)
  | "transaction.create" => some transaction
  | _ => none

/-- The operation that a name stands for in a dialect. -/
def parse (dialect : Dialect) (name : String) : Except SqlError Operation :=
  let start := dialect.name.toList ++ ['.']
  let found :=
    if start.isPrefixOf name.toList then
      ofWord? (String.ofList (name.toList.drop start.length))
    else none
  match found with
  | some operation => .ok operation
  | none => .error (.unknownOperation name)

end Operation

end QueryTree
