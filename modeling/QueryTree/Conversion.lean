/-
This file holds the ways to turn the rows of a backend into columns.
-/
import QueryTree.Backend
import QueryTree.Text.UpperCase

namespace QueryTree

/-- What is done with the columns of a row. -/
inductive Conversion where
  | plain
  | upper
  | reversed
  | empty
  | refusing
deriving DecidableEq, Repr

namespace Conversion

/-- The conversion of rows. Only the first three look at the columns of the backend. -/
def converter {backend : Backend} (conversion : Conversion) : RowConverter backend := fun row =>
  match conversion with
  | plain => backend.columns row
  | upper =>
      (backend.columns row).map (List.map fun (name, value) => (Text.upperText name, value))
  | reversed => (backend.columns row).map List.reverse
  | empty => .ok []
  | refusing => .error (.decode "x" (.stated "converter refused"))

end Conversion

end QueryTree
