/-
This file holds the answers to batches of statements: the messages that come back and the result
sets they amount to.
-/

namespace QueryTree.Postgres

/-- A row of a batch: the names of its columns and their texts. -/
structure TextRow where
  columns : List String
  texts : List (Option String)
deriving DecidableEq, Repr

/-- A message of the answer to a batch. Messages of other kinds tell nothing about result sets. -/
inductive Message where
  | description (columns : List String)
  | row (content : TextRow)
  | completion
  | other
deriving DecidableEq, Repr

namespace Message

/-- Whether a message is a row. -/
def row? : Message → Option TextRow
  | row content => some content
  | _ => none

end Message

namespace Batch

/-- The result sets of messages. A set begins at a description, or at a row where none is open, and
ends at the next description or completion. -/
def setsFrom : (open? : Option (List TextRow)) → List Message → List (List TextRow)
  | none, [] => []
  | some rows, [] => [rows]
  | none, .description _ :: rest => setsFrom (some []) rest
  | some rows, .description _ :: rest => rows :: setsFrom (some []) rest
  | none, .row row :: rest => setsFrom (some [row]) rest
  | some rows, .row row :: rest => setsFrom (some (rows ++ [row])) rest
  | none, .completion :: rest => setsFrom none rest
  | some rows, .completion :: rest => rows :: setsFrom none rest
  | open?, .other :: rest => setsFrom open? rest

/-- The result sets of the messages of a batch. -/
def resultSets (messages : List Message) : List (List TextRow) := setsFrom none messages

end Batch

end QueryTree.Postgres
