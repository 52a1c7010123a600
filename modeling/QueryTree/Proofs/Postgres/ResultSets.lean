/-
This file relates the messages of a batch to its result sets: no row is lost, and every statement that
returns rows has a set of its own.
-/
import QueryTree.Postgres.Batch

namespace QueryTree.Postgres

/-- What one statement of a batch gives: rows under a description, or nothing but its completion. -/
inductive Response where
  | rows (columns : List String) (content : List TextRow)
  | change
deriving DecidableEq, Repr

namespace Response

/-- The messages of a response. -/
def messages : Response → List Message
  | rows columns content => .description columns :: (content.map .row ++ [.completion])
  | change => [.completion]

/-- The rows of a response that returns rows. -/
def rows? : Response → Option (List TextRow)
  | rows _ content => some content
  | change => none

end Response

namespace Batch

/-- The sets hold what is in the open set and every row that is still to come, in order. -/
theorem flatten_setsFrom (messages : List Message) (open? : Option (List TextRow)) :
    (setsFrom open? messages).flatten = open?.getD [] ++ messages.filterMap Message.row? := by
  induction messages generalizing open? with
  | nil => cases open? <;> simp [setsFrom]
  | cons message rest ih =>
    cases message with
    | description => cases open? <;> simp [setsFrom, Message.row?, List.filterMap_cons, ih]
    | row => cases open? <;> simp [setsFrom, Message.row?, ih]
    | completion => cases open? <;> simp [setsFrom, Message.row?, List.filterMap_cons, ih]
    | other => simp [setsFrom, Message.row?, List.filterMap_cons, ih]

/-- Messages of other kinds change no set. -/
theorem setsFrom_telling (messages : List Message) (open? : Option (List TextRow)) :
    setsFrom open? (messages.filter (· != .other)) = setsFrom open? messages := by
  induction messages generalizing open? with
  | nil => rfl
  | cons message rest ih =>
    cases message with
    | description => cases open? <;> simp [setsFrom, ih]
    | row => cases open? <;> simp [setsFrom, ih]
    | completion => cases open? <;> simp [setsFrom, ih]
    | other => simp [setsFrom, ih]

/-- Rows go to the open set. -/
theorem setsFrom_rows (read rows : List TextRow) (rest : List Message) :
    setsFrom (some read) (rows.map .row ++ rest) = setsFrom (some (read ++ rows)) rest := by
  induction rows generalizing read with
  | nil => simp
  | cons row rows ih =>
    show setsFrom (some (read ++ [row])) (rows.map .row ++ rest) = _
    rw [ih, List.append_assoc, List.singleton_append]

/-- A response leaves no set open; it adds one where it returns rows. -/
theorem setsFrom_response (response : Response) (rest : List Message) :
    setsFrom none (response.messages ++ rest) = response.rows?.toList ++ setsFrom none rest := by
  cases response with
  | rows columns content =>
    show setsFrom (some []) (content.map .row ++ [.completion] ++ rest) = _
    rw [List.append_assoc, setsFrom_rows, List.nil_append]
    rfl
  | change => rfl

/-- The responses that return rows have one set each, in order. -/
theorem setsFrom_responses (responses : List Response) :
    setsFrom none (responses.flatMap Response.messages) = responses.filterMap Response.rows? := by
  induction responses with
  | nil => rfl
  | cons response responses ih =>
    rw [List.flatMap_cons, setsFrom_response, ih]
    cases response <;> rfl

/-- The messages of responses, among others that tell nothing. -/
def Answers (responses : List Response) (messages : List Message) : Prop :=
  messages.filter (· != .other) = responses.flatMap Response.messages

instance (responses : List Response) (messages : List Message) :
    Decidable (Answers responses messages) :=
  inferInstanceAs (Decidable (_ = _))

theorem Answers.resultSets {responses : List Response} {messages : List Message}
    (answers : Answers responses messages) :
    resultSets messages = responses.filterMap Response.rows? := by
  rw [Batch.resultSets, ← setsFrom_telling, answers, setsFrom_responses]

end Batch

end QueryTree.Postgres
