/-
This file holds a server that follows a script, and a client of it. Texts go to the server as they
are; a statement with parameters is prepared first, then its values are bound.
-/
import QueryTree.Backend
import QueryTree.Postgres.Batch
import QueryTree.Postgres.ColumnValue
import QueryTree.Postgres.Parameter
import QueryTree.Text.Blank

namespace QueryTree.Postgres

/-- A fault that the server tells of. -/
structure ServerFault where
  code : String
  text : String
deriving DecidableEq, Repr

def ServerFault.error (fault : ServerFault) : SqlError := .execution (.server fault.code fault.text)

/-- A message that the script sends in answer to a batch. -/
inductive ScriptedMessage where
  | description (columns : List String)
  | row (texts : List (Option String))
  | completion
  | fault (fault : ServerFault)

/-- At which point the script lets the client wait beyond any limit. -/
inductive Delay where
  | prepare
  | execute
  | text
deriving DecidableEq, Repr

/-- What the script answers to a statement. -/
structure Answer where
  parameterTypes : List ColumnType
  columns : List (String × ColumnType)
  rows : List (List (Option Bytes))
  tag : String
  prepareFault : Option ServerFault
  bindFault : Option ServerFault
  fault : Option ServerFault
  delay : Option Delay
  messages : List ScriptedMessage

namespace Answer

def empty : Answer := ⟨[], [], [], "", none, none, none, none, []⟩

end Answer

/-- What the server sees. -/
inductive Seen where
  | query (text : String)
  | parse (text : String)
  | bind (parameters : List (Option Bytes))
deriving DecidableEq, Repr

/-- The answers still to come, the beginnings of the control statements that fail, and the count of
savepoints named so far. -/
structure Server where
  answers : List Answer
  failingControl : List String
  savepoints : Nat

/-- A row of a statement, or of a batch. -/
inductive Row where
  | typed (columns : List (String × ColumnType)) (values : List (Option Bytes))
  | text (row : TextRow)

/-- What arrives while the rows of a statement are read. A row is malformed when it has not as many
values as there are columns. -/
inductive Arrival where
  | row (row : Row)
  | malformedRow
  | fault (fault : ServerFault)
  | completion

/-- The rest of a statement's answer as it arrives, or the result sets of a batch. -/
inductive Cursor where
  | stream (arrivals : List Arrival)
  | buffered (sets : List (List TextRow))

namespace Server

/-- The answer to the next statement, and the server after it. -/
def next (server : Server) : Answer × Server :=
  (server.answers.head?.getD .empty, { server with answers := server.answers.tail })

/-- Texts that begin with one of these words control transactions. -/
def controlWords : List String := ["BEGIN", "COMMIT", "ROLLBACK", "SAVEPOINT", "RELEASE"]

def firstWord (text : String) : String :=
  String.ofList ((Text.skipBlanks text.toList).takeWhile fun character => !Text.isBlank character)

def isControl (text : String) : Bool := controlWords.contains (firstWord text)

/-- A control statement succeeds unless it begins in a way that fails. -/
def controlOutcome (server : Server) (text : String) : Except SqlError Unit :=
  if server.failingControl.any fun start => start.toList.isPrefixOf text.toList then
    .error (ServerFault.error ⟨"08006", "control failed"⟩)
  else .ok ()

end Server

namespace Client

/-- The messages of a batch as the client takes them: every row belongs to the latest description
and has as many columns. -/
def readMessages : (columns : Option (List String)) → List ScriptedMessage →
    Except SqlError (List Message)
  | _, [] => .ok []
  | _, .description columns :: rest => do
      return .description columns :: (← readMessages (some columns) rest)
  | none, .row _ :: _ => .error (.execution .unexpectedMessage)
  | some columns, .row texts :: rest =>
      if texts.length = columns.length then do
        return .row ⟨columns, texts⟩ :: (← readMessages (some columns) rest)
      else .error (.execution .malformedAnswer)
  | columns, .completion :: rest => do
      return .completion :: (← readMessages columns rest)
  | _, .fault fault :: _ => .error fault.error

/-- The count of rows at the end of a tag; a tag without one affects none. -/
def affectedRows (tag : String) : Nat :=
  let word := ((tag.toList.reverse).takeWhile (· != ' ')).reverse
  (Decimal.readNatBelow? (Nat.pow 2 64) word).getD 0

/-- The answer at once, or late when the script says so at this point. -/
def timed {α : Type} (answer : Answer) (point : Delay) (outcome : Except SqlError α) : Reply α :=
  if answer.delay = some point then .late outcome else .ready outcome

/-- Texts end at a null character on their way, so that one inside a text cannot be sent. -/
def isSendable (text : String) : Bool := !text.toList.contains '\x00'

/-- A text that cannot be sent fails before the server sees anything. -/
def sending {α : Type} (text : String) (server : Server) (send : Served Server Seen (Reply α)) :
    Served Server Seen (Reply α) :=
  if isSendable text then send
  else ⟨.ready (.error (.execution .unsendableMessage)), server, [], false⟩

/-- A statement is prepared and its values are bound; then the rest is up to the kind of use. -/
def runPrepared {α : Type} (command : Command) (server : Server)
    (use : Answer → Except SqlError α) : Served Server Seen (Reply α) :=
  sending command.text server <|
  let (answer, server) := server.next
  let parsed := Seen.parse command.text
  let unsent (reply : Reply α) : Served Server Seen (Reply α) := ⟨reply, server, [parsed], false⟩
  if answer.delay = some .prepare then unsent (.late (use answer))
  else
    match answer.prepareFault with
    | some fault => unsent (.ready (.error fault.error))
    | none =>
        let values := command.parameters.map Prod.snd
        if values.length ≠ answer.parameterTypes.length then
          unsent (.ready (.error (.execution
            (.parameterCount answer.parameterTypes.length values.length))))
        else
          match Parameter.encodeAll 0 (values.zip answer.parameterTypes) with
          | .error fault => unsent (.ready (.error (.execution fault)))
          | .ok bytes =>
              let outcome := match answer.bindFault with
                | some fault => .error fault.error
                | none => use answer
              ⟨timed answer .execute outcome, server, [parsed, .bind bytes], false⟩

/-- The count of rows that a statement affects. -/
def countOf (answer : Answer) : Except SqlError Nat :=
  match answer.fault with
  | some fault => .error fault.error
  | none => .ok (affectedRows answer.tag)

/-- How a row arrives. -/
def arrivalOf (columns : List (String × ColumnType)) (values : List (Option Bytes)) : Arrival :=
  if values.length = columns.length then .row (.typed columns values) else .malformedRow

/-- The rows of a statement, the fault that comes after them, and the end. -/
def arrivals (answer : Answer) : List Arrival :=
  answer.rows.map (arrivalOf answer.columns) ++ answer.fault.toList.map .fault ++ [.completion]

def streamOf (answer : Answer) : Except SqlError Cursor := .ok (.stream (arrivals answer))

/-- A text is sent as it is. -/
def runText (text : String) (server : Server) : Served Server Seen (Reply (List Message)) :=
  sending text server <|
  if Server.isControl text then
    ⟨.ready ((server.controlOutcome text).map fun _ => []), server, [.query text], false⟩
  else
    let (answer, server) := server.next
    ⟨timed answer .text (readMessages none answer.messages), server, [.query text], false⟩

/-- A control statement is sent. -/
def control (text : String) (server : Server) : Served Server Seen (Except SqlError Unit) :=
  ⟨server.controlOutcome text, server, [.query text], false⟩

end Client

end QueryTree.Postgres
