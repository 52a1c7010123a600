/-
This file holds the causes of failure and the wording of each one. Faults of a request are found
before anything is sent; the other errors come from running a statement.
-/
import QueryTree.Time.Duration
import QueryTree.Value.Text

namespace QueryTree

/-- What a node's value is read as. -/
inductive Expected where
  | integer
  | boolean
  | text
deriving DecidableEq, Repr

def Expected.words : Expected → String
  | integer => "an integer"
  | boolean => "a boolean"
  | text => "text"

/-- What is wrong with a request. -/
inductive RequestFault where
  | emptyIdentifier
  | wildcardNotLast (identifier : String)
  | emptySegment (identifier : String)
  | badStart (character : Char) (identifier : String)
  | badCharacter (character : Char) (identifier : String)
  | tooMany (name : String)
  | wrongKind (name : String) (expected : Expected) (value : Value)
  | negative (name : String) (value : Int64)
  | unknownFragment (fragment : String) (parent : String)
  | tableMissing (name : String)
  | aliasNotText (column : String) (value : Value)
  | unknownJoin (kind : String)
  | joinWithoutCondition
  | assignmentsMissing (name : String)
  | conditionsMissing (name : String)
  | emptyGroup (name : String)
  | conditionWithChildren (name : String)
  | nullTestNotBoolean (name : String)
  | badDirection (column : String) (value : Value)
  | batchWithParameters
  | stated (message : String)
deriving Inhabited

namespace RequestFault

def message : RequestFault → String
  | emptyIdentifier => "identifier cannot be empty"
  | wildcardNotLast identifier =>
      "'*' must be the last part of identifier '" ++ identifier ++ "'"
  | emptySegment identifier => "empty identifier segment in '" ++ identifier ++ "'"
  | badStart character identifier =>
      "invalid identifier start character '" ++ character.toString ++ "' in '" ++ identifier ++ "'"
  | badCharacter character identifier =>
      "invalid character '" ++ character.toString ++ "' in identifier '" ++ identifier ++ "'"
  | tooMany name => "too many [" ++ name ++ "] nodes"
  | wrongKind name expected value =>
      "[" ++ name ++ "] must be " ++ expected.words ++ ", got " ++ value.kind
  | negative name value =>
      "[" ++ name ++ "] must be non-negative, got " ++ toString value.toInt
  | unknownFragment fragment parent =>
      "unknown fragment [" ++ fragment ++ "] in [" ++ parent ++ "]"
  | tableMissing name => "[" ++ name ++ "] must name a table as its value"
  | aliasNotText column value =>
      "column alias for [" ++ column ++ "] must be text, got " ++ value.kind
  | unknownJoin kind => "unknown join type '" ++ kind ++ "'"
  | joinWithoutCondition => "[join] requires a non-empty [on] node"
  | assignmentsMissing name =>
      "[" ++ name ++ "] requires at least one column in [values]"
  | conditionsMissing name => "[" ++ name ++ "] requires a non-empty [where] node"
  | emptyGroup name => "empty [" ++ name ++ "] group"
  | conditionWithChildren name => "condition [" ++ name ++ "] cannot have children"
  | nullTestNotBoolean name => "[" ++ name ++ "] must be true or false"
  | badDirection column value =>
      "order direction for [" ++ column ++ "] must be 'asc' or 'desc', got " ++ value.shown
  | batchWithParameters => "statements returning multiple result sets cannot take parameters"
  | stated message => message

end RequestFault

/-- Why a backend did not run a statement. A server fault carries the server's code and text. -/
inductive BackendFault where
  | server (code : String) (text : String)
  | parameterCount (expected : Nat) (given : Nat)
  | parameterNotEncodable (index : Nat)
  | unexpectedMessage
  | malformedAnswer
  | unsendableMessage
  | closedConnection
  | stated (message : String)
deriving DecidableEq, Repr, Inhabited

namespace BackendFault

def message : BackendFault → String
  | server _ _ => "db error"
  | parameterCount expected given =>
      "expected " ++ toString expected ++ " parameters but got " ++ toString given
  | parameterNotEncodable index => "error serializing parameter " ++ toString index
  | unexpectedMessage => "unexpected message from server"
  | malformedAnswer => "error parsing response from server"
  | unsendableMessage => "error encoding message to server"
  | closedConnection => "connection closed"
  | stated message => message

end BackendFault

/-- Why a column could not be read. -/
inductive DecodeFault where
  | unsupportedType (name : String)
  | malformedColumn (index : Nat)
  | stated (message : String)
deriving DecidableEq, Repr, Inhabited

namespace DecodeFault

def message : DecodeFault → String
  | unsupportedType name => "unsupported column type " ++ name
  | malformedColumn index => "error deserializing column " ++ toString index
  | stated message => message

end DecodeFault

/-- Why no connection could be used. -/
inductive ConnectionFault where
  | unregistered (scope : String)
  | stated (message : String)
deriving DecidableEq, Repr, Inhabited

namespace ConnectionFault

def message : ConnectionFault → String
  | unregistered scope => "no connection registered as [" ++ scope ++ "]"
  | stated message => message

end ConnectionFault

/-- The failure of a request. -/
inductive SqlError where
  | request (fault : RequestFault)
  | execution (fault : BackendFault)
  | cancelled
  | timeout (limit : Duration)
  | decode (column : String) (fault : DecodeFault)
  | connection (fault : ConnectionFault)
  | unknownOperation (name : String)
deriving Inhabited

namespace SqlError

def message : SqlError → String
  | request fault => "Syntax error: " ++ fault.message
  | execution fault => "Execution error: " ++ fault.message
  | cancelled => "Execution cancelled"
  | timeout limit => "Statement timeout after " ++ limit.text
  | decode column fault => "Decode error on column '" ++ column ++ "': " ++ fault.message
  | connection fault => "Connection error: " ++ fault.message
  | unknownOperation name => "Unknown operation: " ++ name

/-- The request itself is at fault. -/
def isRequest : SqlError → Bool
  | request _ => true
  | _ => false

/-- The backend refused or failed the statement, or did not answer in time. -/
def isExecution : SqlError → Bool
  | execution _ => true
  | timeout _ => true
  | _ => false

def isCancelled : SqlError → Bool
  | cancelled => true
  | _ => false

/-- The code and text of a server fault. -/
def serverFault? : SqlError → Option (String × String)
  | execution (.server code text) => some (code, text)
  | _ => none

end SqlError

end QueryTree
