/-
This file holds the settings of an engine and the part of a statement's text that is logged.
-/
import QueryTree.Statement.Tail
import QueryTree.Time.Duration

namespace QueryTree

/-- A cut in a text that goes back from a byte until it stands between two characters. -/
def cutBack (text : String) : (byte : Nat) → text.Pos
  | 0 => text.startPos
  | byte + 1 =>
      if valid : (String.Pos.Raw.mk (byte + 1)).IsValid text then ⟨⟨byte + 1⟩, valid⟩
      else cutBack text byte

/-- The longest beginning of a text that takes at most so many bytes in UTF-8. -/
def truncated (limit : Nat) (text : String) : String :=
  if text.utf8ByteSize ≤ limit then text else (text.sliceTo (cutBack text limit)).copy

structure Settings where
  dialect : Dialect
  statementTimeout : Option Duration
  slowThreshold : Option Duration
  logsText : Bool
  maxLoggedBytes : Option Nat

namespace Settings

/-- Statements have no time limit, none counts as slow, and the beginning of each one is logged. -/
def standard : Settings where
  dialect := .postgres
  statementTimeout := none
  slowThreshold := none
  logsText := true
  maxLoggedBytes := some 200

/-- The part of a statement's text that is logged. -/
def loggedText (settings : Settings) (text : String) : String :=
  if settings.logsText then
    match settings.maxLoggedBytes with
    | some limit => truncated limit text
    | none => text
  else ""

/-- Whether a statement that took so long counts as slow. -/
def isSlow (settings : Settings) (elapsed : Duration) : Bool :=
  settings.slowThreshold.any fun threshold => threshold.nanoseconds ≤ elapsed.nanoseconds

end Settings

end QueryTree
