/-
This file holds the points at which a running statement can be cancelled or run out of time.
-/
import QueryTree.Session.Action
import QueryTree.Settings

namespace QueryTree

/-- How statements run: the name of the operation for the log, whether a cancellation of the program
concerns it, and the settings. -/
structure Control where
  operation : String
  cancellable : Bool
  settings : Settings

namespace Reply

/-- What becomes of an answer: one that is there at once stands; an interruption wins over any other
one, and a limit over a late one. -/
def settle {α : Type} (interrupted : Bool) (limit : Option Duration) :
    Reply α → Except SqlError α
  | ready answer => answer
  | paused answer => if interrupted then .error .cancelled else answer
  | late answer =>
      if interrupted then .error .cancelled
      else
        match limit with
        | some duration => .error (.timeout duration)
        | none => answer

end Reply

namespace Control

variable {backend : Backend} {α : Type}

/-- Whether the operation has been cancelled. -/
def interrupted (control : Control) : Action backend Bool := do
  return control.cancellable && (← Action.session).cancelled

/-- The time within which a call has to be answered, if the time of the call is limited. -/
def limit (control : Control) (timed : Bool) : Option Duration :=
  if timed then control.settings.statementTimeout else none

/-- A call that is not made once the operation has been cancelled, and whose answer may come too
late. -/
def await (control : Control) (timed : Bool) (call : Action backend (Reply α)) :
    Action backend (Except SqlError α) := do
  if ← control.interrupted then return .error .cancelled
  else
    let reply ← call
    return reply.settle (← control.interrupted) (control.limit timed)

/-- The entry that the log gets for a command. No time passes while a statement runs. -/
def entry (control : Control) (command : Command) (outcome : Except SqlError Nat) : LogEntry :=
  let text := control.settings.loggedText command.text
  match outcome with
  | .ok rows =>
      .executed (control.settings.isSlow ⟨0⟩) control.operation command.parameters.length rows text
  | .error .cancelled => .cancelled control.operation text
  | .error error => .failed control.operation command.parameters.length text error

end Control

end QueryTree
