/-
This file says what becomes of a command: refused, it leaves everything as it was, and accepted, it
is run and logged once, whatever its outcome is.
-/
import QueryTree.Session.Execution

namespace QueryTree.Execution

variable {backend : Backend} {control : Control} {convert : RowConverter backend}
  {target : Target backend} {command : Command} {session : Session backend}

/-- A command that the backend refuses changes nothing. -/
theorem run_refused {error : SqlError}
    (refused : backend.check target.connection command session.state = .error error)
    (cap : Option Nat) (strategy : Strategy) (node : Node) :
    run control convert target command cap strategy node session =
      ⟨⟨node, .error error⟩, [], session⟩ := by
  simp only [run, Action.bind_apply, Action.session, refused]
  rfl

/-- What is left of a node by the outcome of its command. -/
def settled (node : Node) : Except SqlError (Node × Nat) → Finished Node
  | .ok (result, _) => ⟨result, .ok ()⟩
  | .error error => ⟨node.clear, .error error⟩

/-- Of the node itself nothing but its name is left. -/
theorem settled_congr {node other : Node} (named : node.name = other.name)
    (outcome : Except SqlError (Node × Nat)) : settled node outcome = settled other outcome := by
  cases outcome with
  | ok => rfl
  | error error => rw [settled, settled, Node.clear, Node.clear, named]

/-- A command that the backend accepts is run and then logged. -/
theorem run_accepted
    (accepted : backend.check target.connection command session.state = .ok ())
    (cap : Option Nat) (strategy : Strategy) (node : Node) :
    let ran := runStrategy control convert target command cap strategy node.name session
    run control convert target command cap strategy node session =
      ⟨settled node ran.value,
        ran.events ++ [.log (control.entry command (ran.value.map Prod.snd))], ran.session⟩ := by
  simp only [run, Action.bind_apply, Action.session, accepted, List.nil_append, Action.log]
  generalize runStrategy control convert target command cap strategy node.name session = ran
  obtain ⟨error | ⟨result, rows⟩, events, after⟩ := ran
  · simp [settled]
  · simp [settled]

end QueryTree.Execution
