/-
This file uses a connection without an engine: transactions are held in numbered slots, and there is
one cursor at a time.
-/
import QueryTree.Session.Action
import QueryTree.Session.Control

namespace QueryTree

/-- A direct use of a connection. -/
inductive DirectStep where
  | begin (parent : Option Nat)
  | commit (slot : Nat)
  | rollback (slot : Nat)
  | abandon (slot : Nat)
  | execute (command : Command) (slot : Option Nat)
  | openCursor (command : Command) (slot : Option Nat)
  | check (command : Command)
  | nextRow
  | nextSet
  | hasSet

/-- What a direct use gives. -/
inductive DirectAnswer where
  | nothing
  | number (value : Nat)
  | flag (value : Bool)
  | columns (columns : List (String × Value))
  | endOfSet

namespace Direct

variable {backend : Backend}

/-- The transactions that have been begun, those no longer open being missing, and the cursor. -/
structure Holdings (backend : Backend) where
  slots : List (Option backend.Transaction)
  cursor : Option backend.Cursor

namespace Holdings

def none : Holdings backend := ⟨[], .none⟩

/-- The transaction in a slot. -/
def transaction? (holdings : Holdings backend) (slot : Option Nat) : Option backend.Transaction := do
  let slot ← slot
  (← holdings.slots[slot]?)

/-- The slot is emptied. -/
def release (holdings : Holdings backend) (slot : Nat) : Holdings backend :=
  { holdings with slots := holdings.slots.set slot .none }

end Holdings

/-- A transaction that is neither committed nor rolled back is told of, where a backend does so. -/
def abandon (transaction : Option backend.Transaction) : Action backend Unit :=
  match transaction with
  | some transaction =>
      if backend.warnsOfAbandoned then Action.log (.abandoned (backend.savepointName transaction))
      else pure ()
  | none => pure ()

/-- A call without any limit of time. -/
def unlimited {α : Type} (reply : Reply α) : Except SqlError α := reply.settle false none

/-- A step on a connection. -/
def perform (connection : Nat) (holdings : Holdings backend) :
    DirectStep → Action backend (Except SqlError DirectAnswer × Holdings backend)
  | .begin parent => do
      match ← Action.begin connection (holdings.transaction? parent) with
      | .error error => return (.error error, holdings)
      | .ok transaction =>
          return (.ok (.number holdings.slots.length),
            { holdings with slots := holdings.slots ++ [some transaction] })
  | .commit slot => do
      match holdings.transaction? slot with
      | none => return (.ok .nothing, holdings)
      | some transaction =>
          let outcome ← Action.commit connection transaction
          return (outcome.map fun _ => .nothing, holdings.release slot)
  | .rollback slot => do
      match holdings.transaction? slot with
      | none => return (.ok .nothing, holdings)
      | some transaction =>
          let outcome ← Action.rollback connection transaction
          return (outcome.map fun _ => .nothing, holdings.release slot)
  | .abandon slot => do
      abandon (holdings.transaction? slot)
      return (.ok .nothing, holdings.release slot)
  | .execute command slot => do
      let reply ← Action.execute connection command (holdings.transaction? slot)
      return ((unlimited reply).map .number, holdings)
  | .openCursor command slot => do
      let reply ← Action.openCursor connection command (holdings.transaction? slot)
      match unlimited reply with
      | .error error => return (.error error, holdings)
      | .ok cursor => return (.ok .nothing, { holdings with cursor := some cursor })
  | .check command => do
      let outcome := backend.check connection command (← Action.session).state
      return (outcome.map fun _ => .nothing, holdings)
  | .nextRow => do
      match holdings.cursor with
      | none => return (.ok .endOfSet, holdings)
      | some cursor =>
          match unlimited (← Action.nextRow connection cursor) with
          | .error error => return (.error error, holdings)
          | .ok (.failed error after) =>
              return (.error error, { holdings with cursor := some after })
          | .ok (.exhausted after _) =>
              return (.ok .endOfSet, { holdings with cursor := some after })
          | .ok (.row row after _) =>
              return ((backend.columns row).map .columns, { holdings with cursor := some after })
  | .nextSet => do
      match holdings.cursor with
      | none => return (.ok (.flag false), holdings)
      | some cursor =>
          match unlimited (← Action.nextSet connection cursor) with
          | .error error => return (.error error, holdings)
          | .ok (.failed error after) =>
              return (.error error, { holdings with cursor := some after })
          | .ok (.finished after) =>
              return (.ok (.flag false), { holdings with cursor := some after })
          | .ok (.further after _) =>
              return (.ok (.flag true), { holdings with cursor := some after })
  | .hasSet => return (.ok (.flag (holdings.cursor.any backend.hasSet)), holdings)

/-- The answers to steps, each with the events of its step; and the events at the end, when the
transactions that are left are let go. -/
def performAll (connection : Nat) (session : Session backend) (holdings : Holdings backend) :
    List DirectStep →
      List (Except SqlError DirectAnswer × List (Event backend)) × List (Event backend)
  | [] => ([], ((holdings.slots.forM abandon) session).events)
  | step :: rest =>
      let ran := perform connection holdings step session
      let (answer, holdings) := ran.value
      let (answers, last) := performAll connection ran.session holdings rest
      ((answer, ran.events) :: answers, last)

end Direct

end QueryTree
