/-
This file compares statements that can be cancelled with the same ones that cannot, call by call. A
cancellation changes nothing but this: it ends a statement before the next call at which the statement
can be suspended, or while the statement waits for the answer to one.
-/
import QueryTree.Proofs.Session.StatementCalls

namespace QueryTree

variable {backend : Backend} {α β γ : Type}

namespace Control

/-- The control of the same statements when they cannot be cancelled. -/
def uninterrupted (control : Control) : Control := { control with cancellable := false }

/-- Whether a call that has been made is overtaken: the operation is cancelled while its answer is
awaited. -/
def overtakes (control : Control) (made : Ran backend (Reply α)) : Bool :=
  !made.value.isReady && control.stops made.session

variable {control : Control} {timed : Bool} {made : Ran backend (Reply α)}

theorem stops_cancelled {session : Session backend} (stops : control.stops session = true) :
    session.cancelled = true :=
  (Bool.and_eq_true_iff.mp stops).2

theorem overtakes_andThen (control : Control) (made : Ran backend (Reply α))
    (next : α → Except SqlError β) :
    control.overtakes (made.map (Reply.andThen next)) = control.overtakes made :=
  congrArg (fun ready => !ready && control.stops made.session) (Reply.andThen_isReady next _)

/-- A call that is overtaken comes to nothing. -/
theorem settled_overtaken (overtaken : control.overtakes made = true) :
    control.settled timed made = .error .cancelled := by
  obtain ⟨waits, stops⟩ := Bool.and_eq_true_iff.mp overtaken
  rw [settled, stops]
  cases reply : made.value with
  | ready => rw [reply] at waits; cases waits
  | paused => rfl
  | late => rfl

/-- Any other call comes to what it would come to anyway. -/
theorem settled_kept (kept : control.overtakes made = false) :
    control.settled timed made = control.uninterrupted.settled timed made := by
  rcases Bool.and_eq_false_iff.mp kept with ready | goesOn
  · rw [settled, settled]
    cases reply : made.value with
    | ready => rfl
    | paused => rw [reply] at ready; cases ready
    | late => rw [reply] at ready; cases ready
  · rw [settled, goesOn]
    rfl

/-- Without a cancellation a reply comes to its answer, or it has run out of time. -/
theorem settled_uninterrupted (control : Control) (timed : Bool) (made : Ran backend (Reply α)) :
    control.uninterrupted.settled timed made = made.value.answer ∨
      ∃ limit, control.settings.statementTimeout = some limit ∧
        control.uninterrupted.settled timed made = .error (.timeout limit) := by
  obtain answered | ⟨stops, -⟩ | late := control.uninterrupted.settled_cases timed made
  · exact .inl answered
  · cases stops
  · exact .inr late

end Control

namespace StatementContext

/-- What a statement does from a stage on when it cannot be cancelled, and what it does when it can. No
call is made once it is cancelled, and a call that is overtaken is its last one; there it fails. The
reply to any other call counts in both, and both end alike where no call is left. -/
inductive Heeds (context : StatementContext backend) (control : Control) : Stage backend →
    Session backend → Ran backend (Except SqlError α) → Ran backend (Except SqlError α) → Prop where
  | ended {stage : Stage backend} {session : Session backend} (value : Except SqlError α) :
      Heeds context control stage session ⟨value, [], session⟩ ⟨value, [], session⟩
  | stopped {stage : Stage backend} {session : Session backend}
      {made : Ran backend (Reply (Stage backend))} {full : Ran backend (Except SqlError α)}
      {rest : List (Event backend)} : context.Awaits stage session made →
      control.stops session = true → full.events = made.events ++ rest →
      Heeds context control stage session full ⟨.error .cancelled, [], session⟩
  | overtaken {stage : Stage backend} {session : Session backend}
      {made : Ran backend (Reply (Stage backend))} {full : Ran backend (Except SqlError α)}
      {rest : List (Event backend)} : context.Awaits stage session made →
      control.stops session = false → control.overtakes made = true →
      full.events = made.events ++ rest →
      Heeds context control stage session full ⟨.error .cancelled, made.events, made.session⟩
  | failed {stage : Stage backend} {session : Session backend}
      {made : Ran backend (Reply (Stage backend))} {error : SqlError} :
      context.Awaits stage session made → control.stops session = false →
      control.overtakes made = false →
      (made.value.answer = .error error ∨
        ∃ limit, control.settings.statementTimeout = some limit ∧ error = .timeout limit) →
      Heeds context control stage session ⟨.error error, made.events, made.session⟩
        ⟨.error error, made.events, made.session⟩
  | answered {stage next : Stage backend} {session : Session backend}
      {made : Ran backend (Reply (Stage backend))} {full cut : Ran backend (Except SqlError α)} :
      context.Awaits stage session made → control.stops session = false →
      control.overtakes made = false → made.value.answer = .ok next →
      Heeds context control next made.session full cut →
      Heeds context control stage session ⟨full.value, made.events ++ full.events, full.session⟩
        ⟨cut.value, made.events ++ cut.events, cut.session⟩
  | converted {row : backend.Row} {after : backend.Cursor} {session : Session backend}
      {columns : List (String × Value)} {full cut : Ran backend (Except SqlError α)} :
      context.convert row = .ok columns → Heeds context control (.reading after) session full cut →
      Heeds context control (.fetched row after) session full cut

variable {context : StatementContext backend} {control : Control}

/-- A statement that can be cancelled does the same as when it cannot, or fails because it has been
cancelled. -/
theorem Heeds.same_or_cancelled {stage : Stage backend} {session : Session backend}
    {full cut : Ran backend (Except SqlError α)}
    (heeds : context.Heeds control stage session full cut) :
    cut = full ∨ cut.value = .error .cancelled ∧ cut.session.cancelled = true := by
  induction heeds with
  | ended => exact .inl rfl
  | stopped _ stops _ => exact .inr ⟨rfl, Control.stops_cancelled stops⟩
  | overtaken _ _ overtaken _ =>
    exact .inr ⟨rfl, Control.stops_cancelled (Bool.and_eq_true_iff.mp overtaken).2⟩
  | failed => exact .inl rfl
  | answered _ _ _ _ _ ih =>
    rcases ih with rfl | cancelled
    · exact .inl rfl
    · exact .inr cancelled
  | converted _ _ ih => exact ih

/-- The calls that can be made at a stage are told apart by what is seen of them. -/
theorem Awaits.unique {stage : Stage backend} {session : Session backend}
    {made other : Ran backend (Reply (Stage backend))} {rest others : List (Event backend)}
    (awaits : context.Awaits stage session made) (otherwise : context.Awaits stage session other)
    (same : made.events ++ rest = other.events ++ others) : made = other ∧ rest = others := by
  cases awaits with
  | execute =>
    cases otherwise with
    | execute => exact ⟨rfl, (List.cons.inj same).2⟩
    | openCursor => cases (List.cons.inj same).1
  | openCursor =>
    cases otherwise with
    | execute => cases (List.cons.inj same).1
    | openCursor => exact ⟨rfl, (List.cons.inj same).2⟩
  | nextRow =>
    cases otherwise with
    | nextRow => exact ⟨rfl, (List.cons.inj same).2⟩
    | nextSet => cases (List.cons.inj same).1
  | nextSet =>
    cases otherwise with
    | nextRow => cases (List.cons.inj same).1
    | nextSet => exact ⟨rfl, (List.cons.inj same).2⟩

theorem Awaits.seen {stage : Stage backend} {session : Session backend}
    {made : Ran backend (Reply (Stage backend))} (awaits : context.Awaits stage session made)
    (before rest : List (Event backend)) : before ++ (made.events ++ rest) ≠ [] := by
  refine List.append_ne_nil_of_right_ne_nil before ?_
  cases awaits <;> exact List.cons_ne_nil _ _

/-- A call does not undo a cancellation. -/
theorem Step.goesOn {stage : Stage backend} {session : Session backend}
    {ran : Ran backend (Except SqlError (Stage backend))} (step : context.Step stage session ran)
    (goesOn : control.stops ran.session = false) : control.stops session = false := by
  cases step with
  | convert => exact goesOn
  | awaited awaits =>
    rcases Bool.and_eq_false_iff.mp goesOn with uncancellable | running
    · exact Bool.and_eq_false_iff.mpr (.inl uncancellable)
    · refine Bool.and_eq_false_iff.mpr (.inr ?_)
      cases awaits <;> exact (Bool.or_eq_false_iff.mp running).1

theorem Calls.goesOn {stage : Stage backend} {session finish : Session backend}
    {events : List (Event backend)} {result : Except SqlError (Stage backend)}
    (calls : context.Calls stage session events result finish)
    (goesOn : control.stops finish = false) : control.stops session = false := by
  induction calls with
  | none => exact goesOn
  | failed step => exact step.goesOn goesOn
  | more step _ _ ih => exact step.goesOn (ih goesOn)

/-- Where the statement makes a call, either the call is overtaken and the last one, or its reply
counts. -/
theorem Heeds.call_cases {stage : Stage backend} {session : Session backend}
    {full cut : Ran backend (Except SqlError α)} {made : Ran backend (Reply (Stage backend))}
    {rest : List (Event backend)} (heeds : context.Heeds control stage session full cut)
    (awaits : context.Awaits stage session made) (goesOn : control.stops session = false)
    (follows : full.events = made.events ++ rest) :
    control.overtakes made = true ∧ cut = ⟨.error .cancelled, made.events, made.session⟩ ∨
      control.overtakes made = false ∧
        (rest = [] ∨ ∃ next, ∃ others short : Ran backend (Except SqlError α),
          made.value.answer = .ok next ∧ others.events = rest ∧
            context.Heeds control next made.session others short ∧
            cut = ⟨short.value, made.events ++ short.events, short.session⟩) := by
  cases heeds with
  | ended => exact absurd follows.symm (awaits.seen [] rest)
  | stopped _ stops =>
    rw [goesOn] at stops
    cases stops
  | overtaken other _ overtaken begins =>
    obtain ⟨rfl, -⟩ := other.unique awaits (begins.symm.trans follows)
    exact .inl ⟨overtaken, rfl⟩
  | @failed _ _ found _ other _ kept =>
    have follows : found.events ++ [] = made.events ++ rest := (List.append_nil _).trans follows
    obtain ⟨rfl, none⟩ := other.unique awaits follows
    exact .inr ⟨kept, .inl none.symm⟩
  | answered other _ kept answered later =>
    obtain ⟨rfl, same⟩ := other.unique awaits follows
    exact .inr ⟨kept, .inr ⟨_, _, _, answered, same, later, rfl⟩⟩
  | converted => cases awaits

/-- Wherever the calls of a statement have got, a call that is overtaken is the last one, and the
statement fails. -/
theorem Heeds.overtaken_last {stage next : Stage backend} {session middle : Session backend}
    {full cut : Ran backend (Except SqlError α)} {made : Ran backend (Reply (Stage backend))}
    {before rest : List (Event backend)} {reached : Except SqlError (Stage backend)}
    (heeds : context.Heeds control stage session full cut)
    (calls : context.Calls stage session before reached middle) (got : reached = .ok next)
    (awaits : context.Awaits next middle made) (goesOn : control.stops middle = false)
    (overtaken : control.overtakes made = true)
    (follows : full.events = before ++ (made.events ++ rest)) :
    cut = ⟨.error .cancelled, before ++ made.events, made.session⟩ := by
  induction calls generalizing full cut with
  | none =>
    cases got
    rcases heeds.call_cases awaits goesOn follows with ⟨-, same⟩ | ⟨kept, -⟩
    · exact same
    · rw [overtaken] at kept
      cases kept
  | failed => cases got
  | more step moved calls ih =>
    have running := calls.goesOn goesOn
    rw [List.append_assoc] at follows
    cases step with
    | awaited begun =>
      rcases heeds.call_cases begun ((Step.awaited begun).goesOn running) follows with
        ⟨stopped, -⟩ | ⟨-, none | ⟨after, others, short, answered, same, later, ended⟩⟩
      · have stops := (Bool.and_eq_true_iff.mp stopped).2
        rw [Ran.map_session, stops] at running
        cases running
      · exact absurd none (awaits.seen _ _)
      · cases answered.symm.trans moved
        rw [ended, ih later got awaits goesOn same]
        simp
    | convert =>
      cases heeds with
      | ended => exact absurd follows.symm (awaits.seen _ _)
      | stopped other => cases other
      | overtaken other => cases other
      | failed other => cases other
      | answered other => cases other
      | converted given later =>
        rw [given] at moved
        cases moved
        exact ih later got awaits goesOn follows

/-- An error is passed on. -/
def Passes (next : Except SqlError α → Action backend (Except SqlError β)) : Prop :=
  ∀ error, next (.error error) = pure (.error error)

theorem Passes.bind {first : Except SqlError α → Action backend (Except SqlError β)}
    {next : Except SqlError β → Action backend (Except SqlError γ)} (begun : Passes first)
    (passes : Passes next) : Passes fun result => first result >>= next := by
  intro error
  dsimp only
  rw [begun, pure_bind, passes]

/-- From a stage on the second action does what the first one does without a cancellation, and heeds
one. -/
def Heeding (context : StatementContext backend) (control : Control) (stage : Stage backend)
    (full cut : Action backend (Except SqlError α)) : Prop :=
  ∀ session, context.Heeds control stage session (full session) (cut session)

namespace Heeding

theorem ended {stage : Stage backend} (value : Except SqlError α) :
    context.Heeding control stage (pure value) (pure value) :=
  fun _ => .ended value

theorem converted {row : backend.Row} {after : backend.Cursor} {columns : List (String × Value)}
    {full cut : Action backend (Except SqlError α)} (given : context.convert row = .ok columns)
    (went : context.Heeding control (.reading after) full cut) :
    context.Heeding control (.fetched row after) full cut :=
  fun session => .converted given (went session)

variable {fullNext cutNext : Except SqlError α → Action backend (Except SqlError β)}

/-- A call at which the statement can be suspended, and what follows where its reply counts. -/
theorem await {stage : Stage backend} {timed : Bool} {call : Action backend (Reply α)}
    {got : α → Except SqlError (Stage backend)}
    (awaits : ∀ session, context.Awaits stage session ((call session).map (Reply.andThen got)))
    (fails : ∀ reply error, Except.bind reply got = .error error →
      fullNext reply = pure (.error error) ∧ cutNext reply = pure (.error error))
    (went : ∀ value next, got value = .ok next →
      context.Heeding control next (fullNext (.ok value)) (cutNext (.ok value))) :
    context.Heeding control stage (control.uninterrupted.await timed call >>= fullNext)
      (control.await timed call >>= cutNext) := by
  intro session
  have sent : control.uninterrupted.stops session = false := rfl
  rw [Action.bind_apply, Action.bind_apply, Control.await_sent sent]
  cases stops : control.stops session with
  | true =>
    rw [control.await_apply, if_pos stops, (fails _ _ rfl).2]
    exact .stopped (awaits session) stops rfl
  | false =>
    have comes (control : Control) := (control.settled_andThen timed (call session) got).symm
    rw [Control.await_sent stops]
    cases overtaken : control.overtakes ((call session).map (Reply.andThen got)) with
    | true =>
      rw [(fails _ _ ((comes control).trans (Control.settled_overtaken overtaken))).2]
      simpa using Heeds.overtaken (awaits session) stops overtaken rfl
    | false =>
      have kept : control.settled timed (call session) = _ :=
        Control.settled_kept ((control.overtakes_andThen _ got).symm.trans overtaken)
      rw [kept]
      obtain answered | ⟨limit, limited, late⟩ := control.settled_uninterrupted timed
        ((call session).map (Reply.andThen got))
      · cases reached : (control.uninterrupted.settled timed (call session)).bind got with
        | error error =>
          obtain ⟨fullFails, cutFails⟩ := fails _ _ reached
          rw [fullFails, cutFails]
          simpa using Heeds.failed (awaits session) stops overtaken
            (.inl (answered.symm.trans ((comes _).symm.trans reached)))
        | ok next =>
          have answered := answered.symm.trans ((comes _).symm.trans reached)
          cases settled : control.uninterrupted.settled timed (call session) with
          | error error =>
            rw [settled] at reached
            cases reached
          | ok value =>
            rw [settled] at reached
            exact .answered (awaits session) stops overtaken answered
              (went value next reached (call session).session)
      · obtain ⟨fullFails, cutFails⟩ := fails _ _ ((comes _).trans late)
        rw [fullFails, cutFails]
        simpa using Heeds.failed (awaits session) stops overtaken (.inr ⟨limit, limited, rfl⟩)

/-- A result set is read, and what follows it is done from the cursor behind it on. -/
theorem readSet {cursor : backend.Cursor} (cap : Option Nat)
    {fullNext cutNext : Except SqlError (Rows.SetRead backend cursor) →
      Action backend (Except SqlError β)}
    (fullPasses : Passes fullNext) (cutPasses : Passes cutNext)
    (went : ∀ read, context.Heeding control (.reading read.after) (fullNext (.ok read))
      (cutNext (.ok read))) :
    context.Heeding control (.reading cursor)
      (Rows.readSet control.uninterrupted context.convert context.target.connection cap cursor >>=
        fullNext)
      (Rows.readSet control context.convert context.target.connection cap cursor >>= cutNext) := by
  -- The induction is on the rows of the cursor; what follows a row is part of what follows the set.
  induction measured : backend.size cursor using Nat.strongRecOn generalizing cap cursor with
  | ind bound ih =>
    rw [Rows.readSet, Rows.readSet]
    split
    · rw [pure_bind, pure_bind]
      exact went ⟨[], cursor, Nat.le_refl _⟩
    · rw [bind_assoc, bind_assoc]
      refine await (fun session => .nextRow cursor session) ?_ ?_
      · rintro (_ | ⟨row, after, smaller⟩ | ⟨after, noLarger⟩ | ⟨error, after⟩) _ fails <;>
          cases fails
        all_goals exact ⟨by rw [pure_bind, fullPasses], by rw [pure_bind, cutPasses]⟩
      · rintro (⟨row, after, smaller⟩ | ⟨after, noLarger⟩ | ⟨error, after⟩) _ returned <;>
          cases returned
        · dsimp only
          cases given : context.convert row with
          | error error =>
            rw [pure_bind, pure_bind, fullPasses, cutPasses]
            exact ended _
          | ok columns =>
            rw [bind_assoc, bind_assoc]
            refine converted given (ih _ (measured ▸ smaller) (cap.map (· - 1))
              (.bind (fun _ => rfl) fullPasses) (.bind (fun _ => rfl) cutPasses) (fun rest => ?_) rfl)
            rw [pure_bind, pure_bind]
            exact went ⟨rowNode columns :: rest.rows, rest.after, _⟩
        · rw [pure_bind, pure_bind]
          exact went ⟨[], after, noLarger⟩

/-- All result sets are read, and what follows them is done from the end on. -/
theorem readSets (cap : Option Nat) (cursor : backend.Cursor)
    {fullNext cutNext : Except SqlError (List (List Node)) → Action backend (Except SqlError β)}
    (fullPasses : Passes fullNext) (cutPasses : Passes cutNext)
    (went : ∀ sets, context.Heeding control .finished (fullNext (.ok sets)) (cutNext (.ok sets))) :
    context.Heeding control (.reading cursor)
      (Rows.readSets control.uninterrupted context.convert context.target.connection cap cursor >>=
        fullNext)
      (Rows.readSets control context.convert context.target.connection cap cursor >>= cutNext) := by
  induction measured : backend.size cursor using Nat.strongRecOn
    generalizing cursor fullNext cutNext with
  | ind bound ih =>
    rw [Rows.readSets, Rows.readSets, bind_assoc, bind_assoc]
    refine readSet cap (.bind (fun _ => rfl) fullPasses) (.bind (fun _ => rfl) cutPasses) ?_
    rintro ⟨rows, after, noLarger⟩
    rw [bind_assoc, bind_assoc]
    refine await (fun session => .nextSet after session) ?_ ?_
    · rintro (_ | ⟨next, smaller⟩ | ⟨next⟩ | ⟨error, next⟩) _ fails <;> cases fails
      all_goals exact ⟨by rw [pure_bind, fullPasses], by rw [pure_bind, cutPasses]⟩
    · rintro (⟨next, smaller⟩ | ⟨next⟩ | ⟨error, next⟩) _ returned <;> cases returned
      · have shrinks : backend.size next < bound := by omega
        dsimp only
        rw [bind_assoc, bind_assoc]
        refine ih _ shrinks next (.bind (fun _ => rfl) fullPasses) (.bind (fun _ => rfl) cutPasses)
          (fun others => ?_) rfl
        rw [pure_bind, pure_bind]
        exact went _
      · rw [pure_bind, pure_bind]
        exact went _

/-- A cursor is read, and what follows it is done from wherever the cursor has got. -/
theorem materialize (multiple : Bool) (cap : Option Nat) (cursor : backend.Cursor)
    {fullNext cutNext : Except SqlError (List Node × Nat) → Action backend (Except SqlError β)}
    (fullPasses : Passes fullNext) (cutPasses : Passes cutNext)
    (went : ∀ stage given, context.Heeding control stage (fullNext (.ok given))
      (cutNext (.ok given))) :
    context.Heeding control (.reading cursor)
      (Rows.materialize control.uninterrupted context.convert context.target.connection multiple cap
        cursor >>= fullNext)
      (Rows.materialize control context.convert context.target.connection multiple cap cursor >>=
        cutNext) := by
  unfold Rows.materialize
  split
  · split
    · rw [bind_assoc, bind_assoc]
      refine readSets cap cursor (.bind (fun _ => rfl) fullPasses)
        (.bind (fun _ => rfl) cutPasses) fun sets => ?_
      rw [pure_bind, pure_bind]
      exact went _ _
    · rw [pure_bind, pure_bind]
      exact went _ _
  · rw [bind_assoc, bind_assoc]
    refine readSet cap (.bind (fun _ => rfl) fullPasses) (.bind (fun _ => rfl) cutPasses)
      fun read => ?_
    rw [pure_bind, pure_bind]
    exact went _ _

theorem readScalar (cursor : backend.Cursor)
    {fullNext cutNext : Except SqlError (Value × Nat) → Action backend (Except SqlError β)}
    (fullPasses : Passes fullNext) (cutPasses : Passes cutNext)
    (went : ∀ stage given, context.Heeding control stage (fullNext (.ok given))
      (cutNext (.ok given))) :
    context.Heeding control (.reading cursor)
      (Execution.readScalar control.uninterrupted context.convert context.target.connection cursor >>=
        fullNext)
      (Execution.readScalar control context.convert context.target.connection cursor >>= cutNext) := by
  unfold Execution.readScalar
  rw [bind_assoc, bind_assoc]
  refine await (fun session => .nextRow cursor session) ?_ ?_
  · rintro (_ | ⟨row, after, smaller⟩ | ⟨after, noLarger⟩ | ⟨error, after⟩) _ fails <;>
      cases fails
    all_goals exact ⟨by rw [pure_bind, fullPasses], by rw [pure_bind, cutPasses]⟩
  · rintro (⟨row, after, smaller⟩ | ⟨after, noLarger⟩ | ⟨error, after⟩) _ returned <;>
      cases returned
    · dsimp only
      cases given : context.convert row with
      | error error =>
        rw [pure_bind, pure_bind, fullPasses, cutPasses]
        exact ended _
      | ok columns =>
        rw [pure_bind, pure_bind]
        exact converted given (went _ _)
    · rw [pure_bind, pure_bind]
      exact went _ _

/-- Statements that can be cancelled do what those do that cannot, and heed a cancellation. -/
theorem runStrategy (context : StatementContext backend) (control : Control) (cap : Option Nat)
    (strategy : Strategy) (name : String) :
    context.Heeding control .ready
      (Execution.runStrategy control.uninterrupted context.convert context.target context.command cap
        strategy name)
      (Execution.runStrategy control context.convert context.target context.command cap strategy
        name) := by
  cases strategy with
  | nonQuery =>
    refine await (fun session => .execute session) ?_ fun affected _ _ => ended _
    rintro (_ | affected) _ fails <;> cases fails
    exact ⟨rfl, rfl⟩
  | scalar =>
    refine await (fun session => .openCursor session) ?_ ?_
    · rintro (_ | cursor) _ fails <;> cases fails
      exact ⟨rfl, rfl⟩
    · rintro cursor _ ⟨⟩
      exact readScalar cursor (fun _ => rfl) (fun _ => rfl) fun _ _ => ended _
  | rows multiple =>
    refine await (fun session => .openCursor session) ?_ ?_
    · rintro (_ | cursor) _ fails <;> cases fails
      exact ⟨rfl, rfl⟩
    · rintro cursor _ ⟨⟩
      exact materialize multiple cap cursor (fun _ => rfl) (fun _ => rfl) fun _ _ => ended _

end Heeding

end StatementContext

end QueryTree
