import ExScript.Engine.Builtins
import ExScript.Proofs.WorldTables

/-!
Running the actions of an engine: one equation for each way to put actions together and for each walk
behind a pull, and what is left when a run has ended.
-/

namespace ExScript.Engine

variable {N α β : Type}

abbrev Ended (N α : Type) := EStateM.Result Stop (State N) α

def after (action : Run N α) (state : State N) : State N :=
  match action.run state with
  | .ok _ state => state
  | .error _ state => state

theorem after_ok {action : Run N α} {state last : State N} {value : α}
    (ended : action.run state = .ok value last) : after action state = last := by
  simp [after, ended]

theorem after_error {action : Run N α} {state last : State N} {stop : Stop}
    (ended : action.run state = .error stop last) : after action state = last := by
  simp [after, ended]

theorem run_bind_ok {action : Run N α} {next : α → Run N β} {state last : State N} {value : α}
    (ended : action.run state = .ok value last) :
    (action >>= next).run state = (next value).run last := by
  rw [EStateM.run_bind, ended]

theorem run_bind_error {action : Run N α} {next : α → Run N β} {state last : State N} {stop : Stop}
    (ended : action.run state = .error stop last) :
    (action >>= next).run state = .error stop last := by
  rw [EStateM.run_bind, ended]

theorem run_get_bind (next : State N → Run N α) (state : State N) :
    (get >>= next).run state = (next state).run state := rfl

/-- What one action makes true of the state, and the one behind it keeps, holds in the end. -/
theorem after_bind (P : State N → Prop) {action : Run N α} {next : α → Run N β} {state : State N}
    (first : P (after action state))
    (second : ∀ value last, P last → P (after (next value) last)) :
    P (after (action >>= next) state) := by
  unfold after at first second ⊢
  rw [EStateM.run_bind]
  cases ended : action.run state with
  | ok value last =>
      rw [ended] at first
      exact second value last first
  | error stop last =>
      rw [ended] at first
      exact first

@[simp] theorem run_raise (fault : Fault) (state : State N) :
    (raise fault : Run N α).run state = .error (.fault fault) state := rfl

@[simp] theorem run_exhausted (state : State N) :
    (throw .exhausted : Run N α).run state = .error .exhausted state := rfl

@[simp] theorem run_onSession (change : Session → Session) (state : State N) :
    (onSession change).run state = .ok ⟨⟩ { state with session := change state.session } := rfl

theorem run_attempt (action : Run N α) (state : State N) :
    (attempt action).run state =
      match action.run state with
      | .ok value last => .ok (.ok value) last
      | .error (.fault fault) last => .ok (.error fault) last
      | .error .exhausted last => .error .exhausted last := rfl

theorem after_attempt (action : Run N α) (state : State N) :
    after (attempt action) state = after action state := by
  unfold after
  rw [run_attempt]
  cases action.run state with
  | ok value last => rfl
  | error stop last => cases stop <;> rfl

theorem after_restoring (restore : State N → State N → State N) (action : Run N α)
    (state : State N) :
    after (restoring restore action) state = restore state (after action state) := by
  unfold after restoring EStateM.run
  dsimp only
  cases action state <;> rfl

theorem run_withStream (stream : Stream (Handler N)) (action : Run N α) (state : State N) :
    (withStream stream action).run state =
      match action.run { state with stream := some stream } with
      | .ok value last => .ok value { last with stream := state.stream }
      | .error stop last => .error stop { last with stream := state.stream } := rfl

theorem run_withoutStream (action : Run N α) (state : State N) :
    (withoutStream action).run state =
      match action.run { state with stream := none } with
      | .ok value last => .ok value { last with stream := state.stream }
      | .error stop last => .error stop { last with stream := state.stream } := rfl

theorem run_withScript (path : String) (action : Run N α) (state : State N) :
    (withScript path action).run state =
      match action.run
        { state with session := state.session.enter path } with
      | .ok value last =>
          .ok value { last with session := last.session.resume state.session }
      | .error stop last =>
          .error stop
            { last with session := last.session.resume state.session } := rfl

theorem run_pull {state : State N} {stream : Stream (Handler N)}
    (current : state.stream = some stream) :
    pull.run state =
      match stream.pull state.registry state.session with
      | ⟨.ok directive, next, session⟩ =>
          .ok directive { state with stream := some next, session }
      | ⟨.error fault, next, session⟩ =>
          .error (.fault fault) { state with stream := some next, session } := by
  unfold pull
  rw [run_get_bind]
  rw [current]
  dsimp only
  rw [EStateM.run_bind, EStateM.run_set]
  obtain ⟨result, next, session⟩ := stream.pull state.registry state.session
  cases result <;> rfl

theorem run_pull_none {state : State N} (idle : state.stream = none) :
    pull.run state = .error (.fault (noStream "pull")) state := by
  unfold pull
  rw [run_get_bind]
  rw [idle]
  rfl

theorem after_pull {state : State N} {stream : Stream (Handler N)}
    (current : state.stream = some stream) :
    after pull state =
      { state with
        stream := some (stream.pull state.registry state.session).stream
        session := (stream.pull state.registry state.session).session } := by
  unfold after
  rw [run_pull current]
  obtain ⟨result, next, session⟩ := stream.pull state.registry state.session
  cases result <;> rfl

theorem run_closeStream_none {state : State N} (idle : state.stream = none) :
    closeStream.run state = .error (.fault (noStream "close")) state := by
  unfold closeStream
  rw [run_get_bind]
  rw [idle]
  rfl

theorem run_closeStream {state : State N} {stream : Stream (Handler N)}
    (current : state.stream = some stream) :
    closeStream.run state = .ok ⟨⟩ { state with stream := some stream.close } := by
  unfold closeStream
  rw [run_get_bind]
  rw [current]
  rfl

def State.noted (state : State N) (level : Level) (text : String) : State N :=
  { state with session := state.session.note level text }

@[simp] theorem run_note (level : Level) (text : String) (state : State N) :
    (note level text).run state = .ok ⟨⟩ (state.noted level text) := rfl

theorem run_finished {state : State N} {stream : Stream (Handler N)}
    (current : state.stream = some stream) :
    (do closeStream; pure .finish : Run N Flow).run state =
      .ok .finish { state with stream := some stream.close } := by
  rw [EStateM.run_bind]
  unfold closeStream
  rw [run_get_bind]
  rw [current]
  rfl

theorem run_turns_none {state : State N} (gone : state.stream = none) :
    turns.run state = .ok 1 state := by
  unfold turns
  rw [run_get_bind]
  rw [gone]
  rfl

theorem run_turns_some {state : State N} {stream : Stream (Handler N)}
    (current : state.stream = some stream) :
    turns.run state = .ok (stream.remaining + 1) state := by
  unfold turns
  rw [run_get_bind]
  rw [current]
  rfl

theorem run_turns (state : State N) : ∃ budget, turns.run state = .ok (budget + 1) state := by
  cases current : state.stream with
  | none => exact ⟨0, run_turns_none current⟩
  | some stream => exact ⟨stream.remaining, run_turns_some current⟩

theorem run_logged (name : String) (call : Call) (action : Run N Outcome) (state : State N) :
    (logged name call action).run state =
      match action.run (state.noted .debug (startRow name call)) with
      | .ok outcome last => .ok outcome (last.noted .debug (endRow name))
      | .error (.fault fault) last =>
          .error (.fault fault) ((last.noted .debug (errorRow name)).noted .debug (endRow name))
      | .error .exhausted last => .error .exhausted last := by
  unfold logged
  rw [EStateM.run_bind, run_note]
  dsimp only
  rw [EStateM.run_bind, run_attempt]
  cases action.run (state.noted .debug (startRow name call)) with
  | ok outcome last => rfl
  | error stop last => cases stop <;> rfl

theorem run_report (path : Option String) (directive : Directive (Handler N)) (fault : Fault)
    (state : State N) :
    (report path directive fault).run state =
      .ok ⟨⟩ (after (report path directive fault) state) := by
  cases path <;> rfl

theorem run_dispatchBy (execute : Execute N) (context : Context)
    (directive : Directive (Handler N)) (state : State N) :
    (dispatchBy execute context directive).run state =
      match (execute context directive.command directive.call).run state with
      | .ok outcome last => .ok outcome.next last
      | .error .exhausted last => .error .exhausted last
      | .error (.fault fault) last =>
          match structural? fault with
          | some error =>
              .error (.fault (.script (attributed context.path directive.line error))) last
          | none => .ok .goOn (after (report context.path directive fault) last) := by
  unfold dispatchBy
  rw [EStateM.run_bind, run_attempt]
  cases (execute context directive.command directive.call).run state with
  | ok outcome last => rfl
  | error stop last =>
      cases stop with
      | exhausted => rfl
      | fault fault =>
          dsimp only
          cases structural? fault with
          | some error => rfl
          | none =>
              dsimp only
              rw [EStateM.run_bind, run_report]
              rfl

theorem dispatchTo_succ (depth : Nat) :
    (dispatchTo (depth + 1) : Dispatch N) = dispatchBy (executeBy (dispatchTo depth)) := rfl

theorem run_onWorld (action : Expr.Outside → Expr.World → Except ScriptError α × Expr.World)
    (state : State N) :
    ∃ session, (onWorld action).run state = .ok (action state.outside state.world).1
      { state with world := (action state.outside state.world).2.flushed, session } :=
  ⟨_, rfl⟩

section Walks

variable {state last : State N} {directive : Directive (Handler N)}

theorem chooseArm_pulled (pulled : pull.run state = .ok (some directive) last)
    (scope : Expr.Scope) (budget : Nat) :
    (chooseArm scope (budget + 1) : Run N Chosen).run state =
      (match directive.mark with
        | .opens => do
            skipBlock false
            chooseArm scope budget
        | .elseif => do
            if ← holds scope directive.args (some (directive.line : Int)) then pure (.arm false)
            else chooseArm scope budget
        | .fallback => pure (.arm true)
        | .closes => pure .none
        | _ => chooseArm scope budget : Run N Chosen).run last := by
  conv => lhs; unfold chooseArm
  exact run_bind_ok pulled

theorem runArm_pulled (pulled : pull.run state = .ok (some directive) last)
    (dispatch : Dispatch N) (context : Context) (isFallback : Bool) (budget : Nat) :
    (runArm dispatch context isFallback (budget + 1)).run state =
      (match directive.mark with
        | .elseif =>
            if isFallback then raise (malformed "E584" directive.line)
            else do
              skipBlock false
              pure .goOn
        | .fallback =>
            if isFallback then raise (malformed "E583" directive.line)
            else do
              skipBlock true
              pure .goOn
        | .closes => pure .goOn
        | .finish => do
            note .debug ("conditional.finish line=" ++ toString directive.line)
            closeStream
            pure .finish
        | _ => do
            match ← dispatch context directive with
            | .finish => do
                closeStream
                pure .finish
            | .goOn => runArm dispatch context isFallback budget : Run N Flow).run last := by
  conv => lhs; unfold runArm
  exact run_bind_ok pulled

theorem runStream_pulled (pulled : pull.run state = .ok (some directive) last)
    (dispatch : Dispatch N) (context : Context) (budget : Nat) :
    (runStream dispatch context (budget + 1)).run state =
      (if directive.name = "finish" then do
          closeStream
          pure .finish
        else do
          match ← dispatch context directive with
          | .finish => do
              closeStream
              pure .finish
          | .goOn => runStream dispatch context budget : Run N Flow).run last := by
  conv => lhs; unfold runStream
  exact run_bind_ok pulled

theorem runStream_nothing {dispatch : Dispatch N} {context : Context}
    (pulled : pull.run state = .ok none last) (budget : Nat) :
    (runStream dispatch context (budget + 1)).run state = .ok .goOn last := by
  unfold runStream
  exact run_bind_ok pulled

theorem runFirst_pulled (pulled : pull.run state = .ok (some directive) last)
    (dispatch : Dispatch N) :
    (runFirst dispatch).run state = (dispatch {} directive).run last := by
  unfold runFirst
  exact run_bind_ok pulled

end Walks

end ExScript.Engine
