import ExScript.Proofs.Running

/-!
Runs on a stream that tell what they meet there: the directives that they pull and those that are
dispatched, the conditions that are judged, the end of the stream, and where the structure of the
blocks breaks, with all that was shown by then. Apart from that they are the runs of the engine.
What commands do on streams of their own is not told.
-/

namespace ExScript.Engine

variable {N α β : Type}

inductive Event (N : Type) where
  | met (directive : Directive (Handler N))
  | dispatched (directive : Directive (Handler N))
  | judged (scope : Expr.Scope) (condition : String)
  | ended
  | broke (code : String) (shown : List Message)

/-- What is met, in its order, and how the run ends. -/
def Course (N α : Type) :=
  State N → List (Event N) × Ended N α

namespace Course

def onward (events : List (Event N)) (next : α → Course N β) :
    Ended N α → List (Event N) × Ended N β
  | .ok value last => (events ++ (next value last).1, (next value last).2)
  | .error stop last => (events, .error stop last)

instance : Monad (Course N) where
  pure value := fun state => ([], .ok value state)
  bind first next := fun state => onward (first state).1 next (first state).2

def silent (action : Run N α) : Course N α :=
  fun state => ([], action.run state)

def meet (event : Event N) : Course N Unit :=
  fun state => ([event], .ok ⟨⟩ state)

/-- An action that breaks the structure if it fails. -/
def breaking (code : String) (action : Run N α) : Course N α := fun state =>
  match action.run state with
  | .ok value last => ([], .ok value last)
  | .error (.fault fault) last =>
      ([.broke code last.session.channel.history.toList], .error (.fault fault) last)
  | .error .exhausted last => ([], .error .exhausted last)

def under (enter : State N → State N) (wrap : Run N α → Run N β) (inner : Course N α) :
    Course N β := fun state =>
  ((inner (enter state)).1, (wrap fun _ => (inner (enter state)).2).run state)

def pull : Course N (Option (Directive (Handler N))) := do
  match ← silent Engine.pull with
  | none => do
      meet .ended
      pure none
  | some directive => do
      meet (.met directive)
      pure (some directive)

def holds (scope : Expr.Scope) (condition : String) (line : Option Int) : Course N Bool := do
  meet (.judged scope condition)
  breaking "E15" (Engine.holds scope condition line)

instance : Telling N (Course N) where
  act := silent
  pull := pull
  holds := holds
  missingEnd := breaking "E171" (raise Engine.missingEnd)
  malformed code line := breaking code (raise (Engine.malformed code line))

def finished : Course N Flow :=
  silent do
    closeStream
    pure .finish

/-- The block is on the current stream; on one that is opened for it nothing is told. -/
def runIf (dispatch : Context → Directive (Handler N) → Course N Flow) (inner : Dispatch N)
    (context : Context) (condition : String) : Course N Flow :=
  fun state =>
    if state.stream.isSome then runBlock dispatch context condition state
    else silent (Engine.runIf openPrompted inner context condition) state

end Course

def Builtin.stray? : Builtin → Option String
  | .elseifArm => some "E582"
  | .elseArm => some "E581"
  | .endif => some "E580"
  | _ => none

namespace Course

def execute (dispatch : Context → Directive (Handler N) → Course N Flow) (inner : Dispatch N)
    (context : Context) (directive : Directive (Handler N)) : Course N Outcome :=
  match directive.command.handler with
  | .builtin .ifBlock => do
      let flow ← runIf dispatch inner context directive.args
      pure (.flow flow)
  | .builtin builtin =>
      match builtin.stray? with
      | some code => breaking code (runBuiltin inner context directive.call builtin)
      | none => silent (runBuiltin inner context directive.call builtin)
  | .host program => silent (interpret inner context (program directive.call))

def contain (context : Context) (directive : Directive (Handler N)) (action : Run N Outcome) :
    Run N Flow :=
  dispatchBy (fun _ _ _ => logged directive.name directive.call action) context directive

def dispatchTo : (depth : Nat) → Context → Directive (Handler N) → Course N Flow
  | 0, _, _ => silent (throw .exhausted)
  | depth + 1, context, directive => do
      meet (.dispatched directive)
      under (·.noted .debug (startRow directive.name directive.call)) (contain context directive)
        (execute (dispatchTo depth) (Engine.dispatchTo depth) context directive)

theorem dispatchTo_contain (depth : Nat) (context : Context) (directive : Directive (Handler N)) :
    Engine.dispatchTo (depth + 1) context directive = contain context directive
      (match directive.command.handler with
        | .builtin builtin =>
            runBuiltin (Engine.dispatchTo depth) context directive.call builtin
        | .host program =>
            interpret (Engine.dispatchTo depth) context (program directive.call)) := by
  rw [dispatchTo_succ]
  unfold contain dispatchBy executeBy
  rfl

theorem run_contain (context : Context) (directive : Directive (Handler N))
    {action other : Run N Outcome} {state : State N}
    (same : action.run (state.noted .debug (startRow directive.name directive.call)) =
      other.run (state.noted .debug (startRow directive.name directive.call))) :
    (contain context directive action).run state = (contain context directive other).run state := by
  unfold contain
  rw [run_dispatchBy, run_dispatchBy, run_logged, run_logged, same]

/-- The course goes with an action: it ends as the action does. -/
def Tells (course : Course N α) (action : Run N α) : Prop :=
  ∀ state, (course state).2 = action.run state

theorem onward_tells {next : α → Course N β} {action : α → Run N β}
    (each : ∀ value, Tells (next value) (action value)) (events : List (Event N))
    (first : Run N α) (state : State N) :
    (onward events next (first.run state)).2 = (first >>= action).run state := by
  rw [EStateM.run_bind]
  cases first.run state with
  | ok value last => exact each value last
  | error stop last => rfl

namespace Tells

theorem pure (value : α) : Tells (pure value : Course N α) (pure value) :=
  fun _ => rfl

theorem silent (action : Run N α) : Tells (silent action) action :=
  fun _ => rfl

theorem bind {first : Course N α} {action : Run N α} {next : α → Course N β}
    {behind : α → Run N β} (tells : Tells first action)
    (each : ∀ value, Tells (next value) (behind value)) :
    Tells (first >>= next) (action >>= behind) := by
  intro state
  have same := onward_tells each (first state).1 action state
  rw [← tells state] at same
  exact same

theorem meet {event : Event N} {next : Unit → Course N β} {action : Run N β}
    (tells : Tells (next ⟨⟩) action) : Tells (Course.meet event >>= next) action :=
  fun state => tells state

theorem breaking (code : String) (action : Run N α) : Tells (breaking code action) action := by
  intro state
  unfold Course.breaking
  cases action.run state with
  | ok value last => rfl
  | error stop last => cases stop <;> rfl

theorem pull : Tells (pull : Course N (Option (Directive (Handler N)))) Engine.pull := by
  have tells : Tells (Course.pull : Course N (Option (Directive (Handler N))))
      (Engine.pull >>= Pure.pure) := by
    refine (silent Engine.pull).bind fun pulled => ?_
    cases pulled with
    | none => exact meet (pure none)
    | some directive => exact meet (pure (some directive))
  rwa [bind_pure] at tells

theorem holds (scope : Expr.Scope) (condition : String) (line : Option Int) :
    Tells (holds scope condition line : Course N Bool) (Engine.holds scope condition line) :=
  meet (breaking "E15" _)

theorem skipBlocks (turns : Nat) (unclosed : List Bool) :
    Tells (skipBlocks turns unclosed : Course N Unit) (Engine.skipBlocks turns unclosed) := by
  induction turns generalizing unclosed with
  | zero =>
      cases unclosed with
      | nil => exact pure _
      | cons fallbackSeen outer => exact silent _
  | succ turns ih =>
      cases unclosed with
      | nil => exact pure _
      | cons fallbackSeen outer =>
          refine pull.bind fun pulled => ?_
          cases pulled with
          | none => exact breaking _ _
          | some directive =>
              dsimp only
              cases directive.mark with
              | opens => exact ih _
              | elseif =>
                  dsimp only
                  split
                  · exact breaking _ _
                  · exact ih _
              | fallback =>
                  dsimp only
                  split
                  · exact breaking _ _
                  · exact ih _
              | closes => exact ih _
              | finish | plain => exact ih _

theorem skipBlock (fallbackSeen : Bool) :
    Tells (skipBlock fallbackSeen : Course N Unit) (Engine.skipBlock fallbackSeen) :=
  (silent turns).bind fun _ => skipBlocks _ _

theorem chooseArm (scope : Expr.Scope) (turns : Nat) :
    Tells (chooseArm scope turns : Course N Chosen) (Engine.chooseArm scope turns) := by
  induction turns with
  | zero => exact silent _
  | succ turns ih =>
      refine pull.bind fun pulled => ?_
      cases pulled with
      | none => exact breaking _ _
      | some directive =>
          dsimp only
          cases directive.mark with
          | opens => exact (skipBlock false).bind fun _ => ih
          | elseif =>
              refine (holds _ _ _).bind fun value => ?_
              split
              · exact pure _
              · exact ih
          | fallback => exact pure _
          | closes => exact pure _
          | finish | plain => exact ih

section Dispatching

variable {told : Context → Directive (Handler N) → Course N Flow} {dispatch : Dispatch N}
  (dispatched : ∀ context directive, Tells (told context directive) (dispatch context directive))

include dispatched

theorem runArm (context : Context) (isFallback : Bool) (turns : Nat) :
    Tells (runArm told context isFallback turns)
      (Engine.runArm dispatch context isFallback turns) := by
  induction turns with
  | zero => exact silent _
  | succ turns ih =>
      refine pull.bind fun pulled => ?_
      cases pulled with
      | none => exact (skipBlock isFallback).bind fun _ => pure _
      | some directive =>
          dsimp only
          cases directive.mark with
          | elseif =>
              dsimp only
              split
              · exact breaking _ _
              · exact (skipBlock false).bind fun _ => pure _
          | fallback =>
              dsimp only
              split
              · exact breaking _ _
              · exact (skipBlock true).bind fun _ => pure _
          | closes => exact pure _
          | finish => exact (silent _).bind fun _ => silent _
          | opens | plain =>
              refine (dispatched context directive).bind fun flow => ?_
              cases flow with
              | finish => exact silent _
              | goOn => exact ih

theorem runBlock (context : Context) (condition : String) :
    Tells (runBlock told context condition) (Engine.runBlock dispatch context condition) := by
  unfold Engine.runBlock
  split
  · exact (skipBlock false).bind fun _ => pure _
  · refine (silent newScope).bind fun scope => ?_
    refine (holds scope condition none).bind fun value => ?_
    split
    · exact (silent turns).bind fun _ => runArm dispatched _ _ _
    · refine (silent turns).bind fun _ => ?_
      refine (chooseArm scope _).bind fun chosen => ?_
      cases chosen with
      | arm isFallback => exact (silent turns).bind fun _ => runArm dispatched _ _ _
      | none => exact pure _

theorem runIf (context : Context) (condition : String) :
    Tells (runIf told dispatch context condition)
      (Engine.runIf openPrompted dispatch context condition) := by
  intro state
  unfold Course.runIf
  cases current : state.stream with
  | none => rfl
  | some stream =>
      have block := runBlock dispatched context condition state
      unfold Engine.runIf
      rw [run_get_bind]
      rw [current]
      exact block

theorem execute (context : Context) (directive : Directive (Handler N)) :
    Tells (execute told dispatch context directive)
      (match directive.command.handler with
        | .builtin builtin => runBuiltin dispatch context directive.call builtin
        | .host program => interpret dispatch context (program directive.call)) := by
  unfold Course.execute
  split
  next known =>
    rw [known]
    exact (runIf dispatched context directive.args).bind fun _ => pure _
  next builtin other known =>
    rw [known]
    split
    · exact breaking _ _
    · exact silent _
  next program known =>
    rw [known]
    exact silent _

theorem runStream (context : Context) (turns : Nat) :
    Tells (runStream told context turns) (Engine.runStream dispatch context turns) := by
  induction turns with
  | zero => exact silent _
  | succ turns ih =>
      refine pull.bind fun pulled => ?_
      cases pulled with
      | none => exact pure _
      | some directive =>
          dsimp only
          split
          · exact silent _
          · refine (dispatched context directive).bind fun flow => ?_
            cases flow with
            | finish => exact silent _
            | goOn => exact ih

end Dispatching

theorem dispatchTo (depth : Nat) (context : Context) (directive : Directive (Handler N)) :
    Tells (dispatchTo depth context directive) (Engine.dispatchTo depth context directive) := by
  induction depth generalizing context directive with
  | zero => exact silent _
  | succ depth ih =>
      refine meet fun state => ?_
      have inside := execute ih context directive
        (state.noted .debug (startRow directive.name directive.call))
      rw [dispatchTo_contain]
      exact run_contain context directive inside

end Tells

end Course

end ExScript.Engine
