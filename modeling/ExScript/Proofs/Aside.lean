import ExScript.Proofs.Hereditary

/-!
Actions that keep aside of the current stream: they come to the same end whatever it holds and
leave it as it was. Commands do that unless their program asks for the stream; only the command
that opens a block and host programs that pull or close can.
-/

namespace ExScript.Engine

variable {N α β : Type}

@[simp] theorem State.on_on (state : State N) (first second : Option (Stream (Handler N))) :
    (state.on first).on second = state.on second := rfl

@[simp] theorem State.on_stream (state : State N) (stream : Option (Stream (Handler N))) :
    (state.on stream).stream = stream := rfl

@[simp] theorem State.on_self (state : State N) : state.on state.stream = state := rfl

def SameKind (first second : Option (Stream (Handler N))) : Prop :=
  first.map (·.tracked) = second.map (·.tracked)

def endedOn (stream : Option (Stream (Handler N))) : Ended N α → Ended N α
  | .ok value state => .ok value (state.on stream)
  | .error stop state => .error stop (state.on stream)

def Aside (action : Run N α) : Prop :=
  ∀ (state : State N) (stream : Option (Stream (Handler N))), SameKind state.stream stream →
    action.run (state.on stream) = endedOn stream (action.run state)

namespace Aside

theorem after_stream {action : Run N α} (aside : Aside action) (state : State N) :
    (after action state).stream = state.stream := by
  have same := aside state state.stream rfl
  rw [State.on_self] at same
  unfold after
  rw [same]
  cases action.run state <;> rfl

theorem ok_stream {action : Run N α} (aside : Aside action) {state last : State N} {value : α}
    (ended : action.run state = .ok value last) : last.stream = state.stream := by
  rw [← after_ok ended, aside.after_stream]

theorem bind {action : Run N α} {next : α → Run N β} (first : Aside action)
    (second : ∀ value, Aside (next value)) : Aside (action >>= next) := by
  intro state stream same
  rw [EStateM.run_bind, EStateM.run_bind, first state stream same]
  cases ended : action.run state with
  | error stop last => rfl
  | ok value last =>
      have kept := first.ok_stream ended
      exact second value last stream (by rw [kept]; exact same)

theorem reading {next : State N → Run N α}
    (blind : ∀ state stream, next (state.on stream) = next state)
    (each : ∀ state, Aside (next state)) : Aside (get >>= next) := by
  intro state stream same
  rw [run_get_bind, run_get_bind]
  rw [blind]
  exact each state state stream same

theorem attempt {action : Run N α} (aside : Aside action) : Aside (attempt action) := by
  intro state stream same
  rw [run_attempt, run_attempt, aside state stream same]
  cases action.run state with
  | ok value last => rfl
  | error stop last => cases stop <;> rfl

theorem withScript (path : String) {action : Run N α} (aside : Aside action) :
    Aside (withScript path action) := by
  intro state stream same
  rw [run_withScript, run_withScript]
  have inside := aside
    { state with session := state.session.enter path } stream same
  simp only [State.on] at inside ⊢
  rw [inside]
  cases action.run { state with session := state.session.enter path } <;> rfl

theorem withStream (own : Stream (Handler N)) (action : Run N α) :
    Aside (withStream own action) := by
  intro state stream _
  rw [run_withStream, run_withStream]
  simp only [State.on]
  cases action.run { state with stream := some own } <;> rfl

theorem withoutStream (action : Run N α) : Aside (withoutStream action) := by
  intro state stream _
  rw [run_withoutStream, run_withoutStream]
  simp only [State.on]
  cases action.run { state with stream := none } <;> rfl

theorem whereabouts (context : Context) : Aside (whereabouts context : Run N Whereabouts) := by
  intro state stream same
  obtain tracked : state.stream.any (·.tracked) = stream.any (·.tracked) := by
    cases current : state.stream <;> cases stream <;> simp_all [SameKind]
  obtain present : state.stream.isSome = stream.isSome := by
    cases current : state.stream <;> cases stream <;> simp_all [SameKind]
  simp only [Engine.whereabouts, EStateM.run_bind, EStateM.run_get, EStateM.run_pure, State.on,
    endedOn, tracked, present]

theorem onWorld (action : Expr.Outside → Expr.World → Except ScriptError α × Expr.World) :
    Aside (onWorld action : Run N (Except ScriptError α)) :=
  fun _ _ _ => rfl

theorem liftScript (result : Except ScriptError α) : Aside (liftScript result : Run N α) := by
  cases result <;> exact fun _ _ _ => rfl

theorem newScope : Aside (newScope : Run N Expr.Scope) :=
  fun _ _ _ => rfl

theorem holds (scope : Expr.Scope) (condition : String) (line : Option Int) :
    Aside (holds scope condition line : Run N Bool) := by
  refine bind (onWorld _) fun result => ?_
  cases result with
  | ok value => exact reading (fun _ _ => rfl) fun _ => fun _ _ _ => rfl
  | error error => exact fun _ _ _ => rfl

theorem define (name : String) (value : Expr.Value) : Aside (define name value : Run N Unit) := by
  intro state stream _
  simp only [Engine.define, State.on, EStateM.run_bind, EStateM.run_get]
  cases state.world.define name value <;> rfl

theorem addScriptName (name : String) : Aside (addScriptName name : Run N Unit) := by
  intro state stream _
  simp only [Engine.addScriptName, EStateM.run_modify, State.on, endedOn]
  split <;> rfl

theorem recordScript (path : Path) : Aside (recordScript path : Run N Unit) :=
  bind (addScriptName _) fun _ => fun _ _ _ => rfl

theorem addStylesheet (path : Path) : Aside (addStylesheet path : Run N Unit) := by
  refine bind ?_ fun _ => fun _ _ _ => rfl
  intro state stream _
  simp only [EStateM.run_modify, State.on, endedOn]
  split <;> rfl

theorem lift (result : Except Fault α) : Aside (lift result : Run N α) := by
  cases result <;> exact fun _ _ _ => rfl

theorem runShell (args : String) (bang : Bool) : Aside (runShell args bang : Run N Unit) := by
  refine reading (fun _ _ => rfl) fun state => ?_
  refine bind (lift _) fun command => ?_
  refine bind (fun _ _ _ => rfl) fun _ => ?_
  refine bind (fun _ _ _ => rfl) fun _ => ?_
  refine bind (fun _ _ _ => rfl) fun _ => ?_
  intro state stream same
  let captured := Shell.capture state.settings.shell command state.environment state.files
  exact bind (lift captured.1) (fun _ => fun _ _ _ => rfl) { state with files := captured.2 } stream
    same

end Aside

theorem aside_catching : Catching (N := N) Aside where
  pure _ := fun _ _ _ => rfl
  raise _ := fun _ _ _ => rfl
  bind := Aside.bind
  attempt := Aside.attempt
  note _ _ _ := fun _ _ _ => rfl
  say _ _ := fun _ _ _ => rfl
  locate _ _ := fun _ _ _ => rfl

theorem aside_pervasive : Pervasive (N := N) Aside where
  toFallible := aside_catching.fallible
  fails _ _ := fun _ _ _ => rfl
  reading := Aside.reading
  whereabouts := Aside.whereabouts
  record _ := fun _ _ _ => rfl
  evaluate _ := Aside.bind (Aside.onWorld _) fun _ => Aside.liftScript _
  execute _ := Aside.bind (Aside.onWorld _) fun _ => Aside.liftScript _
  define := Aside.define
  runShell := Aside.runShell
  withScript := Aside.withScript
  addStylesheet := Aside.addStylesheet

theorem aside_sourcing (dispatch : Dispatch N) : Sourcing Aside dispatch :=
  aside_pervasive.sourcing
    { script := fun _ _ => Aside.withStream _ _
      line := fun _ _ => Aside.withStream _ _
      delegate := fun _ => Aside.withoutStream _ }
    Aside.recordScript

end ExScript.Engine
