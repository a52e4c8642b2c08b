import ExScript.Proofs.Hereditary

/-!
Properties that no action of an engine breaks, whichever commands are executed and whatever they do
to their stream. That the registry of commands stays as it is is one of them.
-/

namespace ExScript.Engine

variable {N α β : Type}

def SameExtent (first second : Option (Stream (Handler N))) : Prop :=
  first.map (·.remaining) = second.map (·.remaining)

/-- A property of all actions that blocks are made of, if the directives that pulls give are
dispatched by actions that have it. What goes by the stream goes by its extent only. -/
structure OnBlocks (given : Directive (Handler N) → Prop) (P : {α : Type} → Run N α → Prop) : Prop
    extends Fallible P where
  exhausted : ∀ {α : Type}, P (throw .exhausted : Run N α)
  watching : ∀ {α : Type} {next : State N → Run N α},
    (∀ state stream, SameExtent state.stream stream → next (state.on stream) = next state) →
      (∀ state, P (next state)) → P (get >>= next)
  pulling : ∀ {α : Type} {next : Option (Directive (Handler N)) → Run N α},
    P (next none) → (∀ directive, given directive → P (next (some directive))) →
      P (Engine.pull >>= next)
  closeStream : P (closeStream : Run N Unit)
  newScope : P (newScope : Run N Expr.Scope)
  condition : ∀ scope source,
    P (onWorld fun outside world => world.runIn outside scope source :
      Run N (Except ScriptError Expr.Value))

namespace OnBlocks

variable {given : Directive (Handler N) → Prop} {P : {α : Type} → Run N α → Prop}
  {dispatch : Dispatch N}

theorem turns (closed : OnBlocks given P) : P (turns : Run N Nat) := by
  refine closed.watching (fun state stream same => ?_) fun state => ?_
  · unfold SameExtent at same
    cases current : state.stream <;> cases stream <;> simp_all [State.on]
  · split
    · exact closed.pure _
    · exact closed.pure _

theorem holds (closed : OnBlocks given P) (scope : Expr.Scope) (condition : String)
    (line : Option Int) : P (holds scope condition line : Run N Bool) := by
  refine closed.bind (closed.condition scope condition) fun result => ?_
  cases result with
  | ok value => exact closed.watching (fun _ _ _ => rfl) fun _ => closed.pure _
  | error error => exact closed.raise _

theorem skipBlocks (closed : OnBlocks given P) (budget : Nat) (unclosed : List Bool) :
    P (skipBlocks budget unclosed : Run N Unit) := by
  induction budget generalizing unclosed with
  | zero =>
      cases unclosed with
      | nil => exact closed.pure _
      | cons fallbackSeen outer => exact closed.exhausted
  | succ budget ih =>
      cases unclosed with
      | nil => exact closed.pure _
      | cons fallbackSeen outer =>
          refine closed.pulling (closed.raise _) fun directive _ => ?_
          dsimp only
          split
          · exact ih _
          · split
            · exact closed.raise _
            · exact ih _
          · split
            · exact closed.raise _
            · exact ih _
          · exact ih _
          · exact ih _

theorem skipBlock (closed : OnBlocks given P) (fallbackSeen : Bool) :
    P (skipBlock fallbackSeen : Run N Unit) :=
  closed.bind closed.turns fun _ => closed.skipBlocks _ _

theorem chooseArm (closed : OnBlocks given P) (scope : Expr.Scope) (budget : Nat) :
    P (chooseArm scope budget : Run N Chosen) := by
  induction budget with
  | zero => exact closed.exhausted
  | succ budget ih =>
      refine closed.pulling (closed.raise _) fun directive _ => ?_
      dsimp only
      split
      · exact closed.bind (closed.skipBlock _) fun _ => ih
      · refine closed.bind (closed.holds _ _ _) fun value => ?_
        split
        · exact closed.pure _
        · exact ih
      · exact closed.pure _
      · exact closed.pure _
      · exact ih

theorem finished (closed : OnBlocks given P) :
    P (do
      Engine.closeStream
      pure .finish : Run N Flow) :=
  closed.bind closed.closeStream fun _ => closed.pure _

theorem runArm (closed : OnBlocks given P)
    (dispatched : ∀ context directive, given directive → P (dispatch context directive))
    (context : Context) (isFallback : Bool) (budget : Nat) :
    P (runArm dispatch context isFallback budget) := by
  have skipped (fallbackSeen : Bool) : P (do
      Engine.skipBlock fallbackSeen
      pure .goOn : Run N Flow) :=
    closed.bind (closed.skipBlock fallbackSeen) fun _ => closed.pure _
  induction budget with
  | zero => exact closed.exhausted
  | succ budget ih =>
      refine closed.pulling (skipped isFallback) fun directive known => ?_
      dsimp only
      split
      · split
        · exact closed.raise _
        · exact skipped false
      · split
        · exact closed.raise _
        · exact skipped true
      · exact closed.pure _
      · exact closed.bind (closed.note _ _ (.append (by decide) _)) fun _ => closed.finished
      · refine closed.bind (dispatched _ _ known) fun flow => ?_
        cases flow with
        | finish => exact closed.finished
        | goOn => exact ih

theorem runBlock (closed : OnBlocks given P)
    (dispatched : ∀ context directive, given directive → P (dispatch context directive))
    (context : Context) (condition : String) : P (runBlock dispatch context condition) := by
  unfold Engine.runBlock
  dsimp only [Telling.act, Telling.holds]
  split
  · exact closed.bind (closed.skipBlock _) fun _ => closed.pure _
  · refine closed.bind closed.newScope fun scope => ?_
    refine closed.bind (closed.holds _ _ _) fun value => ?_
    split
    · exact closed.bind closed.turns fun _ => closed.runArm dispatched _ _ _
    · refine closed.bind closed.turns fun _ => ?_
      refine closed.bind (closed.chooseArm _ _) fun chosen => ?_
      cases chosen with
      | arm isFallback =>
          exact closed.bind closed.turns fun _ => closed.runArm dispatched _ _ _
      | none => exact closed.pure _

theorem runStream (closed : OnBlocks given P)
    (dispatched : ∀ context directive, given directive → P (dispatch context directive))
    (context : Context) (budget : Nat) : P (runStream dispatch context budget) := by
  induction budget with
  | zero => exact closed.exhausted
  | succ budget ih =>
      refine closed.pulling (closed.pure _) fun directive known => ?_
      dsimp only
      split
      · exact closed.finished
      · refine closed.bind (dispatched _ _ known) fun flow => ?_
        cases flow with
        | finish => exact closed.finished
        | goOn => exact ih

theorem runFirst (closed : OnBlocks given P)
    (dispatched : ∀ context directive, given directive → P (dispatch context directive)) :
    P (runFirst dispatch) :=
  closed.pulling (closed.pure _) fun _ known => dispatched _ _ known

end OnBlocks

theorem pulling_of_pull {P : {α : Type} → Run N α → Prop}
    (bind : ∀ {α β : Type} {action : Run N α} {next : α → Run N β},
      P action → (∀ value, P (next value)) → P (action >>= next))
    (pull : P (pull : Run N (Option (Directive (Handler N)))))
    {next : Option (Directive (Handler N)) → Run N α} (none : P (next none))
    (some : ∀ directive, True → P (next (some directive))) : P (Engine.pull >>= next) := by
  refine bind pull fun pulled => ?_
  cases pulled with
  | none => exact none
  | some directive => exact some directive trivial

/-- A property of all actions on the current stream, which typed lines have as well. What runs on
the streams of scripts is left open. -/
structure OnStream (P : {α : Type} → Run N α → Prop) : Prop extends
    Robust P, OnBlocks (fun _ => True) P where
  pull : P (pull : Run N (Option (Directive (Handler N))))
  prompted : ∀ {α : Type} (prompting : Prompting) (initial : List String) {action : Run N α},
    P action → P (withStream (.prompted prompting initial) action)
  typed : ∀ {α : Type} (prompting : Prompting) (initial : List String) {action : Run N α},
    P action → P (withStream (.prompted prompting initial) (closingBehind action))

namespace OnStream

variable {P : {α : Type} → Run N α → Prop} {dispatch : Dispatch N}

theorem runBlock (closed : OnStream P)
    (dispatched : ∀ context directive, P (dispatch context directive)) (context : Context)
    (condition : String) : P (runBlock dispatch context condition) :=
  closed.toOnBlocks.runBlock (fun context directive _ => dispatched context directive) _ _

theorem runStream (closed : OnStream P)
    (dispatched : ∀ context directive, P (dispatch context directive)) (context : Context)
    (budget : Nat) : P (runStream dispatch context budget) :=
  closed.toOnBlocks.runStream (fun context directive _ => dispatched context directive) _ _

theorem runIf (closed : OnStream P)
    (dispatched : ∀ context directive, P (dispatch context directive)) (context : Context)
    (condition : String) : P (runIf openPrompted dispatch context condition) := by
  refine closed.watching (fun state stream same => ?_) fun state => ?_
  · unfold SameExtent at same
    cases current : state.stream <;> cases stream <;> simp_all [State.on]
  split
  · exact closed.runBlock dispatched context condition
  · exact closed.openPrompted [] fun prompting =>
      closed.prompted prompting [] (closed.runBlock dispatched context condition)

theorem runTyped (closed : OnStream P)
    (dispatched : ∀ context directive, P (dispatch context directive)) (prompting : Prompting)
    (initial : List String) : P (withStream (.prompted prompting initial) (runTyped dispatch)) :=
  closed.typed prompting initial
    (closed.toOnBlocks.runFirst fun context directive _ => dispatched context directive)

theorem executeLine (closed : OnStream P)
    (dispatched : ∀ context directive, P (dispatch context directive)) (line : String) :
    P (executeLine dispatch line) :=
  closed.toRobust.executeLine (closed.runTyped dispatched) line

end OnStream

def anything : Licence where
  streams := True

theorem anything_within (program : Program N) : program.Within anything := by
  induction program with
  | done outcome => trivial
  | fail fault => trivial
  | record entry next ih => exact ih
  | say kind text next ih => exact ih
  | whereabouts next ih => exact ih
  | pull next ih => exact ⟨trivial, ih⟩
  | close next ih => exact ⟨trivial, ih⟩
  | runString text name next ih => exact ih
  | runLine line next ih => exact ih

namespace OnStream

variable {P : {α : Type} → Run N α → Prop} {dispatch : Dispatch N}

theorem interpret (closed : OnStream P) (calling : Calling P dispatch) (context : Context)
    (program : Program N) : P (interpret dispatch context program) :=
  closed.toRobust.interpret calling context (fun fault _ => closed.raise fault)
    (fun _ => ⟨closed.pull, closed.closeStream⟩) (anything_within program)

theorem runBuiltin (closed : OnStream P) (sourcing : Sourcing P dispatch)
    (dispatched : ∀ context directive, P (dispatch context directive)) (context : Context)
    (call : Call) (builtin : Builtin) : P (runBuiltin dispatch context call builtin) := by
  cases forms : builtin.formsBlocks with
  | false => exact closed.toRobust.runBuiltin sourcing context call forms
  | true =>
      cases builtin <;> cases forms
      · exact closed.bind (closed.runIf dispatched context call.args) fun _ => closed.pure _
      · exact closed.raise _
      · exact closed.raise _
      · exact closed.raise _

theorem handle (closed : OnStream P) (sourcing : Sourcing P dispatch)
    (dispatched : ∀ context directive, P (dispatch context directive)) (context : Context)
    (command : Descriptor (Handler N)) (call : Call) :
    P (handle dispatch context command call) := by
  unfold Engine.handle
  split
  · exact closed.runBuiltin sourcing dispatched _ _ _
  · exact closed.interpret sourcing.toCalling _ _

theorem executeBy (closed : OnStream P) (sourcing : Sourcing P dispatch)
    (dispatched : ∀ context directive, P (dispatch context directive)) (context : Context)
    (command : Descriptor (Handler N)) (call : Call) :
    P (executeBy dispatch context command call) :=
  closed.executes (closed.handle sourcing dispatched context command call)

theorem dispatchTo (closed : OnStream P)
    (sourcing : ∀ dispatch : Dispatch N, (∀ context directive, P (dispatch context directive)) →
      Sourcing P dispatch) (depth : Nat) (context : Context)
    (directive : Directive (Handler N)) : P (dispatchTo depth context directive) := by
  induction depth generalizing context directive with
  | zero => exact closed.exhausted
  | succ depth ih =>
      rw [dispatchTo_succ]
      exact closed.dispatchBy (closed.executeBy (sourcing _ ih) ih _ _ _)

end OnStream

/-- A property of all actions that commands are made of, whatever streams they are on. -/
structure Throughout (P : {α : Type} → Run N α → Prop) : Prop extends OnStream P, Pervasive P where
  withStream : ∀ {α : Type} (stream : Stream (Handler N)) {action : Run N α},
    P action → P (withStream stream action)
  withoutStream : ∀ {α : Type} {action : Run N α}, P action → P (withoutStream action)
  pulling := fun {_ _} => pulling_of_pull bind pull
  prompted := fun {_} prompting initial {_} inside => withStream (.prompted prompting initial) inside

namespace Throughout

variable {P : {α : Type} → Run N α → Prop} {dispatch : Dispatch N}

theorem streamed (closed : Throughout P)
    (dispatched : ∀ context directive, P (dispatch context directive)) : Streamed P dispatch where
  script stream _ :=
    closed.withStream stream (closed.bind closed.turns fun _ => closed.runStream dispatched _ _)
  line := closed.runTyped dispatched

theorem ownStreams (closed : Throughout P)
    (dispatched : ∀ context directive, P (dispatch context directive)) :
    OwnStreams P dispatch where
  toStreamed := closed.streamed dispatched
  delegate program :=
    closed.withoutStream (closed.interpret (closed.calling (closed.streamed dispatched)) {} program)

theorem dispatchTo (closed : Throughout P) (record : ∀ path, P (recordScript path : Run N Unit))
    (depth : Nat) (context : Context) (directive : Directive (Handler N)) :
    P (dispatchTo depth context directive) :=
  closed.toOnStream.dispatchTo
    (fun _ dispatched => closed.sourcing (closed.ownStreams dispatched) record)
    depth context directive

end Throughout

def KeepsRegistry (action : Run N α) : Prop :=
  ∀ state : State N, (after action state).registry = state.registry

namespace KeepsRegistry

theorem bind {action : Run N α} {next : α → Run N β} (first : KeepsRegistry action)
    (second : ∀ value, KeepsRegistry (next value)) : KeepsRegistry (action >>= next) :=
  fun state => after_bind (·.registry = state.registry) (first state)
    fun value last kept => (second value last).trans kept

theorem attempt {action : Run N α} (inside : KeepsRegistry action) :
    KeepsRegistry (attempt action) := by
  intro state
  rw [after_attempt]
  exact inside state

theorem entering {enter : Run N Unit} {restore : State N → State N → State N} {action : Run N α}
    (entered : KeepsRegistry enter)
    (restored : ∀ before last, (restore before last).registry = last.registry)
    (inside : KeepsRegistry action) :
    KeepsRegistry (restoring restore do
      enter
      action) := by
  intro state
  rw [after_restoring, restored]
  exact bind entered (fun _ => inside) state

theorem lift (result : Except Fault α) : KeepsRegistry (lift result : Run N α) := by
  cases result <;> exact fun _ => rfl

theorem liftScript (result : Except ScriptError α) :
    KeepsRegistry (liftScript result : Run N α) := by
  cases result <;> exact fun _ => rfl

theorem onWorld (action : Expr.Outside → Expr.World → Except ScriptError α × Expr.World) :
    KeepsRegistry (onWorld action : Run N (Except ScriptError α)) :=
  fun _ => rfl

theorem pull : KeepsRegistry (pull : Run N (Option (Directive (Handler N)))) := by
  intro state
  cases current : state.stream with
  | none => rw [after_error (run_pull_none current)]
  | some stream => rw [after_pull current]

theorem closeStream : KeepsRegistry (closeStream : Run N Unit) := by
  intro state
  cases current : state.stream with
  | none => rw [after_error (run_closeStream_none current)]
  | some stream => rw [after_ok (run_closeStream current)]

theorem define (name : String) (value : Expr.Value) :
    KeepsRegistry (define name value : Run N Unit) := by
  intro state
  simp only [after, Engine.define, EStateM.run_bind, EStateM.run_get]
  cases state.world.define name value <;> rfl

theorem addScriptName (name : String) : KeepsRegistry (addScriptName name : Run N Unit) := by
  intro state
  simp only [after, Engine.addScriptName, EStateM.run_modify]
  split <;> rfl

theorem recordScript (path : Path) : KeepsRegistry (recordScript path : Run N Unit) :=
  bind (addScriptName _) fun _ => fun _ => rfl

theorem addStylesheet (path : Path) : KeepsRegistry (addStylesheet path : Run N Unit) := by
  refine bind ?_ fun _ => fun _ => rfl
  intro state
  simp only [after, EStateM.run_modify]
  split <;> rfl

theorem runShell (args : String) (bang : Bool) :
    KeepsRegistry (runShell args bang : Run N Unit) := by
  refine bind (fun _ => rfl) fun state => ?_
  refine bind (lift _) fun command => ?_
  refine bind (fun _ => rfl) fun _ => ?_
  refine bind (fun _ => rfl) fun _ => ?_
  refine bind (fun _ => rfl) fun _ => ?_
  intro state
  let captured := Shell.capture state.settings.shell command state.environment state.files
  exact bind (lift captured.1) (fun _ => fun _ => rfl) { state with files := captured.2 }

end KeepsRegistry

theorem keepsRegistry_catching : Catching (N := N) KeepsRegistry where
  pure _ := fun _ => rfl
  raise _ := fun _ => rfl
  bind := KeepsRegistry.bind
  attempt := KeepsRegistry.attempt
  note _ _ _ := fun _ => rfl
  say _ _ := fun _ => rfl
  locate _ _ := fun _ => rfl

theorem keepsRegistry_throughout : Throughout (N := N) KeepsRegistry where
  toFallible := keepsRegistry_catching.fallible
  fails _ _ := fun _ => rfl
  reading _ each := KeepsRegistry.bind (fun _ => rfl) each
  whereabouts _ := fun _ => rfl
  record _ := fun _ => rfl
  evaluate _ := KeepsRegistry.bind (KeepsRegistry.onWorld _) fun _ => KeepsRegistry.liftScript _
  execute _ := KeepsRegistry.bind (KeepsRegistry.onWorld _) fun _ => KeepsRegistry.liftScript _
  define := KeepsRegistry.define
  runShell := KeepsRegistry.runShell
  exhausted := fun _ => rfl
  withScript _ := KeepsRegistry.entering (fun _ => rfl) fun _ _ => rfl
  addStylesheet := KeepsRegistry.addStylesheet
  watching _ each := KeepsRegistry.bind (fun _ => rfl) each
  pull := KeepsRegistry.pull
  closeStream := KeepsRegistry.closeStream
  newScope := fun _ => rfl
  condition _ _ := KeepsRegistry.onWorld _
  typed _ _ _ inside := KeepsRegistry.entering (fun _ => rfl) (fun _ _ => rfl)
    (keepsRegistry_catching.closingBehind KeepsRegistry.closeStream inside)
  withStream _ := KeepsRegistry.entering (fun _ => rfl) fun _ _ => rfl
  withoutStream := KeepsRegistry.entering (fun _ => rfl) fun _ _ => rfl

theorem dispatchTo_keepsRegistry (depth : Nat) (context : Context)
    (directive : Directive (Handler N)) : KeepsRegistry (dispatchTo depth context directive) :=
  keepsRegistry_throughout.dispatchTo KeepsRegistry.recordScript depth context directive

end ExScript.Engine
