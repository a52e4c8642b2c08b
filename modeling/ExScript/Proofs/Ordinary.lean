import ExScript.Proofs.Aside
import ExScript.Proofs.LineRoles

/-!
Ordinary commands: those that leave the forming of blocks to others. They keep aside of the current
stream and raise no errors of block structure, so dispatching one always goes on behind it.
-/

namespace ExScript.Engine

variable {N α β : Type}

theorem runIn_mild (world : Expr.World) (outside : Expr.Outside) (scope : Expr.Scope)
    (source : String) {error : ScriptError}
    (failed : (world.runIn outside scope source).1 = .error error) :
    structural? (.script error) = none := by
  unfold Expr.World.runIn at failed
  dsimp only at failed
  split at failed
  · cases failed; rfl
  · split at failed
    · cases failed; rfl
    · split at failed
      · cases failed
      · cases failed; rfl

theorem recallLast_mild (command last : String) : MildResult (Shell.recallLast command last) := by
  intro fault failed
  unfold Shell.recallLast at failed
  split at failed
  · cases failed; rfl
  · cases failed

theorem decodeOutput_mild (bytes : List Char) : MildResult (Shell.decodeOutput bytes) := by
  intro fault failed
  unfold Shell.decodeOutput at failed
  split at failed
  · cases failed
  · cases failed; rfl

theorem outcomeText_mild (outcome : Shell.Outcome) : MildResult outcome.text := by
  intro fault failed
  unfold Shell.Outcome.text at failed
  cases first : Shell.decodeOutput outcome.output with
  | error reason =>
      rw [first] at failed
      cases failed
      exact decodeOutput_mild _ _ first
  | ok output =>
      cases second : Shell.decodeOutput outcome.complaints with
      | error reason =>
          rw [first, second] at failed
          cases failed
          exact decodeOutput_mild _ _ second
      | ok complaints =>
          rw [first, second] at failed
          cases failed

theorem capture_mild (shell command : String) (environment : List (String × String))
    (files : FileTree) : MildResult (Shell.capture shell command environment files).1 := by
  intro fault failed
  unfold Shell.capture at failed
  split at failed
  · cases failed; rfl
  · split at failed
    · cases failed; rfl
    · exact outcomeText_mild _ _ failed

theorem roleOf_mild {C : Type} (registry : Registry C) (pending : Option (OpenHeredoc C))
    (number : Nat) (text : String) : MildResult (Assembly.roleOf registry pending number text) := by
  intro fault failed
  cases pending with
  | some heredoc => cases failed
  | none =>
      obtain ⟨-, digits, -, rfl⟩ := Assembly.headerRole_error_iff.mp failed
      rfl

section Pulls

variable {C : Type} (registry : Registry C)

theorem takeLine_mild (stream : Stream C) (text : String) (session : Session) :
    MildResult (stream.takeLine registry text session).result := by
  intro fault failed
  unfold Stream.takeLine at failed
  dsimp only at failed
  split at failed
  next reason found =>
    cases failed
    exact roleOf_mild _ _ _ _ _ found
  all_goals cases failed

theorem finish_mild (stream : Stream C) (session : Session) :
    MildResult (stream.finish session).result := by
  intro fault failed
  unfold Stream.finish at failed
  split at failed <;> cases failed

theorem pullAsked_mild (prompting : Prompting) (left : Nat) (stream : Stream C)
    (session : Session) :
    MildResult (Stream.pullAsked registry prompting left stream session).result := by
  induction left generalizing stream session with
  | zero => exact finish_mild _ _
  | succ left ih =>
      unfold Stream.pullAsked
      split
      · exact finish_mild _ _
      next text asked answered =>
        have mild :=
          takeLine_mild registry { stream with prompting := some (prompting, left) } text asked
        split
        next next_ final taken => exact ih _ _
        next other => exact mild

theorem pullLines_mild (lines : List String) (stream : Stream C) (session : Session) :
    MildResult (Stream.pullLines registry lines stream session).result := by
  induction lines generalizing stream session with
  | nil =>
      unfold Stream.pullLines
      split
      · exact finish_mild _ _
      · exact pullAsked_mild registry _ _ _ _
  | cons text rest ih =>
      have mild := takeLine_mild registry { stream with atHand := rest } text session
      unfold Stream.pullLines
      split
      · exact ih _ _
      · exact mild

theorem pull_mild (stream : Stream C) (session : Session) :
    MildResult (stream.pull registry session).result := by
  unfold Stream.pull
  split
  · exact nofun
  · split
    · exact nofun
    · exact pullLines_mild registry _ _ _

end Pulls

def Tame (action : Run N α) : Prop :=
  ∀ (state last : State N) (fault : Fault),
    action.run state = .error (.fault fault) last → structural? fault = none

namespace Tame

theorem bind {action : Run N α} {next : α → Run N β} (first : Tame action)
    (second : ∀ value, Tame (next value)) : Tame (action >>= next) := by
  intro state last fault failed
  rw [EStateM.run_bind] at failed
  cases ended : action.run state with
  | ok value between =>
      rw [ended] at failed
      exact second value between last fault failed
  | error stop between =>
      rw [ended] at failed
      cases failed
      exact first state last fault ended

theorem lift {result : Except Fault α} (mild : MildResult result) :
    Tame (lift result : Run N α) := by
  intro state last fault failed
  cases result with
  | ok value => cases failed
  | error reason =>
      cases failed
      exact mild fault rfl

theorem attempt (action : Run N α) : Tame (attempt action) := by
  intro state last fault failed
  rw [run_attempt] at failed
  cases ended : action.run state with
  | ok value between => rw [ended] at failed; cases failed
  | error stop between => rw [ended] at failed; cases stop <;> cases failed

theorem asScript (name : String) (action : Run N Unit) : Tame (asScript name action) := by
  refine bind (attempt _) fun result => ?_
  cases result with
  | ok value => exact fun _ _ _ failed => nomatch failed
  | error fault => exact fun _ _ _ failed => nomatch failed

theorem runKnownLine (dispatch : Dispatch N) (line : String) :
    Tame (runKnownLine dispatch line) := by
  refine bind (fun _ _ _ failed => nomatch failed) fun stream => ?_
  refine bind (attempt _) fun result => ?_
  cases result with
  | ok flow => exact fun _ _ _ failed => nomatch failed
  | error fault =>
      dsimp only
      split
      next mild =>
        intro state last raised failed
        cases failed
        exact mild
      next => exact fun _ _ _ failed => nomatch failed

theorem executeLine (dispatch : Dispatch N) (line : String) : Tame (executeLine dispatch line) := by
  unfold Engine.executeLine
  split
  · exact fun _ _ _ failed => nomatch failed
  · split
    · intro state last fault failed
      cases failed
      rfl
    · refine bind (fun _ _ _ failed => nomatch failed) fun state => ?_
      split
      · exact runKnownLine dispatch line
      · exact fun _ _ _ failed => nomatch failed

theorem liftScript {result : Except ScriptError α}
    (mild : ∀ error, result = .error error → structural? (.script error) = none) :
    Tame (liftScript result : Run N α) := by
  intro state last fault failed
  cases result with
  | ok value => cases failed
  | error error =>
      cases failed
      exact mild error rfl

theorem onWorld_bind {action : Expr.Outside → Expr.World → Except ScriptError α × Expr.World}
    (mild : ∀ outside world error, (action outside world).1 = .error error →
      structural? (.script error) = none) :
    Tame (onWorld action >>= fun result => Engine.liftScript result : Run N α) := by
  intro state last fault failed
  exact liftScript (fun error => mild _ _ error) _ last fault failed

theorem evaluate (source : String) : Tame (evaluate source : Run N Expr.Value) := by
  refine onWorld_bind fun outside world error failed => ?_
  unfold Expr.World.evaluate at failed
  exact runIn_mild _ _ _ _ failed

theorem execute (source : String) : Tame (execute source : Run N Expr.Value) :=
  onWorld_bind fun _ _ _ failed => runIn_mild _ _ _ _ failed

theorem define (name : String) (value : Expr.Value) : Tame (define name value : Run N Unit) := by
  refine bind (fun _ _ _ failed => nomatch failed) fun state => ?_
  intro between last fault failed
  by_cases identifier : Text.isIdentifier name = true
  · simp only [Expr.World.define, identifier, ↓reduceIte] at failed
    cases failed
  · simp only [Expr.World.define, identifier] at failed
    cases failed
    rfl

theorem runShell (args : String) (bang : Bool) : Tame (runShell args bang : Run N Unit) := by
  refine bind (fun _ _ _ failed => nomatch failed) fun state => ?_
  refine bind (lift (recallLast_mild _ _)) fun command => ?_
  refine bind (fun _ _ _ failed => nomatch failed) fun _ => ?_
  refine bind (fun _ _ _ failed => nomatch failed) fun _ => ?_
  refine bind (fun _ _ _ failed => nomatch failed) fun _ => ?_
  refine bind (fun _ _ _ failed => nomatch failed) fun state => ?_
  refine bind (fun _ _ _ failed => nomatch failed) fun _ => ?_
  exact bind (lift (capture_mild _ _ _ _)) fun _ => fun _ _ _ failed => nomatch failed

theorem pull : Tame (pull : Run N (Option (Directive (Handler N)))) := by
  refine bind (fun _ _ _ failed => nomatch failed) fun state => ?_
  cases state.stream with
  | none =>
      intro between last fault failed
      cases failed
      rfl
  | some stream => exact bind (fun _ _ _ failed => nomatch failed) fun _ => lift (pull_mild _ _ _)

theorem closeStream : Tame (closeStream : Run N Unit) := by
  refine bind (fun _ _ _ failed => nomatch failed) fun state => ?_
  cases state.stream with
  | none =>
      intro between last fault failed
      cases failed
      rfl
  | some stream => exact fun _ _ _ failed => nomatch failed

end Tame

theorem tame_hereditary : Hereditary (N := N) Tame where
  pure _ := fun _ _ _ failed => nomatch failed
  fails fault mild := by
    intro state last raised failed
    cases failed
    exact mild
  bind := Tame.bind
  reading _ each := Tame.bind (fun _ _ _ failed => nomatch failed) each
  note _ _ _ := fun _ _ _ failed => nomatch failed
  say _ _ := fun _ _ _ failed => nomatch failed
  whereabouts _ := fun _ _ _ failed => nomatch failed
  record _ := fun _ _ _ failed => nomatch failed
  evaluate := Tame.evaluate
  execute := Tame.execute
  define := Tame.define
  runShell := Tame.runShell

theorem tame_sourcing (dispatch : Dispatch N) : Sourcing Tame dispatch where
  text _ _ := Tame.asScript _ _
  file _ := Tame.asScript _ _
  record _ := fun _ _ _ failed => nomatch failed
  line := Tame.executeLine dispatch

/-- What a handler within a licence does in a call. Forming blocks is beyond every licence. -/
def Handler.Within (licence : Licence) (call : Call) : Handler N → Prop
  | .builtin command => command.formsBlocks = false
  | .host program => (program call).Within licence

def Licence.tame : Licence where
  fails fault := structural? fault = none

def Licence.ordinary : Licence where
  ends outcome := outcome.next = .goOn
  fails fault := structural? fault = none

def Licence.mild : Licence where
  fails fault := structural? fault = none
  streams := True

theorem Handler.Within.tame {handler : Handler N} {call : Call}
    (within : handler.Within .ordinary call) : handler.Within .tame call := by
  cases handler with
  | builtin builtin => exact within
  | host program =>
      exact Program.Within.mono within (fun _ _ => trivial) (fun _ mild => mild) False.elim

theorem Handler.Within.mild {handler : Handler N} {call : Call}
    (within : handler.Within .tame call) : handler.Within .mild call := by
  cases handler with
  | builtin builtin => exact within
  | host program =>
      exact Program.Within.mono within (fun _ _ => trivial) (fun _ mild => mild) False.elim

def Licence.streamless : Licence := {}

def Handler.Streamless (call : Call) : Handler N → Prop
  | .builtin command => command ≠ .ifBlock
  | .host program => (program call).Within .streamless

theorem Handler.Within.streamless {handler : Handler N} {call : Call}
    (within : handler.Within .tame call) : handler.Streamless call := by
  cases handler with
  | builtin builtin =>
      rintro rfl
      cases within
  | host program =>
      exact Program.Within.mono within (fun _ _ => trivial) (fun _ _ => trivial) False.elim

theorem executeBy_aside (dispatch : Dispatch N) (context : Context)
    {command : Descriptor (Handler N)} {call : Call} (alone : command.handler.Streamless call) :
    Aside (executeBy dispatch context command call) := by
  refine aside_catching.logged _ _ ?_
  cases known : command.handler with
  | builtin builtin =>
      rw [known] at alone
      cases forms : builtin.formsBlocks with
      | false => exact aside_pervasive.runBuiltin (aside_sourcing dispatch) context call forms
      | true =>
          cases builtin <;> cases forms
          · exact absurd rfl alone
          · exact aside_pervasive.raise _
          · exact aside_pervasive.raise _
          · exact aside_pervasive.raise _
  | host program =>
      rw [known] at alone
      exact aside_pervasive.interpret (aside_sourcing dispatch).toCalling context
        (fun fault _ => aside_pervasive.raise fault) False.elim alone

theorem logged_tame (name : String) (call : Call) {action : Run N Outcome} (inside : Tame action) :
    Tame (logged name call action) := by
  intro state last fault failed
  rw [run_logged] at failed
  cases ended : action.run (state.noted .debug (startRow name call)) with
  | ok outcome between => rw [ended] at failed; cases failed
  | error stop between =>
      rw [ended] at failed
      cases stop with
      | exhausted => cases failed
      | fault reason =>
          cases failed
          exact inside _ _ _ ended

theorem executeBy_tame (dispatch : Dispatch N) (context : Context)
    {command : Descriptor (Handler N)} {call : Call} (within : command.handler.Within .mild call) :
    Tame (executeBy dispatch context command call) := by
  refine logged_tame _ _ ?_
  cases known : command.handler with
  | builtin builtin =>
      rw [known] at within
      exact tame_hereditary.runBuiltin (tame_sourcing dispatch) context call within
  | host program =>
      rw [known] at within
      exact tame_hereditary.interpret (tame_sourcing dispatch).toCalling context
        (fun fault mild => tame_hereditary.fails fault mild)
        (fun _ => ⟨Tame.pull, Tame.closeStream⟩) within

def Returns (Q : α → Prop) (action : Run N α) : Prop :=
  ∀ (state last : State N) (value : α), action.run state = .ok value last → Q value

namespace Returns

variable {Q : α → Prop}

theorem pure {value : α} (holds : Q value) : Returns Q (pure value : Run N α) := by
  intro state last other ended
  cases ended
  exact holds

theorem raise (fault : Fault) : Returns Q (raise fault : Run N α) :=
  fun _ _ _ ended => nomatch ended

theorem bind {action : Run N β} {next : β → Run N α} (each : ∀ value, Returns Q (next value)) :
    Returns Q (action >>= next) := by
  intro state last value ended
  rw [EStateM.run_bind] at ended
  cases first : action.run state with
  | ok middle between =>
      rw [first] at ended
      exact each middle between last value ended
  | error stop between =>
      rw [first] at ended
      cases ended

end Returns

theorem runBuiltin_returns (dispatch : Dispatch N) (context : Context) (call : Call)
    {builtin : Builtin} (noBlock : builtin.formsBlocks = false) :
    Returns (·.next = .goOn) (runBuiltin dispatch context call builtin) := by
  cases builtin with
  | ifBlock => cases noBlock
  | elseifArm => cases noBlock
  | elseArm => cases noBlock
  | endif => cases noBlock
  | runtime =>
      refine Returns.bind fun args => ?_
      split
      · exact Returns.raise _
      · exact Returns.bind fun _ => Returns.pure rfl
  | finish => exact Returns.bind fun _ => Returns.pure rfl
  | scriptNames => exact Returns.bind fun _ => Returns.pure rfl
  | letVariable => exact Returns.bind fun _ => Returns.pure rfl
  | runShell => exact Returns.bind fun _ => Returns.pure rfl
  | source => exact Returns.bind fun _ => Returns.bind fun _ => Returns.pure rfl
  | echo kind => exact Returns.bind fun _ => Returns.bind fun _ => Returns.pure rfl
  | statements => exact Returns.bind fun _ => Returns.bind fun _ => Returns.pure rfl

theorem interpret_returns (dispatch : Dispatch N) (context : Context) {program : Program N}
    (within : program.Within .ordinary) :
    Returns (·.next = .goOn) (interpret dispatch context program) := by
  induction program with
  | done outcome => exact Returns.pure within
  | fail fault => exact Returns.raise fault
  | record entry next ih => exact Returns.bind fun _ => ih within
  | say kind text next ih => exact Returns.bind fun _ => ih within
  | whereabouts next ih => exact Returns.bind fun place => ih place (within place)
  | pull next ih => exact within.1.elim
  | close next ih => exact within.1.elim
  | runString text name next ih =>
      exact Returns.bind fun completed => ih completed (within completed)
  | runLine line next ih => exact Returns.bind fun flow => ih flow (within flow)

theorem executeBy_returns (dispatch : Dispatch N) (context : Context)
    {command : Descriptor (Handler N)} {call : Call}
    (within : command.handler.Within .ordinary call) :
    Returns (·.next = .goOn) (executeBy dispatch context command call) := by
  intro state last outcome ended
  unfold executeBy at ended
  rw [run_logged] at ended
  split at ended
  next value between executed =>
    cases ended
    split at executed
    next builtin known =>
      rw [known] at within
      exact runBuiltin_returns dispatch context call within _ _ _ executed
    next program known =>
      rw [known] at within
      exact interpret_returns dispatch context within _ _ _ executed
  next => cases ended
  next => cases ended

def Within (licence : Licence) (directive : Directive (Handler N)) : Prop :=
  directive.command.handler.Within licence directive.call

theorem dispatchTo_aside (depth : Nat) (context : Context) {directive : Directive (Handler N)}
    (alone : directive.command.handler.Streamless directive.call) :
    Aside (dispatchTo depth context directive) := by
  cases depth with
  | zero => exact fun _ _ _ => rfl
  | succ depth =>
      rw [dispatchTo_succ]
      exact aside_pervasive.dispatchBy (executeBy_aside _ _ alone)

theorem dispatchBy_stop {dispatch : Dispatch N} {context : Context}
    {directive : Directive (Handler N)} (within : Within .mild directive) {state last : State N}
    {stop : Stop}
    (ended : (dispatchBy (executeBy dispatch) context directive).run state = .error stop last) :
    stop = .exhausted := by
  rw [run_dispatchBy] at ended
  cases executed : (executeBy dispatch context directive.command directive.call).run state with
  | ok outcome between => rw [executed] at ended; cases ended
  | error reason between =>
      rw [executed] at ended
      cases reason with
      | exhausted => cases ended; rfl
      | fault fault =>
          have mild := executeBy_tame _ _ within _ _ _ executed
          simp only [mild] at ended
          cases ended

theorem dispatchBy_goesOn {dispatch : Dispatch N} {context : Context}
    {directive : Directive (Handler N)} (within : Within .ordinary directive) :
    Returns (· = .goOn) (dispatchBy (executeBy dispatch) context directive) := by
  intro state last flow ended
  rw [run_dispatchBy] at ended
  cases executed : (executeBy dispatch context directive.command directive.call).run state with
  | ok outcome between =>
      rw [executed] at ended
      cases ended
      exact executeBy_returns _ _ within _ _ _ executed
  | error reason between =>
      rw [executed] at ended
      cases reason with
      | exhausted => cases ended
      | fault fault =>
          have mild := executeBy_tame _ _ (Handler.Within.tame within).mild _ _ _ executed
          simp only [mild] at ended
          cases ended
          rfl

theorem dispatchTo_stop (depth : Nat) (context : Context) {directive : Directive (Handler N)}
    (within : Within .mild directive) {state last : State N} {stop : Stop}
    (ended : (dispatchTo depth context directive).run state = .error stop last) :
    stop = .exhausted := by
  cases depth with
  | zero => cases ended; rfl
  | succ depth => exact dispatchBy_stop within ended

theorem dispatchTo_goesOn (depth : Nat) (context : Context) {directive : Directive (Handler N)}
    (within : Within .ordinary directive) :
    Returns (· = .goOn) (dispatchTo depth context directive) := by
  cases depth with
  | zero => exact fun _ _ _ ended => nomatch ended
  | succ depth => exact dispatchBy_goesOn within

end ExScript.Engine
