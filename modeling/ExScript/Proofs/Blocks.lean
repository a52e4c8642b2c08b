import ExScript.Proofs.Running
import ExScript.Proofs.ScopedRuns

/-!
What blocks are made of: the directive that opens one, its conditions, and the errors of block
structure that break it off.
-/

namespace ExScript.Engine

variable {N : Type}

def opened (context : Context) (directive : Directive (Handler N)) (block : Run N Flow) :
    Run N Flow :=
  dispatchBy (fun _ command call => logged command.name call do pure (.flow (← block))) context
    directive

def blockEnd (context : Context) (directive : Directive (Handler N)) : Ended N Flow → Ended N Flow
  | .ok flow last => .ok flow (last.noted .debug (endRow directive.name))
  | .error .exhausted last => .error .exhausted last
  | .error (.fault fault) last =>
      let logged := (last.noted .debug (errorRow directive.name)).noted .debug
        (endRow directive.name)
      match structural? fault with
      | some error =>
          .error (.fault (.script (attributed context.path directive.line error))) logged
      | none => .ok .goOn (after (report context.path directive fault) logged)

theorem run_opened (context : Context) (directive : Directive (Handler N)) (block : Run N Flow)
    (state : State N) :
    (opened context directive block).run state =
      blockEnd context directive
        (block.run (state.noted .debug (startRow directive.name directive.call))) := by
  unfold opened
  rw [run_dispatchBy, run_logged, EStateM.run_bind]
  dsimp only [Directive.name]
  generalize block.run (state.noted .debug (startRow directive.command.name directive.call)) =
    result
  cases result with
  | ok flow last => rfl
  | error stop last => cases stop <;> rfl

theorem dispatch_opened (dispatch : Dispatch N) (context : Context)
    {directive : Directive (Handler N)} (opens : directive.command.handler = .builtin .ifBlock) :
    dispatchBy (executeBy dispatch) context directive =
      opened context directive (runIf openPrompted dispatch context directive.args) := by
  unfold dispatchBy executeBy
  rw [opens]
  rfl

theorem run_runIf (openStream : Run N (Stream (Handler N))) (dispatch : Dispatch N)
    (context : Context) (condition : String) {state : State N} (present : state.stream.isSome) :
    (runIf openStream dispatch context condition).run state =
      (runBlock dispatch context condition).run state := by
  obtain ⟨stream, current⟩ := Option.isSome_iff_exists.mp present
  unfold runIf
  rw [run_get_bind]
  rw [current]

theorem run_dispatch_block (dispatch : Dispatch N) (context : Context)
    {directive : Directive (Handler N)} (opens : directive.command.handler = .builtin .ifBlock)
    {state : State N} (present : state.stream.isSome) :
    (dispatchBy (executeBy dispatch) context directive).run state =
      blockEnd context directive ((runBlock dispatch context directive.args).run
        (state.noted .debug (startRow directive.name directive.call))) := by
  rw [dispatch_opened dispatch context opens, run_opened]
  exact congrArg _ (run_runIf _ dispatch context directive.args present)

def Breaks (code : String) (stop : Stop) : Prop :=
  ∃ error, stop = .fault (.script error) ∧ error.kind = .conditional code

theorem structural_breaks {stop : Stop} {code : String} (breaks : Breaks code stop) :
    ∃ error, stop = .fault (.script error) ∧ error.kind = .conditional code ∧
      structural? (.script error) = some error := by
  obtain ⟨error, rfl, kind⟩ := breaks
  exact ⟨error, rfl, kind, by simp only [structural?, kind]⟩

theorem blockEnd_breaks (context : Context) (directive : Directive (Handler N)) {stop : Stop}
    {code : String} (breaks : Breaks code stop) :
    ∃ raised, Breaks code raised ∧ ∀ last, blockEnd context directive (.error stop last) =
      .error raised ((last.noted .debug (errorRow directive.name)).noted .debug
        (endRow directive.name)) := by
  obtain ⟨error, rfl, kind, structural⟩ := structural_breaks breaks
  refine ⟨.fault (.script (attributed context.path directive.line error)), ⟨_, rfl, kind⟩, ?_⟩
  intro last
  simp only [blockEnd, structural]

theorem ofCondition_script (error : ScriptError) (line : Option Int) :
    ∃ raised, Fault.ofCondition error line = .script raised ∧ raised.kind = .conditional "E15" := by
  unfold Fault.ofCondition Fault.conditional
  split
  · exact ⟨_, rfl, rfl⟩
  · exact ⟨_, rfl, rfl⟩

/-- A condition has been evaluated in a scope, with nothing bound elsewhere: it is as true as its
value, or its failure is one of the block. -/
inductive Judged (scope : Expr.Scope) (condition : String) (line : Option Int) (state : State N) :
    Ended N Bool → Prop
  | truth {value : Expr.Value} {last : State N}
      (evaluated : (state.world.runIn state.outside scope condition).1 = .ok value)
      (world : last.world = (state.world.runIn state.outside scope condition).2.flushed)
      (beside : Expr.Beside scope state.world last.world)
      (elsewhere : last = { state with world := last.world, session := last.session }) :
      Judged scope condition line state (.ok (last.world.truth value) last)
  | fault {error : ScriptError} {last : State N}
      (evaluated : (state.world.runIn state.outside scope condition).1 = .error error)
      (world : last.world = (state.world.runIn state.outside scope condition).2.flushed)
      (beside : Expr.Beside scope state.world last.world)
      (elsewhere : last = { state with world := last.world, session := last.session }) :
      Judged scope condition line state (.error (.fault (.ofCondition error line)) last)

theorem holds_judged (scope : Expr.Scope) (condition : String) (line : Option Int)
    (state : State N) :
    Judged scope condition line state ((holds scope condition line).run state) := by
  have beside := (state.world.runIn_beside state.outside scope condition).flushed
  obtain ⟨session, ran⟩ :=
    run_onWorld (fun outside world => world.runIn outside scope condition) state
  unfold holds
  rw [run_bind_ok ran]
  cases evaluated : (state.world.runIn state.outside scope condition).1 with
  | ok value => exact .truth evaluated rfl beside rfl
  | error error => exact .fault evaluated rfl beside rfl

theorem run_holds (scope : Expr.Scope) (condition : String) (line : Option Int) (state : State N) :
    (∃ value last, (holds scope condition line).run state = .ok value last ∧
        last.stream = state.stream) ∨
      ∃ stop last, (holds scope condition line).run state = .error stop last ∧
        Breaks "E15" stop := by
  have judged := holds_judged scope condition line state
  generalize (holds scope condition line).run state = result at judged
  cases judged with
  | @truth value last evaluated world beside elsewhere =>
      exact .inl ⟨last.world.truth value, last, rfl, by rw [elsewhere]⟩
  | @fault error last evaluated world beside elsewhere =>
      obtain ⟨raised, same, kind⟩ := ofCondition_script error line
      rw [same]
      exact .inr ⟨.fault (.script raised), last, rfl, raised, rfl, kind⟩

/-- A scope has been made for a block, and nothing else has changed. -/
inductive OpensScope (state : State N) : Ended N Expr.Scope → Prop
  | opened {scope : Expr.Scope} {last : State N}
      (begins : state.world.Begins scope last.world)
      (elsewhere : last = { state with world := last.world }) : OpensScope state (.ok scope last)

theorem newScope_opens (state : State N) : OpensScope state (newScope.run state) :=
  .opened state.world.begins_newScope rfl

end ExScript.Engine
