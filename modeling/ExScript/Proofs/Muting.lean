import ExScript.Proofs.Completion
import ExScript.Proofs.CommandsAbreast

/-!
Failures of single lines. A script in which commands fail runs as it would if those commands ended
quietly where they failed. Nothing but the reports of the failures, each at the point where its
command failed, tells one run from the other.
-/

namespace ExScript

/-- The words of a report: the message of a script error without its place, else the text of the
fault, else what kind of fault it is. -/
inductive Worded : Fault → String → Prop where
  | script (error : ScriptError) : Worded (.script error) error.message
  | text {fault} (other : ∀ error, fault ≠ .script error) (said : fault.text ≠ "") :
      Worded fault fault.text
  | kind {fault} (other : ∀ error, fault ≠ .script error) (unsaid : fault.text = "") :
      Worded fault fault.kindName

theorem Fault.report_worded (fault : Fault) : Worded fault fault.report := by
  unfold Fault.report
  split
  next error => exact .script error
  next other =>
    split
    next unsaid => exact .kind other unsaid
    next said => exact .text other said

def Channel.reporting (channel : Channel) (path : String) (line : Nat) (text : String) : Channel :=
  ((channel.emit ⟨.error, "Error detected while processing: " ++ path⟩).emit
    ⟨.echo, "line " ++ toString line ++ ":"⟩).emit ⟨.error, text⟩

namespace Engine

variable {N : Type}

def carryOut (dispatch : Dispatch N) (context : Context) (call : Call) : Handler N → Run N Outcome
  | .builtin builtin => runBuiltin dispatch context call builtin
  | .host program => interpret dispatch context (program call)

/-- Ends without an outcome where the action fails, with all that it did until then. Errors of block
structure go on. -/
def unfailing (action : Run N Outcome) : Run N Outcome := do
  match ← attempt action with
  | .ok outcome => pure outcome
  | .error fault => if (structural? fault).isSome then raise fault else pure .nothing

/-- Executes a command, which ends quietly where it fails if it is among those to be muted. -/
def executeMuting (mutes : Descriptor (Handler N) → Bool) (dispatch : Dispatch N) : Execute N :=
  fun context command call =>
    let action := carryOut dispatch context call command.handler
    logged command.name call (if mutes command then unfailing action else action)

def mutedTo (mutes : Descriptor (Handler N) → Bool) : (depth : Nat) → Dispatch N
  | 0 => fun _ _ => throw .exhausted
  | depth + 1 => dispatchBy (executeMuting mutes (mutedTo mutes depth))

theorem executeBy_carryOut (dispatch : Dispatch N) (context : Context)
    (command : Descriptor (Handler N)) (call : Call) :
    executeBy dispatch context command call =
      logged command.name call (carryOut dispatch context call command.handler) := rfl

theorem executeMuting_unmuted {mutes : Descriptor (Handler N) → Bool}
    {command : Descriptor (Handler N)} (unmuted : mutes command = false) (dispatch : Dispatch N)
    (context : Context) (call : Call) :
    executeMuting mutes dispatch context command call =
      logged command.name call (carryOut dispatch context call command.handler) := by
  unfold executeMuting
  rw [unmuted]
  rfl

theorem executeMuting_muted {mutes : Descriptor (Handler N) → Bool}
    {command : Descriptor (Handler N)} (muted : mutes command = true) (dispatch : Dispatch N)
    (context : Context) (call : Call) :
    executeMuting mutes dispatch context command call =
      logged command.name call (unfailing (carryOut dispatch context call command.handler)) := by
  unfold executeMuting
  rw [muted]
  rfl

theorem run_unfailing (action : Run N Outcome) (state : State N) :
    (unfailing action).run state =
      match action.run state with
      | .error (.fault fault) last =>
          if (structural? fault).isSome then .error (.fault fault) last else .ok .nothing last
      | ended => ended := by
  unfold unfailing
  rw [EStateM.run_bind, run_attempt]
  cases action.run state with
  | ok outcome last => rfl
  | error stop last =>
      cases stop with
      | exhausted => rfl
      | fault fault =>
          dsimp only
          split <;> rfl

structure Fails (mutes : Descriptor (Handler N) → Bool) (context : Context)
    (directive : Directive (Handler N)) (fault : Fault) (last : State N) : Prop where
  muted : mutes directive.command = true
  mild : structural? fault = none
  ran : ∃ depth state, (executeBy (dispatchTo depth) context directive.command
    directive.call).run state = .error (.fault fault) last

/-- How the channel of a run compares with that of the run with muted commands. The same is shown
in both, and in the former each failure besides: in a script three messages, which name the script
being read and the line of the directive; at the prompt, which has no place, the fault alone. -/
inductive Ahead (mutes : Descriptor (Handler N) → Bool) : Channel → Channel → Prop where
  | same (channel) : Ahead mutes channel channel
  | wrote {loud quiet} (behind : Ahead mutes loud quiet) (text : String) :
      Ahead mutes (loud.write text) (quiet.write text)
  | said {loud quiet} (behind : Ahead mutes loud quiet) (message : Message) :
      Ahead mutes (loud.emit message) (quiet.emit message)
  | failed {context directive fault last quiet path text}
      (behind : Ahead mutes last.session.channel quiet)
      (fails : Fails mutes context directive fault last) (within : context.path = some path)
      (here : last.session.place = some path) (worded : Worded fault text) :
      Ahead mutes (last.session.channel.reporting path directive.line text) quiet
  | failedAtPrompt {context directive fault last quiet text}
      (behind : Ahead mutes last.session.channel quiet)
      (fails : Fails mutes context directive fault last) (within : context.path = none)
      (worded : Worded fault text) :
      Ahead mutes (last.session.channel.emit ⟨.error, text⟩) quiet

theorem Ahead.lasting (mutes : Descriptor (Handler N) → Bool) :
    Channel.Lasting (Ahead mutes) where
  write := .wrote
  emit := .said

theorem run_report_script (directive : Directive (Handler N)) (fault : Fault) (path : String)
    (state : State N) :
    ∃ log, (report (some path) directive fault).run state = .ok ⟨⟩ (state.under
      (state.session.heard (state.session.channel.reporting path directive.line fault.report)
        log)) :=
  ⟨_, rfl⟩

theorem run_report_prompt (directive : Directive (Handler N)) (fault : Fault) (state : State N) :
    ∃ log, (report none directive fault).run state = .ok ⟨⟩ (state.under
      (state.session.heard (state.session.channel.emit ⟨.error, fault.report⟩) log)) :=
  ⟨_, rfl⟩

theorem dispatchTo_reports {depth : Nat} {context : Context} {directive : Directive (Handler N)}
    {state last : State N} {fault : Fault} {path : String}
    (ran : (executeBy (dispatchTo depth) context directive.command directive.call).run state =
      .error (.fault fault) last)
    (mild : structural? fault = none) (within : context.path = some path) :
    ∃ text log, Worded fault text ∧
      (dispatchTo (depth + 1) context directive).run state = .ok .goOn (last.under
        (last.session.heard (last.session.channel.reporting path directive.line text) log)) := by
  obtain ⟨log, reported⟩ := run_report_script directive fault path last
  refine ⟨fault.report, log, fault.report_worded, ?_⟩
  rw [dispatchTo_succ, run_dispatchBy, ran]
  dsimp only
  rw [mild, within]
  exact congrArg _ (after_ok reported)

namespace Abreast

variable {mutes : Descriptor (Handler N) → Bool} {place : Option String}

theorem reported {context : Context} (here : context.At place) {directive : Directive (Handler N)}
    {fault : Fault} {last other : State N} (fails : Fails mutes context directive fault last)
    (twin : Twin (Ahead mutes) place last other) :
    Twin (Ahead mutes) place (after (Engine.report context.path directive fault) last) other := by
  cases twin with
  | intro twin =>
      cases twin with
      | heard still compared =>
          cases within : context.path with
          | none =>
              obtain ⟨log, ran⟩ := run_report_prompt directive fault last
              rw [after_ok ran]
              have ahead := Ahead.failedAtPrompt compared fails within fault.report_worded
              exact .intro (.heard still ahead)
          | some path =>
              obtain ⟨log, ran⟩ := run_report_script directive fault path last
              rw [after_ok ran]
              have ahead := Ahead.failed compared fails within (still.trans (here path within))
                fault.report_worded
              exact .intro (.heard still ahead)

theorem carriedOut {dispatch other : Dispatch N}
    (dispatched : ∀ {place context} directive, Context.At place context →
      Abreast (Ahead mutes) place (dispatch context directive) (other context directive))
    {context : Context} (here : context.At place) (call : Call) (handler : Handler N) :
    Abreast (Ahead mutes) place (carryOut dispatch context call handler)
      (carryOut other context call handler) := by
  cases handler with
  | builtin builtin => exact runBuiltin (Ahead.lasting mutes) dispatched here call builtin
  | host program => exact interpret (Ahead.lasting mutes) dispatched context (program call)

theorem muted {depth : Nat} {other : Dispatch N} {context : Context} (here : context.At place)
    {directive : Directive (Handler N)} (mute : mutes directive.command = true)
    (inside : Abreast (Ahead mutes) place
      (carryOut (Engine.dispatchTo depth) context directive.call directive.command.handler)
      (carryOut other context directive.call directive.command.handler)) :
    Abreast (Ahead mutes) place (Engine.dispatchTo (depth + 1) context directive)
      (Engine.dispatchBy (executeMuting mutes other) context directive) := by
  intro state final twin
  let row := startRow directive.command.name directive.call
  have together := inside (state.noted .debug row) (final.noted .debug row) (twin.noted _ _)
  have loud := run_logged directive.command.name directive.call
    (carryOut (Engine.dispatchTo depth) context directive.call directive.command.handler) state
  have quiet := run_logged directive.command.name directive.call
    (unfailing (carryOut other context directive.call directive.command.handler)) final
  rw [run_unfailing, ← executeMuting_muted mute] at quiet
  rw [← executeBy_carryOut] at loud
  rw [dispatchTo_succ, run_dispatchBy, run_dispatchBy]
  generalize EStateM.run _ (state.noted .debug row) = result at together loud
  generalize EStateM.run _ (final.noted .debug row) = also at together quiet
  cases together with
  | ok twin =>
      rw [loud, quiet]
      exact .ok (twin.noted _ _)
  | @error stop last final twin =>
      cases stop with
      | exhausted =>
          rw [loud, quiet]
          exact .error twin
      -- Swallowed in the one run, the failure is contained in the other, unless it is one of blocks.
      | fault fault =>
          dsimp only at loud quiet
          cases structural : structural? fault with
          | some error =>
              simp only [structural, Option.isSome_some, ↓reduceIte] at quiet
              rw [loud, quiet]
              dsimp only
              rw [structural]
              exact .error ((twin.noted .debug _).noted .debug _)
          | none =>
              simp only [structural, Option.isSome_none, Bool.false_eq_true, ↓reduceIte] at quiet
              have fails : Fails mutes context directive fault _ := ⟨mute, structural, _, _, loud⟩
              rw [loud, quiet]
              dsimp only
              rw [structural]
              exact .ok (reported here fails ((twin.loggedMore .debug _).noted .debug _))

theorem dispatchTo (mutes : Descriptor (Handler N) → Bool) (depth : Nat) {context : Context}
    (here : context.At place) (directive : Directive (Handler N)) :
    Abreast (Ahead mutes) place (dispatchTo depth context directive)
      (mutedTo mutes depth context directive) := by
  induction depth generalizing place context directive with
  | zero => exact exhausted
  | succ depth ih =>
      have inside := carriedOut (fun directive here => ih here directive) here directive.call
        directive.command.handler
      have same : mutedTo mutes (depth + 1) =
          Engine.dispatchBy (executeMuting mutes (mutedTo mutes depth)) := rfl
      rw [same]
      cases mute : mutes directive.command with
      | true => exact muted here mute inside
      | false =>
          refine dispatchBy (Ahead.lasting mutes) ?_
          rw [executeBy_carryOut, executeMuting_unmuted mute]
          exact logged _ _ inside

end Abreast

theorem Twin.refl {compares : Channel → Channel → Prop} (same : ∀ channel, compares channel channel)
    (state : State N) : Twin compares state.session.place state state := by
  have twin : Twin compares state.session.place state
      (state.under (state.session.heard state.session.channel state.session.log)) :=
    .intro (.heard rfl (same _))
  exact twin

structure FailuresIsolated (mutes : Descriptor (Handler N) → Bool) (depth : Nat) : Prop where
  reports : ∀ {context} {directive : Directive (Handler N)} {state last : State N} {fault path},
    (executeBy (dispatchTo depth) context directive.command directive.call).run state =
      .error (.fault fault) last →
    structural? fault = none → context.path = some path →
      ∃ text log, Worded fault text ∧
        (dispatchTo (depth + 1) context directive).run state = .ok .goOn (last.under
          (last.session.heard (last.session.channel.reporting path directive.line text) log))
  text : ∀ text name (state : State N), Together (Ahead mutes) state.session.place
    ((sourceString (dispatchTo depth) text name).run state)
    ((sourceString (mutedTo mutes depth) text name).run state)
  file : ∀ path written silent (state : State N), Together (Ahead mutes) state.session.place
    ((source (dispatchTo depth) path written silent).run state)
    ((source (mutedTo mutes depth) path written silent).run state)

/-- A script with failing commands runs as if these commands ended where they fail, at any depth of
blocks and of scripts within scripts. Each failure is shown where it happened, and nothing else is
different. -/
theorem failures_isolated (mutes : Descriptor (Handler N) → Bool) (depth : Nat) :
    FailuresIsolated mutes depth where
  reports := dispatchTo_reports
  text text name state :=
    Abreast.sourceString (Ahead.lasting mutes)
      (fun directive here => Abreast.dispatchTo mutes depth here directive) text name state state
      (Twin.refl .same state)
  file path written silent state :=
    Abreast.source (Ahead.lasting mutes)
      (fun directive here => Abreast.dispatchTo mutes depth here directive) path written silent
      state state (Twin.refl .same state)

def failingText : String :=
  "if 1\nlet =\nif 1\nlet +\nendif\necho 2\nendif\nlet *\necho 3\n"

def isLet (command : Descriptor (Handler Unit)) : Bool :=
  command.name = "let"

def shown {α : Type} : Ended N α → Option α × List Message
  | .ok value last => (some value, last.session.channel.history.toList)
  | .error _ last => (none, last.session.channel.history.toList)

def failingReports : List Message :=
  [⟨.error, "Error detected while processing: s"⟩, ⟨.echo, "line 2:"⟩,
    ⟨.error, "E18: Unexpected characters in :let: ="⟩,
    ⟨.error, "Error detected while processing: s"⟩, ⟨.echo, "line 4:"⟩,
    ⟨.error, "E18: Unexpected characters in :let: +"⟩, ⟨.echo, "2"⟩,
    ⟨.error, "Error detected while processing: s"⟩, ⟨.echo, "line 8:"⟩,
    ⟨.error, "E18: Unexpected characters in :let: *"⟩, ⟨.echo, "3"⟩]

def bare : Directive (Handler Unit) where
  line := 3
  command :=
    { serial := 0, first := ⟨"bare", "bare"⟩, others := [], description := "", hereDoc := false
      bang := false, source := "", handler := .host fun _ => .fail (.foreign "ValueError" "") }
  count := none
  bang := false
  args := ""

theorem failures_isolated_nested :
    ∃ last other, (sourceString (dispatchTo 4) failingText "s").run builtinState = .ok true last ∧
      (sourceString (mutedTo isLet 4) failingText "s").run builtinState = .ok true other ∧
      Twin (Ahead isLet) none last other ∧
      last.session.channel.history.toList = failingReports ∧
      other.session.channel.history.toList = [⟨.echo, "2"⟩, ⟨.echo, "3"⟩] ∧
      ∃ final, (dispatchTo 1 { path := some "s" } bare).run builtinState = .ok .goOn final ∧
        final.session.channel = builtinState.session.channel.reporting "s" 3 "ValueError" := by
  have failing : ∃ log, (executeBy (dispatchTo 0) { path := some "s" } bare.command bare.call).run
      builtinState = .error (.fault (.foreign "ValueError" "")) (builtinState.under
        { builtinState.session with log }) := ⟨_, rfl⟩
  obtain ⟨_, failing⟩ := failing
  obtain ⟨text, log, worded, reported⟩ := (failures_isolated isLet 0).reports failing rfl rfl
  have together := (failures_isolated isLet 4).text failingText "s" builtinState
  have loud : shown ((sourceString (dispatchTo 4) failingText "s").run builtinState) =
      (some true, failingReports) := by decide +kernel
  have quiet : shown ((sourceString (mutedTo isLet 4) failingText "s").run builtinState) =
      (some true, [⟨.echo, "2"⟩, ⟨.echo, "3"⟩]) := by decide +kernel
  generalize (sourceString (dispatchTo 4) failingText "s").run builtinState = result
    at together loud
  generalize (sourceString (mutedTo isLet 4) failingText "s").run builtinState = also
    at together quiet
  cases together with
  | ok twin =>
      obtain ⟨value, history⟩ := Prod.mk.inj loud
      cases value
      refine ⟨_, _, rfl, rfl, twin, history, (Prod.mk.inj quiet).2, _, reported, ?_⟩
      cases worded with
      | text other said => exact absurd rfl said
      | kind other unsaid => rfl
  | error twin =>
      obtain ⟨value, -⟩ := Prod.mk.inj loud
      cases value

end Engine

end ExScript
