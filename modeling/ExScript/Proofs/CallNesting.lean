import ExScript.Proofs.CallRows
import ExScript.Proofs.LogRows
import ExScript.Proofs.ScriptNames

/-!
The log of calls is well nested, whatever is run. Every action logs what the grammar of calls
allows, and so do the places where faults end: at a line, at a typed line or at a script. An error
of block structure breaks off the calls that are open in its script or typed line, and no others.
-/

namespace ExScript.Engine

variable {N α β : Type}

def State.log (state : State N) : List LogRow :=
  state.session.log.toList

@[simp] theorem State.log_noted (state : State N) (level : Level) (text : String) :
    (state.noted level text).log = state.log ++ [⟨level, state.session.currentScript, text⟩] :=
  Array.toList_push

inductive Logs (state : State N) : Ended N α → Prop where
  | ok {value last rows} (logged : last.log = state.log ++ rows)
      (nesting : Nesting N state.log rows none) : Logs state (.ok value last)
  | fault {fault last rows} (logged : last.log = state.log ++ rows)
      (nesting : Nesting N state.log rows (some fault)) : Logs state (.error (.fault fault) last)
  | exhausted {last opened rows} (logged : last.log = state.log ++ rows)
      (still : Open N state.log opened rows) : Logs state (.error .exhausted last)

namespace Logs

variable {state middle last : State N} {rows : List LogRow}

theorem behind {result : Ended N α} (logged : middle.log = state.log ++ rows)
    (before : Nesting N state.log rows none) (logs : Logs middle result) : Logs state result := by
  cases logs with
  | ok further nesting =>
      rw [logged] at further nesting
      exact .ok (by rw [further, List.append_assoc]) (before.append nesting)
  | fault further nesting =>
      rw [logged] at further nesting
      exact .fault (by rw [further, List.append_assoc]) (before.append nesting)
  | exhausted further still =>
      rw [logged] at further still
      exact .exhausted (by rw [further, List.append_assoc]) (before.opened still)

theorem of_same {result : Ended N α} (same : middle.log = state.log) (logs : Logs middle result) :
    Logs state result := by
  have logged : middle.log = state.log ++ [] := by rw [same, List.append_nil]
  exact logs.behind logged .nothing

theorem restoring {restore : State N → State N → State N} {action : Run N α}
    (kept : ∀ last, (restore state last).log = last.log) (logs : Logs state (action.run state)) :
    Logs state ((restoring restore action).run state) := by
  unfold Engine.restoring EStateM.run at *
  dsimp only
  generalize action state = result at logs
  cases logs with
  | ok logged nesting => exact .ok ((kept _).trans logged) nesting
  | fault logged nesting => exact .fault ((kept _).trans logged) nesting
  | exhausted logged still => exact .exhausted ((kept _).trans logged) still

end Logs

def TellsOf (words : String) (state last : State N) : Prop :=
  ∃ row others, last.log = state.log ++ row :: others ∧ words.toList <+: row.text.toList ∧
    ∀ other ∈ others, Text.Diverges "command.call." other.text

theorem TellsOf.of_proceeds {words text : String} {level : Level} {state last : State N}
    (begins : words.toList <+: text.toList)
    (proceeds : (state.session.note level text).Proceeds last.session) :
    TellsOf words state last := by
  obtain ⟨others, logged, incidental⟩ := proceeds
  refine ⟨⟨level, state.session.currentScript, text⟩, others, ?_, begins,
    fun other member => (incidental other member).2⟩
  unfold State.log
  rw [logged, Session.note, Array.toList_push, List.append_assoc]
  rfl

theorem Logs.contained {state middle last : State N} {rows : List LogRow} {fault : Fault}
    (catcher : Catcher) (catches : catcher.Catches fault) (logged : middle.log = state.log ++ rows)
    (nesting : Nesting N state.log rows (some fault)) (tells : TellsOf catcher.words middle last)
    (value : α) : Logs state (.ok value last) := by
  obtain ⟨row, others, further, told, noCall⟩ := tells
  refine .ok ?_ (.contained catcher catches nesting told (.of_noCall noCall))
  rw [further, logged, List.append_assoc]

theorem report_tellsOf (path : Option String) (directive : Directive (Handler N)) (fault : Fault)
    (state : State N) :
    TellsOf Catcher.line.words state (after (report path directive fault) state) := by
  cases path with
  | none => exact .of_proceeds (by simp [Catcher.words]) (Session.say_proceeds _ .error _)
  | some path =>
      exact .of_proceeds (by simp [Catcher.words])
        ((Session.locate_proceeds _ _ _).trans (Session.say_proceeds _ .error _))

theorem reportFailure_tellsOf (name : String) (fault : Fault) (state : State N) :
    TellsOf Catcher.script.words state (after (reportFailure name fault) state) := by
  have begins : Catcher.script.words.toList <+: (failureRow name fault).toList := by
    unfold failureRow
    split <;> simp [Catcher.words]
  exact .of_proceeds begins (Session.say_proceeds _ .error _)

def KeepsStream (action : Run N α) : Prop :=
  ∀ state : State N, state.stream.isSome → (after action state).stream.isSome

theorem keepsStream_catching : Catching (N := N) KeepsStream where
  pure _ := fun _ some => some
  raise _ := fun _ some => some
  bind first second := fun state some =>
    after_bind (·.stream.isSome) (first state some) fun value last still => second value last still
  attempt inside := fun state some => by
    rw [after_attempt]
    exact inside state some
  note _ _ _ := fun _ some => some
  say _ _ := fun _ some => some
  locate _ _ := fun _ some => some

/-- What an action logs nests. That it leaves a stream where there was one goes along with it. -/
structure Nests (action : Run N α) : Prop where
  logs : ∀ state, Logs state (action.run state)
  keeps : KeepsStream action

namespace Execution

variable (execution : Execution N)

/-- What an execution logs. The row of a failure is there just where the handler failed. -/
inductive Logged : Ended N Outcome → Prop where
  | returned {outcome last final inside} (ended : execution.ended = .ok outcome last)
      (within : Nesting N (execution.state.log ++ [execution.opening]) inside none)
      (logged : final.log =
        execution.state.log ++ (execution.opening :: inside ++ [execution.closing])) :
      Logged (.ok outcome final)
  | failed {fault last final inside} (ended : execution.ended = .error (.fault fault) last)
      (within : Nesting N (execution.state.log ++ [execution.opening]) inside (some fault))
      (logged : final.log = execution.state.log ++
        (execution.opening :: inside ++ [execution.failing, execution.closing])) :
      Logged (.error (.fault fault) final)
  | exhausted {last opened rows} (ended : execution.ended = .error .exhausted last)
      (still : Open N (execution.state.log ++ [execution.opening]) opened rows)
      (logged : last.log = execution.state.log ++ execution.opening :: rows) :
      Logged (.error .exhausted last)

variable {execution}

theorem Logged.logs {result : Ended N Outcome} (logged : execution.Logged result) :
    Logs execution.state result := by
  cases logged with
  | returned ended within logged => exact .ok logged (.returned rfl ended within .nothing)
  | failed ended within logged => exact .fault logged (.failed rfl ended within)
  | exhausted ended still logged =>
      exact .exhausted logged (.begun .nothing (by simp [Begins, State.log]) (by simpa using still))

end Execution

namespace Nests

theorem of_proceeds {action : Run N α}
    (proceeds : ∀ state : State N, state.session.Proceeds (after action state).session)
    (keeps : KeepsStream action) : Nests action := by
  refine ⟨fun state => ?_, keeps⟩
  obtain ⟨rows, logged, incidental⟩ := proceeds state
  have quiet : Nesting N state.log rows none :=
    .of_noCall fun row member => (incidental row member).2
  cases ended : action.run state with
  | ok value last =>
      rw [after_ok ended] at logged
      exact .ok logged quiet
  | error stop last =>
      rw [after_error ended] at logged
      cases stop with
      | fault fault => exact .fault logged (quiet.raising fault)
      | exhausted => exact .exhausted logged (.none quiet)

theorem of_passes {action : Run N α} (passes : Passes action) : Nests action :=
  of_proceeds (fun state => (passes state).proceeds) fun state => (passes state).streaming

theorem bind {action : Run N α} {next : α → Run N β} (first : Nests action)
    (second : ∀ value, Nests (next value)) : Nests (action >>= next) := by
  refine ⟨fun state => ?_, keepsStream_catching.bind first.keeps fun value => (second value).keeps⟩
  have logs := first.logs state
  rw [EStateM.run_bind]
  generalize action.run state = result at logs
  cases logs with
  | @ok value last rows logged nesting =>
      exact ((second value).logs last).behind logged nesting
  | fault logged nesting => exact .fault logged nesting
  | exhausted logged still => exact .exhausted logged still

theorem addStylesheet (path : Path) : Nests (addStylesheet path : Run N Unit) := by
  refine bind (of_proceeds (fun state => .of_same ?_) fun state some => ?_) fun _ =>
    of_passes (.note .info (.append (by decide) _))
  · simp only [after, EStateM.run_modify]
    split <;> rfl
  · simp only [after, EStateM.run_modify]
    split <;> exact some

theorem recordScript (path : Path) : Nests (recordScript path : Run N Unit) := by
  refine bind (of_proceeds (fun state => .of_same ?_) fun state some => ?_) fun _ => ?_
  · simp only [after, addScriptName, EStateM.run_modify]
    split <;> rfl
  · simp only [after, addScriptName, EStateM.run_modify]
    split <;> exact some
  · -- The row tells of the script, but of no call.
    have noCall : Text.Diverges "command.call." ("source.done path=" ++ path.text) :=
      .append (by decide) _
    exact ⟨fun state => .ok Array.toList_push (.row noCall .nothing), fun _ some => some⟩

theorem withScript (path : String) {action : Run N α} (inside : Nests action) :
    Nests (withScript path action) := by
  have entering : Nests (do
      onSession (·.enter path)
      action) := bind (of_passes (.unlogged fun _ => ⟨rfl, rfl, rfl, id⟩)) fun _ => inside
  refine ⟨fun state => (entering.logs state).restoring fun _ => rfl, fun state some => ?_⟩
  have present := entering.keeps state some
  unfold Engine.withScript
  rw [after_restoring]
  exact present

theorem onStreamOf (stream : Option (Stream (Handler N))) {action : Run N α}
    (logs : ∀ state : State N, state.stream = stream → Logs state (action.run state)) :
    Nests (restoring (fun before last => { last with stream := before.stream }) do
      modify fun state => { state with stream }
      action) := by
  refine ⟨fun state => .restoring (fun _ => rfl) ?_, fun state some => ?_⟩
  · have same : State.log { state with stream } = state.log := rfl
    exact (logs { state with stream } rfl).of_same same
  · rw [after_restoring]
    exact some

theorem withStream (stream : Stream (Handler N)) {action : Run N α} (inside : Nests action) :
    Nests (withStream stream action) :=
  onStreamOf (some stream) fun state _ => inside.logs state

theorem withoutStream {action : Run N α} (inside : Nests action) :
    Nests (withoutStream action) :=
  onStreamOf none fun state _ => inside.logs state

theorem closingBehind {action : Run N α} (inside : Nests action) {state : State N}
    (some : state.stream.isSome) : Logs state ((closingBehind action).run state) := by
  have logs := inside.logs state
  have present := inside.keeps state some
  unfold after at present
  unfold Engine.closingBehind
  rw [EStateM.run_bind, run_attempt]
  generalize action.run state = result at logs present
  cases logs with
  | ok logged nesting =>
      obtain ⟨stream, current⟩ := Option.isSome_iff_exists.mp present
      dsimp only
      rw [run_bind_ok (run_closeStream current)]
      exact .ok logged nesting
  | fault logged nesting =>
      obtain ⟨stream, current⟩ := Option.isSome_iff_exists.mp present
      dsimp only
      rw [run_bind_ok (run_closeStream current)]
      exact .fault logged nesting
  | exhausted logged still => exact .exhausted logged still

theorem typed (prompting : Prompting) (initial : List String) {action : Run N α}
    (inside : Nests action) :
    Nests (Engine.withStream (.prompted prompting initial) (Engine.closingBehind action)) :=
  onStreamOf _ fun _ current => inside.closingBehind (by rw [current]; rfl)

theorem executed {execution : Execution N} (inside : Nests execution.action) :
    execution.Logged ((executeBy execution.dispatch execution.context execution.command
      execution.call).run execution.state) := by
  let begun := execution.state.noted .debug (startRow execution.command.name execution.call)
  have logs := inside.logs begun
  have ended : execution.ended = execution.action.run begun := rfl
  have begun_log : begun.log = execution.state.log ++ [execution.opening] := State.log_noted _ _ _
  have same : executeBy execution.dispatch execution.context execution.command execution.call =
      logged execution.command.name execution.call execution.action :=
    executeBy_eq_logged _ _ _ _
  rw [same, run_logged]
  generalize execution.action.run begun = result at logs ended ⊢
  cases logs with
  | @ok outcome last rows logged nesting =>
      have reached : execution.last = last := after_ok ended
      rw [begun_log] at logged nesting
      refine .returned ended nesting ?_
      rw [State.log_noted, logged, Execution.closing, reached]
      simp
  | @fault fault last rows logged nesting =>
      have reached : execution.last = last := after_error ended
      rw [begun_log] at logged nesting
      -- Both rows at the end are written by the one handler that has seen the failure.
      refine .failed ended nesting ?_
      rw [State.log_noted, State.log_noted, logged, Execution.closing, Execution.failing, reached]
      simp [State.noted, Session.note, Session.currentScript]
  | exhausted logged still =>
      rw [begun_log] at logged still
      refine .exhausted ended still ?_
      rw [logged]
      simp

theorem executes {dispatch : Dispatch N} {context : Context} {command : Descriptor (Handler N)}
    {call : Call} (inside : Nests (handle dispatch context command call)) :
    Nests (executeBy dispatch context command call) := by
  refine ⟨fun state => ?_, keepsStream_catching.fallible.executes inside.keeps⟩
  have logged : Execution.Logged ⟨dispatch, context, command, call, state⟩
      ((executeBy dispatch context command call).run state) := executed inside
  exact logged.logs

theorem dispatchBy {execute : Execute N} {context : Context} {directive : Directive (Handler N)}
    (inside : Nests (execute context directive.command directive.call)) :
    Nests (dispatchBy execute context directive) := by
  refine ⟨fun state => ?_, keepsStream_catching.dispatchBy inside.keeps⟩
  have logs := inside.logs state
  rw [run_dispatchBy]
  generalize EStateM.run _ _ = result at logs ⊢
  cases logs with
  | ok logged nesting => exact .ok logged nesting
  | exhausted logged still => exact .exhausted logged still
  | @fault fault last rows logged nesting =>
      dsimp only
      cases structural : structural? fault with
      | some error => exact .fault logged (.placed context.path directive.line structural nesting)
      | none => exact .contained .line structural logged nesting (report_tellsOf _ _ _ _) _

theorem shelteringLine {action : Run N Flow} (inside : Nests action) :
    Nests (shelteringLine action) := by
  refine ⟨fun state => ?_, keepsStream_catching.shelteringLine inside.keeps⟩
  have logs := inside.logs state
  unfold Engine.shelteringLine
  rw [EStateM.run_bind, run_attempt]
  generalize action.run state = result at logs
  cases logs with
  | ok logged nesting => exact .ok logged nesting
  | exhausted logged still => exact .exhausted logged still
  | @fault fault last rows logged nesting =>
      dsimp only
      cases structural : structural? fault with
      | none => exact .fault logged nesting
      | some error =>
          have catches : Catcher.prompt.Catches fault := by simp [Catcher.Catches, structural]
          have begins : Catcher.prompt.words.toList <+:
              ("prompt.failed error=" ++ error.message).toList := by simp [Catcher.words]
          exact .contained .prompt catches logged nesting
            (.of_proceeds begins (Session.say_proceeds _ .error _)) _

theorem shelteringScript (name : String) {action : Run N Unit} (inside : Nests action) :
    Nests (shelteringScript name action) := by
  refine ⟨fun state => ?_, keepsStream_catching.shelteringScript name inside.keeps⟩
  have logs := inside.logs state
  unfold Engine.shelteringScript
  rw [EStateM.run_bind, run_attempt]
  generalize action.run state = result at logs
  cases logs with
  | ok logged nesting => exact .ok logged nesting
  | exhausted logged still => exact .exhausted logged still
  | fault logged nesting =>
      exact .contained .script trivial logged nesting (reportFailure_tellsOf name _ _) _

end Nests

theorem nests_throughout : Throughout (N := N) Nests where
  pure value := .of_passes (.pure value)
  raise fault := .of_passes (.raise fault)
  bind := .bind
  note level _ incidental := .of_passes (.note level incidental)
  say kind text := .of_passes (.say kind text)
  locate path line := .of_passes (.locate path line)
  executes := .executes
  dispatchBy := .dispatchBy
  shelteringLine := .shelteringLine
  shelteringScript := .shelteringScript
  fails fault _ := .of_passes (.raise fault)
  reading _ each := .bind (.of_passes .get) each
  whereabouts context := .of_passes (passes_hereditary.whereabouts context)
  record entry := .of_passes (passes_hereditary.record entry)
  evaluate source := .of_passes (passes_hereditary.evaluate source)
  execute source := .of_passes (passes_hereditary.execute source)
  define name value := .of_passes (.define name value)
  runShell args bang := .of_passes (.runShell args bang)
  addStylesheet := .addStylesheet
  withScript := .withScript
  exhausted := .of_passes .exhausted
  watching _ each := .bind (.of_passes .get) each
  pull := .of_passes .pull
  closeStream := .of_passes .closeStream
  newScope := .of_passes .newScope
  condition _ _ := .of_passes (.onWorld _)
  typed := .typed
  withStream := .withStream
  withoutStream := .withoutStream

theorem dispatchTo_nests (depth : Nat) (context : Context) (directive : Directive (Handler N)) :
    Nests (dispatchTo depth context directive) :=
  nests_throughout.dispatchTo Nests.recordScript depth context directive

theorem sourcing_nests (depth : Nat) : Sourcing (N := N) Nests (dispatchTo depth) :=
  nests_throughout.sourcing (nests_throughout.ownStreams (dispatchTo_nests depth))
    Nests.recordScript

theorem handle_nests (depth : Nat) (context : Context) (command : Descriptor (Handler N))
    (call : Call) : Nests (handle (dispatchTo depth) context command call) :=
  nests_throughout.handle (sourcing_nests depth) (dispatchTo_nests depth) context command call

/-- The log of a script that does not run to its end. The fault breaks off the executions that are
open in it, and behind their rows a row tells of the fault. -/
def CutShort (script : Run N Bool) : Prop :=
  ∀ state last : State N, script.run state = .ok false last →
    ∃ fault opened front row others,
      last.log = state.log ++ (front ++ unwinding opened ++ row :: others) ∧
      Open N state.log opened front ∧ (∀ execution ∈ opened, execution.Raises fault) ∧
      Catcher.script.words.toList <+: row.text.toList ∧
      ∀ other ∈ others, Text.Diverges "command.call." other.text

theorem Nests.cutShort {action : Run N Unit} (inside : Nests action) (name : String) :
    CutShort (asScript name action) := by
  intro state last ended
  have logs := (inside.withScript name).logs state
  unfold asScript at ended
  rw [EStateM.run_bind, run_attempt] at ended
  generalize EStateM.run _ _ = result at logs ended
  cases logs with
  | ok | exhausted => cases ended
  | @fault fault middle rows logged nesting =>
      cases ended
      obtain ⟨opened, front, still, rfl, raised⟩ := nesting.unwinds
      obtain ⟨row, others, further, told, noCall⟩ := reportFailure_tellsOf name fault middle
      refine ⟨fault, opened, front, row, others, ?_, still, raised, told, noCall⟩
      exact further.trans (by rw [logged, List.append_assoc])

theorem LoaderCall.nests (depth : Nat) (call : LoaderCall) :
    Nests (call.run (dispatchTo depth) : Run N Bool) := by
  have sourcing := sourcing_nests (N := N) depth
  cases call with
  | file path written silent => exact nests_throughout.source sourcing path written silent
  | text content name => exact sourcing.text content name
  | runtime names all => exact nests_throughout.sourceRuntime sourcing names all

theorem executeLine_nests (depth : Nat) (line : String) :
    Nests (executeLine (dispatchTo depth) line : Run N Flow) :=
  nests_throughout.executeLine (dispatchTo_nests depth) line

theorem converse_nests (depth : Nat) (completions : List String) (turns : Nat) :
    Nests (converse (dispatchTo depth) completions turns : Run N Unit) := by
  induction turns with
  | zero => exact .of_passes .exhausted
  | succ turns ih =>
      have asked (request : PromptRequest) : Passes (ask request : Run N (Option String)) :=
        .unlogged fun state => ⟨Stream.log_ask state.session request, rfl, rfl, id⟩
      refine .bind (.of_passes (asked _)) fun answer => ?_
      cases answer with
      | none => exact .of_passes (.pure _)
      | some line => exact (executeLine_nests depth line).bind fun _ => ih

theorem runPrompt_nests (depth : Nat) : Nests (runPrompt (dispatchTo depth) : Run N Unit) :=
  .bind (.of_passes .get) fun _ => converse_nests depth _ _

/-- The log of calls is well nested, whatever is run and however it ends. -/
structure WellNested (N : Type) : Prop where
  executed : ∀ depth context command call (state : State N),
    Execution.Logged ⟨dispatchTo depth, context, command, call, state⟩
      ((executeBy (dispatchTo depth) context command call).run state)
  dispatched : ∀ depth context directive (state : State N),
    Logs state ((dispatchTo depth context directive).run state)
  loaded : ∀ depth (call : LoaderCall) (state : State N),
    Logs state ((call.run (dispatchTo depth)).run state)
  typed : ∀ depth line (state : State N),
    Logs state ((executeLine (dispatchTo depth) line).run state)
  prompted : ∀ depth (state : State N), Logs state ((runPrompt (dispatchTo depth)).run state)
  /-- A fault breaks off the executions that are open where it is raised, the innermost one first,
  and no other ones. -/
  unwinds : ∀ log rows fault, Nesting N log rows (some fault) →
    ∃ opened front, Open N log opened front ∧ rows = front ++ unwinding opened ∧
      ∀ execution ∈ opened, execution.Raises fault
  /-- The fault ends with the script, before anything more is logged of calls. -/
  texts : ∀ depth text name, CutShort (sourceString (dispatchTo depth : Dispatch N) text name)
  files : ∀ depth path, CutShort (asScript path.text (runFile (dispatchTo depth : Dispatch N) path))
  outer : ∀ depth context call (builtin : Builtin) (state last : State N) fault,
    builtin.formsBlocks = false →
    (runBuiltin (dispatchTo depth) context call builtin).run state = .error (.fault fault) last →
    structural? fault = none

/-- Starts and ends of calls are properly nested in the log, with the name of the command in each.
The row of a failure stands in front of the end just where the handler failed. -/
theorem callLog_wellNested : WellNested N where
  executed depth context command call _ :=
    Nests.executed (handle_nests depth context command call)
  dispatched depth context directive := (dispatchTo_nests depth context directive).logs
  loaded depth call := (call.nests depth).logs
  typed depth line := (executeLine_nests depth line).logs
  prompted depth := (runPrompt_nests depth).logs
  unwinds _ _ _ nesting := nesting.unwinds
  texts depth _ name :=
    Nests.cutShort
      (nests_throughout.runSource (nests_throughout.streamed (dispatchTo_nests depth)) _ _) name
  files depth path :=
    Nests.cutShort
      (nests_throughout.runFile (nests_throughout.ownStreams (dispatchTo_nests depth)) path)
      path.text
  outer depth context call _ state last fault noBlock :=
    tame_hereditary.runBuiltin (tame_sourcing (dispatchTo depth)) context call noBlock state last
      fault

def brokenInner : State Unit :=
  { builtinState with files := { inside := [
    (["inner"], .file (("if 1\nif 1\nelse\nelse\n".toList).map fun c => UInt8.ofNat c.toNat))] } }

def loggedCalls : Ended Unit Bool → Option (List String)
  | .ok _ last => some ((last.log.filter (·.level = .debug)).map (·.text))
  | .error _ _ => none

def brokenCalls : List String :=
  ["command.call.start name=source bang=False count=None \x7b inner \x7d",
    "command.call.start name=if bang=False count=None \x7b 1 \x7d",
    "command.call.start name=if bang=False count=None \x7b 1 \x7d",
    "command.call.error name=if", "command.call.end name=if",
    "command.call.error name=if", "command.call.end name=if",
    "command.call.end name=source",
    "command.call.start name=echo bang=False count=None \x7b 1 \x7d",
    "command.call.end name=echo"]

theorem callLog_wellNested_brokenInner :
    ∃ rows, Nesting Unit [] rows none ∧
      (rows.filter (·.level = .debug)).map (·.text) = brokenCalls := by
  have logs := callLog_wellNested.loaded 4 (.text "source inner\necho 1\n" "outer") brokenInner
  have shown : loggedCalls (((LoaderCall.text "source inner\necho 1\n" "outer").run
      (dispatchTo 4)).run brokenInner) = some brokenCalls := by
    decide +kernel
  generalize EStateM.run _ _ = result at logs shown
  cases logs with
  | @ok value last rows logged nesting =>
      have same : last.log = rows := logged
      rw [loggedCalls, same] at shown
      exact ⟨rows, nesting, Option.some.inj shown⟩
  | fault | exhausted => cases shown

end ExScript.Engine
