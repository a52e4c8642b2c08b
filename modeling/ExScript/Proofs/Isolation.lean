import ExScript.Proofs.StreamUses
import ExScript.Proofs.Trailing
import ExScript.Proofs.TypedLines

/-!
Scripts that run others. However the inner script ends, the outer one is still at the line that was
read last, with the same lines in front of it, and goes on from there.
-/

namespace ExScript

namespace Engine

variable {N α β : Type}

structure Orderly (deep : Prop) (dispatch : Dispatch N) : Prop where
  halting : Halting deep dispatch
  keeps : ∀ context directive, KeepsRegistry (dispatch context directive)
  trailing : ∀ context directive, Trailing (dispatch context directive)

variable {deep : Prop} {dispatch : Dispatch N}

theorem Orderly.deeper (orderly : Orderly deep dispatch) :
    Orderly deep (dispatchBy (executeBy dispatch)) where
  halting := orderly.halting.deeper
  keeps _ _ := keepsRegistry_throughout.dispatchBy
    (keepsRegistry_throughout.executeBy (keepsRegistry_throughout.sourcing
      (keepsRegistry_throughout.ownStreams orderly.keeps) KeepsRegistry.recordScript)
      orderly.keeps _ _ _)
  trailing _ _ := trailing_onStream.dispatchBy
    (trailing_onStream.executeBy (trailing_sourcing orderly.trailing) orderly.trailing _ _ _)

theorem dispatchTo_orderly (depth : Nat) : Orderly (N := N) True (dispatchTo depth) where
  halting := dispatchTo_halting depth
  keeps := dispatchTo_keepsRegistry depth
  trailing := trailing_onStream.dispatchTo (fun _ => trailing_sourcing) depth

/-- Nothing of a script has changed for those who go on with it. -/
structure Undisturbed (state last : State N) : Prop extends
    state.session.Alongside last.session where
  stream : last.stream = state.stream
  registry : last.registry = state.registry

/-- A script within another came back without a fault, unless commands could be nested too deep. -/
inductive Isolated (deep : Prop) (state : State N) : Ended N Bool → Prop where
  | returned {completed last} (same : Undisturbed state last) :
      Isolated deep state (.ok completed last)
  | exhausted {last} (tooDeep : deep) : Isolated deep state (.error .exhausted last)

def Faultless (action : Run N α) : Prop :=
  ∀ (state last : State N) (fault : Fault), action.run state ≠ .error (.fault fault) last

theorem Faultless.bind {action : Run N α} {next : α → Run N β} (first : Faultless action)
    (second : ∀ value, Faultless (next value)) : Faultless (action >>= next) := by
  intro state last fault failed
  rw [EStateM.run_bind] at failed
  cases ended : action.run state with
  | ok value between =>
      rw [ended] at failed
      exact second value between last fault failed
  | error stop between =>
      rw [ended] at failed
      cases failed
      exact first state last fault ended

theorem attempt_faultless (action : Run N α) : Faultless (attempt action) := by
  intro state last fault failed
  rw [run_attempt] at failed
  cases ended : action.run state with
  | ok value between => rw [ended] at failed; cases failed
  | error stop between => rw [ended] at failed; cases stop <;> cases failed

theorem asScript_faultless (name : String) (action : Run N Unit) :
    Faultless (asScript name action) := by
  refine (attempt_faultless _).bind fun result => ?_
  cases result with
  | ok value => exact fun _ _ _ failed => nomatch failed
  | error fault => exact fun _ _ _ failed => nomatch failed

theorem source_faultless (dispatch : Dispatch N) {path : Path} {state last : State N}
    (shown : state.files.refusal? path = none) (written : String) (silent : Bool) (fault : Fault) :
    (source dispatch path written silent).run state ≠ .error (.fault fault) last := by
  unfold source
  rw [run_get_bind]
  dsimp only
  rw [lift_check shown, pure_bind]
  have noted (level : Level) (text : String) : Faultless (note level text : Run N Unit) :=
    fun _ _ _ failed => nomatch failed
  have said (kind : MessageKind) (text : String) : Faultless (say kind text : Run N Unit) :=
    fun _ _ _ failed => nomatch failed
  split
  next unreadable found =>
    refine (noted _ _).bind (fun _ => ?_) _ _ _
    split
    · exact (said _ _).bind fun _ => (said _ _).bind fun _ _ _ _ failed => nomatch failed
    · exact fun _ _ _ failed => nomatch failed
  next readable =>
    refine (asScript_faultless _ _).bind (fun completed => ?_) _ _ _
    cases completed with
    | true => exact fun _ _ _ failed => nomatch failed
    | false => exact fun _ _ _ failed => nomatch failed

theorem isolated_of_halts {action : Run N Bool} {state : State N}
    (halts : Halts deep action)
    (sound : ∀ last fault, action.run state ≠ .error (.fault fault) last)
    (aside : Aside action) (unmoved : Unmoved action) (keeps : KeepsRegistry action) :
    Isolated deep state (action.run state) := by
  have halted := halts state
  have same : Undisturbed state (after action state) :=
    ⟨unmoved state, aside.after_stream state, keeps state⟩
  unfold after at same
  generalize action.run state = result at halted sound same
  cases halted with
  | ok leaves => exact .returned same
  | @fault fault last leaves => exact absurd rfl (sound last fault)
  | exhausted tooDeep => exact .exhausted tooDeep

namespace Orderly

theorem sourceString_isolated (orderly : Orderly deep dispatch) (text name : String)
    (state : State N) : Isolated deep state ((sourceString dispatch text name).run state) :=
  isolated_of_halts (halts_pervasive.sourceString orderly.halting.streamed text name)
    (fun last fault => asScript_faultless _ _ state last fault)
    ((aside_sourcing dispatch).text text name) (asScript_unmoved _ _)
    (keepsRegistry_throughout.sourceString (keepsRegistry_throughout.streamed orderly.keeps) _ _)

theorem source_isolated (orderly : Orderly deep dispatch) {path : Path} {state : State N}
    (shown : state.files.refusal? path = none) (written : String) (silent : Bool) :
    Isolated deep state ((source dispatch path written silent).run state) :=
  isolated_of_halts
    (halts_pervasive.source
      (halts_pervasive.sourcing orderly.halting.ownStreams Halts.recordScript) path written silent)
    (fun _ fault => source_faultless dispatch shown written silent fault)
    (aside_pervasive.source (aside_sourcing dispatch) path written silent)
    (unmoved_robust.source (unmoved_sourcing orderly.trailing) path written silent)
    (keepsRegistry_throughout.source (keepsRegistry_throughout.sourcing
      (keepsRegistry_throughout.ownStreams orderly.keeps) KeepsRegistry.recordScript) path written
      silent)

end Orderly

theorem executeBy_unmoved (trailing : ∀ context directive, Trailing (dispatch context directive))
    (context : Context) {command : Descriptor (Handler N)} {call : Call}
    (alone : command.handler.Streamless call) :
    Unmoved (executeBy dispatch context command call) := by
  refine unmoved_catching.logged _ _ ?_
  cases known : command.handler with
  | builtin builtin =>
      rw [known] at alone
      cases forms : builtin.formsBlocks with
      | false => exact unmoved_robust.runBuiltin (unmoved_sourcing trailing) context call forms
      | true =>
          cases builtin <;> cases forms
          · exact absurd rfl alone
          · exact unmoved_robust.raise _
          · exact unmoved_robust.raise _
          · exact unmoved_robust.raise _
  | host program =>
      rw [known] at alone
      exact unmoved_robust.interpret (unmoved_sourcing trailing).toCalling context
        (fun fault _ => unmoved_robust.raise fault) False.elim alone

theorem Orderly.undisturbed (orderly : Orderly deep dispatch) (context : Context)
    {directive : Directive (Handler N)}
    (alone : directive.command.handler.Streamless directive.call) (state : State N) :
    Undisturbed state (after (dispatchBy (executeBy dispatch) context directive) state) where
  toAlongside :=
    unmoved_robust.dispatchBy (executeBy_unmoved orderly.trailing context alone) state
  stream := (aside_pervasive.dispatchBy (executeBy_aside dispatch context alone)).after_stream state
  registry := orderly.deeper.keeps context directive state

def SourcesFiles (directive : Directive (Handler N)) : Prop :=
  directive.command.handler = .builtin .source ∨ directive.command.handler = .builtin .runtime

theorem SourcesFiles.within {directive : Directive (Handler N)} (sources : SourcesFiles directive) :
    Within .ordinary directive := by
  unfold Within
  rcases sources with known | known <;> rw [known] <;> rfl

theorem dispatchBy_sources (orderly : Orderly deep dispatch) (context : Context)
    {directive : Directive (Handler N)} (sources : SourcesFiles directive) (state : State N) :
    (∃ last, (dispatchBy (executeBy dispatch) context directive).run state = .ok .goOn last ∧
      Undisturbed state last) ∨
    deep ∧ ∃ last, (dispatchBy (executeBy dispatch) context directive).run state =
      .error .exhausted last := by
  have halted := orderly.halting.deeper context directive state
  have same := orderly.undisturbed context sources.within.tame.streamless state
  unfold after at same
  cases ended : (dispatchBy (executeBy dispatch) context directive).run state with
  | ok flow last =>
      have goesOn := dispatchBy_goesOn sources.within state last flow ended
      subst goesOn
      rw [ended] at same
      exact .inl ⟨last, rfl, same⟩
  | error stop last =>
      have exhausted := dispatchBy_stop sources.within.tame.mild ended
      subst exhausted
      rw [ended] at halted
      cases halted with
      | exhausted tooDeep => exact .inr ⟨tooDeep, last, rfl⟩

/-- A loop goes on behind a directive as it would from the state that the directive was pulled
in. -/
inductive GoesOn (deep : Prop) (middle : State N) (goOn : State N → Ended N Flow) :
    Ended N Flow → Prop where
  | on {last} (same : Undisturbed middle last) : GoesOn deep middle goOn (goOn last)
  | exhausted {last} (tooDeep : deep) : GoesOn deep middle goOn (.error .exhausted last)

theorem runStream_stops {context : Context} {state middle last : State N}
    {directive : Directive (Handler N)} (pulled : pull.run state = .ok (some directive) middle)
    (other : directive.name ≠ "finish") {stop : Stop}
    (stopped : (dispatch context directive).run middle = .error stop last) (budget : Nat) :
    (runStream dispatch context (budget + 1)).run state = .error stop last := by
  rw [runStream_pulled pulled]
  simp only [other, ↓reduceIte]
  exact run_bind_error stopped

theorem runArm_turn {context : Context} {isFallback : Bool} {state middle last : State N}
    {directive : Directive (Handler N)} (pulled : pull.run state = .ok (some directive) middle)
    (plain : directive.mark = .plain)
    (went : (dispatch context directive).run middle = .ok .goOn last) (budget : Nat) :
    (runArm dispatch context isFallback (budget + 1)).run state =
      (runArm dispatch context isFallback budget).run last := by
  rw [runArm_pulled pulled]
  simp only [plain]
  rw [run_bind_ok went]

theorem runArm_stops {context : Context} {isFallback : Bool} {state middle last : State N}
    {directive : Directive (Handler N)} (pulled : pull.run state = .ok (some directive) middle)
    (plain : directive.mark = .plain) {stop : Stop}
    (stopped : (dispatch context directive).run middle = .error stop last) (budget : Nat) :
    (runArm dispatch context isFallback (budget + 1)).run state = .error stop last := by
  rw [runArm_pulled pulled]
  simp only [plain]
  exact run_bind_error stopped

theorem Directive.name_of_plain {C : Type} {directive : Directive C}
    (plain : directive.mark = .plain) : directive.name ≠ "finish" := by
  intro named
  unfold Directive.mark at plain
  rw [named] at plain
  cases plain

theorem runStream_goesOn (orderly : Orderly deep dispatch) {context : Context}
    {state middle : State N} {directive : Directive (Handler N)}
    (pulled : pull.run state = .ok (some directive) middle) (sources : SourcesFiles directive)
    (plain : directive.mark = .plain) (budget : Nat) :
    GoesOn deep middle (runStream (dispatchBy (executeBy dispatch)) context budget).run
      ((runStream (dispatchBy (executeBy dispatch)) context (budget + 1)).run state) := by
  have other := Directive.name_of_plain plain
  rcases dispatchBy_sources orderly context sources middle with
    ⟨last, went, same⟩ | ⟨tooDeep, last, ended⟩
  · rw [runStream_turn pulled other went]
    exact .on same
  · rw [runStream_stops pulled other ended]
    exact .exhausted tooDeep

theorem runArm_goesOn (orderly : Orderly deep dispatch) {context : Context} {isFallback : Bool}
    {state middle : State N} {directive : Directive (Handler N)}
    (pulled : pull.run state = .ok (some directive) middle) (sources : SourcesFiles directive)
    (plain : directive.mark = .plain) (budget : Nat) :
    GoesOn deep middle (runArm (dispatchBy (executeBy dispatch)) context isFallback budget).run
      ((runArm (dispatchBy (executeBy dispatch)) context isFallback (budget + 1)).run state) := by
  rcases dispatchBy_sources orderly context sources middle with
    ⟨last, went, same⟩ | ⟨tooDeep, last, ended⟩
  · rw [runArm_turn pulled plain went]
    exact .on same
  · rw [runArm_stops pulled plain ended]
    exact .exhausted tooDeep

inductive Reaches (dispatch : Dispatch N) (context : Context) : State N → State N → Prop where
  | here {state} : Reaches dispatch context state state
  | turn {state middle next later directive}
      (pulled : pull.run state = .ok (some directive) middle) (other : directive.name ≠ "finish")
      (went : (dispatch context directive).run middle = .ok .goOn next)
      (behind : Reaches dispatch context next later) : Reaches dispatch context state later

theorem Reaches.trails {context : Context} {state later : State N}
    (trailing : ∀ context directive, Trailing (dispatch context directive))
    (reaches : Reaches dispatch context state later) : Trails state later := by
  induction reaches with
  | here => exact .of_same rfl (.refl _)
  | @turn state middle next later directive pulled other went behind ih =>
      have first : Trails state middle := by
        have trails := Trailing.pull state
        rwa [after_ok pulled] at trails
      have second : Trails middle next := by
        have trails := trailing context directive middle
        rwa [after_ok went] at trails
      exact (first.trans second).trans ih

structure ReadsScript (name : String) (state : State N) (stream : Stream (Handler N)) : Prop where
  current : state.stream = some stream
  script : state.session.script = some ⟨name, stream.number - 1⟩
  sourcing : state.session.sourcing = some ⟨name, stream.number - 1⟩

theorem Trails.readsScript {name : String} {source : LineSource} {state later : State N}
    (trails : Trails (state.reading name source) later) :
    ∃ stream, ReadsScript name later stream ∧ stream.reporting = ⟨source.path, true, true⟩ := by
  have start : (Stream.ofSource source true : Stream (Handler N)).reporting =
      ⟨source.path, true, true⟩ := Stream.ofSource_reporting source true true
  have number : (Stream.ofSource source true : Stream (Handler N)).number = 1 :=
    Stream.ofSource_number source true true
  have same := trails.reporting
  obtain ⟨stream, current, reporting⟩ := Option.map_eq_some_iff.mp same
  have reporting := reporting.trans start
  have here : (Stream.ofSource source true : Stream (Handler N)).Seated
      (state.reading name source).session (state.reading name source).session := by
    unfold Stream.Seated
    rw [start, number]
    exact ⟨rfl, rfl⟩
  have seated := trails.seated _ stream rfl current _ here
  unfold Stream.Seated at seated
  rw [reporting] at seated
  exact ⟨stream, ⟨current, seated.script, seated.sourcing⟩, reporting⟩

structure Reports (source : String) (later middle : State N) (number next : Nat)
    (unknown : List (Nat × String)) : Prop where
  shown : middle.session.channel.history.toList = later.session.channel.history.toList ++
    unknown.flatMap fun (number, text) =>
      Reporting.shown ⟨source, true, true⟩ number (.reported text : Part (Handler N))
  lines : ∀ line ∈ unknown, number ≤ line.1 ∧ line.1 < next

theorem exists_reports {later middle : State N} {stream : Stream (Handler N)} {source : String}
    (current : later.stream = some stream) (reporting : stream.reporting = ⟨source, true, true⟩)
    {given : Option (Directive (Handler N))} (pulled : pull.run later = .ok given middle)
    {next : Stream (Handler N)} (behind : middle.stream = some next) :
    ∃ unknown, Reports source later middle stream.number next.number unknown := by
  have advances := stream.pull_advances later.registry later.session
  have gone := after_pull current
  rw [after_ok pulled] at gone
  subst gone
  cases behind
  obtain ⟨unknown, shown, lines⟩ := advances.shown
  rw [reporting] at shown
  exact ⟨unknown, shown, lines⟩

/-- Scripts within scripts, and what the outer one goes on with. -/
structure Isolates (deep : Prop) (execute : Execute N) : Prop where
  text : ∀ text name (state : State N),
    Isolated deep state ((sourceString (dispatchBy execute) text name).run state)
  file : ∀ path written silent (state : State N), state.files.refusal? path = none →
    Isolated deep state ((source (dispatchBy execute) path written silent).run state)
  refused : ∀ path written silent fault (state : State N), state.files.refusal? path = some fault →
    (source (dispatchBy execute) path written silent).run state = .error (.fault fault) state
  command : ∀ context directive (state : State N),
    directive.command.handler.Streamless directive.call →
      Undisturbed state (after (dispatchBy execute context directive) state)
  inScript : ∀ context directive (state middle : State N),
    pull.run state = .ok (some directive) middle → SourcesFiles directive →
      directive.mark = .plain → ∀ budget,
        GoesOn deep middle (runStream (dispatchBy execute) context budget).run
          ((runStream (dispatchBy execute) context (budget + 1)).run state)
  inBlock : ∀ context isFallback directive (state middle : State N),
    pull.run state = .ok (some directive) middle → SourcesFiles directive →
      directive.mark = .plain → ∀ budget,
        GoesOn deep middle (runArm (dispatchBy execute) context isFallback budget).run
          ((runArm (dispatchBy execute) context isFallback (budget + 1)).run state)
  reading : ∀ name source (state later : State N),
    Reaches (dispatchBy execute) { path := some name } (state.reading name source) later →
      ∃ stream, ReadsScript name later stream ∧
        ∀ given middle, pull.run later = .ok given middle →
          ∃ next unknown, ReadsScript name middle next ∧
            Reports source.path later middle stream.number next.number unknown
  failing : ∀ context directive (state last : State N) fault,
    (execute context directive.command directive.call).run state = .error (.fault fault) last →
      structural? fault = none →
        ∃ final, (dispatchBy execute context directive).run state = .ok .goOn final ∧
          final.session.channel.history.toList = last.session.channel.history.toList ++
            (located context.path directive.line ++ [⟨.error, fault.report⟩])

theorem source_refused (dispatch : Dispatch N) {path : Path} {fault : Fault} {state : State N}
    (refused : state.files.refusal? path = some fault) (written : String) (silent : Bool) :
    (source dispatch path written silent).run state = .error (.fault fault) state := by
  unfold source
  rw [run_get_bind]
  dsimp only
  rw [lift_check_refused refused]
  rfl

theorem Orderly.isolates (orderly : Orderly deep dispatch) :
    Isolates deep (executeBy dispatch) where
  text := orderly.deeper.sourceString_isolated
  file _ written silent _ shown := orderly.deeper.source_isolated shown written silent
  refused _ written silent _ _ refused := source_refused _ refused written silent
  command context _ state alone := orderly.undisturbed context alone state
  inScript _ _ _ _ pulled sources plain := runStream_goesOn orderly pulled sources plain
  inBlock _ _ _ _ _ pulled sources plain := runArm_goesOn orderly pulled sources plain
  reading name source state later reaches := by
    have trails := reaches.trails orderly.deeper.trailing
    obtain ⟨stream, reads, reporting⟩ := trails.readsScript
    refine ⟨stream, reads, fun given middle pulled => ?_⟩
    have moved := Trailing.pull later
    rw [after_ok pulled] at moved
    obtain ⟨next, behind, -⟩ := (trails.trans moved).readsScript
    obtain ⟨unknown, reports⟩ := exists_reports reads.current reporting pulled behind.current
    exact ⟨next, unknown, behind, reports⟩
  failing _ _ _ _ _ ran mild := by
    obtain ⟨final, ended, -, told⟩ := dispatchBy_failing ran mild
    exact ⟨final, ended, told⟩

/-- A script that is run within another one leaves it alone: it ends without a fault, with the outer
script at the line where it was and with the same lines in front of it. The outer one goes on there,
and what goes wrong in it is shown where it happened. Only where the system refuses to say what is
at a path does the fault get out. -/
theorem nestedScripts_isolated :
    (∀ depth, Isolates (N := N) True (executeBy (dispatchTo depth))) ∧
      ∀ inner : Dispatch N, Orderly False inner → Isolates False (executeBy inner) :=
  ⟨fun depth => (dispatchTo_orderly depth).isolates, fun _ orderly => orderly.isolates⟩

def brokenFile : State Unit :=
  { builtinState with files := { inside := [(["inner"], .file [105, 102, 32, 49, 10])] } }

theorem idle_orderly : Orderly False idle where
  halting _ _ := Halts.pure _
  keeps _ _ := keepsRegistry_throughout.pure _
  trailing _ _ := trailing_onStream.pure _

theorem nestedScripts_isolated_brokenFile :
    ∃ completed last, (sourceString (dispatchBy (executeBy (dispatchBy (executeBy idle))))
        "source inner\nbogus\n" "outer").run brokenFile = .ok completed last ∧
      Undisturbed brokenFile last ∧
      last.session.channel.history.toList =
        [⟨.error, "Sourcing file failed: inner:1: E171: Missing :endif"⟩,
          ⟨.error, "Error detected while processing: outer"⟩, ⟨.echo, "line 2:"⟩,
          ⟨.error, "E492: Not an editor command: bogus"⟩] := by
  have isolates := nestedScripts_isolated.2 (dispatchBy (executeBy idle)) idle_orderly.deeper
  have isolated := isolates.text "source inner\nbogus\n" "outer" brokenFile
  have shown : (after (sourceString (dispatchBy (executeBy (dispatchBy (executeBy idle))))
        "source inner\nbogus\n" "outer") brokenFile).session.channel.history.toList =
      [⟨.error, "Sourcing file failed: inner:1: E171: Missing :endif"⟩,
        ⟨.error, "Error detected while processing: outer"⟩, ⟨.echo, "line 2:"⟩,
        ⟨.error, "E492: Not an editor command: bogus"⟩] := by decide +kernel
  unfold after at shown
  generalize (sourceString _ _ _).run brokenFile = result at isolated shown
  cases isolated with
  | returned same => exact ⟨_, _, rfl, same, shown⟩
  | exhausted impossible => exact impossible.elim

def longName (count : Nat) : String :=
  String.ofList (List.replicate count 'a')

theorem utf8ByteSize_longName (count : Nat) : (longName count).utf8ByteSize = count := by
  induction count with
  | zero => rfl
  | succ count ih =>
      have split : longName (count + 1) = "a" ++ longName count := by
        simp [longName, List.replicate_succ, String.ofList_cons]
      rw [split, String.utf8ByteSize_append, ih, Nat.add_comm]
      rfl

theorem splitOnChar_longName (count : Nat) :
    Text.splitOnChar '/' (List.replicate count 'a') = [List.replicate count 'a'] := by
  induction count with
  | zero => rfl
  | succ count ih => simp [List.replicate_succ, Text.splitOnChar, ih]

theorem path_longName {count : Nat} (several : 1 < count) :
    Path.ofString (longName count) = ⟨"", [longName count]⟩ := by
  have size := utf8ByteSize_longName count
  have named : longName count ≠ "" ∧ longName count ≠ "." := by
    constructor <;> intro same <;> rw [same] at size
    · have none : "".utf8ByteSize = 0 := rfl
      omega
    · have one : ".".utf8ByteSize = 1 := rfl
      omega
  have chars : (longName count).toList = List.replicate count 'a' := by simp [longName]
  have rootless : Path.rootOf (List.replicate count 'a') = "" := by
    cases count <;> rfl
  have kept : [longName count].filter (fun name => name != "" && name != ".") =
      [longName count] := by
    simp [named]
  unfold Path.ofString
  rw [chars, rootless, splitOnChar_longName]
  exact congrArg (Path.mk "") kept

theorem text_longName {count : Nat} (several : 1 < count) :
    (Path.ofString (longName count)).text = longName count := by
  rw [path_longName several]
  simp [Path.text, Text.joinWith]

theorem find_longName (files : FileTree) {count : Nat} (long : maxNameBytes < count)
    (short : count ≤ maxPathBytes) :
    files.find (Path.ofString (longName count)) = .tooLong := by
  have several : 1 < count := Nat.lt_trans (by decide) long
  have noNul : (longName count).toList.contains '\x00' = false := by
    simp [longName]
  unfold FileTree.find
  rw [text_longName several, noNul, utf8ByteSize_longName, path_longName several]
  simp [Nat.not_lt.mpr short, FileTree.walk, FileTree.under?, Finding.barrier?, isLongName,
    utf8ByteSize_longName, long]

theorem refusal_longName (files : FileTree) {count : Nat} (long : maxNameBytes < count)
    (short : count ≤ maxPathBytes) :
    files.refusal? (Path.ofString (longName count)) = some (.nameTooLong (longName count)) := by
  have several : 1 < count := Nat.lt_trans (by decide) long
  rw [FileTree.refusal?, find_longName files long short, text_longName several]
  rfl

/-- The fault of a name that is too long leaves the sourcing, and nothing is reported. -/
theorem nestedScripts_escape :
    (source (Engine.dispatch : Dispatch Unit) (Path.ofString (longName 256)) (longName 256)
      false).run builtinState = .error (.fault (.nameTooLong (longName 256))) builtinState :=
  source_refused _ (refusal_longName builtinState.files (@Nat.lt_succ_self 255) (by decide)) _ _

end Engine

end ExScript
