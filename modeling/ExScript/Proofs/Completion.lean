import ExScript.Engine.Plugins
import ExScript.Proofs.Ending

/-!
When a script is said to have run to its end, and the script of which that is not true.
-/

namespace ExScript

theorem Assembly.roleOf_oversized {C : Type} (registry : Registry C) (number : Nat) {count : Nat}
    (long : CommandLine.maxDigits < count) :
    roleOf registry none number (String.ofList (List.replicate count '9' ++ ['x'])) =
      .error (.oversizedCount count) := by
  have digit : Text.isDigit '9' = true := by decide
  have letter : Text.isDigit 'x' = false := by decide
  have more : List.replicate count '9' = '9' :: List.replicate (count - 1) '9' := by
    rw [← List.replicate_succ]
    congr
    omega
  have kept : dropCarriageReturn (String.ofList (List.replicate count '9' ++ ['x'])) =
      String.ofList (List.replicate count '9' ++ ['x']) := by
    simp [dropCarriageReturn]
  have read : CommandLine.isIgnored (String.ofList (List.replicate count '9' ++ ['x'])) =
      false := by
    rw [more]
    simp [CommandLine.isIgnored, CommandLine.isIgnoredChars, Text.stripStart, Text.isBlank]
  have parsed : CommandLine.parse (String.ofList (List.replicate count '9' ++ ['x'])) =
      .error count := by
    have leading : (List.replicate count '9' ++ ['x']).dropWhile CommandLine.isLeading =
        List.replicate count '9' ++ ['x'] := by
      rw [more]
      rfl
    have digits : (List.replicate count '9' ++ ['x']).takeWhile Text.isDigit =
        List.replicate count '9' := by
      rw [List.takeWhile_append_of_pos (by simp [digit])]
      simp [letter]
    have behind : (List.replicate count '9' ++ ['x']).dropWhile Text.isDigit = ['x'] := by
      rw [List.dropWhile_append_of_pos (by simp [digit])]
      simp [letter]
    have word : CommandLine.word? ['x'] = some (['x'], []) := by decide
    unfold CommandLine.parse CommandLine.parseChars
    simp only [String.toList_ofList, leading, digits, behind, word, List.length_replicate, long,
      ↓reduceIte]
  simp only [roleOf, headerRole, kept, read, parsed, Bool.false_eq_true, ↓reduceIte]

namespace Engine

variable {N : Type}

def State.scripted (state : State N) (path : String) : State N :=
  { state with session := state.session.enter path }

def State.reading (state : State N) (path : String) (source : LineSource) : State N :=
  (state.scripted path).on (some (Stream.ofSource source true))

theorem reading_ready {state : State N} (only : state.registry.Only Regular) (path : String)
    {source : LineSource} (given : source.Given) :
    Ready (state.reading path source) ∧ Live (state.reading path source) := by
  unfold State.reading
  rw [Stream.ofSource_given given]
  constructor
  · refine ⟨only, _, rfl, rfl, rfl, rfl, ?_⟩
    rintro heredoc ⟨⟩
  · exact ⟨_, rfl, rfl⟩

def Completes (action : Run N Bool) (state : State N) : Prop :=
  ∃ last, action.run state = .ok true last

theorem runSource_ok (dispatch : Dispatch N) (path : String) (source : LineSource)
    (state : State N) :
    (∃ last, (runSource dispatch path source).run state = .ok ⟨⟩ last) ↔
      ∃ flow last, (runStream dispatch { path := some path }
        ((Stream.ofSource source true : Stream (Handler N)).remaining + 1)).run
          (state.on (some (Stream.ofSource source true))) = .ok flow last := by
  have counted : turns.run (state.on (some (Stream.ofSource source true))) =
      .ok ((Stream.ofSource source true : Stream (Handler N)).remaining + 1)
        (state.on (some (Stream.ofSource source true))) := rfl
  have streamed := run_withStream (Stream.ofSource source true)
    (turns >>= runStream dispatch { path := some path }) state
  have here : (turns >>= runStream dispatch { path := some path }).run
      (state.on (some (Stream.ofSource source true))) = _ := run_bind_ok counted
  unfold State.on at here
  rw [here] at streamed
  unfold runSource State.on
  dsimp only
  rw [EStateM.run_bind, streamed]
  cases (runStream dispatch { path := some path }
      ((Stream.ofSource source true : Stream (Handler N)).remaining + 1)).run
        { state with stream := some (Stream.ofSource source true) } with
  | ok flow last =>
      refine ⟨fun _ => ⟨flow, last, rfl⟩, fun _ => ?_⟩
      dsimp only
      cases flow with
      | goOn => exact ⟨_, rfl⟩
      | finish =>
          dsimp only
          rw [run_get_bind]
          dsimp only
          exact ⟨_, run_note _ _ _⟩
  | error stop last => simp

theorem asScript_completes (name : String) (action : Run N Unit) (state : State N) :
    Completes (asScript name action) state ↔
      ∃ last, action.run (state.scripted name) = .ok ⟨⟩ last := by
  unfold Completes asScript State.scripted
  rw [EStateM.run_bind, run_attempt, run_withScript]
  cases action.run { state with session := state.session.enter name } with
  | ok value last => exact ⟨fun _ => ⟨last, rfl⟩, fun _ => ⟨_, rfl⟩⟩
  | error stop last =>
      cases stop with
      | exhausted => simp
      | fault fault =>
          dsimp only
          constructor
          · rintro ⟨final, ended⟩
            cases ended
          · rintro ⟨final, ended⟩
            cases ended

def Concludes (depth : Nat) (state : State N) (path : String) (source : LineSource)
    (ending : Ending) : Prop :=
  Comes depth { path := some path } (state.reading path source) ending

theorem asScript_ends (depth : Nat) {state : State N} (only : state.registry.Only Regular)
    (path : String) {source : LineSource} (given : source.Given) :
    Completes (asScript path (runSource (dispatchTo (depth + 1)) path source)) state ↔
      ∃ ending, Concludes depth state path source ending := by
  obtain ⟨ready, live⟩ := reading_ready only path given
  rw [asScript_completes, runSource_ok]
  constructor
  · rintro ⟨flow, last, ran⟩
    exact comes_of_run rfl ready live ran
  · rintro ⟨ending, comes⟩
    exact run_of_comes rfl comes ready live (Nat.lt_succ_self _)

theorem pull_oversized {state : State N} {stream : Stream (Handler N)} {text : String}
    {rest : List String} {digits : Nat} (current : state.stream = some stream)
    (lines : stream.atHand = text :: rest) (assembled : stream.assembled = [])
    (closed : stream.closed = false) (ended : stream.ended = false)
    (long : Assembly.roleOf state.registry stream.pending stream.number text =
      .error (.oversizedCount digits)) :
    ∃ last, pull.run state = .error (.fault (.oversizedCount digits)) last := by
  rw [run_pull current]
  unfold Stream.pull
  rw [closed, ended, assembled, lines]
  simp only [Bool.or_self, Bool.false_eq_true, ↓reduceIte, Stream.pullLines, Stream.takeLine, long]
  exact ⟨_, rfl⟩

theorem run_holds_ok {state : State N} {scope : Expr.Scope} {condition : String}
    {value : Expr.Value}
    (evaluates : (state.world.runIn state.outside scope condition).1 = .ok value)
    (line : Option Int) :
    ∃ truth last, (holds scope condition line).run state = .ok truth last ∧
      SameReading state last := by
  have judged := holds_judged scope condition line state
  generalize (holds scope condition line).run state = result at judged
  cases judged with
  | @truth value last evaluated world beside elsewhere =>
      exact ⟨_, last, rfl, by rw [elsewhere], by rw [elsewhere]⟩
  | fault evaluated => cases evaluated.symm.trans evaluates

theorem runBlock_pull_error {dispatch : Dispatch N} {context : Context}
    (noSkip : context.skip = false) {state entered last final : State N} {scope : Expr.Scope}
    {condition : String} {truth : Bool} {stop : Stop}
    (within : newScope.run state = .ok scope entered)
    (held : (holds scope condition none).run entered = .ok truth last)
    (failed : pull.run last = .error stop final) :
    (runBlock dispatch context condition).run state = .error stop final := by
  obtain ⟨budget, counted⟩ := run_turns last
  unfold runBlock
  dsimp only [Telling.act, Telling.holds]
  simp only [noSkip, Bool.false_eq_true, ↓reduceIte]
  rw [run_bind_ok within, run_bind_ok held]
  cases truth with
  | true =>
      simp only [↓reduceIte]
      rw [run_bind_ok counted]
      unfold runArm
      dsimp only [Telling.act, Telling.pull, Telling.malformed]
      exact run_bind_error failed
  | false =>
      simp only [Bool.false_eq_true, ↓reduceIte]
      rw [run_bind_ok counted]
      unfold chooseArm
      dsimp only [Telling.pull, Telling.holds, Telling.missingEnd]
      exact run_bind_error (run_bind_error failed)

theorem run_newScope (state : State N) :
    ∃ entered, newScope.run state = .ok state.world.newScope.1 entered ∧
      SameReading state entered ∧ entered.world = state.world.newScope.2 ∧
        entered.outside = state.outside :=
  ⟨_, rfl, ⟨rfl, rfl⟩, rfl, rfl⟩

theorem runBlock_oversized {dispatch : Dispatch N} {context : Context}
    (noSkip : context.skip = false) {state : State N} {condition : String} {value : Expr.Value}
    (evaluates : (state.world.newScope.2.runIn state.outside state.world.newScope.1 condition).1 =
      .ok value)
    {stream : Stream (Handler N)} (current : state.stream = some stream) {text : String}
    {rest : List String} (lines : stream.atHand = text :: rest) (assembled : stream.assembled = [])
    (closed : stream.closed = false) (ended : stream.ended = false) {digits : Nat}
    (long : Assembly.roleOf state.registry stream.pending stream.number text =
      .error (.oversizedCount digits)) :
    ∃ last, (runBlock dispatch context condition).run state =
      .error (.fault (.oversizedCount digits)) last := by
  obtain ⟨entered, within, begun, world, outside⟩ := run_newScope state
  rw [← world, ← outside] at evaluates
  obtain ⟨truth, last, held, same⟩ := run_holds_ok evaluates none
  rw [← begun.registry, ← same.registry] at long
  rw [← begun.stream, ← same.stream] at current
  obtain ⟨final, failed⟩ := pull_oversized current lines assembled closed ended long
  exact ⟨final, runBlock_pull_error noSkip within held failed⟩

theorem pull_whole {state : State N} {stream : Stream (Handler N)} {text : String}
    {rest : List String} {directive : Directive (Handler N)}
    (current : state.stream = some stream) (lines : stream.atHand = text :: rest)
    (assembled : stream.assembled = []) (closed : stream.closed = false)
    (ended : stream.ended = false)
    (whole : Assembly.roleOf state.registry stream.pending stream.number text =
      .ok (.whole directive)) :
    ∃ last, pull.run state = .ok (some directive) last ∧
      last.stream = some { stream with atHand := rest, number := stream.number + 1 } ∧
      last.registry = state.registry ∧ last.world = state.world ∧
      last.outside = state.outside := by
  have gives : ∃ session, stream.pull state.registry state.session =
      ⟨.ok (some directive), { stream with atHand := rest, number := stream.number + 1 },
        session⟩ := by
    conv => enter [1, session, 1]; unfold Stream.pull
    simp only [closed, ended, assembled, lines, Bool.or_self, Bool.false_eq_true, ↓reduceIte,
      Stream.pullLines, Stream.takeLine, whole]
    exact ⟨_, rfl⟩
  obtain ⟨session, gives⟩ := gives
  rw [run_pull current, gives]
  exact ⟨_, rfl, rfl, rfl, rfl, rfl⟩

/-- A block breaks off a script where its first line has a count that is too long. -/
theorem concludes_brokenOff (depth : Nat) {state : State N} (path : String) {source : LineSource}
    (given : source.Given) {opening long : String} {rest : List String}
    (lines : source.atHand = opening :: long :: rest) {directive : Directive (Handler N)}
    (whole : Assembly.roleOf state.registry none 1 opening = .ok (.whole directive))
    (opens : directive.command.handler = .builtin .ifBlock) (other : directive.name ≠ "finish")
    {value : Expr.Value}
    (evaluates : (state.world.newScope.2.runIn state.outside state.world.newScope.1
      directive.args).1 = .ok value)
    {digits : Nat}
    (oversized : Assembly.roleOf state.registry none 2 long = .error (.oversizedCount digits)) :
    Concludes depth state path source .brokenOff := by
  have current : (state.reading path source).stream =
      some { path := source.path, atHand := opening :: long :: rest, tracked := true } := by
    rw [← lines, ← Stream.ofSource_given given]
    rfl
  obtain ⟨last, pulled, behind, registry, world, outside⟩ :=
    pull_whole current rfl rfl rfl rfl whole
  change last.registry = state.registry at registry
  rw [← registry] at oversized
  change last.world = state.world at world
  change last.outside = state.outside at outside
  rw [← world, ← outside] at evaluates
  -- All that the row of the log changes is the session, which the block does not look at.
  generalize begun : last.noted .debug (startRow directive.name directive.call) = started
  have same : started.stream = last.stream ∧ started.registry = last.registry ∧
      started.world = last.world ∧ started.outside = last.outside := by
    subst begun
    exact ⟨rfl, rfl, rfl, rfl⟩
  obtain ⟨stream, registry, world, outside⟩ := same
  rw [← registry] at oversized
  rw [← world, ← outside] at evaluates
  rw [← stream] at behind
  have failed : ∃ final, (runBlock (dispatchTo depth) { path := some path } directive.args).run
      started = .error (.fault (.oversizedCount digits)) final :=
    runBlock_oversized rfl evaluates behind rfl rfl rfl rfl oversized
  obtain ⟨final, failed⟩ := failed
  subst begun
  exact .brokenOff pulled other opens failed

/-- The actions that run certain lines as a script: a text that is given, or what a file holds,
unless something else runs the files of its suffix. -/
inductive Sources (depth : Nat) (state : State N) : Run N Bool → String → LineSource → Prop where
  | text (text name : String) :
      Sources depth state (sourceString (dispatchTo (depth + 1)) text name) name
        (LineSource.ofText (if endsLine text then text else text ++ "\n") (some name))
  | file {path : Path} {source : LineSource} (written : String) (silent : Bool)
      (readable : unreadable? state.files path = none)
      (plain : state.delegates.get? (Text.lower path.suffix) = none)
      (held : LineSource.ofFile state.files path state.sourcing.encoding = .ok source) :
      Sources depth state (Engine.source (dispatchTo (depth + 1)) path written silent) path.text
        source

theorem ofFile_given {files : FileTree} {path : Path} {encoding : String} {source : LineSource}
    (held : LineSource.ofFile files path encoding = .ok source) : source.Given := by
  unfold LineSource.ofFile at held
  cases read : files.readText path encoding with
  | error fault => rw [read] at held; cases held
  | ok text =>
      rw [read] at held
      cases held
      exact ⟨rfl, rfl⟩

theorem run_runFile {dispatch : Dispatch N} {path : Path} {source : LineSource} {state : State N}
    (plain : state.delegates.get? (Text.lower path.suffix) = none)
    (held : LineSource.ofFile state.files path state.sourcing.encoding = .ok source) :
    (runFile dispatch path).run state = (runSource dispatch path.text source).run state := by
  unfold runFile
  rw [run_get_bind]
  rw [plain, held]
  rfl

theorem lift_check {files : FileTree} {path : Path} (shown : files.refusal? path = none) :
    (lift (files.check path) : Run N Unit) = pure ⟨⟩ := by
  unfold FileTree.check
  rw [shown]
  rfl

theorem lift_check_refused {files : FileTree} {path : Path} {fault : Fault}
    (refused : files.refusal? path = some fault) :
    (lift (files.check path) : Run N Unit) = raise fault := by
  unfold FileTree.check
  rw [refused]
  rfl

theorem refusal?_of_readable {files : FileTree} {path : Path}
    (readable : unreadable? files path = none) : files.refusal? path = none := by
  have there : files.contains path = true := by
    cases there : files.contains path with
    | false => simp [unreadable?, there] at readable
    | true => rfl
  unfold FileTree.contains at there
  unfold FileTree.refusal?
  cases found : files.find path <;> rw [found] at there <;> cases there
  rfl

def State.listing (state : State N) (name : String) : State N :=
  State.noted
    (if state.scriptNames.contains name then state
      else { state with scriptNames := state.scriptNames ++ [name] })
    .info ("source.done path=" ++ name)

/-- What is left of a run behind which the script of a name is listed, if it ran to its end. -/
def listed (name : String) : Ended N Bool → Ended N Bool
  | .ok true last => .ok true (last.listing name)
  | ended => ended

theorem run_addScriptName (name : String) (state : State N) :
    (addScriptName name).run state =
      .ok ⟨⟩ (if state.scriptNames.contains name then state
        else { state with scriptNames := state.scriptNames ++ [name] }) := rfl

theorem run_source {dispatch : Dispatch N} {path : Path} {state : State N}
    (readable : unreadable? state.files path = none) (written : String) (silent : Bool) :
    (source dispatch path written silent).run state =
      listed path.text ((asScript path.text (runFile dispatch path)).run state) := by
  unfold source
  rw [run_get_bind]
  dsimp only
  rw [lift_check (refusal?_of_readable readable), pure_bind, readable]
  dsimp only
  rw [EStateM.run_bind]
  cases (asScript path.text (runFile dispatch path)).run state with
  | error stop last => rfl
  | ok completed last =>
      cases completed with
      | false => rfl
      | true =>
          dsimp only
          rw [if_pos rfl, EStateM.run_bind, run_addScriptName]
          rfl

theorem source_completes {dispatch : Dispatch N} {path : Path} {state : State N}
    (readable : unreadable? state.files path = none) (written : String) (silent : Bool) :
    Completes (source dispatch path written silent) state ↔
      Completes (asScript path.text (runFile dispatch path)) state := by
  unfold Completes
  rw [run_source readable]
  cases (asScript path.text (runFile dispatch path)).run state with
  | error stop last => simp [listed]
  | ok completed last =>
      cases completed with
      | true => exact ⟨fun _ => ⟨last, rfl⟩, fun _ => ⟨_, rfl⟩⟩
      | false =>
          constructor
          · rintro ⟨final, ended⟩
            cases ended
          · rintro ⟨final, ended⟩
            cases ended

theorem Sources.given {depth : Nat} {state : State N} {action : Run N Bool} {path : String}
    {source : LineSource} (sources : Sources depth state action path source) : source.Given := by
  cases sources with
  | text text name => exact ⟨rfl, rfl⟩
  | file written silent readable plain held => exact ofFile_given held

theorem Sources.completes_iff {depth : Nat} {state : State N} {action : Run N Bool} {path : String}
    {source : LineSource} (only : state.registry.Only Regular)
    (sources : Sources depth state action path source) :
    Completes action state ↔ ∃ ending, Concludes depth state path source ending := by
  have given := sources.given
  cases sources with
  | text text =>
      unfold sourceString
      exact asScript_ends depth only path given
  | @file path source written silent readable plain held =>
      have same : (runFile (dispatchTo (depth + 1)) path).run (state.scripted path.text) =
          (runSource (dispatchTo (depth + 1)) path.text source).run (state.scripted path.text) :=
        run_runFile plain held
      rw [source_completes readable, asScript_completes, same, ← asScript_completes]
      exact asScript_ends depth only path.text given

theorem Concludes.unique {depth : Nat} {state : State N} (only : state.registry.Only Regular)
    {path : String} {source : LineSource} (given : source.Given) {ending other : Ending}
    (first : Concludes depth state path source ending)
    (second : Concludes depth state path source other) : ending = other := by
  obtain ⟨ready, live⟩ := reading_ready only path given
  exact comes_unique rfl first ready live second

/-- A script is said to have run to its end if something finished it, if all of its lines were read,
or if it broke off. So the answer can be trusted just when it did not break off: that one lets lines
go unread. -/
theorem completes_trusted_iff (depth : Nat) {state : State N} {action : Run N Bool} {path : String}
    {source : LineSource} (only : state.registry.Only Regular)
    (sources : Sources depth state action path source) :
    (Completes action state ↔
      Concludes depth state path source .finished ∨
        Concludes depth state path source .readThrough ∨
          Concludes depth state path source .brokenOff) ∧
      ((Completes action state →
          Concludes depth state path source .finished ∨
            Concludes depth state path source .readThrough) ↔
        ¬ Concludes depth state path source .brokenOff) := by
  have given := sources.given
  have completes : Completes action state ↔
      Concludes depth state path source .finished ∨
        Concludes depth state path source .readThrough ∨
          Concludes depth state path source .brokenOff := by
    rw [sources.completes_iff only]
    constructor
    · rintro ⟨ending, concludes⟩
      cases ending with
      | finished => exact .inl concludes
      | readThrough => exact .inr (.inl concludes)
      | brokenOff => exact .inr (.inr concludes)
    · rintro (finished | readThrough | brokenOff)
      · exact ⟨_, finished⟩
      · exact ⟨_, readThrough⟩
      · exact ⟨_, brokenOff⟩
  refine ⟨completes, ?_⟩
  rw [completes]
  constructor
  · intro trusted broken
    rcases trusted (.inr (.inr broken)) with finished | readThrough
    · cases finished.unique only given broken
    · cases readThrough.unique only given broken
  · rintro whole (finished | readThrough | broken)
    · exact .inl finished
    · exact .inr readThrough
    · exact absurd broken whole

def builtinRegistry : Registry (Handler Unit) :=
  builtinCommands.foldl
    (fun registry command =>
      match registry.add command with
      | .ok (extended, _, _) => extended
      | .error _ => registry)
    Registry.empty

def builtinState : State Unit :=
  { registry := builtinRegistry }

def Handler.isBuiltin : Handler N → Bool
  | .builtin _ => true
  | .host _ => false

theorem builtinState_only : builtinState.registry.Only Regular := by
  intro name command found
  have all : builtinRegistry.owners.values.all (·.handler.isBuiltin) = true := by decide +kernel
  have builtin := List.all_eq_true.mp all command (Registry.resolve_mem found)
  unfold Regular
  cases known : command.handler with
  | host program =>
      rw [known] at builtin
      cases builtin
  | builtin command =>
      by_cases opens : command = .ifBlock
      · exact .inl (congrArg _ opens)
      · exact .inr fun _ => opens

def brokenLines (count : Nat) : List (List Char) :=
  ["if 1".toList, List.replicate count '9' ++ ['x'], "endif".toList, "echo 2".toList]

def brokenText (count : Nat) : String :=
  String.ofList (Text.joinLines (brokenLines count))

theorem endsLine_brokenText (count : Nat) : endsLine (brokenText count) = true := by
  have last : (Text.joinLines (brokenLines count)).getLast? = some '\n' :=
    Text.getLast?_joinLines ["if 1".toList, List.replicate count '9' ++ ['x'], "endif".toList]
      "echo 2".toList
  unfold endsLine brokenText
  rw [String.toList_ofList, last]
  rfl

theorem terminatedLines_brokenText (count : Nat) :
    Text.terminatedLines (brokenText count) =
      ["if 1", String.ofList (List.replicate count '9' ++ ['x']), "endif", "echo 2"] := by
  have unbroken : ∀ line ∈ brokenLines count, Text.Unbroken line := by
    intro line member
    simp only [brokenLines, List.mem_cons, List.not_mem_nil, or_false] at member
    rcases member with rfl | rfl | rfl | rfl
    · exact Text.unbroken_of_all (by decide)
    · intro c inside
      rcases List.mem_append.mp inside with digit | letter
      · rw [List.eq_of_mem_replicate digit]
        decide
      · rw [List.mem_singleton.mp letter]
        decide
    · exact Text.unbroken_of_all (by decide)
    · exact Text.unbroken_of_all (by decide)
  unfold Text.terminatedLines brokenText
  rw [String.toList_ofList, Text.cutLines_joinLines unbroken]
  rfl

def opensBlock (registry : Registry (Handler N)) (line condition : String) : Bool :=
  match Assembly.roleOf registry none 1 line with
  | .ok (.whole directive) =>
      directive.name = "if" && directive.args = condition &&
        (match directive.command.handler with
          | .builtin .ifBlock => true
          | _ => false)
  | _ => false

theorem opensBlock_whole {registry : Registry (Handler N)} {line condition : String}
    (opens : opensBlock registry line condition = true) :
    ∃ directive, Assembly.roleOf registry none 1 line = .ok (.whole directive) ∧
      directive.command.handler = .builtin .ifBlock ∧ directive.name = "if" ∧
        directive.args = condition := by
  unfold opensBlock at opens
  split at opens
  next directive found =>
    simp only [Bool.and_eq_true, decide_eq_true_eq] at opens
    obtain ⟨⟨named, condition⟩, handled⟩ := opens
    split at handled
    next handler => exact ⟨directive, found, handler, named, condition⟩
    next => cases handled
  next => cases opens

theorem brokenText_concludes {count : Nat} (long : CommandLine.maxDigits < count) (depth : Nat)
    (name : String) :
    Concludes depth builtinState name (LineSource.ofText (brokenText count) (some name))
      .brokenOff := by
  have opens : opensBlock builtinRegistry "if 1" "1" = true := by decide +kernel
  obtain ⟨directive, whole, handler, named, condition⟩ := opensBlock_whole opens
  have evaluates : ((builtinState.world.newScope.2.runIn builtinState.outside
      builtinState.world.newScope.1 "1").1.toOption).isSome = true := by decide +kernel
  have lines : (LineSource.ofText (brokenText count) (some name)).atHand = _ :=
    terminatedLines_brokenText count
  cases value : (builtinState.world.newScope.2.runIn builtinState.outside
      builtinState.world.newScope.1 "1").1 with
  | error error => rw [value] at evaluates; cases evaluates
  | ok value =>
      have other : directive.name ≠ "finish" := by
        rw [named]
        decide
      rw [← condition] at value
      exact concludes_brokenOff depth name ⟨rfl, rfl⟩ lines whole handler other value
        (Assembly.roleOf_oversized _ 2 long)

theorem brokenText_sources (count depth : Nat) (name : String) :
    Sources depth builtinState (sourceString (dispatchTo (depth + 1)) (brokenText count) name) name
      (LineSource.ofText (brokenText count) (some name)) := by
  have sources : Sources depth builtinState _ name _ := .text (brokenText count) name
  rw [endsLine_brokenText] at sources
  exact sources

theorem completes_trusted_iff_builtin :
    (Completes (sourceString (dispatchTo 1000) (brokenText 4301) "script") builtinState →
        Concludes 999 builtinState "script"
            (LineSource.ofText (brokenText 4301) (some "script")) .finished ∨
          Concludes 999 builtinState "script"
            (LineSource.ofText (brokenText 4301) (some "script")) .readThrough) ↔
      ¬ Concludes 999 builtinState "script"
        (LineSource.ofText (brokenText 4301) (some "script")) .brokenOff :=
  (completes_trusted_iff 999 builtinState_only (brokenText_sources 4301 999 "script")).2

theorem brokenText_completes :
    Completes (sourceString (dispatchTo 1000) (brokenText 4301) "script") builtinState ∧
      ¬ Concludes 999 builtinState "script"
          (LineSource.ofText (brokenText 4301) (some "script")) .finished ∧
        ¬ Concludes 999 builtinState "script"
          (LineSource.ofText (brokenText 4301) (some "script")) .readThrough := by
  have long : CommandLine.maxDigits < 4301 := by decide
  have sources := brokenText_sources 4301 999 "script"
  have broken := brokenText_concludes long 999 "script"
  refine ⟨(sources.completes_iff builtinState_only).mpr ⟨_, broken⟩, ?_, ?_⟩
  · intro finished
    cases finished.unique builtinState_only sources.given broken
  · intro readThrough
    cases readThrough.unique builtinState_only sources.given broken

end Engine

end ExScript
