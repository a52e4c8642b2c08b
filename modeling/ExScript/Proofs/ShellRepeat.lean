import ExScript.Proofs.Ordinary
import ExScript.Proofs.TypedLines

/-!
Repeating the last shell command. The second `!` of `!!` is read as a mark, with the blanks behind
it taken away, and put back in front of what is left; behind a blank it belongs to the argument, and
the blanks behind it stay. So the two forms run the same command just if there are none.
-/

namespace ExScript

namespace Shell

def recalled (last text : String) : String :=
  String.ofList (recallFrom last.toList 0 text.toList)

theorem recallLast_eq {last : String} (some : last ≠ "") (text : String) :
    recallLast text last = .ok (recalled last text) := by
  unfold recallLast
  simp [some, recalled]

theorem recallFrom_blanks (last : List Char) {gap : List Char}
    (blank : ∀ c ∈ gap, Text.isBlank c = true) (rest : List Char) :
    recallFrom last 0 (gap ++ rest) = gap ++ recallFrom last 0 rest := by
  induction gap with
  | nil => rfl
  | cons c gap ih =>
      obtain ⟨first, others⟩ := List.forall_mem_cons.mp blank
      have noBackslash : c ≠ '\\' := by
        rintro rfl
        exact absurd first (by decide)
      have noMark : c ≠ '!' := by
        rintro rfl
        exact absurd first (by decide)
      rw [List.cons_append, recallFrom, if_neg noBackslash, if_neg noMark, ih others]
      rfl

theorem recalled_mark (last text : String) :
    recalled last ("!" ++ text) = last ++ recalled last text := by
  simp [recalled, recallFrom]

theorem recalled_stripStart_iff (last text : String) :
    recalled last ("!" ++ String.ofList (Text.stripStart text.toList)) =
        recalled last ("!" ++ text) ↔
      ∀ c ∈ text.toList.head?, Text.isBlank c = false := by
  have run : Text.LongestRun Text.isBlank text.toList _ _ :=
    Text.longestRun_iff.mpr ⟨rfl, rfl⟩
  have whole : recallFrom last.toList 0 text.toList =
      text.toList.takeWhile Text.isBlank ++
        recallFrom last.toList 0 (text.toList.dropWhile Text.isBlank) := by
    conv => lhs; rw [run.parts]
    exact recallFrom_blanks _ run.inside _
  have same : recalled last ("!" ++ String.ofList (Text.stripStart text.toList)) =
      recalled last ("!" ++ text) ↔ text.toList.takeWhile Text.isBlank = [] := by
    rw [recalled_mark, recalled_mark, ← String.toList_inj]
    simp [recalled, whole, Text.stripStart]
  rw [same]
  cases text.toList with
  | nil => simp
  | cons c rest => cases blank : Text.isBlank c <;> simp [blank]

end Shell

namespace CommandLine

/-- The second mark of a line is none of its arguments, and neither are the blanks behind it. -/
theorem parse_marked {text : String} (unbroken : Text.Unbroken text.toList) :
    parse ("!!" ++ text) =
      .ok (some ⟨none, "!", true, String.ofList (Text.stripStart text.toList)⟩) := by
  have run : Text.LongestRun Text.isBlank text.toList _ _ :=
    Text.longestRun_iff.mpr ⟨rfl, rfl⟩
  let pieces : Pieces :=
    ⟨[], [], ['!'], true, text.toList.takeWhile Text.isBlank, Text.stripStart text.toList⟩
  have greedy : pieces.Greedy :=
    ⟨⟨List.forall_mem_nil _, List.forall_mem_nil _, .inl rfl, run.inside⟩, .inl rfl,
      fun _ => rfl, run.ends⟩
  have oneLine : '\n' ∉ pieces.args := fun member =>
    (unbroken _ ((List.dropWhile_suffix _).subset member)).2 rfl
  have chars : ("!!" ++ text).toList = pieces.chars := by
    simp [pieces, Pieces.chars, Pieces.behindWord, Pieces.mark, Text.stripStart]
  exact greedy.parses_uncounted oneLine rfl chars

theorem parse_argument {text : String} (unbroken : Text.Unbroken text.toList) :
    parse ("! !" ++ text) = .ok (some ⟨none, "!", false, "!" ++ text⟩) := by
  have oneLine : '\n' ∉ ("!" ++ text).toList := by
    have inside : '\n' ∉ text.toList := fun member => (unbroken _ member).2 rfl
    simp [inside]
  have starts : ∀ c ∈ ("!" ++ text).toList.head?, Text.isBlank c = false := by
    intro c first
    rw [String.toList_append] at first
    cases first
    decide
  have line : "! !" ++ text = "!" ++ " " ++ ("!" ++ text) := by
    rw [← String.append_assoc]
    rfl
  rw [line]
  exact parse_spaced (.inl rfl) starts oneLine

end CommandLine

namespace Engine

variable {N : Type}

def State.behindShell (state : State N) (text : String) : State N :=
  { state with
    lastCommand := text
    session := (state.session.note .info ("shell.run command=" ++ Text.quote text)).say .info
      ("Executing: " ++ text)
    files := (Shell.capture state.settings.shell text state.environment state.files).2 }

theorem run_runShell {args text : String} {bang : Bool} {state : State N}
    (recalls : Shell.recallLast (if bang then "!" ++ args else args) state.lastCommand =
      .ok text) :
    (runShell args bang).run state =
      match (Shell.capture state.settings.shell text state.environment state.files).1 with
      | .ok output => .ok ⟨⟩ { state.behindShell text with
          session := (state.behindShell text).session.say .echo output }
      | .error fault => .error (.fault fault) (state.behindShell text) := by
  have shows : (runShell args bang).run state =
      (lift (Shell.capture state.settings.shell text state.environment state.files).1 >>=
        say .echo).run (state.behindShell text) := by
    unfold runShell
    rw [run_get_bind]
    rw [recalls]
    rfl
  rw [shows]
  cases (Shell.capture state.settings.shell text state.environment state.files).1 <;> rfl

def shellMessages (state : State N) (text : String) : List Message :=
  [⟨.info, "Executing: " ++ text⟩,
    match (Shell.capture state.settings.shell text state.environment state.files).1 with
    | .ok output => ⟨.echo, output⟩
    | .error fault => ⟨.error, fault.report⟩]

/-- Executing a line runs a shell command: it is the last one then, and the user is told of it
and of what came of it. -/
structure RunsShell (dispatch : Dispatch N) (state : State N) (line text : String)
    (last : State N) : Prop where
  returned : (executeLine dispatch line).run state = .ok .goOn last
  lastCommand : last.lastCommand = text
  messages : last.session.channel.history.toList =
    state.session.channel.history.toList ++ shellMessages state text
  files : last.files =
    (Shell.capture state.settings.shell text state.environment state.files).2

def shellReport (context : Context) (line : Nat) (state : State N) (text : String) :
    List Message :=
  ⟨.info, "Executing: " ++ text⟩ ::
    match (Shell.capture state.settings.shell text state.environment state.files).1 with
    | .ok output => [⟨.echo, output⟩]
    | .error fault => located context.path line ++ [⟨.error, fault.report⟩]

theorem shellReport_prompt (line : Nat) (state : State N) (text : String) :
    shellReport {} line state text = shellMessages state text := by
  unfold shellReport shellMessages
  cases (Shell.capture state.settings.shell text state.environment state.files).1 <;> rfl

theorem execute_shell (depth : Nat) (context : Context) {directive : Directive (Handler N)}
    (shell : directive.command.handler = .builtin .runShell) (state : State N) :
    (executeBy (dispatchTo depth) context directive.command directive.call).run state =
      (logged directive.command.name directive.call
        (do runShell directive.args directive.bang; pure .nothing)).run state := by
  unfold executeBy
  rw [shell]
  rfl

theorem run_shellDirective (depth : Nat) (context : Context) {directive : Directive (Handler N)}
    {text : String} {state : State N} (shell : directive.command.handler = .builtin .runShell)
    (recalls : Shell.recallLast
      (if directive.bang then "!" ++ directive.args else directive.args) state.lastCommand =
        .ok text) :
    ∃ last, (dispatchTo (depth + 1) context directive).run state = .ok .goOn last ∧
      last = { state with
        session := last.session
        lastCommand := text
        files := (Shell.capture state.settings.shell text state.environment state.files).2 } ∧
      last.session.channel.history.toList =
        state.session.channel.history.toList ++ shellReport context directive.line state text := by
  let start := state.noted .debug (startRow directive.command.name directive.call)
  have same : Shell.capture start.settings.shell text start.environment start.files =
      Shell.capture state.settings.shell text state.environment state.files := rfl
  have ran : (runShell directive.args directive.bang).run start = _ := run_runShell recalls
  have executes := execute_shell depth context shell state
  rw [run_logged, EStateM.run_bind] at executes
  rw [same] at ran
  unfold shellReport
  cases outcome : (Shell.capture state.settings.shell text state.environment state.files).1 with
  | ok output =>
      rw [outcome] at ran
      rw [ran] at executes
      rw [dispatchTo_succ, run_dispatchBy, executes]
      refine ⟨_, rfl, rfl, ?_⟩
      change ((state.session.channel.emit ⟨.info, "Executing: " ++ text⟩).emit
        ⟨.echo, output⟩).history.toList = _
      simp
  | error fault =>
      rw [outcome] at ran
      rw [ran] at executes
      obtain ⟨last, ended, kept, told⟩ :=
        dispatchBy_failing executes (capture_mild _ _ _ _ fault outcome)
      refine ⟨last, ended, kept, told.trans ?_⟩
      change (state.session.channel.emit ⟨.info, "Executing: " ++ text⟩).history.toList ++ _ = _
      simp

theorem executeLine_whole {deep : Prop} {dispatch : Dispatch N} (halting : Halting deep dispatch)
    {line : String} {parsed : CommandLine} {command : Descriptor (Handler N)} {state : State N}
    (unbroken : Text.Unbroken line.toList) (parses : CommandLine.parse line = .ok (some parsed))
    (resolves : state.registry.resolve parsed.name = some command)
    (takesNone : command.hereDoc = false) :
    ∃ stream, ∀ flow last,
      (dispatch {} (Assembly.calledFor 1 command parsed)).run (state.on (some stream)) =
        .ok flow last →
      (executeLine dispatch line).run state = .ok flow (last.on state.stream) := by
  have heeded := CommandLine.heeded_of_parses parses
  have role : Assembly.headerRole state.registry 1 line =
      .ok (.whole (Assembly.calledFor 1 command parsed)) := by
    rw [Assembly.headerRole_calledFor heeded parses resolves, takesNone]
    rfl
  rw [← Assembly.dropCarriageReturn_unbroken unbroken] at role
  let start : Stream (Handler N) :=
    { path := "<prompt>", atHand := []
      prompting := some (state.prompting, state.prompting.limit.toNat) }
  have taken : start.takeLine state.registry line state.session = _ := Stream.takeLine_role role
  have pulls : (state.opened [line]).pull state.registry state.session =
      ⟨.ok (some (Assembly.calledFor 1 command parsed)), { start with number := 2 },
        state.session⟩ := by
    have reads : (state.opened [line]).pull state.registry state.session =
        Stream.pullLines state.registry [line] { start with atHand := [line] } state.session := rfl
    rw [reads, Stream.pullLines_cons, taken]
    rfl
  have pulled : pull.run (state.typing line) =
      .ok (some (Assembly.calledFor 1 command parsed))
        (state.on (some { start with number := 2 })) := by
    rw [run_pull rfl]
    have same : (state.opened [line]).pull (state.typing line).registry
      (state.typing line).session = _ := pulls
    rw [same]
    rfl
  have takes : Takes state line (Assembly.calledFor 1 command parsed)
      (state.on (some { start with number := 2 })) :=
    ⟨⟨parsed, parses, resolves, rfl, rfl⟩, pulled⟩
  refine ⟨{ start with number := 2 }, fun flow last ran => ?_⟩
  rw [run_executeLine halting takes, ran]
  rfl

theorem runsShell (depth : Nat) {state : State N} {line args text : String} {bang : Bool}
    {command : Descriptor (Handler N)} (unbroken : Text.Unbroken line.toList)
    (parses : CommandLine.parse line = .ok (some ⟨none, "!", bang, args⟩))
    (resolves : state.registry.resolve "!" = some command)
    (shell : command.handler = .builtin .runShell) (takesNone : command.hereDoc = false)
    (recalls : Shell.recallLast (if bang then "!" ++ args else args) state.lastCommand =
      .ok text) :
    ∃ last, RunsShell (dispatchTo (depth + 1)) state line text last := by
  obtain ⟨stream, executes⟩ :=
    executeLine_whole (dispatchTo_halting (depth + 1)) unbroken parses resolves takesNone
  let directive := Assembly.calledFor 1 command ⟨none, "!", bang, args⟩
  have here : directive.command.handler = .builtin .runShell := shell
  have recalled : Shell.recallLast
      (if directive.bang then "!" ++ directive.args else directive.args)
      (state.on (some stream)).lastCommand = .ok text := recalls
  obtain ⟨last, ran, changed, messages⟩ := run_shellDirective depth {} here recalled
  rw [shellReport_prompt] at messages
  exact ⟨last.on state.stream, executes .goOn last ran, congrArg State.lastCommand changed,
    messages, congrArg State.files changed⟩

structure Repeats (dispatch : Dispatch N) (state : State N) (text : String) : Prop where
  marked : ∃ last, RunsShell dispatch state ("!!" ++ text)
    (Shell.recalled state.lastCommand ("!" ++ String.ofList (Text.stripStart text.toList))) last
  argument : ∃ last, RunsShell dispatch state ("! !" ++ text)
    (Shell.recalled state.lastCommand ("!" ++ text)) last
  same : (∃ last, RunsShell dispatch state ("!!" ++ text)
      (Shell.recalled state.lastCommand ("!" ++ text)) last) ↔
    ∀ c ∈ text.toList.head?, Text.isBlank c = false

/-- Behind a blank a `!` keeps all the text that follows it, and right behind another one it loses
the blanks in front of that text. -/
theorem repeats (depth : Nat) {state : State N} {command : Descriptor (Handler N)} {text : String}
    (before : state.lastCommand ≠ "") (resolves : state.registry.resolve "!" = some command)
    (shell : command.handler = .builtin .runShell) (takesNone : command.hereDoc = false)
    (unbroken : Text.Unbroken text.toList) : Repeats (dispatchTo (depth + 1)) state text := by
  have markedLine : Text.Unbroken ("!!" ++ text).toList :=
    Text.unbroken_append.mpr ⟨Text.unbroken_of_all (by decide), unbroken⟩
  have argumentLine : Text.Unbroken ("! !" ++ text).toList :=
    Text.unbroken_append.mpr ⟨Text.unbroken_of_all (by decide), unbroken⟩
  have marked := runsShell depth markedLine (CommandLine.parse_marked unbroken) resolves shell
    takesNone (Shell.recallLast_eq before _)
  have argument := runsShell depth argumentLine (CommandLine.parse_argument unbroken) resolves
    shell takesNone (Shell.recallLast_eq before _)
  refine ⟨marked, argument, ?_⟩
  rw [← Shell.recalled_stripStart_iff state.lastCommand]
  obtain ⟨last, runs⟩ := marked
  constructor
  · rintro ⟨other, also⟩
    have one := runs.returned.symm.trans also.returned
    cases one
    exact runs.lastCommand.symm.trans also.lastCommand
  · intro alike
    exact ⟨last, alike ▸ runs⟩

def Handler.isShell : Handler N → Bool
  | .builtin .runShell => true
  | _ => false

theorem handler_of_isShell {handler : Handler N} (shell : handler.isShell = true) :
    handler = .builtin .runShell := by
  unfold Handler.isShell at shell
  split at shell
  · rfl
  · cases shell

theorem exists_builtinShell : ∃ command : Descriptor (Handler Unit),
    builtinRegistry.resolve "!" = some command ∧ command.handler = .builtin .runShell ∧
      command.hereDoc = false := by
  have found : (builtinRegistry.resolve "!").any
      (fun command => command.handler.isShell && !command.hereDoc) = true := by decide +kernel
  cases resolves : builtinRegistry.resolve "!" with
  | none =>
      rw [resolves] at found
      cases found
  | some command =>
      rw [resolves, Option.any_some, Bool.and_eq_true, Bool.not_eq_true'] at found
      exact ⟨command, rfl, handler_of_isShell found.1, found.2⟩

def repeating : State Unit :=
  { registry := builtinRegistry, lastCommand := "echo a" }

theorem repeats_builtin : Repeats dispatch repeating " b  \\! c " := by
  obtain ⟨command, resolves, shell, takesNone⟩ := exists_builtinShell
  exact repeats 999 (by decide) resolves shell takesNone (Text.unbroken_of_all (by decide))

/-- The blank between the `!` and the text is lost, and another command is run for it. -/
theorem repeat_losesBlank : ∃ marked argument : State Unit,
    RunsShell dispatch repeating "!! b" "echo ab" marked ∧
      RunsShell dispatch repeating "! ! b" "echo a b" argument ∧
      marked.lastCommand ≠ argument.lastCommand := by
  obtain ⟨command, resolves, shell, takesNone⟩ := exists_builtinShell
  obtain ⟨marked, one⟩ : ∃ last, RunsShell dispatch repeating "!! b" "echo ab" last :=
    runsShell 999 (Text.unbroken_of_all (by decide)) (by rfl) resolves shell takesNone (by decide)
  obtain ⟨argument, other⟩ : ∃ last, RunsShell dispatch repeating "! ! b" "echo a b" last :=
    runsShell 999 (Text.unbroken_of_all (by decide)) (by rfl) resolves shell takesNone (by decide)
  refine ⟨marked, argument, one, other, ?_⟩
  rw [one.lastCommand, other.lastCommand]
  decide

end Engine

end ExScript
