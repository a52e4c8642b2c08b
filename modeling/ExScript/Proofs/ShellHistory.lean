import ExScript.Proofs.Recalling
import ExScript.Proofs.ShellRepeat

/-!
The remembered command over a run of shell commands. One step either refuses its text, and then
nothing is run and nothing forgotten, or runs what the text is expanded to and remembers it, however
that run ends. So what is remembered is the last expanded text.
-/

namespace ExScript.Engine

variable {N : Type}

def writtenCommand (directive : Directive (Handler N)) : String :=
  if directive.bang then "!" ++ directive.args else directive.args

inductive ShellStep (context : Context) (directive : Directive (Handler N)) (state last : State N) :
    Prop where
  | refused
      (recalls : Shell.recallLast (writtenCommand directive) state.lastCommand =
        .error Shell.noPrevious)
      (changed : last = { state with session := last.session })
      (messages : last.session.channel.history.toList =
        state.session.channel.history.toList ++ (located context.path directive.line ++
          [⟨.error, "E34: No previous command"⟩]))
  | ran (text : String)
      (recalls : Shell.recallLast (writtenCommand directive) state.lastCommand = .ok text)
      (changed : last = { state with
        session := last.session
        lastCommand := text
        files := (Shell.capture state.settings.shell text state.environment state.files).2 })
      (messages : last.session.channel.history.toList =
        state.session.channel.history.toList ++ shellReport context directive.line state text)

theorem recallLast_refuses {text last : String} {fault : Fault}
    (refused : Shell.recallLast text last = .error fault) : fault = Shell.noPrevious := by
  unfold Shell.recallLast at refused
  split at refused <;> cases refused
  rfl

theorem dispatchTo_shellStep (depth : Nat) (context : Context) {directive : Directive (Handler N)}
    (shell : directive.command.handler = .builtin .runShell) (state : State N) :
    ∃ last, (dispatchTo (depth + 1) context directive).run state = .ok .goOn last ∧
      ShellStep context directive state last := by
  cases recalls : Shell.recallLast (writtenCommand directive) state.lastCommand with
  | ok text =>
      obtain ⟨last, ended, changed, messages⟩ := run_shellDirective depth context shell recalls
      exact ⟨last, ended, .ran text recalls changed messages⟩
  | error fault =>
      cases recallLast_refuses recalls
      let start := state.noted .debug (startRow directive.command.name directive.call)
      have stops : (runShell directive.args directive.bang).run start =
          .error (.fault Shell.noPrevious) start := by
        have refused : Shell.recallLast
            (if directive.bang then "!" ++ directive.args else directive.args)
            start.lastCommand = .error Shell.noPrevious := recalls
        unfold runShell
        rw [run_get_bind]
        rw [refused]
        rfl
      have executes := execute_shell depth context shell state
      rw [run_logged, run_bind_error stops] at executes
      obtain ⟨last, ended, kept, told⟩ := dispatchBy_failing executes rfl
      exact ⟨last, ended, .refused recalls kept told⟩

def expandedTexts (last : String) : List String → List String
  | [] => []
  | text :: rest =>
      match Shell.recallLast text last with
      | .ok expanded => expanded :: expandedTexts expanded rest
      | .error _ => expandedTexts last rest

inductive ShellSteps : List (Context × Directive (Handler N)) → State N → State N → Prop where
  | done (state : State N) : ShellSteps [] state state
  | step {context directive rest} {state middle last : State N}
      (first : ShellStep context directive state middle) (others : ShellSteps rest middle last) :
      ShellSteps ((context, directive) :: rest) state last

theorem ShellStep.lastCommand {context : Context} {directive : Directive (Handler N)}
    {state last : State N} (step : ShellStep context directive state last) (texts : List String) :
    (expandedTexts state.lastCommand (writtenCommand directive :: texts)).getLast?.getD
        state.lastCommand =
      (expandedTexts last.lastCommand texts).getLast?.getD last.lastCommand := by
  rw [expandedTexts]
  cases step with
  | refused recalls changed =>
      have kept : last.lastCommand = state.lastCommand := by rw [changed]
      rw [recalls, kept]
  | ran text recalls changed =>
      have remembers : last.lastCommand = text := by rw [changed]
      rw [recalls, remembers, List.getLast?_cons]
      rfl

theorem ShellSteps.lastCommand {commands : List (Context × Directive (Handler N))}
    {state last : State N} (steps : ShellSteps commands state last) :
    last.lastCommand =
      (expandedTexts state.lastCommand (commands.map (writtenCommand ·.2))).getLast?.getD
        state.lastCommand := by
  induction steps with
  | done state => rfl
  | step first _ ih =>
      rw [List.map_cons, first.lastCommand]
      exact ih

def dispatchAll (dispatch : Dispatch N) : List (Context × Directive (Handler N)) → Run N Unit
  | [] => pure ⟨⟩
  | (context, directive) :: rest => do
      let _ ← dispatch context directive
      dispatchAll dispatch rest

theorem dispatchAll_shellSteps (depth : Nat) {commands : List (Context × Directive (Handler N))}
    (shell : ∀ command ∈ commands, command.2.command.handler = .builtin .runShell)
    (state : State N) :
    ∃ last, (dispatchAll (dispatchTo (depth + 1)) commands).run state = .ok ⟨⟩ last ∧
      ShellSteps commands state last := by
  induction commands generalizing state with
  | nil => exact ⟨state, rfl, .done state⟩
  | cons command rest ih =>
      obtain ⟨context, directive⟩ := command
      obtain ⟨here, others⟩ := List.forall_mem_cons.mp shell
      obtain ⟨middle, ended, first⟩ := dispatchTo_shellStep depth context here state
      obtain ⟨last, behind, steps⟩ := ih others middle
      refine ⟨last, ?_, .step first steps⟩
      rw [dispatchAll, run_bind_ok ended]
      exact behind

/-- A `!` with an even number of backslashes in front of it becomes the last command, and one with
an odd number loses one of them; without a last command the first kind is refused. What is
remembered over shell commands is the last text that was expanded, whether running it went well
or not. -/
theorem recalling (depth : Nat) :
    (∀ last text, ∃ marks tail, Shell.Recalls last text marks tail) ∧
    ∀ (commands : List (Context × Directive (Handler N))) (state : State N),
      (∀ command ∈ commands, command.2.command.handler = .builtin .runShell) →
      ∃ last, (dispatchAll (dispatchTo (depth + 1)) commands).run state = .ok ⟨⟩ last ∧
        ShellSteps commands state last ∧
        last.lastCommand =
          (expandedTexts state.lastCommand (commands.map (writtenCommand ·.2))).getLast?.getD
            state.lastCommand := by
  refine ⟨Shell.exists_recalls, fun commands state shell => ?_⟩
  obtain ⟨last, ended, steps⟩ := dispatchAll_shellSteps depth shell state
  exact ⟨last, ended, steps, steps.lastCommand⟩

theorem recalling_refused : ∃ (command : Descriptor (Handler Unit)) (last : State Unit),
    builtinRegistry.resolve "!" = some command ∧
    (dispatchAll dispatch
      [({}, ⟨1, command, none, false, "!x"⟩), ({}, ⟨2, command, none, false, "echo a\\!"⟩),
        ({}, ⟨3, command, none, true, " b"⟩)]).run { registry := builtinRegistry } =
          .ok ⟨⟩ last ∧
    last.lastCommand = "echo a! b" := by
  obtain ⟨command, resolves, shell, -⟩ := exists_builtinShell
  let commands : List (Context × Directive (Handler Unit)) :=
    [({}, ⟨1, command, none, false, "!x"⟩), ({}, ⟨2, command, none, false, "echo a\\!"⟩),
      ({}, ⟨3, command, none, true, " b"⟩)]
  have handled : ∀ one ∈ commands, one.2.command.handler = .builtin .runShell := by
    intro one member
    simp only [commands, List.mem_cons, List.not_mem_nil, or_false] at member
    rcases member with rfl | rfl | rfl <;> exact shell
  obtain ⟨last, ended, -, remembered⟩ := (recalling 999).2 commands _ handled
  have expanded : (expandedTexts "" ["!x", "echo a\\!", "!" ++ " b"]).getLast?.getD "" =
      "echo a! b" := by decide
  exact ⟨command, last, resolves, ended, remembered.trans expanded⟩

end ExScript.Engine
