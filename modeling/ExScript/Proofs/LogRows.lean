import ExScript.Proofs.Hereditary

/-!
Rows of the log that are written on the way. What is said, what reading a stream meets and what
commands do that run no others is logged in rows that tell neither of a call nor of a script that
ran to its end.
-/

namespace ExScript

namespace Session

def Proceeds (session later : Session) : Prop :=
  ∃ rows, later.log.toList = session.log.toList ++ rows ∧
    ∀ row ∈ rows, Engine.Incidental row.text

theorem Proceeds.of_same {session later : Session} (log : later.log = session.log) :
    session.Proceeds later :=
  ⟨[], by rw [log, List.append_nil], List.forall_mem_nil _⟩

theorem Proceeds.trans {session later last : Session} (first : session.Proceeds later)
    (second : later.Proceeds last) : session.Proceeds last := by
  obtain ⟨rows, log, incidental⟩ := first
  obtain ⟨others, further, also⟩ := second
  refine ⟨rows ++ others, ?_, List.forall_mem_append.mpr ⟨incidental, also⟩⟩
  rw [further, log, List.append_assoc]

theorem note_proceeds (session : Session) (level : Level) {text : String}
    (incidental : Engine.Incidental text) : session.Proceeds (session.note level text) :=
  ⟨_, Array.toList_push, List.forall_mem_singleton.mpr incidental⟩

theorem say_proceeds (session : Session) (kind : MessageKind) (text : String) :
    session.Proceeds (session.say kind text) := by
  cases kind with
  | echo => exact .of_same rfl
  | info =>
      exact (session.note_proceeds .info (.append (by decide) text)).trans (.of_same rfl)
  | error =>
      exact (session.note_proceeds .error (.append (by decide) text)).trans (.of_same rfl)

theorem locate_proceeds (session : Session) (path : String) (line : Nat) :
    session.Proceeds (session.locate path line) :=
  (session.say_proceeds .error _).trans (Session.say_proceeds _ .echo _)

end Session

namespace Stream

variable {C : Type} (registry : Registry C)

theorem reportUnknown_proceeds (stream : Stream C) (number : Nat) (line : String)
    (session : Session) : session.Proceeds (stream.reportUnknown number line session) := by
  have unknown : Engine.Incidental ("directive.unknown path=" ++ stream.path) :=
    .append (by decide) _
  have noted := session.note_proceeds .warning
    ((((unknown.append " line=").append (toString number)).append " text=").append
      (Text.quote line))
  unfold reportUnknown
  dsimp only
  split
  · split
    · exact (noted.trans (Session.locate_proceeds _ _ _)).trans (Session.say_proceeds _ .error _)
    · exact noted.trans (Session.say_proceeds _ .error _)
  · exact noted

theorem takeLine_proceeds (stream : Stream C) (text : String) (session : Session) :
    session.Proceeds (stream.takeLine registry text session).session := by
  have placed : session.Proceeds
      (if stream.tracked then session.atLine stream.number else session) := by
    split <;> exact .of_same rfl
  unfold takeLine
  dsimp only
  split
  next => exact placed
  next => exact placed
  next => exact placed.trans (reportUnknown_proceeds _ _ _ _)
  all_goals exact placed

theorem finish_proceeds (stream : Stream C) (session : Session) :
    session.Proceeds (stream.finish session).session := by
  unfold finish
  split
  · exact .of_same rfl
  next heredoc pending =>
    exact session.note_proceeds .warning (.append (.append (.append (by decide) _) _) _)

theorem log_ask (session : Session) (request : PromptRequest) :
    (session.ask request).2.log = session.log := by
  unfold Session.ask
  split <;> rfl

theorem pullAsked_proceeds (prompting : Prompting) (left : Nat) (stream : Stream C)
    (session : Session) :
    session.Proceeds (pullAsked registry prompting left stream session).session := by
  induction left generalizing stream session with
  | zero =>
      have limited := session.note_proceeds .warning
        (.append (by decide) (toString prompting.limit) :
          Engine.Incidental ("prompt.line_limit max_lines=" ++ toString prompting.limit))
      exact limited.trans (finish_proceeds _ _)
  | succ left ih =>
      unfold pullAsked
      split
      next refused =>
        have asked : session.Proceeds _ := .of_same (log_ask session prompting.request)
        rw [refused] at asked
        exact asked.trans (finish_proceeds _ _)
      next text later answered =>
        have asked : session.Proceeds _ := .of_same (log_ask session prompting.request)
        rw [answered] at asked
        have taken := asked.trans (takeLine_proceeds registry
          { stream with prompting := some (prompting, left) } text later)
        split
        next next final pulled =>
          rw [pulled] at taken
          exact taken.trans (ih _ _)
        next => exact taken

theorem pullLines_proceeds (lines : List String) (stream : Stream C) (session : Session) :
    session.Proceeds (pullLines registry lines stream session).session := by
  induction lines generalizing stream session with
  | nil =>
      unfold pullLines
      split
      · exact finish_proceeds _ _
      · exact pullAsked_proceeds registry _ _ _ _
  | cons text rest ih =>
      have taken := takeLine_proceeds registry { stream with atHand := rest } text session
      unfold pullLines
      split
      next next final pulled =>
        rw [pulled] at taken
        exact taken.trans (ih _ _)
      next => exact taken

theorem pull_proceeds (stream : Stream C) (session : Session) :
    session.Proceeds (stream.pull registry session).session := by
  unfold pull
  split
  · exact .of_same rfl
  · split
    · exact .of_same rfl
    · exact pullLines_proceeds registry _ _ _

end Stream

namespace Engine

variable {N α β : Type}

/-- What was logged tells of no call and of no script, the lists of the loader are the same, and a
stream that was there is still there. -/
structure Passing (state last : State N) : Prop where
  proceeds : state.session.Proceeds last.session
  scriptNames : last.scriptNames = state.scriptNames
  stylesheets : last.stylesheets = state.stylesheets
  streaming : state.stream.isSome → last.stream.isSome

theorem Passing.refl (state : State N) : Passing state state :=
  ⟨.of_same rfl, rfl, rfl, id⟩

theorem Passing.trans {state middle last : State N} (first : Passing state middle)
    (second : Passing middle last) : Passing state last where
  proceeds := first.proceeds.trans second.proceeds
  scriptNames := second.scriptNames.trans first.scriptNames
  stylesheets := second.stylesheets.trans first.stylesheets
  streaming some := second.streaming (first.streaming some)

theorem Passing.of_proceeds {state : State N} {session : Session}
    (proceeds : state.session.Proceeds session) : Passing state { state with session } :=
  ⟨proceeds, rfl, rfl, id⟩

def Passes (action : Run N α) : Prop :=
  ∀ state : State N, Passing state (after action state)

namespace Passes

theorem unlogged {action : Run N α} (same : ∀ state : State N,
    (after action state).session.log = state.session.log ∧
      (after action state).scriptNames = state.scriptNames ∧
      (after action state).stylesheets = state.stylesheets ∧
      (state.stream.isSome → (after action state).stream.isSome)) : Passes action :=
  fun state =>
    ⟨.of_same (same state).1, (same state).2.1, (same state).2.2.1, (same state).2.2.2⟩

theorem pure (value : α) : Passes (pure value : Run N α) :=
  .refl

theorem raise (fault : Fault) : Passes (raise fault : Run N α) :=
  .refl

theorem exhausted : Passes (throw .exhausted : Run N α) :=
  .refl

theorem get : Passes (get : Run N (State N)) :=
  .refl

theorem bind {action : Run N α} {next : α → Run N β} (first : Passes action)
    (second : ∀ value, Passes (next value)) : Passes (action >>= next) :=
  fun state => after_bind (Passing state) (first state)
    fun value last passing => passing.trans (second value last)

theorem lift (result : Except Fault α) : Passes (lift result : Run N α) := by
  cases result with
  | ok value => exact pure value
  | error fault => exact raise fault

theorem liftScript (result : Except ScriptError α) : Passes (liftScript result : Run N α) := by
  cases result with
  | ok value => exact pure value
  | error error => exact raise (.script error)

theorem note (level : Level) {text : String} (incidental : Incidental text) :
    Passes (note level text : Run N Unit) :=
  fun state => .of_proceeds (state.session.note_proceeds level incidental)

theorem say (kind : MessageKind) (text : String) : Passes (say kind text : Run N Unit) :=
  fun state => .of_proceeds (state.session.say_proceeds kind text)

theorem locate (path : String) (line : Nat) :
    Passes (onSession (·.locate path line) : Run N Unit) :=
  fun state => .of_proceeds (state.session.locate_proceeds path line)

theorem onWorld (action : Expr.Outside → Expr.World → Except ScriptError α × Expr.World) :
    Passes (onWorld action : Run N (Except ScriptError α)) :=
  unlogged fun _ => ⟨rfl, rfl, rfl, id⟩

theorem newScope : Passes (newScope : Run N Expr.Scope) :=
  unlogged fun _ => ⟨rfl, rfl, rfl, id⟩

theorem define (name : String) (value : Expr.Value) :
    Passes (define name value : Run N Unit) := by
  refine unlogged fun state => ?_
  simp only [after, Engine.define, EStateM.run_bind, EStateM.run_get]
  cases state.world.define name value <;> exact ⟨rfl, rfl, rfl, id⟩

theorem runShell (args : String) (bang : Bool) : Passes (runShell args bang : Run N Unit) := by
  refine bind get fun state => ?_
  refine bind (lift _) fun command => ?_
  refine bind (unlogged fun _ => ⟨rfl, rfl, rfl, id⟩) fun _ => ?_
  refine bind (note .info (.append (by decide) _)) fun _ => ?_
  refine bind (say .info _) fun _ => ?_
  intro state
  let captured := Shell.capture state.settings.shell command state.environment state.files
  have shows : Passes (do Engine.say .echo (← Engine.lift captured.1) : Run N Unit) :=
    bind (lift captured.1) fun output => say .echo output
  have passing := shows { state with files := captured.2 }
  exact ⟨passing.proceeds, passing.scriptNames, passing.stylesheets, passing.streaming⟩

theorem pull : Passes (pull : Run N (Option (Directive (Handler N)))) := by
  intro state
  cases current : state.stream with
  | none =>
      rw [after_error (run_pull_none current)]
      exact .refl state
  | some stream =>
      rw [after_pull current]
      exact ⟨stream.pull_proceeds state.registry state.session, rfl, rfl, fun _ => rfl⟩

theorem closeStream : Passes (closeStream : Run N Unit) := by
  refine unlogged fun state => ?_
  cases current : state.stream with
  | none =>
      rw [after_error (run_closeStream_none current)]
      exact ⟨rfl, rfl, rfl, nofun⟩
  | some stream =>
      rw [after_ok (run_closeStream current)]
      exact ⟨rfl, rfl, rfl, fun _ => rfl⟩

end Passes

theorem passes_hereditary : Hereditary (N := N) Passes where
  pure := .pure
  fails fault _ := .raise fault
  bind := .bind
  reading _ each := .bind .get each
  note level _ incidental := .note level incidental
  say := .say
  whereabouts _ := .unlogged fun _ => ⟨rfl, rfl, rfl, id⟩
  record _ := .unlogged fun _ => ⟨rfl, rfl, rfl, id⟩
  evaluate _ := .bind (.onWorld _) fun _ => .liftScript _
  execute _ := .bind (.onWorld _) fun _ => .liftScript _
  define := .define
  runShell := .runShell

end Engine

end ExScript
