import ExScript.Proofs.Aside
import ExScript.Proofs.Supply
import ExScript.Proofs.Throughout

/-!
The line that a script is at. It is always the one that was read last from the stream of the script,
whatever is executed: scripts within it have lines of their own, and lines typed at the prompt none.
-/

namespace ExScript

structure Session.Alongside (session other : Session) : Prop where
  script : other.script = session.script
  sourcing : other.sourcing = session.sourcing

namespace Session.Alongside

variable {session other third : Session}

theorem refl (session : Session) : session.Alongside session :=
  ⟨rfl, rfl⟩

theorem trans (first : session.Alongside other) (second : other.Alongside third) :
    session.Alongside third :=
  ⟨second.script.trans first.script, second.sourcing.trans first.sourcing⟩

theorem reached (alongside : session.Alongside other) (reporting : Reporting) (number : Nat) :
    (reporting.reached number session).Alongside (reporting.reached number other) := by
  unfold Reporting.reached
  split
  · exact ⟨by simp [Session.atLine, alongside.script], by simp [Session.atLine, alongside.sourcing]⟩
  · exact alongside

end Session.Alongside

variable {C : Type}

theorem LineRole.met_alongside (role : LineRole C) (reporting : Reporting) (number : Nat)
    (text : String) (session : Session) :
    (reporting.reached number session).Alongside (role.met reporting number text session) := by
  obtain ⟨path, tracked, reports⟩ := reporting
  cases tracked <;> cases reports <;> cases role <;> exact ⟨rfl, rfl⟩

namespace Stream

/-- A session of the script that a stream is of is at the line that the stream gave last. -/
def Seated (stream : Stream C) (base session : Session) : Prop :=
  (stream.reporting.reached (stream.number - 1) base).Alongside session

/-- What reading does besides handing out directives: the script moves with it, and nothing is shown
but the unknown lines, with the name of the stream and their own numbers. -/
structure Advances (stream : Stream C) (session : Session) (next : Stream C) (final : Session) :
    Prop where
  reporting : next.reporting = stream.reporting
  number : stream.number ≤ next.number
  seated : ∀ base, stream.Seated base session → next.Seated base final
  shown : ∃ unknown : List (Nat × String),
    final.channel.history.toList = session.channel.history.toList ++ unknown.flatMap
      (fun (number, text) => stream.reporting.shown number (.reported text : Part C)) ∧
    ∀ line ∈ unknown, stream.number ≤ line.1 ∧ line.1 < next.number

namespace Advances

variable {stream next last : Stream C} {session middle final : Session}

theorem of_same (reporting : next.reporting = stream.reporting)
    (number : next.number = stream.number) (alongside : session.Alongside final)
    (history : final.channel.history = session.channel.history) :
    stream.Advances session next final where
  reporting := reporting
  number := Nat.le_of_eq number.symm
  seated base seated := by
    unfold Seated
    rw [reporting, number]
    exact seated.trans alongside
  shown := ⟨[], by simp [history], nofun⟩

theorem trans (first : stream.Advances session next middle)
    (second : next.Advances middle last final) : stream.Advances session last final where
  reporting := second.reporting.trans first.reporting
  number := Nat.le_trans first.number second.number
  seated base seated := second.seated base (first.seated base seated)
  shown := by
    obtain ⟨unknown, shown, before⟩ := first.shown
    obtain ⟨more, also, behind⟩ := second.shown
    refine ⟨unknown ++ more, ?_, fun line member => ?_⟩
    · rw [also, shown, first.reporting, List.flatMap_append, List.append_assoc]
    · have least := first.number
      have most := second.number
      rcases List.mem_append.mp member with member | member
      · have bounds := before line member
        omega
      · have bounds := behind line member
        omega

end Advances

theorem finish_advances (stream : Stream C) (session : Session) :
    stream.Advances session (stream.finish session).stream (stream.finish session).session := by
  unfold finish
  cases stream.pending with
  | none => exact .of_same rfl rfl (.refl session) rfl
  | some heredoc => exact .of_same rfl rfl ⟨rfl, rfl⟩ rfl

theorem seated_reached {stream : Stream C} {base session : Session}
    (seated : stream.Seated base session) :
    (stream.reporting.reached stream.number base).Alongside
      (stream.reporting.reached stream.number session) := by
  have same := seated.reached stream.reporting stream.number
  rwa [Reporting.reached_reached] at same

theorem takeLine_advances (registry : Registry C) (stream : Stream C) (text : String)
    (session : Session) :
    stream.Advances session (takeLine registry stream text session).stream
      (takeLine registry stream text session).session := by
  cases found : Assembly.roleOf registry stream.pending stream.number text with
  | error fault =>
      have taken : takeLine registry stream text session =
          ⟨.error fault, { stream with number := stream.number + 1, ended := true },
            stream.reporting.reached stream.number session⟩ := by
        unfold takeLine
        dsimp only
        rw [found]
        rfl
      rw [taken]
      exact ⟨rfl, Nat.le_succ _, fun base => seated_reached,
        [], by simp [Reporting.history_reached], nofun⟩
  | ok role =>
      rw [takeLine_role found]
      have history := role.met_history stream.reporting stream.number text session
      have along := role.met_alongside stream.reporting stream.number text session
      refine ⟨rfl, Nat.le_succ _, fun base seated => (seated_reached seated).trans along, ?_⟩
      cases role with
      | unknown => exact ⟨[(stream.number, text)], by simpa [LineRole.shown] using history, by simp⟩
      | ignored | whole | opens | body | closes =>
          exact ⟨[], by rw [history]; rfl, nofun⟩

theorem Advances.ofLine {stream shorter : Stream C} {session before : Session}
    {registry : Registry C} {text : String} {next : Stream C → Session → Pulled C}
    (fetched : stream.Advances session shorter before)
    (behind : ∀ (last : Stream C) (final : Session),
      last.Advances final (next last final).stream (next last final).session) :
    let pulled := match takeLine registry shorter text before with
      | ⟨.ok none, last, final⟩ => next last final
      | pulled => pulled
    stream.Advances session pulled.stream pulled.session := by
  have taken := takeLine_advances registry shorter text before
  generalize takeLine registry shorter text before = given at taken
  obtain ⟨result, last, final⟩ := given
  cases result with
  | error fault => exact fetched.trans taken
  | ok directive =>
      cases directive with
      | none => exact (fetched.trans taken).trans (behind last final)
      | some directive => exact fetched.trans taken

theorem ask_kept (session : Session) (request : PromptRequest) :
    session.Alongside (session.ask request).2 ∧
      (session.ask request).2.channel = session.channel := by
  unfold Session.ask
  cases session.answers <;> exact ⟨⟨rfl, rfl⟩, rfl⟩

theorem pullAsked_advances (registry : Registry C) (prompting : Prompting) (left : Nat)
    (stream : Stream C) (session : Session) :
    stream.Advances session (pullAsked registry prompting left stream session).stream
      (pullAsked registry prompting left stream session).session := by
  induction left generalizing stream session with
  | zero =>
      have dry : stream.Advances session { stream with prompting := none }
          (prompting.limitReached session) := .of_same rfl rfl ⟨rfl, rfl⟩ rfl
      exact dry.trans (finish_advances _ _)
  | succ left ih =>
      obtain ⟨along, channel⟩ := ask_kept session prompting.request
      unfold pullAsked
      generalize session.ask prompting.request = asked at along channel
      obtain ⟨answer, following⟩ := asked
      dsimp only at along channel
      cases answer with
      | none =>
          have dry : stream.Advances session { stream with prompting := none } following :=
            .of_same rfl rfl along (congrArg Channel.history channel)
          exact dry.trans (finish_advances _ _)
      | some text =>
          have fetched : stream.Advances session { stream with prompting := some (prompting, left) }
              following := .of_same rfl rfl along (congrArg Channel.history channel)
          exact fetched.ofLine fun last final => ih last final

theorem pullLines_advances (registry : Registry C) (lines : List String) (stream : Stream C)
    (session : Session) :
    stream.Advances session (pullLines registry lines stream session).stream
      (pullLines registry lines stream session).session := by
  induction lines generalizing stream session with
  | nil =>
      unfold pullLines
      split
      · exact finish_advances stream session
      · exact pullAsked_advances registry _ _ stream session
  | cons text rest ih =>
      have fetched : stream.Advances session { stream with atHand := rest } session :=
        .of_same rfl rfl (.refl session) rfl
      exact fetched.ofLine fun last final => ih last final

theorem pull_advances (registry : Registry C) (stream : Stream C) (session : Session) :
    stream.Advances session (stream.pull registry session).stream
      (stream.pull registry session).session := by
  unfold pull
  split
  · exact .of_same rfl rfl (.refl session) rfl
  · split
    · exact .of_same rfl rfl (.refl session) rfl
    · exact pullLines_advances registry _ stream session

end Stream

namespace Engine

variable {N α β : Type}

structure Trails (state last : State N) : Prop where
  reporting : last.stream.map (·.reporting) = state.stream.map (·.reporting)
  seated : ∀ stream next, state.stream = some stream → last.stream = some next →
    ∀ base, stream.Seated base state.session → next.Seated base last.session
  alone : state.stream = none → state.session.Alongside last.session

namespace Trails

theorem of_same {state last : State N} (stream : last.stream = state.stream)
    (alongside : state.session.Alongside last.session) : Trails state last where
  reporting := by rw [stream]
  seated before next current later base seated := by
    rw [stream, current] at later
    cases later
    exact seated.trans alongside
  alone _ := alongside

theorem trans {state middle last : State N} (first : Trails state middle)
    (second : Trails middle last) : Trails state last where
  reporting := second.reporting.trans first.reporting
  seated stream next current later base seated := by
    have same := first.reporting
    rw [current] at same
    obtain ⟨between, there, -⟩ := Option.map_eq_some_iff.mp same
    exact second.seated between next there later base
      (first.seated stream between current there base seated)
  alone none := by
    have same := first.reporting
    rw [none] at same
    exact (first.alone none).trans (second.alone (Option.map_eq_none_iff.mp same))

theorem of_advances {state : State N} {stream next : Stream (Handler N)} {final : Session}
    (current : state.stream = some stream) (advances : stream.Advances state.session next final) :
    Trails state { state with stream := some next, session := final } where
  reporting := by rw [current]; exact congrArg some advances.reporting
  seated before behind same later base seated := by
    rw [current] at same
    cases same
    cases later
    exact advances.seated base seated
  alone none := by rw [none] at current; cases current

theorem alongside {state last : State N} (trails : Trails state last)
    (apart : ∀ stream ∈ state.stream, stream.tracked = false) :
    state.session.Alongside last.session := by
  cases current : state.stream with
  | none => exact trails.alone current
  | some stream =>
      have untracked := apart stream current
      have same := trails.reporting
      rw [current] at same
      obtain ⟨next, later, reporting⟩ := Option.map_eq_some_iff.mp same
      have still : next.tracked = false := (congrArg Reporting.tracked reporting).trans untracked
      have here : stream.Seated state.session state.session := by
        simp only [Stream.Seated, Stream.reporting, Reporting.reached, untracked]
        exact .refl _
      have seated := trails.seated stream next current later state.session here
      simp only [Stream.Seated, Stream.reporting, Reporting.reached, still] at seated
      exact seated

end Trails

def Unmoved (action : Run N α) : Prop :=
  ∀ state : State N, state.session.Alongside (after action state).session

def Trailing (action : Run N α) : Prop :=
  ∀ state : State N, Trails state (after action state)

namespace Unmoved

theorem bind {action : Run N α} {next : α → Run N β} (first : Unmoved action)
    (second : ∀ value, Unmoved (next value)) : Unmoved (action >>= next) :=
  fun state => after_bind (state.session.Alongside ·.session) (first state)
    fun value last along => along.trans (second value last)

theorem attempt {action : Run N α} (inside : Unmoved action) : Unmoved (attempt action) := by
  intro state
  rw [after_attempt]
  exact inside state

theorem lift (result : Except Fault α) : Unmoved (lift result : Run N α) := by
  cases result <;> exact fun _ => ⟨rfl, rfl⟩

theorem onWorld (action : Expr.Outside → Expr.World → Except ScriptError α × Expr.World) :
    Unmoved (onWorld action : Run N (Except ScriptError α)) :=
  fun _ => ⟨rfl, rfl⟩

theorem liftScript (result : Except ScriptError α) : Unmoved (liftScript result : Run N α) := by
  cases result <;> exact fun _ => ⟨rfl, rfl⟩

theorem define (name : String) (value : Expr.Value) : Unmoved (define name value : Run N Unit) := by
  intro state
  simp only [after, Engine.define, EStateM.run_bind, EStateM.run_get]
  cases state.world.define name value <;> exact ⟨rfl, rfl⟩

theorem addScriptName (name : String) : Unmoved (addScriptName name : Run N Unit) := by
  intro state
  simp only [after, Engine.addScriptName, EStateM.run_modify]
  split <;> exact ⟨rfl, rfl⟩

theorem recordScript (path : Path) : Unmoved (recordScript path : Run N Unit) :=
  bind (addScriptName _) fun _ => fun _ => ⟨rfl, rfl⟩

theorem addStylesheet (path : Path) : Unmoved (addStylesheet path : Run N Unit) := by
  refine bind ?_ fun _ => fun _ => ⟨rfl, rfl⟩
  intro state
  simp only [after, EStateM.run_modify]
  split <;> exact ⟨rfl, rfl⟩

theorem runShell (args : String) (bang : Bool) : Unmoved (runShell args bang : Run N Unit) := by
  refine bind (fun _ => ⟨rfl, rfl⟩) fun state => ?_
  refine bind (lift _) fun command => ?_
  refine bind (fun _ => ⟨rfl, rfl⟩) fun _ => ?_
  refine bind (fun _ => ⟨rfl, rfl⟩) fun _ => ?_
  refine bind (fun _ => ⟨rfl, rfl⟩) fun _ => ?_
  intro state
  let captured := Shell.capture state.settings.shell command state.environment state.files
  exact bind (lift captured.1) (fun _ => fun _ => ⟨rfl, rfl⟩) { state with files := captured.2 }

end Unmoved

theorem unmoved_catching : Catching (N := N) Unmoved where
  pure _ := fun _ => ⟨rfl, rfl⟩
  raise _ := fun _ => ⟨rfl, rfl⟩
  bind := Unmoved.bind
  attempt := Unmoved.attempt
  note _ _ _ := fun _ => ⟨rfl, rfl⟩
  say kind _ := fun _ => by cases kind <;> exact ⟨rfl, rfl⟩
  locate _ _ := fun _ => ⟨rfl, rfl⟩

theorem unmoved_robust : Robust (N := N) Unmoved where
  toFallible := unmoved_catching.fallible
  fails _ _ := fun _ => ⟨rfl, rfl⟩
  reading _ each := Unmoved.bind (fun _ => ⟨rfl, rfl⟩) each
  whereabouts _ := fun _ => ⟨rfl, rfl⟩
  record _ := fun _ => ⟨rfl, rfl⟩
  evaluate _ := Unmoved.bind (Unmoved.onWorld _) fun _ => Unmoved.liftScript _
  execute _ := Unmoved.bind (Unmoved.onWorld _) fun _ => Unmoved.liftScript _
  define := Unmoved.define
  runShell := Unmoved.runShell
  addStylesheet := Unmoved.addStylesheet

theorem asScript_unmoved (name : String) (action : Run N Unit) :
    Unmoved (asScript name action) := by
  have restored : Unmoved (withScript name action) := by
    intro state
    unfold after
    rw [run_withScript]
    cases action.run _ <;> exact ⟨rfl, rfl⟩
  exact unmoved_robust.shelteringScript name restored

theorem Trailing.of_aside {action : Run N α} (aside : Aside action) (unmoved : Unmoved action) :
    Trailing action :=
  fun state => .of_same (aside.after_stream state) (unmoved state)

namespace Trailing

theorem bind {action : Run N α} {next : α → Run N β} (first : Trailing action)
    (second : ∀ value, Trailing (next value)) : Trailing (action >>= next) :=
  fun state => after_bind (Trails state) (first state)
    fun value last trails => trails.trans (second value last)

theorem attempt {action : Run N α} (inside : Trailing action) : Trailing (attempt action) := by
  intro state
  rw [after_attempt]
  exact inside state

theorem pull : Trailing (pull : Run N (Option (Directive (Handler N)))) := by
  intro state
  cases current : state.stream with
  | none =>
      rw [after_error (run_pull_none current)]
      exact .of_same rfl (.refl _)
  | some stream =>
      rw [after_pull current]
      exact .of_advances current (stream.pull_advances state.registry state.session)

theorem closeStream : Trailing (closeStream : Run N Unit) := by
  intro state
  cases current : state.stream with
  | none =>
      rw [after_error (run_closeStream_none current)]
      exact .of_same rfl (.refl _)
  | some stream =>
      rw [after_ok (run_closeStream current)]
      exact .of_advances current (.of_same rfl rfl (.refl _) rfl)

end Trailing

theorem withPrompted_unmoved (prompting : Prompting) (initial : List String) {action : Run N α}
    (inside : Trailing action) : Unmoved (withStream (.prompted prompting initial) action) := by
  intro state
  have along := (inside { state with stream := some (.prompted prompting initial) }).alongside
    (by rintro _ ⟨⟩; rfl)
  unfold after at along ⊢
  rw [run_withStream]
  generalize action.run _ = result at along
  cases result <;> exact along

theorem trailing_catching : Catching (N := N) Trailing where
  pure value := .of_aside (aside_catching.pure value) (unmoved_catching.pure value)
  raise fault := .of_aside (aside_catching.raise fault) (unmoved_catching.raise fault)
  bind := Trailing.bind
  attempt := Trailing.attempt
  note level text uncompleted :=
    .of_aside (aside_catching.note level text uncompleted)
      (unmoved_catching.note level text uncompleted)
  say kind text := .of_aside (aside_catching.say kind text) (unmoved_catching.say kind text)
  locate path line :=
    .of_aside (aside_catching.locate path line) (unmoved_catching.locate path line)

theorem trailing_onStream : OnStream (N := N) Trailing where
  toFallible := trailing_catching.fallible
  fails fault mild := .of_aside (aside_pervasive.fails fault mild) (unmoved_robust.fails fault mild)
  reading _ each := Trailing.bind (fun _ => .of_same rfl (.refl _)) each
  whereabouts context :=
    .of_aside (aside_pervasive.whereabouts context) (unmoved_robust.whereabouts context)
  record entry := .of_aside (aside_pervasive.record entry) (unmoved_robust.record entry)
  evaluate source := .of_aside (aside_pervasive.evaluate source) (unmoved_robust.evaluate source)
  execute source := .of_aside (aside_pervasive.execute source) (unmoved_robust.execute source)
  define name value := .of_aside (aside_pervasive.define name value) (Unmoved.define name value)
  runShell args bang := .of_aside (aside_pervasive.runShell args bang) (Unmoved.runShell args bang)
  addStylesheet path :=
    .of_aside (aside_pervasive.addStylesheet path) (Unmoved.addStylesheet path)
  exhausted := fun _ => .of_same rfl (.refl _)
  watching _ each := Trailing.bind (fun _ => .of_same rfl (.refl _)) each
  pull := Trailing.pull
  pulling := pulling_of_pull Trailing.bind Trailing.pull
  closeStream := Trailing.closeStream
  newScope := fun _ => .of_same rfl (.refl _)
  condition _ _ := .of_aside (Aside.onWorld _) (Unmoved.onWorld _)
  prompted prompting initial _ inside :=
    .of_aside (Aside.withStream _ _) (withPrompted_unmoved prompting initial inside)
  typed prompting initial _ inside :=
    .of_aside (Aside.withStream _ _) (withPrompted_unmoved prompting initial
      (trailing_catching.closingBehind Trailing.closeStream inside))

theorem unmoved_sourcing {dispatch : Dispatch N}
    (trailing : ∀ context directive, Trailing (dispatch context directive)) :
    Sourcing Unmoved dispatch where
  text _ _ := asScript_unmoved _ _
  file _ := asScript_unmoved _ _
  record := Unmoved.recordScript
  line := unmoved_robust.executeLine fun prompting initial =>
    withPrompted_unmoved prompting initial (trailing_catching.closingBehind Trailing.closeStream
      (trailing_onStream.runFirst fun context directive _ => trailing context directive))

theorem trailing_sourcing {dispatch : Dispatch N}
    (trailing : ∀ context directive, Trailing (dispatch context directive)) :
    Sourcing Trailing dispatch where
  text text name := .of_aside ((aside_sourcing dispatch).text text name) (asScript_unmoved _ _)
  file path := .of_aside ((aside_sourcing dispatch).file path) (asScript_unmoved _ _)
  record path := .of_aside (Aside.recordScript path) (Unmoved.recordScript path)
  line := trailing_onStream.executeLine trailing

end Engine

end ExScript
