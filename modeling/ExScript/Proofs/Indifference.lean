import ExScript.Proofs.Blocks
import ExScript.Proofs.Hereditary

/-!
Actions to which it makes no difference what is being read, who is asked and what was said. From
states that agree in everything else they end in the same way, and leave such states.
-/

namespace ExScript.Engine

variable {N α β : Type}

def Counterpart (state other : State N) : Prop :=
  other = { state with stream := other.stream, session := other.session }

theorem Counterpart.world {state other : State N} (counterpart : Counterpart state other) :
    other.world = state.world := by
  rw [counterpart]

theorem Counterpart.registry {state other : State N} (counterpart : Counterpart state other) :
    other.registry = state.registry := by
  rw [counterpart]

theorem Counterpart.outside {state other : State N} (counterpart : Counterpart state other) :
    other.outside = state.outside := by
  rw [counterpart]
  rfl

theorem Counterpart.moved {state other : State N} (counterpart : Counterpart state other)
    (first second : Option (Stream (Handler N))) (left right : Session) :
    Counterpart { state with stream := first, session := left }
      { other with stream := second, session := right } := by
  unfold Counterpart
  rw [counterpart]

theorem Counterpart.change {state other : State N} (counterpart : Counterpart state other)
    (change : State N → State N)
    (apart : ∀ state stream session, change { state with stream, session } =
      { change state with stream, session }) : Counterpart (change state) (change other) := by
  unfold Counterpart
  rw [counterpart, apart]

theorem Counterpart.inWorld {state other : State N} (counterpart : Counterpart state other)
    (world : Expr.World) : Counterpart { state with world } { other with world } :=
  counterpart.change (fun state => { state with world }) fun _ _ _ => rfl

/-- Neither the stream nor the person at the prompt was turned to. -/
structure Unprompted (before last : State N) : Prop where
  stream : last.stream = before.stream
  answers : last.session.answers = before.session.answers
  asked : last.session.asked = before.session.asked

theorem Unprompted.refl (state : State N) : Unprompted state state :=
  ⟨rfl, rfl, rfl⟩

theorem Unprompted.trans {before middle last : State N} (first : Unprompted before middle)
    (second : Unprompted middle last) : Unprompted before last :=
  ⟨second.stream.trans first.stream, second.answers.trans first.answers,
    second.asked.trans first.asked⟩

inductive EndsAlike (state other : State N) : Ended N α → Ended N α → Prop where
  | ok {value last final} (counterpart : Counterpart last final) (first : Unprompted state last)
      (second : Unprompted other final) : EndsAlike state other (.ok value last) (.ok value final)
  | error {stop last final} (counterpart : Counterpart last final) (first : Unprompted state last)
      (second : Unprompted other final) :
      EndsAlike state other (.error stop last) (.error stop final)

/-- Actions to which it makes no difference what is read, who is asked and what was said. -/
def Indifferent (first second : Run N α) : Prop :=
  ∀ state other, Counterpart state other →
    EndsAlike state other (first.run state) (second.run other)

theorem EndsAlike.earlier {state other middle between : State N} {first second : Ended N α}
    (alike : EndsAlike middle between first second) (left : Unprompted state middle)
    (right : Unprompted other between) : EndsAlike state other first second := by
  cases alike with
  | ok counterpart first second => exact .ok counterpart (left.trans first) (right.trans second)
  | error counterpart first second =>
      exact .error counterpart (left.trans first) (right.trans second)

namespace Indifferent

theorem pure (value : α) : Indifferent (pure value : Run N α) (pure value) :=
  fun state other counterpart => .ok counterpart (.refl state) (.refl other)

theorem raise (fault : Fault) : Indifferent (raise fault : Run N α) (raise fault) :=
  fun state other counterpart => .error counterpart (.refl state) (.refl other)

theorem bind {first second : Run N α} {next following : α → Run N β}
    (indifferent : Indifferent first second)
    (each : ∀ value, Indifferent (next value) (following value)) :
    Indifferent (first >>= next) (second >>= following) := by
  intro state other counterpart
  have alike := indifferent state other counterpart
  rw [EStateM.run_bind, EStateM.run_bind]
  generalize first.run state = ended at alike
  generalize second.run other = finished at alike
  cases alike with
  | @ok value last final counterpart first second =>
      exact (each value last final counterpart).earlier first second
  | error counterpart first second => exact .error counterpart first second

theorem reading {next : State N → Run N α}
    (same : ∀ state stream session, next { state with stream, session } = next state)
    (each : ∀ state, Indifferent (next state) (next state)) :
    Indifferent (get >>= next) (get >>= next) := by
  intro state other counterpart
  have again : next other = next state := by
    rw [counterpart]
    exact same state other.stream other.session
  rw [run_get_bind, run_get_bind]
  rw [again]
  exact each state state other counterpart

theorem onSession {change : Session → Session}
    (answers : ∀ session, (change session).answers = session.answers)
    (asked : ∀ session, (change session).asked = session.asked) :
    Indifferent (onSession change : Run N Unit) (onSession change) := by
  intro state other counterpart
  rw [run_onSession, run_onSession]
  exact .ok (counterpart.moved _ _ _ _) ⟨rfl, answers _, asked _⟩ ⟨rfl, answers _, asked _⟩

theorem note (level : Level) (text : String) :
    Indifferent (note level text : Run N Unit) (note level text) :=
  onSession (fun _ => rfl) fun _ => rfl

theorem say (kind : MessageKind) (text : String) :
    Indifferent (say kind text : Run N Unit) (say kind text) := by
  cases kind <;> exact onSession (fun _ => rfl) fun _ => rfl

theorem onWorld (action : Expr.Outside → Expr.World → Except ScriptError α × Expr.World) :
    Indifferent (onWorld action : Run N (Except ScriptError α)) (onWorld action) := by
  intro state other counterpart
  have ran (state : State N) : (Engine.onWorld action).run state =
      .ok (action state.outside state.world).1 { state with
        world := { (action state.outside state.world).2 with printed := "" }
        session := { state.session with
          channel := state.session.channel.write
            (action state.outside state.world).2.printed } } := rfl
  rw [ran, ran, counterpart.world, counterpart.outside]
  let world : Expr.World := { (action state.outside state.world).2 with printed := "" }
  exact .ok ((counterpart.inWorld world).moved _ _ _ _) ⟨rfl, rfl, rfl⟩ ⟨rfl, rfl, rfl⟩

theorem holds (scope : Expr.Scope) (condition : String) (line : Option Int) :
    Indifferent (holds scope condition line : Run N Bool) (holds scope condition line) := by
  refine bind (onWorld _) fun result => ?_
  cases result with
  | ok value => exact reading (fun _ _ _ => rfl) fun _ => pure _
  | error error => exact raise _

theorem newScope : Indifferent (newScope : Run N Expr.Scope) newScope := by
  intro state other counterpart
  have ran (state : State N) : Engine.newScope.run state =
      .ok state.world.newScope.1 { state with world := state.world.newScope.2 } := rfl
  rw [ran, ran, counterpart.world]
  exact .ok (counterpart.inWorld _) ⟨rfl, rfl, rfl⟩ ⟨rfl, rfl, rfl⟩

theorem report (path another : Option String) (directive : Directive (Handler N))
    (fault : Fault) :
    Indifferent (report path directive fault) (report another directive fault) := by
  have reported (path : Option String) (state : State N) : ∃ session,
      (Engine.report path directive fault).run state = .ok ⟨⟩ { state with session } ∧
        session.answers = state.session.answers ∧ session.asked = state.session.asked := by
    cases path <;> exact ⟨_, rfl, rfl, rfl⟩
  intro state other counterpart
  obtain ⟨left, ran, answers, asked⟩ := reported path state
  obtain ⟨right, runs, answered, prompted⟩ := reported another other
  rw [ran, runs]
  exact .ok (counterpart.moved _ _ _ _) ⟨rfl, answers, asked⟩ ⟨rfl, answered, prompted⟩

theorem attempt {first second : Run N α} (indifferent : Indifferent first second) :
    Indifferent (attempt first) (attempt second) := by
  intro state other counterpart
  have alike := indifferent state other counterpart
  rw [run_attempt, run_attempt]
  generalize first.run state = ended at alike
  generalize second.run other = finished at alike
  cases alike with
  | ok counterpart first second => exact .ok counterpart first second
  | @error stop last final counterpart first second =>
      cases stop with
      | exhausted => exact .error counterpart first second
      | fault fault => exact .ok counterpart first second

theorem logged (name : String) (call : Call) {first second : Run N Outcome}
    (indifferent : Indifferent first second) :
    Indifferent (logged name call first) (logged name call second) := by
  refine (note _ _).bind fun _ => indifferent.attempt.bind fun result => ?_
  cases result with
  | ok outcome => exact (note _ _).bind fun _ => pure _
  | error fault => exact (note _ _).bind fun _ => (note _ _).bind fun _ => raise _

section Commands

theorem evaluate (source : String) :
    Indifferent (evaluate source : Run N Expr.Value) (evaluate source) := by
  refine (onWorld _).bind fun result => ?_
  cases result with
  | ok value => exact pure _
  | error error => exact raise _

theorem execute (source : String) :
    Indifferent (execute source : Run N Expr.Value) (execute source) := by
  refine (onWorld _).bind fun result => ?_
  cases result with
  | ok value => exact pure _
  | error error => exact raise _

theorem define (name : String) (value : Expr.Value) :
    Indifferent (define name value : Run N Unit) (define name value) := by
  intro state other counterpart
  unfold Engine.define
  rw [run_get_bind, run_get_bind]
  rw [counterpart.world]
  cases state.world.define name value with
  | ok world => exact .ok (counterpart.inWorld world) ⟨rfl, rfl, rfl⟩ ⟨rfl, rfl, rfl⟩
  | error error => exact raise _ state other counterpart

theorem runShell (args : String) (bang : Bool) :
    Indifferent (runShell args bang : Run N Unit) (runShell args bang) := by
  have lifts (result : Except Fault String) :
      Indifferent (lift result : Run N String) (lift result) := by
    cases result with
    | ok text => exact pure _
    | error fault => exact raise _
  have remembers (command : String) : Indifferent
      (modify fun state => { state with lastCommand := command } : Run N PUnit)
      (modify fun state => { state with lastCommand := command }) :=
    fun state other counterpart =>
      .ok (counterpart.change (fun state => { state with lastCommand := command }) fun _ _ _ => rfl)
        ⟨rfl, rfl, rfl⟩ ⟨rfl, rfl, rfl⟩
  have leaves (files : FileTree) {state other : State N} (counterpart : Counterpart state other) :
      Counterpart { state with files } { other with files } :=
    counterpart.change (fun state => { state with files }) fun _ _ _ => rfl
  refine reading (fun _ _ _ => rfl) fun state => (lifts _).bind fun command => ?_
  refine (remembers command).bind fun _ => (note _ _).bind fun _ => (say _ _).bind fun _ => ?_
  intro state other counterpart
  have same : Shell.capture other.settings.shell command other.environment other.files =
      Shell.capture state.settings.shell command state.environment state.files := by
    rw [counterpart]
    rfl
  rw [run_get_bind, run_get_bind]
  dsimp only
  rw [same]
  obtain ⟨output, files⟩ := Shell.capture state.settings.shell command state.environment state.files
  have shows := (lifts output).bind fun text => say .echo text
  exact (shows _ _ (leaves files counterpart)).earlier ⟨rfl, rfl, rfl⟩ ⟨rfl, rfl, rfl⟩

theorem plain : Plain (N := N) fun action => Indifferent action action where
  pure := pure
  fails fault _ := raise fault
  bind := bind
  reading := reading
  say := say
  evaluate := evaluate
  execute := execute
  define := define
  runShell := runShell

theorem runBuiltin (dispatch : Dispatch N) (context another : Context) (call : Call)
    {builtin : Builtin} (alone : builtin.runsLines = false) :
    Indifferent (runBuiltin dispatch context call builtin)
      (runBuiltin dispatch another call builtin) := by
  cases builtin with
  | ifBlock | source | runtime => cases alone
  | elseifArm | elseArm | endif => exact raise _
  | finish | scriptNames | echo | letVariable | statements | runShell =>
      exact plain.runBuiltin dispatch context call alone rfl

end Commands

end Indifferent

theorem Unprompted.noted (state : State N) (level : Level) (text : String) :
    Unprompted state (state.noted level text) :=
  ⟨rfl, rfl, rfl⟩

theorem Counterpart.noted {state other : State N} (counterpart : Counterpart state other)
    (level : Level) (text : String) :
    Counterpart (state.noted level text) (other.noted level text) :=
  counterpart.moved _ _ _ _

end ExScript.Engine
