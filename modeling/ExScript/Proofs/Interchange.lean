import ExScript.Proofs.Aside
import ExScript.Proofs.Assembling
import ExScript.Proofs.Throughout

/-!
Streams that cannot be told apart. If pulls give the same off two streams and leave two such streams
behind, then it makes no difference which of them commands are executed on.
-/

namespace ExScript

variable {C : Type}

structure Stream.Pulled.Matches (alike : Stream C → Stream C → Prop) (pulled other : Pulled C) :
    Prop where
  result : other.result = pulled.result
  session : other.session = pulled.session
  stream : alike pulled.stream other.stream

/-- Nothing that can be done to such streams tells one from the other, with these commands
registered. -/
structure Stream.Indistinct (registry : Registry C) (alike : Stream C → Stream C → Prop) :
    Prop where
  tracked : ∀ {stream other}, alike stream other → other.tracked = stream.tracked
  remaining : ∀ {stream other}, alike stream other → other.remaining = stream.remaining
  close : ∀ {stream other}, alike stream other → alike stream.close other.close
  pull : ∀ {stream other}, alike stream other → ∀ session,
    (stream.pull registry session).Matches alike (other.pull registry session)

theorem Stream.Indistinct.assembles {registry : Registry C}
    {alike : Stream C → Stream C → Prop} (indistinct : Indistinct registry alike)
    {stream other : Stream C} (same : alike stream other) {directives : List (Directive C)}
    {fault : Option Fault} (assembles : stream.Assembles registry directives fault) :
    other.Assembles registry directives fault := by
  induction assembles generalizing other with
  | @ended stream session pulled =>
      exact .ended ((indistinct.pull same session).result.trans pulled)
  | @broken stream session fault pulled =>
      exact .broken ((indistinct.pull same session).result.trans pulled)
  | @more stream session directive rest fault pulled behind ih =>
      exact .more ((indistinct.pull same session).result.trans pulled)
        (ih (indistinct.pull same session).stream)

namespace Engine

variable {N α β : Type} {registry : Registry (Handler N)}
  {alike : Stream (Handler N) → Stream (Handler N) → Prop}

structure Exchanged (registry : Registry (Handler N))
    (alike : Stream (Handler N) → Stream (Handler N) → Prop) (state other : State N) : Prop where
  registered : state.registry = registry
  streams : ∃ stream twin, state.stream = some stream ∧ alike stream twin ∧
    other = state.on (some twin)

inductive EndsExchanged (registry : Registry (Handler N))
    (alike : Stream (Handler N) → Stream (Handler N) → Prop) : Ended N α → Ended N α → Prop where
  | ok {value last other} (exchanged : Exchanged registry alike last other) :
      EndsExchanged registry alike (.ok value last) (.ok value other)
  | error {stop last other} (exchanged : Exchanged registry alike last other) :
      EndsExchanged registry alike (.error stop last) (.error stop other)

structure Interchanges (registry : Registry (Handler N))
    (alike : Stream (Handler N) → Stream (Handler N) → Prop) (action : Run N α) : Prop where
  keeps : KeepsRegistry action
  ends : ∀ state other, Exchanged registry alike state other →
    EndsExchanged registry alike (action.run state) (action.run other)

namespace Interchanges

theorem of_aside (indistinct : Stream.Indistinct registry alike) {action : Run N α}
    (aside : Aside action) (keeps : KeepsRegistry action) :
    Interchanges registry alike action := by
  refine ⟨keeps, ?_⟩
  rintro state other ⟨registered, stream, twin, current, same, rfl⟩
  -- All that an action can notice without a pull is whether the stream is that of the script.
  have kind : SameKind state.stream (some twin) := by
    unfold SameKind
    rw [current]
    exact congrArg some (indistinct.tracked same).symm
  have left := aside.after_stream state
  have kept := keeps state
  rw [aside state _ kind]
  unfold after at left kept
  cases ended : action.run state with
  | ok value last =>
      rw [ended] at left kept
      exact .ok ⟨kept.trans registered, stream, twin, left.trans current, same, rfl⟩
  | error stop last =>
      rw [ended] at left kept
      exact .error ⟨kept.trans registered, stream, twin, left.trans current, same, rfl⟩

theorem bind {action : Run N α} {next : α → Run N β} (first : Interchanges registry alike action)
    (second : ∀ value, Interchanges registry alike (next value)) :
    Interchanges registry alike (action >>= next) := by
  refine ⟨first.keeps.bind fun value => (second value).keeps, fun state other exchanged => ?_⟩
  have ends := first.ends state other exchanged
  rw [EStateM.run_bind, EStateM.run_bind]
  generalize action.run state = result at ends
  generalize action.run other = also at ends
  cases ends with
  | ok exchanged => exact (second _).ends _ _ exchanged
  | error exchanged => exact .error exchanged

theorem watching (indistinct : Stream.Indistinct registry alike) {next : State N → Run N α}
    (blind : ∀ state stream, SameExtent state.stream stream → next (state.on stream) = next state)
    (each : ∀ state, Interchanges registry alike (next state)) :
    Interchanges registry alike (get >>= next) := by
  refine ⟨KeepsRegistry.bind (fun _ => rfl) fun state => (each state).keeps, ?_⟩
  rintro state other ⟨registered, stream, twin, current, same, rfl⟩
  have extent : SameExtent state.stream (some twin) := by
    unfold SameExtent
    rw [current]
    exact congrArg some (indistinct.remaining same).symm
  rw [run_get_bind, run_get_bind]
  rw [blind state _ extent]
  exact (each state).ends _ _ ⟨registered, stream, twin, current, same, rfl⟩

theorem attempt {action : Run N α} (inside : Interchanges registry alike action) :
    Interchanges registry alike (attempt action) := by
  refine ⟨inside.keeps.attempt, fun state other exchanged => ?_⟩
  have ends := inside.ends state other exchanged
  rw [run_attempt, run_attempt]
  generalize action.run state = result at ends
  generalize action.run other = also at ends
  cases ends with
  | ok exchanged => exact .ok exchanged
  | @error stop last other exchanged =>
      cases stop with
      | fault fault => exact .ok exchanged
      | exhausted => exact .error exchanged

theorem withScript (path : String) {action : Run N α}
    (inside : Interchanges registry alike action) :
    Interchanges registry alike (withScript path action) := by
  refine ⟨KeepsRegistry.entering (fun _ => rfl) (fun _ _ => rfl) inside.keeps, ?_⟩
  rintro state other ⟨registered, stream, twin, current, same, rfl⟩
  have ends := inside.ends { state with session := state.session.enter path } _
    ⟨registered, stream, twin, current, same, rfl⟩
  rw [run_withScript, run_withScript]
  unfold State.on at ends ⊢
  dsimp only at ends ⊢
  generalize action.run _ = result at ends
  generalize action.run _ = also at ends
  cases ends with
  | ok exchanged =>
      obtain ⟨kept, next, following, left, still, rfl⟩ := exchanged
      exact .ok ⟨kept, next, following, left, still, rfl⟩
  | error exchanged =>
      obtain ⟨kept, next, following, left, still, rfl⟩ := exchanged
      exact .error ⟨kept, next, following, left, still, rfl⟩

theorem pull (indistinct : Stream.Indistinct registry alike) :
    Interchanges registry alike (pull : Run N (Option (Directive (Handler N)))) := by
  refine ⟨KeepsRegistry.pull, ?_⟩
  rintro state other ⟨rfl, stream, twin, current, same, rfl⟩
  have pulls := indistinct.pull same state.session
  have present : (state.on (some twin)).stream = some twin := rfl
  rw [run_pull current, run_pull present]
  unfold State.on
  dsimp only
  generalize stream.pull state.registry state.session = pulled at pulls
  generalize twin.pull state.registry state.session = also at pulls
  obtain ⟨_, next, _⟩ := pulled
  obtain ⟨given, following, session⟩ := also
  obtain ⟨rfl, rfl, still⟩ := pulls
  dsimp only at still ⊢
  cases given with
  | ok given => exact .ok ⟨rfl, next, following, rfl, still, rfl⟩
  | error fault => exact .error ⟨rfl, next, following, rfl, still, rfl⟩

theorem closeStream (indistinct : Stream.Indistinct registry alike) :
    Interchanges registry alike (closeStream : Run N Unit) := by
  refine ⟨KeepsRegistry.closeStream, ?_⟩
  rintro state other ⟨registered, stream, twin, current, same, rfl⟩
  have present : (state.on (some twin)).stream = some twin := rfl
  rw [run_closeStream current, run_closeStream present]
  exact .ok ⟨registered, stream.close, twin.close, rfl, indistinct.close same, rfl⟩

end Interchanges

theorem interchanges_throughout (indistinct : Stream.Indistinct registry alike) :
    Throughout (N := N) (Interchanges registry alike) := by
  have apart {α : Type} {action : Run N α} (aside : Aside action) (keeps : KeepsRegistry action) :
      Interchanges registry alike action :=
    .of_aside indistinct aside keeps
  have catching : Catching (N := N) (Interchanges registry alike) := {
    pure := fun value => apart (aside_catching.pure value) (keepsRegistry_catching.pure value)
    raise := fun fault => apart (aside_catching.raise fault) (keepsRegistry_catching.raise fault)
    bind := Interchanges.bind
    attempt := Interchanges.attempt
    note := fun level text uncompleted =>
      apart (aside_catching.note level text uncompleted)
        (keepsRegistry_catching.note level text uncompleted)
    say := fun kind text =>
      apart (aside_catching.say kind text) (keepsRegistry_catching.say kind text)
    locate := fun path line =>
      apart (aside_catching.locate path line) (keepsRegistry_catching.locate path line) }
  exact {
    toFallible := catching.fallible
    fails := fun fault mild =>
      apart (aside_pervasive.fails fault mild) (keepsRegistry_throughout.fails fault mild)
    reading := fun blind each =>
      .watching indistinct (fun state stream _ => blind state stream) each
    whereabouts := fun context =>
      apart (aside_pervasive.whereabouts context) (keepsRegistry_throughout.whereabouts context)
    record := fun entry =>
      apart (aside_pervasive.record entry) (keepsRegistry_throughout.record entry)
    evaluate := fun source =>
      apart (aside_pervasive.evaluate source) (keepsRegistry_throughout.evaluate source)
    execute := fun source =>
      apart (aside_pervasive.execute source) (keepsRegistry_throughout.execute source)
    define := fun name value =>
      apart (aside_pervasive.define name value) (keepsRegistry_throughout.define name value)
    runShell := fun args bang =>
      apart (aside_pervasive.runShell args bang) (keepsRegistry_throughout.runShell args bang)
    addStylesheet := fun path =>
      apart (aside_pervasive.addStylesheet path) (keepsRegistry_throughout.addStylesheet path)
    withScript := Interchanges.withScript
    exhausted := apart (fun _ _ _ => rfl) keepsRegistry_throughout.exhausted
    watching := Interchanges.watching indistinct
    pull := .pull indistinct
    closeStream := .closeStream indistinct
    newScope := apart Aside.newScope keepsRegistry_throughout.newScope
    condition := fun scope source =>
      apart (Aside.onWorld _) (keepsRegistry_throughout.condition scope source)
    typed := fun prompting initial _ inside =>
      apart (Aside.withStream _ _) (keepsRegistry_throughout.typed prompting initial inside.keeps)
    withStream := fun stream _ inside =>
      apart (Aside.withStream stream _) (keepsRegistry_throughout.withStream stream inside.keeps)
    withoutStream := fun inside =>
      apart (Aside.withoutStream _) (keepsRegistry_throughout.withoutStream inside.keeps) }

theorem runSource_exchanged (indistinct : Stream.Indistinct registry alike)
    {source twin : LineSource} (same : alike (.ofSource source true) (.ofSource twin true))
    (depth : Nat) (path : String) {state : State N} (registered : state.registry = registry) :
    (runSource (dispatchTo depth) path twin).run state =
      (runSource (dispatchTo depth) path source).run state := by
  have closed := interchanges_throughout (N := N) indistinct
  have loop : Interchanges registry alike
      (turns >>= runStream (dispatchTo depth) { path := some path }) :=
    closed.bind closed.turns fun budget => closed.runStream
      (closed.dispatchTo
        (fun path => .of_aside indistinct (Aside.recordScript path) (.recordScript path)) depth)
      _ budget
  have ends := loop.ends { state with stream := some (.ofSource source true) } _
    ⟨registered, _, _, rfl, same, rfl⟩
  unfold runSource
  dsimp only
  rw [EStateM.run_bind, EStateM.run_bind, run_withStream, run_withStream]
  unfold State.on at ends
  dsimp only at ends
  generalize EStateM.run _ { state with stream := some (.ofSource source true) } = result at ends
  generalize EStateM.run _ { state with stream := some (.ofSource twin true) } = also at ends
  cases ends with
  | ok exchanged | error exchanged =>
      obtain ⟨-, _, _, -, -, rfl⟩ := exchanged
      rfl

end Engine

end ExScript
