import ExScript.Proofs.Aside

/-!
Runs side by side. Nothing that an action of an engine does depends on what was shown or logged
before, so two runs that differ in nothing else stay so, whatever is shown on the way.
-/

namespace ExScript

/-- A comparison of channels that goes on when the same is written to both. -/
structure Channel.Lasting (compares : Channel → Channel → Prop) : Prop where
  write : ∀ {first second}, compares first second → ∀ text,
    compares (first.write text) (second.write text)
  emit : ∀ {first second}, compares first second → ∀ message,
    compares (first.emit message) (second.emit message)

variable {C : Type} {compares : Channel → Channel → Prop}

namespace Session

def place (session : Session) : Option String :=
  session.sourcing.map (·.path)

def heard (session : Session) (channel : Channel) (log : Array LogRow) : Session :=
  { session with channel, log }

inductive Twin (compares : Channel → Channel → Prop) (place : Option String) (session : Session) :
    Session → Prop where
  | heard {channel : Channel} {log : Array LogRow} (here : session.place = place)
      (compared : compares session.channel channel) :
      Twin compares place session (session.heard channel log)

namespace Twin

variable {place : Option String} {first second : Session}

theorem note (twin : Twin compares place first second) (level : Level) (text : String) :
    Twin compares place (first.note level text) (second.note level text) := by
  cases twin with
  | heard here compared => exact .heard here compared

theorem atLine (twin : Twin compares place first second) (line : Nat) :
    Twin compares place (first.atLine line) (second.atLine line) := by
  cases twin with
  | heard here compared =>
      refine .heard ?_ compared
      rw [← here]
      unfold Session.place Session.atLine
      rw [Option.map_map]
      rfl

theorem enter (twin : Twin compares place first second) (path : String) :
    Twin compares (some path) (first.enter path) (second.enter path) := by
  cases twin with
  | heard here compared => exact .heard rfl compared

theorem resume {within : Option String} {before also : Session}
    (twin : Twin compares within first second) (earlier : Twin compares place before also) :
    Twin compares place (first.resume before) (second.resume also) := by
  cases twin with
  | heard _ compared =>
      cases earlier with
      | heard here _ => exact .heard here compared

theorem ask (twin : Twin compares place first second) (request : PromptRequest) :
    (first.ask request).1 = (second.ask request).1 ∧
      Twin compares place (first.ask request).2 (second.ask request).2 := by
  cases twin with
  | @heard channel log here compared =>
      have same : (first.heard channel log).answers = first.answers := rfl
      unfold Session.ask
      rw [same]
      cases first.answers <;> exact ⟨rfl, .heard here compared⟩

section Lasting

variable (lasting : Channel.Lasting compares)

include lasting

theorem write (twin : Twin compares place first second) (text : String) :
    Twin compares place { first with channel := first.channel.write text }
      { second with channel := second.channel.write text } := by
  cases twin with
  | heard here compared => exact .heard here (lasting.write compared _)

theorem say (twin : Twin compares place first second) (kind : MessageKind) (text : String) :
    Twin compares place (first.say kind text) (second.say kind text) := by
  cases twin with
  | heard here compared => cases kind <;> exact .heard here (lasting.emit compared _)

theorem locate (twin : Twin compares place first second) (path : String) (line : Nat) :
    Twin compares place (first.locate path line) (second.locate path line) :=
  (twin.say lasting .error _).say lasting .echo _

theorem reportUnknown (twin : Twin compares place first second) (stream : Stream C)
    (number : Nat) (line : String) :
    Twin compares place (stream.reportUnknown number line first)
      (stream.reportUnknown number line second) := by
  have noted := twin.note .warning ("directive.unknown path=" ++ stream.path ++ " line=" ++
    toString number ++ " text=" ++ Text.quote line)
  unfold Stream.reportUnknown
  dsimp only
  split
  · split
    · exact (noted.locate lasting _ _).say lasting .error _
    · exact noted.say lasting .error _
  · exact noted

end Lasting

end Twin

end Session

namespace Stream

open Session (Twin)

inductive Pulled.Twin (compares : Channel → Channel → Prop) (place : Option String) :
    Pulled C → Pulled C → Prop where
  | intro {result : Except Fault (Option (Directive C))} {stream : Stream C}
      {first second : Session} (twin : Session.Twin compares place first second) :
      Pulled.Twin compares place ⟨result, stream, first⟩ ⟨result, stream, second⟩

variable {place : Option String} {first second : Session}

theorem finish_twin (twin : Twin compares place first second) (stream : Stream C) :
    Pulled.Twin compares place (finish stream first) (finish stream second) := by
  unfold finish
  cases stream.pending with
  | none => exact .intro twin
  | some heredoc => exact .intro (twin.note _ _)

section Lasting

variable (lasting : Channel.Lasting compares) (registry : Registry C)

include lasting

theorem takeLine_twin (twin : Twin compares place first second) (stream : Stream C)
    (text : String) :
    Pulled.Twin compares place (takeLine registry stream text first)
      (takeLine registry stream text second) := by
  have placed : Twin compares place (if stream.tracked then first.atLine stream.number else first)
      (if stream.tracked then second.atLine stream.number else second) := by
    split
    · exact twin.atLine _
    · exact twin
  unfold takeLine
  dsimp only
  generalize (if stream.tracked then first.atLine stream.number else first) = first at placed
  generalize (if stream.tracked then second.atLine stream.number else second) = second at placed
  split
  · exact .intro placed
  · exact .intro placed
  · exact .intro (placed.reportUnknown lasting _ _ _)
  · exact .intro placed
  · exact .intro placed
  · exact .intro placed
  · exact .intro placed

theorem pullAsked_twin (prompting : Prompting) (left : Nat)
    (twin : Twin compares place first second) (stream : Stream C) :
    Pulled.Twin compares place (pullAsked registry prompting left stream first)
      (pullAsked registry prompting left stream second) := by
  induction left generalizing stream first second with
  | zero => exact finish_twin (twin.note _ _) _
  | succ left ih =>
      obtain ⟨same, asked⟩ := twin.ask prompting.request
      unfold pullAsked
      generalize first.ask prompting.request = answer at same asked
      generalize second.ask prompting.request = other at same asked
      obtain ⟨answer, first⟩ := answer
      obtain ⟨_, second⟩ := other
      cases same
      cases answer with
      | none => exact finish_twin asked _
      | some text =>
          have taken := takeLine_twin lasting registry asked
            { stream with prompting := some (prompting, left) } text
          dsimp only
          generalize takeLine registry _ text first = pulled at taken
          generalize takeLine registry _ text second = other at taken
          cases taken with
          | @intro result stream _ _ twin =>
              rcases result with _ | (_ | directive)
              · exact .intro twin
              · exact ih twin stream
              · exact .intro twin

theorem pullLines_twin (atHand : List String) (twin : Twin compares place first second)
    (stream : Stream C) :
    Pulled.Twin compares place (pullLines registry atHand stream first)
      (pullLines registry atHand stream second) := by
  induction atHand generalizing stream first second with
  | nil =>
      unfold pullLines
      split
      · exact finish_twin twin _
      · exact pullAsked_twin lasting registry _ _ twin _
  | cons text rest ih =>
      have taken := takeLine_twin lasting registry twin { stream with atHand := rest } text
      unfold pullLines
      generalize takeLine registry _ text first = pulled at taken
      generalize takeLine registry _ text second = other at taken
      cases taken with
      | @intro result stream _ _ twin =>
          rcases result with _ | (_ | directive)
          · exact .intro twin
          · exact ih twin stream
          · exact .intro twin

theorem pull_twin (twin : Twin compares place first second) (stream : Stream C) :
    Pulled.Twin compares place (stream.pull registry first) (stream.pull registry second) := by
  unfold pull
  split
  · exact .intro twin
  · split
    · exact .intro twin
    · exact pullLines_twin lasting registry _ twin _

end Lasting

end Stream

namespace Engine

variable {N α β : Type} {place : Option String}

def State.under (state : State N) (session : Session) : State N :=
  { state with session }

inductive Twin (compares : Channel → Channel → Prop) (place : Option String) (state : State N) :
    State N → Prop where
  | intro {session : Session} (twin : Session.Twin compares place state.session session) :
      Twin compares place state (state.under session)

theorem Twin.noted {state other : State N} (twin : Twin compares place state other) (level : Level)
    (text : String) : Twin compares place (state.noted level text) (other.noted level text) := by
  cases twin with
  | intro twin => exact .intro (twin.note level text)

theorem Twin.loggedMore {state other : State N} (twin : Twin compares place state other)
    (level : Level) (text : String) : Twin compares place (state.noted level text) other := by
  cases twin with
  | intro twin =>
      cases twin with
      | @heard channel log here compared =>
          have same : Twin compares place (state.noted level text)
              ((state.noted level text).under
                ((state.session.note level text).heard channel log)) :=
            .intro (.heard here compared)
          exact same

/-- Two runs that end alike, in states that are the same but for what was shown and logged. -/
inductive Together (compares : Channel → Channel → Prop) (place : Option String) :
    Ended N α → Ended N α → Prop where
  | ok {value last other} (twin : Twin compares place last other) :
      Together compares place (.ok value last) (.ok value other)
  | error {stop last other} (twin : Twin compares place last other) :
      Together compares place (.error stop last) (.error stop other)

theorem Together.on {first second : Ended N α} (together : Together compares place first second)
    (stream : Option (Stream (Handler N))) :
    Together compares place (endedOn stream first) (endedOn stream second) := by
  cases together with
  | ok twin =>
      cases twin with
      | intro twin => exact .ok (.intro twin)
  | error twin =>
      cases twin with
      | intro twin => exact .error (.intro twin)

def Abreast (compares : Channel → Channel → Prop) (place : Option String)
    (first second : Run N α) : Prop :=
  ∀ state other, Twin compares place state other →
    Together compares place (first.run state) (second.run other)

namespace Abreast

variable {first second : Run N α}

theorem pure (value : α) : Abreast compares place (pure value : Run N α) (pure value) :=
  fun _ _ twin => .ok twin

theorem raise (fault : Fault) : Abreast compares place (raise fault : Run N α) (raise fault) :=
  fun _ _ twin => .error twin

theorem exhausted : Abreast compares place (throw .exhausted : Run N α) (throw .exhausted) :=
  fun _ _ twin => .error twin

theorem bind {next following : α → Run N β} (ahead : Abreast compares place first second)
    (behind : ∀ value, Abreast compares place (next value) (following value)) :
    Abreast compares place (first >>= next) (second >>= following) := by
  intro state other twin
  have together := ahead state other twin
  rw [EStateM.run_bind, EStateM.run_bind]
  generalize first.run state = result at together
  generalize second.run other = also at together
  cases together with
  | ok twin => exact behind _ _ _ twin
  | error twin => exact .error twin

theorem reading {next following : State N → Run N α}
    (blind : ∀ state channel log,
      following (state.under (state.session.heard channel log)) = following state)
    (each : ∀ state, Abreast compares place (next state) (following state)) :
    Abreast compares place (get >>= next) (get >>= following) := by
  intro state other twin
  have together := each state state other
  rw [run_get_bind, run_get_bind]
  cases twin with
  | intro twin =>
      cases twin with
      | heard here compared =>
          rw [blind]
          exact together (.intro (.heard here compared))

theorem attempt (inside : Abreast compares place first second) :
    Abreast compares place (attempt first) (attempt second) := by
  intro state other twin
  have together := inside state other twin
  rw [run_attempt, run_attempt]
  generalize first.run state = result at together
  generalize second.run other = also at together
  cases together with
  | ok twin => exact .ok twin
  | @error stop last other twin =>
      cases stop with
      | fault fault => exact .ok twin
      | exhausted => exact .error twin

theorem onSession {change : Session → Session}
    (keeps : ∀ {first second : Session}, Session.Twin compares place first second →
      Session.Twin compares place (change first) (change second)) :
    Abreast compares place (onSession change : Run N Unit) (onSession change) := by
  intro state other twin
  cases twin with
  | intro twin => exact .ok (.intro (keeps twin))

theorem note (level : Level) (text : String) :
    Abreast compares place (note level text : Run N Unit) (note level text) :=
  onSession fun twin => twin.note level text

theorem modify {change : State N → State N}
    (beside : ∀ state session, change (state.under session) = (change state).under session)
    (keeps : ∀ state, (change state).session = state.session) :
    Abreast compares place (modify change : Run N Unit) (modify change) := by
  intro state other twin
  cases twin with
  | @intro session twin =>
      rw [← keeps state] at twin
      have changed : Twin compares place (change state) (change (state.under session)) := by
        rw [beside]
        exact .intro twin
      exact .ok changed

theorem lift (result : Except Fault α) :
    Abreast compares place (lift result : Run N α) (lift result) := by
  cases result with
  | ok value => exact pure value
  | error fault => exact raise fault

theorem liftScript (result : Except ScriptError α) :
    Abreast compares place (liftScript result : Run N α) (liftScript result) := by
  cases result with
  | ok value => exact pure value
  | error error => exact raise _

theorem newScope : Abreast compares place (newScope : Run N Expr.Scope) newScope := by
  intro state other twin
  cases twin with
  | intro twin => exact .ok (.intro twin)

theorem define (name : String) (value : Expr.Value) :
    Abreast compares place (define name value : Run N Unit) (define name value) := by
  intro state other twin
  cases twin with
  | intro twin =>
      simp only [Engine.define, State.under, EStateM.run_bind, EStateM.run_get]
      cases state.world.define name value with
      | ok world => exact .ok (.intro twin)
      | error error => exact .error (.intro twin)

theorem addScriptName (name : String) :
    Abreast compares place (addScriptName name : Run N Unit) (addScriptName name) := by
  refine modify (fun state session => ?_) fun state => ?_
  · unfold State.under
    dsimp only
    split <;> rfl
  · split <;> rfl

theorem addStylesheet (path : Path) :
    Abreast compares place (addStylesheet path : Run N Unit) (addStylesheet path) := by
  refine bind (modify (fun state session => ?_) fun state => ?_) fun _ => note _ _
  · unfold State.under
    dsimp only
    split <;> rfl
  · split <;> rfl

theorem whereabouts (context : Context) :
    Abreast compares place (whereabouts context : Run N Whereabouts) (whereabouts context) :=
  reading (fun _ _ _ => rfl) fun _ => pure _

theorem closeStream : Abreast compares place (closeStream : Run N Unit) closeStream := by
  intro state other twin
  cases twin with
  | @intro session twin =>
      cases current : state.stream with
      | none =>
          have also : (state.under session).stream = none := current
          rw [run_closeStream_none current, run_closeStream_none also]
          exact .error (.intro twin)
      | some stream =>
          have also : (state.under session).stream = some stream := current
          rw [run_closeStream current, run_closeStream also]
          exact .ok (.intro twin)

theorem turns {next following : Nat → Run N α}
    (each : ∀ budget, Abreast compares place (next budget) (following budget)) :
    Abreast compares place (turns >>= next) (turns >>= following) := by
  have counted : Abreast compares place (Engine.turns : Run N Nat) Engine.turns := by
    refine reading (fun _ _ _ => rfl) fun state => ?_
    split <;> exact pure _
  exact counted.bind each

theorem withStream (stream : Stream (Handler N)) (inside : Abreast compares place first second) :
    Abreast compares place (withStream stream first) (withStream stream second) := by
  intro state other twin
  cases twin with
  | intro twin => exact (inside (state.on (some stream)) _ (.intro twin)).on state.stream

theorem withoutStream (inside : Abreast compares place first second) :
    Abreast compares place (withoutStream first) (withoutStream second) := by
  intro state other twin
  cases twin with
  | intro twin => exact (inside (state.on none) _ (.intro twin)).on state.stream

theorem withScript (path : String) (inside : Abreast compares (some path) first second) :
    Abreast compares place (withScript path first) (withScript path second) := by
  intro state other twin
  cases twin with
  | @intro session twin =>
      have together := inside { state with session := state.session.enter path } _
        (.intro (twin.enter path))
      rw [run_withScript, run_withScript]
      unfold State.under at together ⊢
      dsimp only at together ⊢
      generalize first.run _ = result at together
      generalize second.run _ = also at together
      cases together with
      | ok inner =>
          cases inner with
          | intro inner => exact .ok (.intro (inner.resume twin))
      | error inner =>
          cases inner with
          | intro inner => exact .error (.intro (inner.resume twin))

section Lasting

variable (lasting : Channel.Lasting compares)

include lasting

theorem say (kind : MessageKind) (text : String) :
    Abreast compares place (say kind text : Run N Unit) (say kind text) :=
  onSession fun twin => twin.say lasting kind text

theorem report (path : Option String) (directive : Directive (Handler N)) (fault : Fault) :
    Abreast compares place (report path directive fault) (report path directive fault) := by
  refine bind (note _ _) fun _ => ?_
  cases path with
  | none => exact say lasting _ _
  | some path => exact (onSession fun twin => twin.locate lasting _ _).bind fun _ => say lasting _ _

theorem onWorld (action : Expr.Outside → Expr.World → Except ScriptError α × Expr.World) :
    Abreast compares place (onWorld action : Run N (Except ScriptError α)) (onWorld action) := by
  intro state other twin
  cases twin with
  | intro twin => exact .ok (.intro (twin.write lasting _))

theorem evaluate (source : String) :
    Abreast compares place (evaluate source : Run N Expr.Value) (evaluate source) :=
  (onWorld lasting _).bind fun _ => liftScript _

theorem execute (source : String) :
    Abreast compares place (execute source : Run N Expr.Value) (execute source) :=
  (onWorld lasting _).bind fun _ => liftScript _

theorem holds (scope : Expr.Scope) (condition : String) (line : Option Int) :
    Abreast compares place (holds scope condition line : Run N Bool)
      (holds scope condition line) := by
  refine (onWorld lasting _).bind fun result => ?_
  cases result with
  | ok value => exact reading (fun _ _ _ => rfl) fun _ => pure _
  | error error => exact raise _

theorem pull :
    Abreast compares place (pull : Run N (Option (Directive (Handler N)))) pull := by
  intro state other twin
  cases twin with
  | @intro session twin =>
      cases current : state.stream with
      | none =>
          have also : (state.under session).stream = none := current
          rw [run_pull_none current, run_pull_none also]
          exact .error (.intro twin)
      | some stream =>
          have also : (state.under session).stream = some stream := current
          have pulled := Stream.pull_twin lasting state.registry twin stream
          rw [run_pull current, run_pull also]
          unfold State.under
          dsimp only
          generalize stream.pull state.registry state.session = gives at pulled
          generalize stream.pull state.registry session = given at pulled
          cases pulled with
          | @intro result next _ _ twin =>
              cases result with
              | ok directive => exact .ok (.intro twin)
              | error fault => exact .error (.intro twin)

theorem runShell (args : String) (bang : Bool) :
    Abreast compares place (runShell args bang : Run N Unit) (runShell args bang) := by
  refine reading (fun _ _ _ => rfl) fun state => ?_
  refine (lift _).bind fun command => ?_
  refine bind ?stored fun _ => (note _ _).bind fun _ => (say lasting _ _).bind fun _ => ?_
  case stored => exact modify (fun _ _ => rfl) fun _ => rfl
  intro state other twin
  cases twin with
  | intro twin =>
      let captured := Shell.capture state.settings.shell command state.environment state.files
      exact (lift captured.1).bind (fun _ => say lasting _ _) { state with files := captured.2 } _
        (.intro twin)

end Lasting

end Abreast

end Engine

end ExScript
