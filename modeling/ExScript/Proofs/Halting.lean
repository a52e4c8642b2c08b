import ExScript.Proofs.ScriptReading
import ExScript.Proofs.Supply

/-!
Runs that end. Every loop over a stream has more turns than the stream has directives left, so the
only runs without an end are those of commands nested too deep. On the way streams get no longer,
and the answers at the prompt are used up in their order.
-/

namespace ExScript

variable {C : Type}

namespace Stream

/-- What a pull takes off a stream, and off the answers at the prompt. -/
structure Spends (stream : Stream C) (session : Session) (pulled : Pulled C) : Prop where
  fewer : pulled.stream.remaining ≤ stream.remaining
  less : ∀ directive, pulled.result = .ok (some directive) →
    pulled.stream.remaining < stream.remaining
  answers : pulled.session.answers <:+ session.answers

variable {stream : Stream C} {session : Session}

theorem finish_spends (stream : Stream C) (session : Session) :
    stream.Spends session (stream.finish session) := by
  unfold finish
  cases pending : stream.pending with
  | none => exact ⟨Nat.le_of_eq (by simp [remaining, pending]), nofun, List.suffix_rfl⟩
  | some heredoc =>
      have fewer : ({ stream with pending := none } : Stream C).remaining < stream.remaining := by
        simp [remaining, pending]
      exact ⟨Nat.le_of_lt fewer, fun _ _ => fewer, List.suffix_rfl⟩

theorem remaining_leaves (stream : Stream C) (role : LineRole C) :
    let next : Stream C :=
      { stream with number := stream.number + 1, pending := role.leaves stream.pending }
    next.remaining ≤ stream.remaining + 1 ∧
      (role.given?.isSome → next.remaining ≤ stream.remaining) := by
  cases role with
  | ignored | unknown | whole => exact ⟨Nat.le_succ _, fun _ => Nat.le_refl _⟩
  | opens heredoc | body heredoc =>
      refine ⟨?_, fun given => absurd given Bool.false_ne_true⟩
      simp only [remaining, LineRole.leaves, Option.isSome_some, ↓reduceIte]
      omega
  | closes directive =>
      have fewer : ({ stream with number := stream.number + 1, pending := none } :
          Stream C).remaining ≤ stream.remaining := by
        simp [remaining]
      exact ⟨Nat.le_succ_of_le fewer, fun _ => fewer⟩

theorem takeLine_spends (registry : Registry C) (stream : Stream C) (text : String)
    (session : Session) :
    let pulled := takeLine registry stream text session
    pulled.stream.remaining ≤ stream.remaining + 1 ∧
      (∀ directive, pulled.result = .ok (some directive) →
        pulled.stream.remaining ≤ stream.remaining) ∧
      pulled.session.answers = session.answers := by
  cases found : Assembly.roleOf registry stream.pending stream.number text with
  | error fault =>
      unfold takeLine
      dsimp only
      rw [found]
      refine ⟨Nat.le_succ _, nofun, ?_⟩
      dsimp only
      split <;> rfl
  | ok role =>
      rw [takeLine_role found]
      obtain ⟨most, given⟩ := remaining_leaves stream role
      obtain ⟨-, answers, -⟩ := role.met_kept stream.reporting stream.number text session
      refine ⟨most, fun directive gives => given ?_, answers⟩
      have gives : role.given? = some directive := by simpa using gives
      rw [gives]
      rfl

theorem Spends.ofShorter {shorter : Stream C} {before : Session} {pulled : Pulled C}
    (spends : shorter.Spends before pulled) (fewer : shorter.remaining ≤ stream.remaining)
    (answers : before.answers <:+ session.answers) : stream.Spends session pulled :=
  ⟨Nat.le_trans spends.fewer fewer,
    fun directive given => Nat.lt_of_lt_of_le (spends.less directive given) fewer,
    spends.answers.trans answers⟩

theorem Spends.ofLine {registry : Registry C} {shorter : Stream C} {text : String}
    {before : Session} {next : Stream C → Session → Pulled C}
    (fewer : shorter.remaining < stream.remaining) (answers : before.answers <:+ session.answers)
    (behind : ∀ (last : Stream C) (final : Session), last.atHand = shorter.atHand →
      last.prompting = shorter.prompting →
      last.Spends final (next last final)) :
    stream.Spends session
      (match takeLine registry shorter text before with
        | ⟨.ok none, last, final⟩ => next last final
        | pulled => pulled) := by
  obtain ⟨most, given, same⟩ := takeLine_spends registry shorter text before
  obtain ⟨hand, prompting⟩ := takeLine_kept registry shorter text before
  generalize takeLine registry shorter text before = pulled at most given same hand prompting
  obtain ⟨result, last, final⟩ := pulled
  dsimp only at most given same hand prompting
  rw [← same] at answers
  cases result with
  | error fault => exact ⟨by dsimp only; omega, nofun, answers⟩
  | ok directive =>
      cases directive with
      | none => exact (behind last final hand prompting).ofShorter (by omega) answers
      | some directive =>
          have less := given directive rfl
          exact ⟨by dsimp only; omega, fun _ _ => by dsimp only; omega, answers⟩

theorem pullAsked_spends (registry : Registry C) {prompting : Prompting} {left : Nat}
    (asks : stream.prompting = some (prompting, left)) (session : Session) :
    stream.Spends session (pullAsked registry prompting left stream session) := by
  induction left generalizing stream session with
  | zero =>
      have dry : ({ stream with prompting := none } : Stream C).remaining ≤ stream.remaining := by
        simp [remaining]
      exact (finish_spends _ _).ofShorter dry List.suffix_rfl
  | succ left ih =>
      have dry : ({ stream with prompting := none } : Stream C).remaining ≤ stream.remaining := by
        simp [remaining]
      have shorter : ({ stream with prompting := some (prompting, left) } : Stream C).remaining <
          stream.remaining := by
        simp only [remaining, asks]
        omega
      unfold pullAsked Session.ask
      cases given : session.answers with
      | nil => exact (finish_spends _ _).ofShorter dry (by simp [given])
      | cons answer answers =>
          have later : answers <:+ session.answers := by
            rw [given]
            exact List.suffix_cons answer answers
          cases answer with
          | none => exact (finish_spends _ _).ofShorter dry later
          | some text =>
              exact Spends.ofLine shorter later fun last final _ kept => ih kept final

theorem pullLines_spends (registry : Registry C) {lines : List String}
    (hand : stream.atHand = lines) (session : Session) :
    stream.Spends session (pullLines registry lines stream session) := by
  induction lines generalizing stream session with
  | nil =>
      unfold pullLines
      split
      · exact finish_spends stream session
      next prompting left asks => exact pullAsked_spends registry asks session
  | cons text rest ih =>
      have shorter : ({ stream with atHand := rest } : Stream C).remaining < stream.remaining := by
        simp only [remaining, hand, List.length_cons]
        omega
      exact Spends.ofLine shorter List.suffix_rfl fun last final kept _ => ih kept final

theorem pull_spends (registry : Registry C) (stream : Stream C) (session : Session) :
    stream.Spends session (stream.pull registry session) := by
  unfold pull
  split
  · exact ⟨Nat.le_refl _, nofun, List.suffix_rfl⟩
  · cases beforehand : stream.assembled with
    | nil => exact pullLines_spends registry rfl session
    | cons directive rest =>
        have fewer : ({ stream with assembled := rest } : Stream C).remaining <
            stream.remaining := by
          simp only [remaining, beforehand, List.length_cons]
          omega
        exact ⟨Nat.le_of_lt fewer, fun _ _ => fewer, List.suffix_rfl⟩

end Stream

namespace Engine

variable {N α β : Type}

structure Leaves (state last : State N) : Prop where
  fewer : left last ≤ left state
  present : last.stream.isSome = state.stream.isSome
  answers : last.session.answers <:+ state.session.answers

/-- A run that ended, with a value or a fault, unless commands could be nested too deep. -/
inductive Halted (deep : Prop) (state : State N) : Ended N α → Prop where
  | ok {value last} (leaves : Leaves state last) : Halted deep state (.ok value last)
  | fault {fault last} (leaves : Leaves state last) : Halted deep state (.error (.fault fault) last)
  | exhausted {last} (tooDeep : deep) : Halted deep state (.error .exhausted last)

def Halts (deep : Prop) (action : Run N α) : Prop :=
  ∀ state, Halted deep state (action.run state)

def Halting (deep : Prop) (dispatch : Dispatch N) : Prop :=
  ∀ context directive, Halts deep (dispatch context directive)

variable {deep : Prop}

namespace Leaves

theorem of_same {state last : State N} (stream : last.stream = state.stream)
    (answers : last.session.answers = state.session.answers) : Leaves state last := by
  have fewer : left last = left state := by
    unfold left
    rw [stream]
  exact ⟨Nat.le_of_eq fewer, by rw [stream], by simp [answers]⟩

theorem refl (state : State N) : Leaves state state :=
  of_same rfl rfl

theorem trans {state middle last : State N} (first : Leaves state middle)
    (second : Leaves middle last) : Leaves state last :=
  ⟨Nat.le_trans second.fewer first.fewer, second.present.trans first.present,
    second.answers.trans first.answers⟩

theorem restored {state inner last : State N} (inside : Leaves inner last)
    (answers : inner.session.answers = state.session.answers) :
    Leaves state (last.on state.stream) := by
  refine ⟨Nat.le_refl _, rfl, ?_⟩
  rw [← answers]
  exact inside.answers

end Leaves

namespace Halted

variable {state : State N}

theorem earlier {middle : State N} {result : Ended N α} (first : Leaves state middle)
    (halted : Halted deep middle result) : Halted deep state result := by
  cases halted with
  | ok leaves => exact .ok (first.trans leaves)
  | fault leaves => exact .fault (first.trans leaves)
  | exhausted tooDeep => exact .exhausted tooDeep

theorem bind {action : Run N α} {next : α → Run N β} (first : Halted deep state (action.run state))
    (second : ∀ value last, Leaves state last → Halted deep last ((next value).run last)) :
    Halted deep state ((action >>= next).run state) := by
  rw [EStateM.run_bind]
  generalize action.run state = result at first
  cases first with
  | ok leaves => exact (second _ _ leaves).earlier leaves
  | fault leaves => exact .fault leaves
  | exhausted tooDeep => exact .exhausted tooDeep

end Halted

namespace Halts

theorem pure (value : α) : Halts deep (pure value : Run N α) :=
  fun state => .ok (.refl state)

theorem raise (fault : Fault) : Halts deep (raise fault : Run N α) :=
  fun state => .fault (.refl state)

theorem bind {action : Run N α} {next : α → Run N β} (first : Halts deep action)
    (second : ∀ value, Halts deep (next value)) : Halts deep (action >>= next) :=
  fun state => (first state).bind fun value last _ => second value last

theorem reading {next : State N → Run N α} (each : ∀ state, Halts deep (next state)) :
    Halts deep (get >>= next) :=
  bind (fun state => .ok (.refl state)) each

theorem attempt {action : Run N α} (inside : Halts deep action) : Halts deep (attempt action) := by
  intro state
  have halted := inside state
  rw [run_attempt]
  generalize action.run state = result at halted
  cases halted with
  | ok leaves => exact .ok leaves
  | fault leaves => exact .ok leaves
  | exhausted tooDeep => exact .exhausted tooDeep

theorem withScript (path : String) {action : Run N α} (inside : Halts deep action) :
    Halts deep (withScript path action) := by
  intro state
  have halted := inside { state with session := state.session.enter path }
  rw [run_withScript]
  generalize action.run _ = result at halted
  cases halted with
  | ok leaves => exact .ok ⟨leaves.fewer, leaves.present, leaves.answers⟩
  | fault leaves => exact .fault ⟨leaves.fewer, leaves.present, leaves.answers⟩
  | exhausted tooDeep => exact .exhausted tooDeep

theorem withStream (stream : Stream (Handler N)) {action : Run N α} (inside : Halts deep action) :
    Halts deep (withStream stream action) := by
  intro state
  have halted := inside { state with stream := some stream }
  rw [run_withStream]
  generalize action.run _ = result at halted
  cases halted with
  | ok leaves => exact .ok (leaves.restored rfl)
  | fault leaves => exact .fault (leaves.restored rfl)
  | exhausted tooDeep => exact .exhausted tooDeep

theorem withoutStream {action : Run N α} (inside : Halts deep action) :
    Halts deep (withoutStream action) := by
  intro state
  have halted := inside { state with stream := none }
  rw [run_withoutStream]
  generalize action.run _ = result at halted
  cases halted with
  | ok leaves => exact .ok (leaves.restored rfl)
  | fault leaves => exact .fault (leaves.restored rfl)
  | exhausted tooDeep => exact .exhausted tooDeep

theorem lift (result : Except Fault α) : Halts deep (lift result : Run N α) := by
  cases result with
  | ok value => exact pure value
  | error fault => exact raise fault

theorem liftScript (result : Except ScriptError α) : Halts deep (liftScript result : Run N α) := by
  cases result with
  | ok value => exact pure value
  | error error => exact raise (.script error)

theorem onWorld (action : Expr.Outside → Expr.World → Except ScriptError α × Expr.World) :
    Halts deep (onWorld action : Run N (Except ScriptError α)) :=
  fun _ => .ok (.of_same rfl rfl)

theorem define (name : String) (value : Expr.Value) : Halts deep (define name value : Run N Unit) := by
  intro state
  simp only [Engine.define, EStateM.run_bind, EStateM.run_get]
  cases state.world.define name value with
  | ok world => exact .ok (.of_same rfl rfl)
  | error error => exact raise _ state

theorem addScriptName (name : String) : Halts deep (addScriptName name : Run N Unit) := by
  intro state
  refine .ok (.of_same ?_ ?_) <;> dsimp only <;> split <;> rfl

theorem recordScript (path : Path) : Halts deep (recordScript path : Run N Unit) :=
  bind (addScriptName _) fun _ => fun _ => .ok (.of_same rfl rfl)

theorem addStylesheet (path : Path) : Halts deep (addStylesheet path : Run N Unit) := by
  refine bind (fun state => ?_) fun _ => fun _ => .ok (.of_same rfl rfl)
  refine .ok (.of_same ?_ ?_) <;> dsimp only <;> split <;> rfl

theorem runShell (args : String) (bang : Bool) : Halts deep (runShell args bang : Run N Unit) := by
  refine reading fun state => ?_
  refine bind (lift _) fun command => ?_
  refine bind (fun _ => .ok (.of_same rfl rfl)) fun _ => ?_
  refine bind (fun _ => .ok (.of_same rfl rfl)) fun _ => ?_
  refine bind (fun _ => .ok (.of_same rfl rfl)) fun _ => ?_
  intro state
  have shown (output : Except Fault String) :
      Halts deep (do say .echo (← Engine.lift output) : Run N Unit) :=
    bind (lift output) fun text => fun _ => .ok (.of_same rfl rfl)
  rw [run_get_bind]
  generalize Shell.capture state.settings.shell command state.environment state.files = captured
  obtain ⟨output, files⟩ := captured
  rw [EStateM.run_bind, EStateM.run_set]
  dsimp only
  have leaves : Leaves state { state with files } := .of_same rfl rfl
  exact (shown output { state with files }).earlier leaves

end Halts

theorem halts_catching : Catching (N := N) (Halts deep) where
  pure := Halts.pure
  raise := Halts.raise
  bind := Halts.bind
  attempt := Halts.attempt
  note _ _ _ := fun _ => .ok (.of_same rfl rfl)
  say kind _ := fun _ => .ok (.of_same rfl (by cases kind <;> rfl))
  locate _ _ := fun _ => .ok (.of_same rfl rfl)

theorem halts_pervasive : Pervasive (N := N) (Halts deep) where
  toFallible := halts_catching.fallible
  fails fault _ := Halts.raise fault
  reading _ each := Halts.reading each
  whereabouts _ := fun _ => .ok (.of_same rfl rfl)
  record _ := fun _ => .ok (.of_same rfl rfl)
  evaluate _ := Halts.bind (Halts.onWorld _) fun _ => Halts.liftScript _
  execute _ := Halts.bind (Halts.onWorld _) fun _ => Halts.liftScript _
  define := Halts.define
  runShell := Halts.runShell
  withScript := Halts.withScript
  addStylesheet := Halts.addStylesheet

theorem closeStream_halts : Halts deep (closeStream : Run N Unit) := by
  intro state
  cases current : state.stream with
  | none =>
      have failed : closeStream.run state = .error (.fault (noStream "close")) state := by
        unfold closeStream
        rw [run_get_bind]
        rw [current]
        rfl
      rw [failed]
      exact .fault (.refl state)
  | some stream =>
      rw [run_closeStream current]
      exact .ok ⟨by simp [left, current, Stream.close, Stream.remaining], by simp [current],
        List.suffix_rfl⟩

theorem pull_bind_halts {state : State N} {next : Option (Directive (Handler N)) → Run N α}
    (gave : ∀ directive last, left last < left state →
      Halted deep last ((next (some directive)).run last))
    (nothing : Halts deep (next none)) : Halted deep state ((pull >>= next).run state) := by
  cases current : state.stream with
  | none =>
      have failed : pull.run state = .error (.fault (noStream "pull")) state := by
        unfold pull
        rw [run_get_bind]
        rw [current]
        rfl
      rw [run_bind_error failed]
      exact .fault (.refl state)
  | some stream =>
      have spends := Stream.pull_spends state.registry stream state.session
      rw [EStateM.run_bind, run_pull current]
      generalize stream.pull state.registry state.session = pulled at spends
      obtain ⟨result, behind, session⟩ := pulled
      obtain ⟨fewer, less, answers⟩ := spends
      dsimp only at fewer less answers
      have before : left state = stream.remaining := by simp [left, current]
      have leaves : Leaves state { state with stream := some behind, session } := by
        refine ⟨?_, by simp [current], answers⟩
        rw [before]
        exact fewer
      cases result with
      | error fault => exact .fault leaves
      | ok directive =>
          cases directive with
          | none => exact (nothing _).earlier leaves
          | some directive =>
              refine (gave directive _ ?_).earlier leaves
              rw [before]
              exact less directive rfl

theorem pull_halts : Halts deep (pull : Run N (Option (Directive (Handler N)))) := by
  intro state
  have pulled : Halted deep state ((pull >>= fun directive => pure directive).run state) :=
    pull_bind_halts (fun directive last _ => Halts.pure (some directive) last) (Halts.pure none)
  rwa [bind_pure] at pulled

theorem turns_halts {state : State N} {next : Nat → Run N α}
    (on : ∀ budget, left state < budget → Halted deep state ((next budget).run state)) :
    Halted deep state ((turns >>= next).run state) := by
  cases current : state.stream with
  | none =>
      rw [run_bind_ok (run_turns_none current)]
      exact on 1 (by simp [left, current])
  | some stream =>
      rw [run_bind_ok (run_turns_some current)]
      exact on _ (by simp [left, current])

theorem skipBlocks_halts (budget : Nat) (unclosed : List Bool) {state : State N}
    (enough : left state < budget) :
    Halted deep state ((skipBlocks budget unclosed : Run N Unit).run state) := by
  induction budget generalizing state unclosed with
  | zero => cases enough
  | succ budget ih =>
      cases unclosed with
      | nil => exact .ok (.refl state)
      | cons fallbackSeen outer =>
          unfold skipBlocks
          dsimp only [Telling.pull, Telling.missingEnd, Telling.malformed]
          refine pull_bind_halts (fun directive last less => ?_) (Halts.raise _)
          have on (unclosed : List Bool) :
              Halted deep last ((skipBlocks budget unclosed : Run N Unit).run last) :=
            ih unclosed (by omega)
          dsimp only
          split
          · exact on _
          · split
            · exact Halts.raise _ last
            · exact on _
          · split
            · exact Halts.raise _ last
            · exact on _
          · exact on _
          · exact on _

theorem skipBlock_halts (fallbackSeen : Bool) : Halts deep (skipBlock fallbackSeen : Run N Unit) :=
  fun _ => turns_halts fun budget enough => skipBlocks_halts budget [fallbackSeen] enough

theorem holds_halts (scope : Expr.Scope) (condition : String) (line : Option Int) :
    Halts deep (holds scope condition line : Run N Bool) := by
  refine Halts.bind (Halts.onWorld _) fun result => ?_
  cases result with
  | ok value => exact Halts.reading fun _ => Halts.pure _
  | error error => exact Halts.raise _

theorem chooseArm_halts (scope : Expr.Scope) (budget : Nat) {state : State N}
    (enough : left state < budget) :
    Halted deep state ((chooseArm scope budget : Run N Chosen).run state) := by
  induction budget generalizing state with
  | zero => cases enough
  | succ budget ih =>
      unfold chooseArm
      dsimp only [Telling.pull, Telling.holds, Telling.missingEnd]
      refine pull_bind_halts (fun directive last less => ?_) (Halts.raise _)
      dsimp only
      split
      · refine (skipBlock_halts false last).bind fun _ further leaves => ih ?_
        have := leaves.fewer
        omega
      · refine (holds_halts scope _ _ last).bind fun value further leaves => ?_
        have := leaves.fewer
        split
        · exact Halts.pure _ further
        · exact ih (by omega)
      · exact Halts.pure _ last
      · exact Halts.pure _ last
      · exact ih (by omega)

theorem finished_halts :
    Halts deep (do
      closeStream
      pure .finish : Run N Flow) :=
  closeStream_halts.bind fun _ => Halts.pure _

variable {dispatch : Dispatch N}

theorem runArm_halts (halting : Halting deep dispatch) (context : Context) (isFallback : Bool)
    (budget : Nat) {state : State N} (enough : left state < budget) :
    Halted deep state ((runArm dispatch context isFallback budget).run state) := by
  have skipped (fallbackSeen : Bool) : Halts deep (do
      skipBlock fallbackSeen
      pure .goOn : Run N Flow) :=
    (skipBlock_halts fallbackSeen).bind fun _ => Halts.pure _
  induction budget generalizing state with
  | zero => cases enough
  | succ budget ih =>
      unfold runArm
      dsimp only [Telling.act, Telling.pull, Telling.malformed]
      refine pull_bind_halts (fun directive last less => ?_) (skipped isFallback)
      dsimp only
      split
      · split
        · exact Halts.raise _ last
        · exact skipped false last
      · split
        · exact Halts.raise _ last
        · exact skipped true last
      · exact Halts.pure _ last
      · exact (halts_pervasive.note _ _ (.append (by decide) _) last).bind
          fun _ further _ => finished_halts further
      · refine (halting context directive last).bind fun flow further leaves => ?_
        have := leaves.fewer
        cases flow with
        | finish => exact finished_halts further
        | goOn => exact ih (by omega)

theorem runBlock_halts (halting : Halting deep dispatch) (context : Context) (condition : String) :
    Halts deep (runBlock dispatch context condition) := by
  have arm (isFallback : Bool) (context : Context) :
      Halts deep (do runArm dispatch context isFallback (← turns) : Run N Flow) :=
    fun _ => turns_halts fun budget enough => runArm_halts halting context isFallback budget enough
  unfold runBlock
  dsimp only [Telling.act, Telling.holds]
  split
  · exact (skipBlock_halts false).bind fun _ => Halts.pure _
  · refine Halts.bind (fun _ => .ok (.of_same rfl rfl)) fun scope => ?_
    refine (holds_halts scope condition none).bind fun value => ?_
    split
    · exact arm false _
    · refine fun state => turns_halts fun budget enough => ?_
      refine (chooseArm_halts scope budget enough).bind fun chosen last _ => ?_
      cases chosen with
      | arm isFallback => exact arm isFallback _ last
      | none => exact Halts.pure _ last

theorem runIf_halts (halting : Halting deep dispatch) (context : Context) (condition : String) :
    Halts deep (runIf openPrompted dispatch context condition) := by
  refine Halts.reading fun state => ?_
  split
  · exact runBlock_halts halting context condition
  · exact halts_pervasive.openPrompted [] fun prompting =>
      (runBlock_halts halting context condition).withStream _

theorem runStream_halts (halting : Halting deep dispatch) (context : Context) (budget : Nat)
    {state : State N} (enough : left state < budget) :
    Halted deep state ((runStream dispatch context budget).run state) := by
  induction budget generalizing state with
  | zero => cases enough
  | succ budget ih =>
      unfold runStream
      dsimp only [Telling.act, Telling.pull]
      refine pull_bind_halts (fun directive last less => ?_) (Halts.pure _)
      dsimp only
      split
      · exact finished_halts last
      · refine (halting context directive last).bind fun flow further leaves => ?_
        have := leaves.fewer
        cases flow with
        | finish => exact finished_halts further
        | goOn => exact ih (by omega)

theorem runFirst_halts (halting : Halting deep dispatch) : Halts deep (runFirst dispatch) := by
  intro state
  exact pull_bind_halts (fun directive last _ => halting _ directive last) (Halts.pure _)

theorem runTyped_halts (halting : Halting deep dispatch) : Halts deep (runTyped dispatch) :=
  halts_catching.closingBehind closeStream_halts (runFirst_halts halting)

theorem Halting.streamed (halting : Halting deep dispatch) : Streamed (Halts deep) dispatch where
  script stream _ := Halts.withStream stream fun _ => turns_halts fun budget enough =>
    runStream_halts halting _ budget enough
  line _ _ := (runTyped_halts halting).withStream _

theorem Halting.interpret (halting : Halting deep dispatch) (context : Context) (program : Program N) :
    Halts deep (interpret dispatch context program) :=
  halts_pervasive.interpret (halts_pervasive.calling halting.streamed) context
    (fun fault _ => Halts.raise fault)
    (fun _ => ⟨pull_halts, closeStream_halts⟩)
    (anything_within program)

theorem Halting.ownStreams (halting : Halting deep dispatch) : OwnStreams (Halts deep) dispatch where
  toStreamed := halting.streamed
  delegate program := (halting.interpret {} program).withoutStream

theorem Halting.deeper (halting : Halting deep dispatch) :
    Halting deep (dispatchBy (executeBy dispatch)) := by
  intro context directive
  refine halts_catching.dispatchBy (halts_catching.logged _ _ ?_)
  split
  next builtin known =>
    cases forms : builtin.formsBlocks with
    | false =>
        have sourcing := halts_pervasive.sourcing halting.ownStreams Halts.recordScript
        exact halts_pervasive.runBuiltin sourcing context _ forms
    | true =>
        cases builtin <;> cases forms
        · exact (runIf_halts halting context _).bind fun _ => Halts.pure _
        · exact Halts.raise _
        · exact Halts.raise _
        · exact Halts.raise _
  next program known => exact halting.interpret context _

theorem dispatchTo_halting (depth : Nat) : Halting (N := N) True (dispatchTo depth) := by
  induction depth with
  | zero => exact fun _ _ _ => .exhausted trivial
  | succ depth ih => exact ih.deeper

end Engine

end ExScript
