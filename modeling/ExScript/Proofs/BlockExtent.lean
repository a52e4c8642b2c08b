import ExScript.Proofs.Blocks
import ExScript.Proofs.Skipping

/-!
A block that is run reaches as far as one that is skipped. The conditions decide which arm is run,
and the search for it, the run and the walk over what is left hand the cursor on to one another;
together they read just what the walk over the whole block reads.
-/

namespace ExScript.Engine

variable {N α : Type}

open Classical in
/-- Dispatching where only a directive that goes on, with the stream as it found it, comes to its
end. Any other stops the run and leaves it without a stream. -/
noncomputable def quietly (dispatch : Dispatch N) : Dispatch N := fun context directive state =>
  match (dispatch context directive).run state with
  | .ok .goOn last =>
      if last.stream = state.stream then .ok .goOn last else .error .exhausted (last.on none)
  | .ok .finish last => .error .exhausted (last.on none)
  | .error _ last => .error .exhausted (last.on none)

/-- Dispatching that is stopped at once when an ordinary directive takes from the stream, finishes
or breaks its block off; otherwise it is the same. -/
noncomputable def watchedTo : (depth : Nat) → Dispatch N
  | 0 => fun _ _ => throw .exhausted
  | depth + 1 => fun context directive =>
      if directive.mark = .opens then dispatchBy (executeBy (watchedTo depth)) context directive
      else quietly (dispatchTo (depth + 1)) context directive

/-- An end of a watched run in which an ordinary directive was stopped, a condition failed or
something finished. -/
def Disturbed : Ended N Flow → Prop
  | .ok flow _ => flow = .finish
  | .error .exhausted last => last.stream = none
  | .error stop _ => Breaks "E15" stop

def SameEnd : Ended N Flow → Ended N Flow → Prop
  | .ok flow last, .ok other behind => flow = other ∧ last.stream = behind.stream
  | .error (.fault (.script error)) last, .error (.fault (.script other)) behind =>
      error.kind = other.kind ∧ last.stream = behind.stream
  | _, _ => False

def OpensBlocks (directives : List (Directive (Handler N))) : Prop :=
  ∀ directive ∈ directives, directive.mark = .opens → directive.command.handler = .builtin .ifBlock

theorem OpensBlocks.suffix {directives rest : List (Directive (Handler N))}
    (opens : OpensBlocks directives) (suffix : rest <:+ directives) : OpensBlocks rest :=
  fun directive member => opens directive (suffix.subset member)

def Extent.Reached : Extent (Handler N) → Ended N Flow → Prop
  | .closed rest, .ok flow last =>
      flow = .goOn ∧ last.stream = some (Stream.ofDirectives rest)
  | .misplaced culprit rest, .error stop last =>
      Breaks (misplacedCode culprit) stop ∧ last.stream = some (Stream.ofDirectives rest)
  | .unclosed, .error stop last =>
      Breaks "E171" stop ∧ last.stream = some { Stream.ofDirectives [] with ended := true }
  | _, _ => False

theorem malformed_misplaced (culprit : Directive (Handler N)) :
    ∃ error, malformed (misplacedCode culprit) culprit.line = .script error ∧
      error.kind = .conditional (misplacedCode culprit) := by
  unfold misplacedCode
  split
  · exact ⟨_, rfl, rfl⟩
  · exact ⟨_, rfl, rfl⟩

theorem Extent.ended_reached (extent : Extent (Handler N)) (state : State N) :
    extent.Reached (extent.ended .goOn state) := by
  cases extent with
  | closed rest => exact ⟨rfl, rfl⟩
  | misplaced culprit rest =>
      obtain ⟨error, same, kind⟩ := malformed_misplaced culprit
      exact ⟨⟨error, congrArg Stop.fault same, kind⟩, rfl⟩
  | unclosed => exact ⟨⟨_, rfl, rfl⟩, rfl⟩

theorem Extent.Reached.sameEnd {extent : Extent (Handler N)} {first second : Ended N Flow}
    (reached : extent.Reached first) (other : extent.Reached second) : SameEnd first second := by
  cases first with
  | ok flow last =>
      cases second with
      | ok flow behind =>
          cases extent with
          | closed rest => exact ⟨reached.1.trans other.1.symm, reached.2.trans other.2.symm⟩
          | misplaced culprit rest => exact False.elim reached
          | unclosed => exact False.elim reached
      | error stop behind =>
          cases extent <;> first | exact False.elim reached | exact False.elim other
  | error stop last =>
      cases second with
      | ok flow behind => cases extent <;> first | exact False.elim reached | exact False.elim other
      | error stop behind =>
          cases extent with
          | closed rest => exact False.elim reached
          | misplaced culprit rest =>
              obtain ⟨⟨error, rfl, kind⟩, place⟩ := reached
              obtain ⟨⟨error, rfl, same⟩, behind⟩ := other
              exact ⟨kind.trans same.symm, place.trans behind.symm⟩
          | unclosed =>
              obtain ⟨⟨error, rfl, kind⟩, place⟩ := reached
              obtain ⟨⟨error, rfl, same⟩, behind⟩ := other
              exact ⟨kind.trans same.symm, place.trans behind.symm⟩

theorem Extent.reached_ok {extent : Extent (Handler N)} {flow : Flow} {last : State N}
    (reached : extent.Reached (.ok flow last)) :
    ∃ rest, extent = .closed rest ∧ last = last.before rest := by
  cases extent with
  | closed rest => exact ⟨rest, rfl, State.eq_before reached.2⟩
  | misplaced culprit rest => exact False.elim reached
  | unclosed => exact False.elim reached

theorem Extent.reached_error {extent : Extent (Handler N)} {stop : Stop} {last : State N}
    (reached : extent.Reached (.error stop last)) (next : List (Directive (Handler N)) → Extent _) :
    (extent.andThen next).Reached (.error stop last) := by
  cases extent with
  | closed rest => exact False.elim reached
  | misplaced culprit rest => exact reached
  | unclosed => exact reached

def openings (directives : List (Directive (Handler N))) : Nat :=
  directives.countP (·.mark = .opens)

theorem openings_suffix {rest directives : List (Directive (Handler N))}
    (suffix : rest <:+ directives) : openings rest ≤ openings directives :=
  suffix.sublist.countP_le

/-- How a run compares with the one that is watched, where the latter can be too deep. -/
inductive Follows (deep : Prop) (extent : Extent (Handler N)) : (watched real : Ended N Flow) → Prop
  where
  | tooDeep {last real} (depth : deep) : Follows deep extent (.error .exhausted last) real
  | stopped {last real} (gone : last.stream = none) :
      Follows deep extent (.error .exhausted last) real
  | failed {stop last real} (breaks : Breaks "E15" stop) :
      Follows deep extent (.error stop last) real
  | finished {last real} (present : last.stream.isSome) :
      Follows deep extent (.ok .finish last) real
  | reached {result} (place : extent.Reached result) : Follows deep extent result result

namespace Follows

variable {deep : Prop} {extent : Extent (Handler N)} {watched real : Ended N Flow}

theorem deeper {other : Prop} (follows : Follows deep extent watched real) (weaker : deep → other) :
    Follows other extent watched real := by
  cases follows with
  | tooDeep depth => exact .tooDeep (weaker depth)
  | stopped gone => exact .stopped gone
  | failed breaks => exact .failed breaks
  | finished present => exact .finished present
  | reached place => exact .reached place

theorem undisturbed (follows : Follows deep extent watched real) (shallow : ¬ deep)
    (calm : ¬ Disturbed watched) : real = watched ∧ extent.Reached watched := by
  cases follows with
  | tooDeep depth => exact absurd depth shallow
  | stopped gone => exact absurd gone calm
  | failed breaks =>
      obtain ⟨error, rfl, kind⟩ := breaks
      exact absurd ⟨error, rfl, kind⟩ calm
  | finished present => exact absurd rfl calm
  | reached place => exact ⟨rfl, place⟩

end Follows

structure Heeds (depth : Nat) (watched real : Dispatch N) : Prop where
  ordinary : ∀ context (directive : Directive (Handler N)) state, directive.mark = .plain →
    (∃ last, (watched context directive).run state = .ok .goOn last ∧
        (real context directive).run state = .ok .goOn last ∧ last.stream = state.stream) ∨
      ∃ last, (watched context directive).run state = .error .exhausted last ∧
        (last.stream = none ∨ depth = 0)
  opens : ∀ context (directive : Directive (Handler N)) (state : State N) rest,
    directive.mark = .opens → OpensBlocks (directive :: rest) →
      Follows (depth ≤ openings (directive :: rest)) (extentFrom [false] rest)
        ((watched context directive).run (state.before rest))
        ((real context directive).run (state.before rest))

theorem Follows.goOn {deep : Prop} {extent : Extent (Handler N)}
    {next : List (Directive (Handler N)) → Extent _} {watched real first second : Run N Flow}
    {state : State N}
    (follows : Follows deep extent (watched.run state) (real.run state))
    (behind : ∀ (last : State N) rest, extent = .closed rest →
      Follows deep (next rest) (first.run (last.before rest)) (second.run (last.before rest))) :
    Follows deep (extent.andThen next)
      ((do
        match ← watched with
        | .finish => do
            closeStream
            pure .finish
        | .goOn => first : Run N Flow).run state)
      ((do
        match ← real with
        | .finish => do
            closeStream
            pure .finish
        | .goOn => second : Run N Flow).run state) := by
  rw [EStateM.run_bind, EStateM.run_bind]
  generalize watched.run state = result at follows
  generalize real.run state = other at follows
  cases follows with
  | tooDeep depth => exact .tooDeep depth
  | stopped gone => exact .stopped gone
  | failed breaks => exact .failed breaks
  | finished present =>
      obtain ⟨stream, current⟩ := Option.isSome_iff_exists.mp present
      dsimp only
      rw [run_finished current]
      exact .finished rfl
  | reached place =>
      cases result with
      | ok flow last =>
          obtain ⟨rest, rfl, same⟩ := Extent.reached_ok place
          obtain rfl := place.1
          rw [same]
          exact behind last rest rfl
      | error stop last => exact .reached (Extent.reached_error place next)

theorem runArm_follows {depth : Nat} {watched real : Dispatch N} (heeds : Heeds depth watched real)
    (context : Context) (state : State N) (isFallback : Bool) {turns : Nat}
    {rest : List (Directive (Handler N))} (opens : OpensBlocks rest)
    (enough : rest.length < turns) :
    Follows (depth ≤ openings rest) (extentFrom [isFallback] rest)
      ((runArm watched context isFallback turns).run (state.before rest))
      ((runArm real context isFallback turns).run (state.before rest)) := by
  induction turns generalizing state rest with
  | zero => omega
  | succ turns ih =>
      cases rest with
      | nil =>
          unfold runArm
          dsimp only [Telling.act, Telling.pull, Telling.malformed]
          rw [run_bind_ok (run_pull_nil state), run_bind_ok (run_pull_nil state)]
          exact .reached (Extent.unclosed.ended_reached state)
      | cons directive rest =>
          rw [runArm_pulled (run_pull_cons _ _ _), runArm_pulled (run_pull_cons _ _ _)]
          have fewer : rest.length < turns := by simpa using enough
          have suffix := List.suffix_cons directive rest
          have fewerOpen : OpensBlocks rest := opens.suffix suffix
          have fewerOpenings : openings rest ≤ openings (directive :: rest) :=
            openings_suffix suffix
          unfold extentFrom
          cases mark : directive.mark with
          | closes =>
              rw [extentFrom]
              exact .reached ((Extent.closed rest).ended_reached state)
          | finish =>
              have current : ((state.before rest).noted .debug
                  ("conditional.finish line=" ++ toString directive.line)).stream =
                    some (Stream.ofDirectives rest) := rfl
              rw [run_bind_ok (run_note _ _ _), run_finished current]
              exact .finished rfl
          | «elseif» =>
              cases isFallback with
              | true =>
                  have place := (Extent.misplaced directive rest).ended_reached state
                  simp only [Extent.ended, misplacedCode, mark] at place
                  exact .reached place
              | false =>
                  simp only [Bool.false_eq_true, ↓reduceIte, run_skipRest]
                  exact .reached (Extent.ended_reached _ state)
          | fallback =>
              cases isFallback with
              | true =>
                  have place := (Extent.misplaced directive rest).ended_reached state
                  simp only [Extent.ended, misplacedCode, mark] at place
                  exact .reached place
              | false =>
                  simp only [Bool.false_eq_true, ↓reduceIte, run_skipRest]
                  exact .reached (Extent.ended_reached _ state)
          | plain =>
              rcases heeds.ordinary context directive (state.before rest) mark with
                ⟨last, first, second, kept⟩ | ⟨last, first, gone | surface⟩
              · rw [run_bind_ok first, run_bind_ok second, State.eq_before kept]
                exact (ih last fewerOpen fewer).deeper fun deep => by omega
              · rw [run_bind_error first]
                exact .stopped gone
              · rw [run_bind_error first]
                exact .tooDeep (by omega)
          | opens =>
              rw [extentFrom_inner]
              -- The openings of the inner block are among those of the whole, and so are those behind it.
              refine (heeds.opens context directive state rest mark opens).goOn ?_
              intro last behind closed
              have shorter := extentFrom_closed_suffix closed
              have bound := shorter.length_le
              have behindOpenings := openings_suffix shorter
              refine (ih last (fewerOpen.suffix shorter) (by omega)).deeper fun deep => ?_
              omega

inductive Chose (extent : Extent (Handler N)) (directives : List (Directive (Handler N))) :
    Ended N Chosen → Prop where
  | arm {isFallback rest} (last : State N) (same : extentFrom [isFallback] rest = extent)
      (suffix : rest <:+ directives) :
      Chose extent directives (.ok (.arm isFallback) (last.before rest))
  | none {rest} (last : State N) (closed : extent = .closed rest) :
      Chose extent directives (.ok .none (last.before rest))
  | failed {stop last} (failed : Breaks "E15" stop) : Chose extent directives (.error stop last)
  | reached {stop last} (place : extent.Reached (.error stop last)) :
      Chose extent directives (.error stop last)

theorem Chose.suffix {extent : Extent (Handler N)}
    {shorter directives : List (Directive (Handler N))}
    {result : Ended N Chosen} (chose : Chose extent shorter result)
    (suffix : shorter <:+ directives) : Chose extent directives result := by
  cases chose with
  | arm last same inner => exact .arm last same (inner.trans suffix)
  | none last closed => exact .none last closed
  | failed failed => exact .failed failed
  | reached place => exact .reached place

theorem chooseArm_chose (scope : Expr.Scope) (state : State N) {turns : Nat}
    {rest : List (Directive (Handler N))} (enough : rest.length < turns) :
    Chose (extentFrom [false] rest) rest
      ((chooseArm scope turns : Run N Chosen).run (state.before rest)) := by
  induction turns generalizing state rest with
  | zero => omega
  | succ turns ih =>
      cases rest with
      | nil =>
          unfold chooseArm
          dsimp only [Telling.pull, Telling.holds, Telling.missingEnd]
          rw [run_bind_ok (run_pull_nil state)]
          exact .reached (Extent.unclosed.ended_reached state)
      | cons directive rest =>
          rw [chooseArm_pulled (run_pull_cons _ _ _)]
          have fewer : rest.length < turns := by simpa using enough
          have suffix := List.suffix_cons directive rest
          unfold extentFrom
          cases mark : directive.mark with
          | closes =>
              rw [extentFrom]
              exact .none state rfl
          | fallback => exact .arm state rfl suffix
          | finish => exact (ih state fewer).suffix suffix
          | plain => exact (ih state fewer).suffix suffix
          | «elseif» =>
              simp only [Bool.false_eq_true, ↓reduceIte]
              rcases run_holds scope directive.args (some (directive.line : Int))
                (state.before rest) with ⟨value, last, ran, kept⟩ | ⟨stop, last, ran, failed⟩
              · rw [run_bind_ok ran, State.eq_before kept]
                cases value with
                | true => exact .arm last rfl suffix
                | false => exact (ih last fewer).suffix suffix
              · rw [run_bind_error ran]
                exact .failed failed
          | opens =>
              dsimp only
              rw [extentFrom_inner, EStateM.run_bind, run_skipBlock]
              cases inner : extentFrom [false] rest with
              | closed behind =>
                  have shorter := extentFrom_closed_suffix inner
                  have bound := shorter.length_le
                  exact (ih state (by omega)).suffix (shorter.trans suffix)
              | misplaced culprit behind =>
                  exact .reached ((Extent.misplaced culprit behind).ended_reached state)
              | unclosed => exact .reached (Extent.unclosed.ended_reached state)

theorem runBlock_follows {depth : Nat} {watched real : Dispatch N}
    (heeds : Heeds depth watched real) (context : Context) (condition : String) (state : State N)
    {directives : List (Directive (Handler N))} (opens : OpensBlocks directives) :
    Follows (depth ≤ openings directives) (extentFrom [false] directives)
      ((runBlock watched context condition).run (state.before directives))
      ((runBlock real context condition).run (state.before directives)) := by
  cases skip : context.skip with
  | true =>
      rw [run_runBlock_skip watched skip, run_runBlock_skip real skip]
      exact .reached (Extent.ended_reached _ state)
  | false =>
      obtain ⟨scope, last, ran, kept⟩ : ∃ scope last,
          newScope.run (state.before directives) = .ok scope last ∧
            last.stream = (state.before directives).stream := ⟨_, _, rfl, rfl⟩
      unfold runBlock
      dsimp only [Telling.act, Telling.holds]
      simp only [skip, Bool.false_eq_true, ↓reduceIte]
      rw [run_bind_ok ran, run_bind_ok ran]
      rcases run_holds scope condition none last with
        ⟨value, next, ran, same⟩ | ⟨stop, next, ran, failed⟩
      · rw [run_bind_ok ran, run_bind_ok ran, State.eq_before (same.trans kept)]
        cases value with
        | true =>
            simp only [↓reduceIte]
            rw [run_bind_ok (run_turns_before next directives),
              run_bind_ok (run_turns_before next directives)]
            exact runArm_follows heeds _ next false opens (by omega)
        | false =>
            simp only [Bool.false_eq_true, ↓reduceIte]
            rw [run_bind_ok (run_turns_before next directives),
              run_bind_ok (run_turns_before next directives), EStateM.run_bind, EStateM.run_bind]
            have enough : directives.length < directives.length + 2 := by omega
            have chose := chooseArm_chose scope next enough
            generalize (chooseArm scope (directives.length + 2) : Run N Chosen).run
              (next.before directives) = result at chose
            cases chose with
            | @arm isFallback rest last same suffix =>
                dsimp only
                rw [run_bind_ok (run_turns_before last rest),
                  run_bind_ok (run_turns_before last rest), ← same]
                have enough : rest.length < rest.length + 2 := by omega
                have arm := runArm_follows heeds { context with skip := false } last isFallback
                  (opens.suffix suffix) enough
                have restOpenings := openings_suffix suffix
                exact arm.deeper fun deep => by omega
            | none last closed =>
                rw [closed]
                exact .reached ((Extent.closed _).ended_reached last)
            | failed failed => exact .failed failed
            | reached place => exact .reached place
      · rw [run_bind_error ran]
        exact .failed failed

theorem Follows.blockEnd {deep : Prop} {extent : Extent (Handler N)} {watched real : Ended N Flow}
    (follows : Follows deep extent watched real) (context : Context)
    (directive : Directive (Handler N)) :
    Follows deep extent (blockEnd context directive watched) (blockEnd context directive real) := by
  cases follows with
  | tooDeep depth => exact .tooDeep depth
  | stopped gone => exact .stopped gone
  | @failed stop last real failed =>
      obtain ⟨raised, breaks, ended⟩ := blockEnd_breaks context directive failed
      rw [ended]
      exact .failed breaks
  | finished present => exact .finished present
  | reached place =>
      cases watched with
      | ok flow last =>
          apply Follows.reached
          cases extent with
          | closed rest => exact place
          | misplaced culprit rest => exact place
          | unclosed => exact place
      | error stop last =>
          apply Follows.reached
          cases extent with
          | closed rest => exact False.elim place
          | misplaced culprit rest =>
              obtain ⟨raised, breaks, ended⟩ := blockEnd_breaks context directive place.1
              rw [ended]
              exact ⟨breaks, place.2⟩
          | unclosed =>
              obtain ⟨raised, breaks, ended⟩ := blockEnd_breaks context directive place.1
              rw [ended]
              exact ⟨breaks, place.2⟩

open Classical in
theorem run_quietly (dispatch : Dispatch N) (context : Context) (directive : Directive (Handler N))
    (state : State N) :
    (quietly dispatch context directive).run state =
      match (dispatch context directive).run state with
      | .ok .goOn last =>
          if last.stream = state.stream then .ok .goOn last else .error .exhausted (last.on none)
      | .ok .finish last => .error .exhausted (last.on none)
      | .error _ last => .error .exhausted (last.on none) := rfl

theorem quietly_ordinary (dispatch : Dispatch N) (context : Context)
    (directive : Directive (Handler N)) (state : State N) :
    (∃ last, (quietly dispatch context directive).run state = .ok .goOn last ∧
        (dispatch context directive).run state = .ok .goOn last ∧ last.stream = state.stream) ∨
      ∃ last, (quietly dispatch context directive).run state = .error .exhausted last ∧
        last.stream = none := by
  rw [run_quietly]
  generalize (dispatch context directive).run state = result
  cases result with
  | ok flow last =>
      cases flow with
      | finish => exact .inr ⟨last.on none, rfl, rfl⟩
      | goOn =>
          by_cases kept : last.stream = state.stream
          · simp only [kept, ↓reduceIte]
            exact .inl ⟨last, rfl, rfl, kept⟩
          · simp only [kept, ↓reduceIte]
            exact .inr ⟨last.on none, rfl, rfl⟩
  | error stop last => exact .inr ⟨last.on none, rfl, rfl⟩

theorem watchedTo_heeds (depth : Nat) :
    Heeds (N := N) depth (watchedTo depth) (dispatchTo depth) := by
  induction depth with
  | zero =>
      constructor
      · intro context directive state mark
        exact .inr ⟨state, rfl, .inr rfl⟩
      · intro context directive state rest mark opens
        exact .tooDeep (Nat.zero_le _)
  | succ depth ih =>
      constructor
      · intro context directive state mark
        have ordinary : directive.mark ≠ .opens := by simp [mark]
        simp only [watchedTo, ordinary, ↓reduceIte]
        rcases quietly_ordinary (dispatchTo (depth + 1)) context directive state with
          calm | ⟨last, ended, gone⟩
        · exact .inl calm
        · exact .inr ⟨last, ended, .inl gone⟩
      · intro context directive state rest mark opens
        have block := opens directive List.mem_cons_self mark
        simp only [watchedTo, mark, ↓reduceIte]
        rw [dispatchTo_succ, run_dispatch_block _ _ block rfl, run_dispatch_block _ _ block rfl]
        have fewer := opens.suffix (List.suffix_cons directive rest)
        have inner := runBlock_follows ih context directive.args
          (state.noted .debug (startRow directive.name directive.call)) fewer
        have oneMore : openings (directive :: rest) = openings rest + 1 := by
          simp [openings, mark]
        exact (inner.blockEnd context directive).deeper fun deep => by omega

theorem runIf_before (openStream : Run N (Stream (Handler N))) (dispatch : Dispatch N)
    (context : Context) (condition : String) (state : State N)
    (directives : List (Directive (Handler N))) :
    (runIf openStream dispatch context condition).run (state.before directives) =
      (runBlock dispatch context condition).run (state.before directives) := rfl

/-- How far a block reaches is a matter of the directives alone. A walk over a block to be skipped
goes just so far and does nothing else, and so far goes a run of it that nothing disturbs. -/
theorem runIf_extent (openStream : Run N (Stream (Handler N))) (depth : Nat) (context : Context)
    (condition : String) (directives : List (Directive (Handler N))) (state : State N)
    (opens : OpensBlocks directives) (shallow : openings directives < depth) :
    ∃ extent : Extent (Handler N), extent.Describes directives ∧
      (∀ dispatch skippedCondition,
        (runIf openStream dispatch { context with skip := true } skippedCondition).run
          (state.before directives) = extent.ended .goOn state) ∧
      (¬ Disturbed ((runIf openStream (watchedTo depth) { context with skip := false }
          condition).run (state.before directives)) →
        SameEnd (extent.ended .goOn state)
          ((runIf openStream (dispatchTo depth) { context with skip := false } condition).run
            (state.before directives))) := by
  refine ⟨extentFrom [false] directives, extent_describes directives, ?_, ?_⟩
  · intro dispatch skippedCondition
    rw [runIf_before]
    exact run_runBlock_skip dispatch rfl skippedCondition state directives
  · intro calm
    rw [runIf_before] at calm ⊢
    have follows := runBlock_follows (watchedTo_heeds depth) { context with skip := false }
      condition state opens
    obtain ⟨same, reached⟩ := follows.undisturbed (by omega) calm
    rw [same]
    exact (Extent.ended_reached _ state).sameEnd reached

def brokenBy : Ended N Flow → Option String
  | .error (.fault (.script error)) _ =>
      match error.kind with
      | .conditional code => some code
      | _ => none
  | _ => none

theorem calm_of_brokenBy {result : Ended N Flow} {code : String}
    (broken : brokenBy result = some code) (structural : code ≠ "E15") : ¬ Disturbed result := by
  unfold brokenBy at broken
  split at broken
  next error last =>
    rintro ⟨raised, same, kind⟩
    cases same
    rw [kind] at broken
    exact structural (Option.some.inj broken).symm
  next => cases broken

def blockWord (name : String) (line : Nat) (condition : String := "") :
    Directive (Handler Unit) where
  line := line
  command :=
    { serial := 0, first := ⟨name, name⟩, others := [], description := "", hereDoc := false
      bang := true, source := "builtin", handler := .builtin .ifBlock }
  count := none
  bang := false
  args := condition

def twoFallbacks : List (Directive (Handler Unit)) :=
  [blockWord "else" 2, blockWord "if" 3 "0", blockWord "endif" 4, blockWord "else" 5]

theorem runIf_extent_twoFallbacks :
    ∃ extent : Extent (Handler Unit), extent.Describes twoFallbacks ∧
      (∀ dispatch skippedCondition,
        (runIf openPrompted dispatch { skip := true } skippedCondition).run
          (State.before {} twoFallbacks) = extent.ended .goOn {}) ∧
      SameEnd (extent.ended .goOn {})
        ((runIf openPrompted (dispatchTo 2) {} "0").run (State.before {} twoFallbacks)) := by
  have opens : OpensBlocks twoFallbacks := by simp [OpensBlocks, twoFallbacks, blockWord]
  refine (runIf_extent openPrompted 2 {} "0" twoFallbacks {} opens (by decide)).imp ?_
  intro extent found
  have broken : brokenBy ((runIf openPrompted (watchedTo 2) {} "0").run
      (State.before {} twoFallbacks)) = some "E583" := by decide +kernel
  exact ⟨found.1, found.2.1, found.2.2 (calm_of_brokenBy broken (by decide))⟩

end ExScript.Engine
