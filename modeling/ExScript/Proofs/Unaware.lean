import ExScript.Proofs.Passes
import ExScript.Proofs.ScriptReading

/-!
Scripts with other lines behind them. As long as nothing looks behind its last line, a script does
just what it would do without them, and they stay unread.
-/

namespace ExScript

variable {C : Type}

theorem Reporting.pull_part {registry : Registry C} (reporting : Reporting) {number : Nat}
    {part : Part C} (fits : Assembly.Fits registry number part) {rest : List String}
    (last : part.Unclosed → rest = []) (session : Session) :
    (reporting.stream number (part.lines ++ rest)).pull registry session =
      match part.directive? with
      | some directive =>
          ⟨.ok (some directive), reporting.stream (number + part.lines.length) rest,
            reporting.told number session part⟩
      | none =>
          (reporting.stream (number + part.lines.length) rest).pull registry
            (reporting.told number session part) := by
  obtain ⟨role, begins, found⟩ := fits.begins
  cases begins with
  | skipped line => exact reporting.pull_ignored session found
  | reported line => exact reporting.pull_unknown session found
  | command line directive => exact reporting.pull_command session found
  | heredoc part opened terminator directive =>
      exact reporting.pull_heredoc session found (.heredoc part opened terminator directive) fits
        last

namespace Stream

def followed (more : List String) (stream : Stream C) : Stream C :=
  { stream with atHand := stream.atHand ++ more }

theorem remaining_followed (more : List String) (stream : Stream C) :
    stream.remaining ≤ (stream.followed more).remaining := by
  have longer : stream.atHand.length ≤ (stream.followed more).atHand.length := by
    simp [followed]
  unfold remaining
  exact Nat.add_le_add_right (Nat.add_le_add_right (Nat.add_le_add_right
    (Nat.add_le_add_left longer _) _) _) _

/-- Between two pulls, with the lines of whole parts at hand and nothing asked for behind them. -/
structure Settled (registry : Registry C) (stream : Stream C) : Prop where
  assembled : stream.assembled = []
  prompting : stream.prompting = none
  pending : stream.pending = none
  open_ : stream.ended = false
  whole : ∃ parts, Assembly.Layout registry stream.number parts ∧
    parts.flatMap Part.lines = stream.atHand ∧ ∀ part ∈ parts, ¬ part.Unclosed

theorem Settled.close {registry : Registry C} {stream : Stream C}
    (settled : stream.Settled registry) : stream.close.Settled registry :=
  ⟨settled.assembled, settled.prompting, settled.pending, settled.open_, settled.whole⟩

theorem pull_followed_parts {registry : Registry C} (reporting : Reporting) {number : Nat}
    {parts : List (Part C)} (layout : Assembly.Layout registry number parts)
    (whole : ∀ part ∈ parts, ¬ part.Unclosed) (more : List String) (session : Session) :
    ((reporting.stream number (parts.flatMap Part.lines)).pull registry session).stream.ended =
        true ∨
      ∃ directive next final, next.Settled registry ∧
        (reporting.stream number (parts.flatMap Part.lines)).pull registry session =
          ⟨.ok (some directive), next, final⟩ ∧
        (reporting.stream number (parts.flatMap Part.lines ++ more)).pull registry session =
          ⟨.ok (some directive), next.followed more, final⟩ := by
  induction layout generalizing session with
  | nil => exact .inl rfl
  | @cons number part rest fits last behind ih =>
      have closed : ¬ part.Unclosed := whole part List.mem_cons_self
      have others : ∀ part ∈ rest, ¬ part.Unclosed :=
        fun other member => whole other (List.mem_cons_of_mem _ member)
      rw [List.flatMap_cons, List.append_assoc,
        reporting.pull_part fits (fun unclosed => absurd unclosed closed),
        reporting.pull_part fits (fun unclosed => absurd unclosed closed)]
      cases part.directive? with
      | none => exact ih others _
      | some directive =>
          refine .inr ⟨directive, _, _, ?_, rfl, rfl⟩
          exact ⟨rfl, rfl, rfl, rfl, rest, behind, rfl, others⟩

/-- A pull meets the end of the lines at hand, or it does not look behind them. -/
theorem Settled.pull {registry : Registry C} {stream : Stream C}
    (settled : stream.Settled registry) (more : List String) (session : Session) :
    (stream.pull registry session).stream.ended = true ∨
      ∃ given next final, next.Settled registry ∧
        stream.pull registry session = ⟨.ok given, next, final⟩ ∧
        (stream.followed more).pull registry session = ⟨.ok given, next.followed more, final⟩ := by
  cases closed : stream.closed with
  | true =>
      refine .inr ⟨none, stream, session, settled, ?_, ?_⟩
      · simp [Stream.pull, closed]
      · simp [Stream.pull, followed, closed]
  | false =>
      obtain ⟨path, assembled, atHand, prompting, number, pending, tracked, reports, ended, _⟩ :=
        stream
      obtain ⟨rfl, rfl, rfl, rfl, parts, layout, rfl, whole⟩ := settled
      cases closed
      rcases pull_followed_parts ⟨path, tracked, reports⟩ layout whole more session with
        ended | ⟨directive, next, final, behind, pulled, also⟩
      · exact .inl ended
      · exact .inr ⟨some directive, next, final, behind, pulled, also⟩

end Stream

namespace Engine

variable {N α β : Type}

def Over (state : State N) : Prop :=
  ∃ stream, state.stream = some stream ∧ stream.ended = true

def Settled (state : State N) : Prop :=
  ∃ stream, state.stream = some stream ∧ stream.Settled state.registry

def State.followed (more : List String) (state : State N) : State N :=
  state.on (state.stream.map (·.followed more))

/-- Two runs end alike but for the lines behind, unless the first met the end of its lines. -/
inductive Alike (more : List String) : Ended N α → Ended N α → Prop where
  | ok {value last} (settled : Settled last) :
      Alike more (.ok value last) (.ok value (last.followed more))
  | error {stop last} (settled : Settled last) :
      Alike more (.error stop last) (.error stop (last.followed more))
  | exhausted {last other} : Alike more (.error .exhausted last) other
  | past {value last other} (past : Over last) : Alike more (.ok value last) other
  | broken {stop last other} (past : Over last) : Alike more (.error stop last) other

structure Unaware (more : List String) (action other : Run N α) : Prop where
  past : ∀ state, Over state → Over (after action state)
  alike : ∀ state, Settled state → Alike more (action.run state) (other.run (state.followed more))

namespace Unaware

variable {more : List String}

theorem of_aside {action : Run N α} (aside : Aside action) (keeps : KeepsRegistry action) :
    Unaware more action action := by
  constructor
  · intro state past
    unfold Over
    rw [aside.after_stream]
    exact past
  · intro state settled
    have same : SameKind state.stream (state.stream.map (·.followed more)) := by
      unfold SameKind
      rw [Option.map_map]
      rfl
    have stream := aside.after_stream state
    have registry := keeps state
    have kept : Settled (after action state) := by
      unfold Settled
      rw [stream, registry]
      exact settled
    unfold State.followed
    rw [aside state _ same]
    unfold after at stream kept
    cases ended : action.run state with
    | ok value last =>
        rw [ended] at stream kept
        dsimp only at stream kept
        have alike : Alike more (.ok value last) (.ok value (last.followed more)) := .ok kept
        unfold State.followed at alike
        rwa [stream] at alike
    | error stop last =>
        rw [ended] at stream kept
        dsimp only at stream kept
        have alike : Alike more (.error stop last : Ended N α) (.error stop (last.followed more)) :=
          .error kept
        unfold State.followed at alike
        rwa [stream] at alike

theorem bind {action other : Run N α} {next following : α → Run N β}
    (first : Unaware more action other)
    (second : ∀ value, Unaware more (next value) (following value)) :
    Unaware more (action >>= next) (other >>= following) := by
  constructor
  · exact fun state past => after_bind Over (first.past state past)
      fun value last met => (second value).past last met
  · intro state settled
    have alike := first.alike state settled
    rw [EStateM.run_bind, EStateM.run_bind]
    generalize action.run state = result at alike
    generalize other.run (state.followed more) = also at alike
    cases alike with
    | ok settled => exact (second _).alike _ settled
    | error settled => exact .error settled
    | exhausted => exact .exhausted
    | broken past => exact .broken past
    | @past value last _ past =>
        have met := (second value).past last past
        unfold after at met
        dsimp only
        cases ended : (next value).run last with
        | ok value final =>
            rw [ended] at met
            exact .past met
        | error stop final =>
            rw [ended] at met
            exact .broken met

theorem reading {next : State N → Run N α}
    (blind : ∀ state stream, next (state.on stream) = next state)
    (each : ∀ state, Unaware more (next state) (next state)) :
    Unaware more (get >>= next) (get >>= next) := by
  constructor
  · intro state past
    exact (each state).past state past
  · intro state settled
    have alike := (each state).alike state settled
    rw [run_get_bind, run_get_bind]
    unfold State.followed at alike ⊢
    rwa [blind]

theorem attempt {action other : Run N α} (inside : Unaware more action other) :
    Unaware more (attempt action) (attempt other) := by
  constructor
  · intro state past
    have met := inside.past state past
    unfold after at met ⊢
    rw [run_attempt]
    cases ended : action.run state with
    | ok value last =>
        rw [ended] at met
        exact met
    | error stop last =>
        rw [ended] at met
        cases stop <;> exact met
  · intro state settled
    have alike := inside.alike state settled
    rw [run_attempt, run_attempt]
    generalize action.run state = result at alike
    generalize other.run (state.followed more) = also at alike
    cases alike with
    | ok settled => exact .ok settled
    | exhausted => exact .exhausted
    | past past => exact .past past
    | @error stop last settled =>
        cases stop with
        | fault fault => exact .ok settled
        | exhausted => exact .exhausted
    | @broken stop last _ past =>
        cases stop with
        | fault fault => exact .past past
        | exhausted => exact .exhausted

theorem withScript (path : String) {action other : Run N α} (inside : Unaware more action other) :
    Unaware more (withScript path action) (withScript path other) := by
  constructor
  · intro state past
    have met := inside.past
      { state with session := state.session.enter path } past
    unfold after at met ⊢
    rw [run_withScript]
    generalize action.run _ = result at met
    cases result <;> exact met
  · intro state settled
    have alike := inside.alike
      { state with session := state.session.enter path } settled
    rw [run_withScript, run_withScript]
    unfold State.followed State.on at alike ⊢
    dsimp only at alike ⊢
    generalize action.run _ = result at alike
    generalize other.run _ = also at alike
    cases alike with
    | ok settled => exact .ok settled
    | error settled => exact .error settled
    | exhausted => exact .exhausted
    | past past => exact .past past
    | broken past => exact .broken past

theorem pull : Unaware more (pull : Run N (Option (Directive (Handler N)))) pull := by
  constructor
  · rintro state ⟨stream, current, ended⟩
    rw [after_pull current, Stream.pull_ended ended]
    exact ⟨stream, rfl, ended⟩
  · rintro state ⟨stream, current, settled⟩
    have also : (state.followed more).stream = some (stream.followed more) := by
      simp [State.followed, current]
    rw [run_pull current, run_pull also]
    rcases settled.pull more state.session with ended | ⟨given, next, final, behind, pulled, same⟩
    · generalize stream.pull state.registry state.session = gave at ended
      obtain ⟨result, next, session⟩ := gave
      cases result with
      | ok given => exact .past ⟨next, rfl, ended⟩
      | error fault => exact .broken ⟨next, rfl, ended⟩
    · change (stream.followed more).pull (state.followed more).registry
        (state.followed more).session = _ at same
      rw [pulled, same]
      have kept : Settled { state with stream := some next, session := final } :=
        ⟨next, rfl, behind⟩
      exact .ok kept

theorem closeStream : Unaware more (closeStream : Run N Unit) closeStream := by
  constructor
  · rintro state ⟨stream, current, ended⟩
    exact ⟨stream.close, congrArg State.stream (after_ok (run_closeStream current)), ended⟩
  · rintro state ⟨stream, current, settled⟩
    have also : (state.followed more).stream = some (stream.followed more) := by
      simp [State.followed, current]
    have kept : Settled { state with stream := some stream.close } :=
      ⟨stream.close, rfl, settled.close⟩
    rw [run_closeStream current, run_closeStream also]
    exact .ok kept

end Unaware

theorem unaware_catching (more : List String) :
    Catching (N := N) (fun action => Unaware more action action) where
  pure value := .of_aside (aside_catching.pure value) (keepsRegistry_catching.pure value)
  raise fault := .of_aside (aside_catching.raise fault) (keepsRegistry_catching.raise fault)
  bind first second := first.bind second
  attempt := Unaware.attempt
  note level text uncompleted :=
    .of_aside (aside_catching.note level text uncompleted)
      (keepsRegistry_catching.note level text uncompleted)
  say kind text := .of_aside (aside_catching.say kind text) (keepsRegistry_catching.say kind text)
  locate path line :=
    .of_aside (aside_catching.locate path line) (keepsRegistry_catching.locate path line)

theorem unaware_pervasive (more : List String) :
    Pervasive (N := N) (fun action => Unaware more action action) where
  toFallible := (unaware_catching more).fallible
  fails fault mild :=
    .of_aside (aside_pervasive.fails fault mild) (keepsRegistry_throughout.fails fault mild)
  reading := Unaware.reading
  whereabouts context :=
    .of_aside (aside_pervasive.whereabouts context) (keepsRegistry_throughout.whereabouts context)
  record entry :=
    .of_aside (aside_pervasive.record entry) (keepsRegistry_throughout.record entry)
  evaluate source :=
    .of_aside (aside_pervasive.evaluate source) (keepsRegistry_throughout.evaluate source)
  execute source :=
    .of_aside (aside_pervasive.execute source) (keepsRegistry_throughout.execute source)
  define name value :=
    .of_aside (aside_pervasive.define name value) (keepsRegistry_throughout.define name value)
  runShell args bang :=
    .of_aside (aside_pervasive.runShell args bang) (keepsRegistry_throughout.runShell args bang)
  withScript path _ inside := inside.withScript path
  addStylesheet path :=
    .of_aside (aside_pervasive.addStylesheet path) (keepsRegistry_throughout.addStylesheet path)

namespace Unaware

variable {more : List String}

theorem holds (scope : Expr.Scope) (condition : String) (line : Option Int) :
    Unaware more (holds scope condition line : Run N Bool) (holds scope condition line) :=
  .of_aside (Aside.holds scope condition line) (keepsRegistry_throughout.holds scope condition line)

theorem turns {next following : Nat → Run N α}
    (each : ∀ budget larger, budget ≤ larger → Unaware more (next budget) (following larger)) :
    Unaware more (turns >>= next) (turns >>= following) := by
  constructor
  · intro state past
    obtain ⟨budget, counted⟩ := run_turns state
    unfold after
    rw [run_bind_ok counted]
    exact (each _ _ (Nat.le_refl _)).past state past
  · rintro state ⟨stream, current, settled⟩
    have also : (state.followed more).stream = some (stream.followed more) := by
      simp [State.followed, current]
    rw [run_bind_ok (run_turns_some current), run_bind_ok (run_turns_some also)]
    exact (each _ _ (Nat.succ_le_succ (stream.remaining_followed more))).alike state
      ⟨stream, current, settled⟩

theorem exhausted {other : Run N α}
    : Unaware more (throw .exhausted : Run N α) other :=
  ⟨fun _ past => past, fun _ _ => .exhausted⟩

theorem skipBlocks {budget larger : Nat} (enough : budget ≤ larger) (unclosed : List Bool) :
    Unaware more (skipBlocks budget unclosed : Run N Unit) (skipBlocks larger unclosed) := by
  have closed := unaware_pervasive (N := N) more
  induction budget generalizing larger unclosed with
  | zero =>
      cases unclosed with
      | nil => cases larger <;> exact closed.pure _
      | cons fallbackSeen outer => exact exhausted
  | succ budget ih =>
      obtain ⟨larger, rfl⟩ : ∃ fewer, larger = fewer + 1 := ⟨larger - 1, by omega⟩
      have enough : budget ≤ larger := by omega
      cases unclosed with
      | nil => exact closed.pure _
      | cons fallbackSeen outer =>
          refine pull.bind fun pulled => ?_
          cases pulled with
          | none => exact closed.raise _
          | some directive =>
              dsimp only
              split
              · exact ih enough _
              · split
                · exact closed.raise _
                · exact ih enough _
              · split
                · exact closed.raise _
                · exact ih enough _
              · exact ih enough _
              · exact ih enough _

theorem skipBlock (fallbackSeen : Bool) :
    Unaware more (skipBlock fallbackSeen : Run N Unit) (skipBlock fallbackSeen) :=
  turns fun _ _ enough => skipBlocks enough _

theorem chooseArm (scope : Expr.Scope) {budget larger : Nat} (enough : budget ≤ larger) :
    Unaware more (chooseArm scope budget : Run N Chosen) (chooseArm scope larger) := by
  have closed := unaware_pervasive (N := N) more
  induction budget generalizing larger with
  | zero => exact exhausted
  | succ budget ih =>
      obtain ⟨larger, rfl⟩ : ∃ fewer, larger = fewer + 1 := ⟨larger - 1, by omega⟩
      have enough : budget ≤ larger := by omega
      refine pull.bind fun pulled => ?_
      cases pulled with
      | none => exact closed.raise _
      | some directive =>
          dsimp only
          split
          · exact (skipBlock _).bind fun _ => ih enough
          · refine (holds _ _ _).bind fun value => ?_
            split
            · exact closed.pure _
            · exact ih enough
          · exact closed.pure _
          · exact closed.pure _
          · exact ih enough

theorem finished :
    Unaware more (do
      Engine.closeStream
      pure .finish : Run N Flow) (do
      Engine.closeStream
      pure .finish) :=
  closeStream.bind fun _ => (unaware_pervasive more).pure _

section Dispatching

variable {dispatch : Dispatch N}
  (dispatched : ∀ context directive,
    Unaware more (dispatch context directive) (dispatch context directive))

include dispatched

theorem runArm (context : Context) (isFallback : Bool) {budget larger : Nat}
    (enough : budget ≤ larger) :
    Unaware more (runArm dispatch context isFallback budget)
      (runArm dispatch context isFallback larger) := by
  have closed := unaware_pervasive (N := N) more
  have skipped (fallbackSeen : Bool) :
      Unaware more (do
        Engine.skipBlock fallbackSeen
        pure .goOn : Run N Flow) (do
        Engine.skipBlock fallbackSeen
        pure .goOn) :=
    (skipBlock fallbackSeen).bind fun _ => closed.pure _
  induction budget generalizing larger with
  | zero => exact exhausted
  | succ budget ih =>
      obtain ⟨larger, rfl⟩ : ∃ fewer, larger = fewer + 1 := ⟨larger - 1, by omega⟩
      have enough : budget ≤ larger := by omega
      refine pull.bind fun pulled => ?_
      cases pulled with
      | none => exact skipped isFallback
      | some directive =>
          dsimp only
          split
          · split
            · exact closed.raise _
            · exact skipped false
          · split
            · exact closed.raise _
            · exact skipped true
          · exact closed.pure _
          · exact closed.bind (closed.note _ _ (.append (by decide) _)) fun _ => finished
          · refine (dispatched _ _).bind fun flow => ?_
            cases flow with
            | finish => exact finished
            | goOn => exact ih enough

theorem runBlock (context : Context) (condition : String) :
    Unaware more (runBlock dispatch context condition) (runBlock dispatch context condition) := by
  have closed := unaware_pervasive (N := N) more
  unfold Engine.runBlock
  dsimp only [Telling.act, Telling.holds]
  split
  · exact (skipBlock _).bind fun _ => closed.pure _
  · refine (of_aside Aside.newScope keepsRegistry_throughout.newScope).bind fun scope => ?_
    refine (holds _ _ _).bind fun value => ?_
    split
    · exact turns fun _ _ enough => runArm dispatched _ _ enough
    · refine turns fun budget larger enough => ?_
      refine (chooseArm scope enough).bind fun chosen => ?_
      cases chosen with
      | arm isFallback => exact turns fun _ _ enough => runArm dispatched _ _ enough
      | none => exact closed.pure _

theorem runStream (context : Context) {budget larger : Nat} (enough : budget ≤ larger) :
    Unaware more (runStream dispatch context budget) (runStream dispatch context larger) := by
  have closed := unaware_pervasive (N := N) more
  induction budget generalizing larger with
  | zero => exact exhausted
  | succ budget ih =>
      obtain ⟨larger, rfl⟩ : ∃ fewer, larger = fewer + 1 := ⟨larger - 1, by omega⟩
      have enough : budget ≤ larger := by omega
      refine pull.bind fun pulled => ?_
      cases pulled with
      | none => exact closed.pure _
      | some directive =>
          dsimp only
          split
          · exact finished
          · refine (dispatched _ _).bind fun flow => ?_
            cases flow with
            | finish => exact finished
            | goOn => exact ih enough

theorem runIf (openStream : Run N (Stream (Handler N))) (context : Context) (condition : String) :
    Unaware more (runIf openStream dispatch context condition)
      (runIf openStream dispatch context condition) := by
  have block := runBlock dispatched context condition
  have here (state : State N) (stream : Stream (Handler N))
      (current : state.stream = some stream) :
      (Engine.runIf openStream dispatch context condition).run state =
        (Engine.runBlock dispatch context condition).run state := by
    unfold Engine.runIf
    rw [run_get_bind]
    rw [current]
  constructor
  · rintro state ⟨stream, current, ended⟩
    unfold after
    rw [here state stream current]
    exact block.past state ⟨stream, current, ended⟩
  · rintro state ⟨stream, current, settled⟩
    have also : (state.followed more).stream = some (stream.followed more) := by
      simp [State.followed, current]
    rw [here state stream current, here _ _ also]
    exact block.alike state ⟨stream, current, settled⟩

end Dispatching

theorem ownStreams {dispatch : Dispatch N}
    (keeps : ∀ context directive, KeepsRegistry (dispatch context directive)) :
    OwnStreams (fun action => Unaware more action action) dispatch where
  script stream path :=
    .of_aside (Aside.withStream _ _) ((keepsRegistry_throughout.streamed keeps).script stream path)
  line prompting initial :=
    .of_aside (Aside.withStream _ _)
      ((keepsRegistry_throughout.streamed keeps).line prompting initial)
  delegate program :=
    .of_aside (Aside.withoutStream _) ((keepsRegistry_throughout.ownStreams keeps).delegate program)

/-- Commands have no other way to the lines of a script than pulls that look behind them. -/
theorem dispatchTo (depth : Nat) (context : Context) (directive : Directive (Handler N)) :
    Unaware more (dispatchTo depth context directive) (dispatchTo depth context directive) := by
  have closed := unaware_pervasive (N := N) more
  induction depth generalizing context directive with
  | zero => exact exhausted
  | succ depth ih =>
      have own : OwnStreams (fun action => Unaware more action action)
          (Engine.dispatchTo depth : Dispatch N) :=
        ownStreams (dispatchTo_keepsRegistry depth)
      rw [dispatchTo_succ]
      refine closed.dispatchBy (closed.executes ?_)
      unfold handle
      split
      next builtin known =>
        cases forms : builtin.formsBlocks with
        | false =>
            have sourcing := closed.sourcing own fun path =>
              .of_aside (Aside.recordScript path) (KeepsRegistry.recordScript path)
            exact closed.runBuiltin sourcing context _ forms
        | true =>
            cases builtin <;> cases forms
            · exact (runIf ih openPrompted context _).bind fun _ => closed.pure _
            · exact closed.raise _
            · exact closed.raise _
            · exact closed.raise _
      next program known =>
        exact closed.interpret (closed.calling own.toStreamed) context
          (fun fault _ => closed.raise fault) (fun _ => ⟨pull, closeStream⟩)
          (anything_within _)

end Unaware

end Engine

end ExScript
