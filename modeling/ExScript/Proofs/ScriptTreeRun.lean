import ExScript.Proofs.ScriptTree
import ExScript.Proofs.Skipping

/-!
Running the directives of a tree one after another comes to what running the tree does.
-/

namespace ExScript.Engine

variable {N : Type}

mutual

theorem Script.extentFrom_flatten (fallbackSeen : Bool) (outer : List Bool)
    (rest : List (Directive (Handler N))) (script : Script N) :
    extentFrom (fallbackSeen :: outer) (script.flatten ++ rest) =
      extentFrom (fallbackSeen :: outer) rest := by
  cases script with
  | done => rfl
  | command command following =>
      simp only [Script.flatten, List.cons_append, extentFrom, command.marked]
      exact Script.extentFrom_flatten fallbackSeen outer rest following
  | finish marker following =>
      simp only [Script.flatten, List.cons_append, extentFrom, marker.marked]
      exact Script.extentFrom_flatten fallbackSeen outer rest following
  | block opening body arms following =>
      simp only [Script.flatten, List.cons_append, List.append_assoc, extentFrom, opening.marked]
      rw [Script.extentFrom_flatten, Arms.extentFrom_flatten]
      exact Script.extentFrom_flatten fallbackSeen outer rest following

theorem Arms.extentFrom_flatten (outer : List Bool) (rest : List (Directive (Handler N)))
    (arms : Arms N) :
    extentFrom (false :: outer) (arms.flatten ++ rest) = extentFrom outer rest := by
  cases arms with
  | closed closing =>
      simp only [Arms.flatten, List.cons_append, List.nil_append, extentFrom, closing.marked]
  | fallback marker body closing =>
      simp only [Arms.flatten, List.cons_append, List.append_assoc, extentFrom, marker.marked,
        Bool.false_eq_true, ↓reduceIte]
      rw [Script.extentFrom_flatten]
      simp only [List.nil_append, extentFrom, closing.marked]
  | «elseif» marker body following =>
      simp only [Arms.flatten, List.cons_append, List.append_assoc, extentFrom, marker.marked,
        Bool.false_eq_true, ↓reduceIte]
      rw [Script.extentFrom_flatten]
      exact Arms.extentFrom_flatten outer rest following

end

structure Reads (dispatch : Dispatch N) (context : Context) (nested : Bool)
    (read : (turns : Nat) → Run N Flow) : Prop where
  dispatched : ∀ turns (state : State N) directive rest,
    directive.mark = .plain ∨ directive.mark = .opens →
      (read (turns + 1)).run (state.before (directive :: rest)) =
        (do
          match ← dispatch context directive with
          | .finish => do
              closeStream
              pure .finish
          | .goOn => read turns : Run N Flow).run (state.before rest)
  finish : ∀ turns (state : State N) directive rest, directive.mark = .finish →
    (read (turns + 1)).run (state.before (directive :: rest)) =
      (do
        if nested then
          note .debug ("conditional.finish line=" ++ toString directive.line)
        closeStream
        pure .finish : Run N Flow).run (state.before rest)

theorem mark_finish_iff (directive : Directive (Handler N)) :
    directive.mark = .finish ↔ directive.name = "finish" := by
  unfold Directive.mark Mark.ofName
  split <;> simp_all

theorem runStream_reads (dispatch : Dispatch N) (context : Context) :
    Reads dispatch context false (runStream dispatch context) where
  dispatched turns state directive rest mark := by
    have other : directive.name ≠ "finish" := by
      intro named
      rw [← mark_finish_iff] at named
      rcases mark with mark | mark <;> simp [mark] at named
    rw [runStream_pulled (run_pull_cons _ _ _)]
    exact congrArg (fun action : Run N Flow => action.run (state.before rest)) (if_neg other)
  finish turns state directive rest mark := by
    rw [mark_finish_iff] at mark
    rw [runStream_pulled (run_pull_cons _ _ _)]
    simp only [mark, ↓reduceIte]
    rfl

theorem runArm_reads (dispatch : Dispatch N) (context : Context) (isFallback : Bool) :
    Reads dispatch context true (runArm dispatch context isFallback) where
  dispatched turns state directive rest mark := by
    rw [runArm_pulled (run_pull_cons _ _ _)]
    generalize directive.mark = found at mark ⊢
    rcases mark with rfl | rfl <;> rfl
  finish turns state directive rest mark := by
    rw [runArm_pulled (run_pull_cons _ _ _)]
    simp only [mark]
    rfl

def Fatal (stop : Stop) : Prop :=
  stop = .exhausted ∨ ∃ code, Breaks code stop

/-- How a run that reads from a stream compares with one on an empty stream that does not. Behind
the latter the former still goes on. -/
inductive Tracks (behind : (last : State N) → (real : Ended N Flow) → Prop) :
    (reference real : Ended N Flow) → Prop where
  | goOn {last real} (kept : last.stream = some (Stream.ofDirectives []))
      (on : behind last real) : Tracks behind (.ok .goOn last) real
  | finish {last} (stream : Stream (Handler N)) :
      Tracks behind (.ok .finish last) (.ok .finish (last.on (some stream)))
  | broken {stop last} (stream : Stream (Handler N)) (fatal : Fatal stop) :
      Tracks behind (.error stop last) (.error stop (last.on (some stream)))

def Closes (rest : List (Directive (Handler N))) (last : State N) (real : Ended N Flow) : Prop :=
  real = .ok .goOn (last.before rest)

namespace Tracks

variable {behind further : State N → Ended N Flow → Prop} {reference real : Ended N Flow}
  {rest : List (Directive (Handler N))}

theorem imp (tracks : Tracks behind reference real)
    (weaker : ∀ last real, behind last real → further last real) :
    Tracks further reference real := by
  cases tracks with
  | goOn kept on => exact .goOn kept (weaker _ _ on)
  | finish stream => exact .finish stream
  | broken stream fatal => exact .broken stream fatal

theorem blockEnd (tracks : Tracks (Closes rest) reference real) (context : Context)
    (directive : Directive (Handler N)) :
    Tracks (Closes rest) (blockEnd context directive reference)
      (blockEnd context directive real) := by
  cases tracks with
  | goOn kept on =>
      rw [on]
      exact .goOn kept rfl
  | finish stream => exact .finish stream
  | broken stream fatal =>
      rcases fatal with rfl | ⟨code, breaks⟩
      · exact .broken stream (.inl rfl)
      · obtain ⟨raised, breaks, ended⟩ := blockEnd_breaks context directive breaks
        rw [ended, ended]
        exact .broken stream (.inr ⟨code, breaks⟩)

theorem andThen {first second next following : Run N Flow} {start state : State N}
    (tracks : Tracks (Closes rest) (first.run start) (second.run state))
    (on : ∀ last : State N, last.stream = some (Stream.ofDirectives []) →
      Tracks behind (next.run last) (following.run (last.before rest))) :
    Tracks behind
      ((do
        match ← first with
        | .finish => pure .finish
        | .goOn => next : Run N Flow).run start)
      ((do
        match ← second with
        | .finish => do
            closeStream
            pure .finish
        | .goOn => following : Run N Flow).run state) := by
  rw [EStateM.run_bind, EStateM.run_bind]
  generalize first.run start = reference at tracks
  generalize second.run state = real at tracks
  cases tracks with
  | @goOn last real kept here =>
      rw [here]
      exact on last kept
  | finish stream => exact .finish stream.close
  | broken stream fatal => exact .broken stream fatal

end Tracks

theorem runArm_arms (dispatch : Dispatch N) (context : Context) (arms : Arms N)
    (rest : List (Directive (Handler N))) (state : State N) (budget : Nat) :
    (runArm dispatch context false (budget + 1)).run (state.before (arms.flatten ++ rest)) =
      .ok .goOn (state.before rest) := by
  cases arms with
  | closed closing =>
      simp only [Arms.flatten, List.cons_append, List.nil_append]
      rw [runArm_pulled (run_pull_cons _ _ _)]
      simp only [closing.marked]
      rfl
  | fallback marker body closing =>
      simp only [Arms.flatten, List.cons_append, List.append_assoc, List.nil_append]
      rw [runArm_pulled (run_pull_cons _ _ _)]
      simp only [marker.marked, Bool.false_eq_true, ↓reduceIte]
      rw [run_skipRest, Script.extentFrom_flatten]
      simp only [extentFrom, closing.marked, Extent.ended]
  | «elseif» marker body following =>
      simp only [Arms.flatten, List.cons_append, List.append_assoc]
      rw [runArm_pulled (run_pull_cons _ _ _)]
      simp only [marker.marked, Bool.false_eq_true, ↓reduceIte]
      rw [run_skipRest, Script.extentFrom_flatten, Arms.extentFrom_flatten]
      simp only [extentFrom, Extent.ended]

theorem runArm_closing (dispatch : Dispatch N) (context : Context) (closing : Marked N .closes)
    (rest : List (Directive (Handler N))) (isFallback : Bool) (state : State N) (budget : Nat) :
    (runArm dispatch context isFallback (budget + 1)).run
        (state.before (closing.directive :: rest)) = .ok .goOn (state.before rest) := by
  rw [runArm_pulled (run_pull_cons _ _ _)]
  simp only [closing.marked]
  rfl

theorem chooseArm_flatten (scope : Expr.Scope) (rest : List (Directive (Handler N)))
    (state : State N) (script : Script N) {budget : Nat}
    (enough : (script.flatten ++ rest).length < budget) :
    ∃ left, rest.length < left ∧
      (chooseArm scope budget : Run N Chosen).run (state.before (script.flatten ++ rest)) =
        (chooseArm scope left : Run N Chosen).run (state.before rest) := by
  obtain ⟨budget, rfl⟩ : ∃ fewer, budget = fewer + 1 := ⟨budget - 1, by omega⟩
  cases script with
  | done => exact ⟨budget + 1, enough, rfl⟩
  | command command following =>
      have fewer : (following.flatten ++ rest).length < budget := by
        simpa [Script.flatten] using enough
      obtain ⟨left, more, same⟩ := chooseArm_flatten scope rest state following fewer
      refine ⟨left, more, ?_⟩
      simp only [Script.flatten, List.cons_append]
      rw [← same, chooseArm_pulled (run_pull_cons _ _ _)]
      simp only [command.marked]
  | finish marker following =>
      have fewer : (following.flatten ++ rest).length < budget := by
        simpa [Script.flatten] using enough
      obtain ⟨left, more, same⟩ := chooseArm_flatten scope rest state following fewer
      refine ⟨left, more, ?_⟩
      simp only [Script.flatten, List.cons_append]
      rw [← same, chooseArm_pulled (run_pull_cons _ _ _)]
      simp only [marker.marked]
  | block opening body arms following =>
      have fewer : (following.flatten ++ rest).length < budget := by
        simp only [Script.flatten, List.cons_append, List.length_cons, List.length_append] at enough
        simp only [List.length_append]
        omega
      obtain ⟨left, more, same⟩ := chooseArm_flatten scope rest state following fewer
      refine ⟨left, more, ?_⟩
      simp only [Script.flatten, List.cons_append, List.append_assoc]
      rw [← same, chooseArm_pulled (run_pull_cons _ _ _)]
      simp only [opening.marked]
      rw [EStateM.run_bind, run_skipBlock, Script.extentFrom_flatten, Arms.extentFrom_flatten]
      simp only [extentFrom, Extent.ended]

def ReadsOn (read : Nat → Run N Flow) (rest : List (Directive (Handler N))) (last : State N)
    (real : Ended N Flow) : Prop :=
  ∃ left, rest.length < left ∧ real = (read left).run (last.before rest)

theorem dispatchTo_tracks (depth : Nat) (context : Context) (command : OrdinaryCommand N)
    {behind : State N → Ended N Flow → Prop} {next following : Run N Flow}
    {state : State N} {rest : List (Directive (Handler N))}
    (on : ∀ last : State N, last.stream = some (Stream.ofDirectives []) →
      Tracks behind (next.run last) (following.run (last.before rest))) :
    Tracks behind
      ((do
        let _ ← dispatchTo depth context command.directive
        next : Run N Flow).run (state.before []))
      ((do
        match ← dispatchTo depth context command.directive with
        | .finish => do
            closeStream
            pure .finish
        | .goOn => following : Run N Flow).run (state.before rest)) := by
  have tame : Within .tame command.directive := Handler.Within.tame command.ordinary
  have aside := dispatchTo_aside depth context (Handler.Within.streamless tame)
  rw [EStateM.run_bind, EStateM.run_bind, aside.run_before state rest]
  cases ended : (dispatchTo depth context command.directive).run (state.before []) with
  | ok flow last =>
      have kept : last.stream = some (Stream.ofDirectives []) := aside.ok_stream ended
      obtain rfl := dispatchTo_goesOn depth context command.ordinary _ _ _ ended
      exact on last kept
  | error stop last =>
      obtain rfl := dispatchTo_stop depth context (Handler.Within.mild tame) ended
      exact .broken _ (.inl rfl)

theorem holds_tracks {behind : State N → Ended N Flow → Prop} (scope : Expr.Scope)
    (condition : String) (line : Option Int) {first second : Bool → Run N Flow} {state : State N}
    {rest : List (Directive (Handler N))}
    (on : ∀ value (last : State N),
      Tracks behind ((first value).run (last.before [])) ((second value).run (last.before rest))) :
    Tracks behind ((holds scope condition line >>= first).run (state.before []))
      ((holds scope condition line >>= second).run (state.before rest)) := by
  have aside : Aside (holds scope condition line : Run N Bool) := Aside.holds scope condition line
  rw [EStateM.run_bind, EStateM.run_bind, aside.run_before state rest]
  rcases run_holds scope condition line (state.before []) with
    ⟨value, last, ran, kept⟩ | ⟨stop, last, ran, breaks⟩
  · rw [ran, State.eq_before kept]
    exact on value last
  · rw [ran]
    exact .broken _ (.inr ⟨"E15", breaks⟩)

def runChosen (dispatch : Dispatch N) (context : Context) (scope : Expr.Scope) (budget : Nat) :
    Run N Flow := do
  match ← chooseArm scope budget with
  | .arm isFallback => runArm dispatch context isFallback (← turns)
  | .none => pure .goOn

theorem runBlock_tracks {dispatch : Dispatch N} {context : Context} (noSkip : context.skip = false)
    (condition : String) {directives rest : List (Directive (Handler N))} {body : Run N Flow}
    {arms : Expr.Scope → Run N Flow}
    (onBody : ∀ (state : State N) budget, directives.length < budget →
      Tracks (Closes rest) (body.run (state.before []))
        ((runArm dispatch context false budget).run (state.before directives)))
    (onArms : ∀ scope (state : State N) budget, directives.length < budget →
      Tracks (Closes rest) ((arms scope).run (state.before []))
        ((runChosen dispatch context scope budget).run (state.before directives)))
    (state : State N) :
    Tracks (Closes rest)
      ((do
        let scope ← newScope
        if ← holds scope condition none then body else arms scope : Run N Flow).run
          (state.before []))
      ((runBlock dispatch context condition).run (state.before directives)) := by
  have inArm : { context with skip := false } = context := by
    cases context
    cases noSkip
    rfl
  unfold runBlock
  dsimp only [Telling.act, Telling.holds]
  simp only [noSkip, Bool.false_eq_true, ↓reduceIte, inArm]
  rw [EStateM.run_bind, EStateM.run_bind, Aside.newScope.run_before state directives]
  cases entered : newScope.run (state.before []) with
  | error stop last => cases entered
  | ok scope last =>
      have kept : last = last.before [] := State.eq_before (Aside.newScope.ok_stream entered)
      rw [kept]
      refine holds_tracks scope condition none fun value next => ?_
      cases value with
      | true => exact onBody next (directives.length + 2) (by omega)
      | false => exact onArms scope next (directives.length + 2) (by omega)

theorem Tracks.throughArms {dispatch : Dispatch N} {context : Context} {arms : Arms N}
    {rest : List (Directive (Handler N))} {reference real : Ended N Flow}
    (tracks : Tracks (ReadsOn (runArm dispatch context false) (arms.flatten ++ rest)) reference
      real) : Tracks (Closes rest) reference real := by
  refine tracks.imp ?_
  rintro last real ⟨left, enough, rfl⟩
  obtain ⟨left, rfl⟩ : ∃ fewer, left = fewer + 1 := ⟨left - 1, by omega⟩
  exact runArm_arms dispatch context arms rest last left

theorem Tracks.throughClosing {dispatch : Dispatch N} {context : Context} {isFallback : Bool}
    {closing : Marked N .closes} {rest : List (Directive (Handler N))}
    {reference real : Ended N Flow}
    (tracks : Tracks (ReadsOn (runArm dispatch context isFallback) (closing.directive :: rest))
      reference real) : Tracks (Closes rest) reference real := by
  refine tracks.imp ?_
  rintro last real ⟨left, enough, rfl⟩
  obtain ⟨left, rfl⟩ : ∃ fewer, left = fewer + 1 := ⟨left - 1, by omega⟩
  exact runArm_closing dispatch context closing rest isFallback last left

theorem runChosen_flatten (dispatch : Dispatch N) (context : Context) (scope : Expr.Scope)
    (rest : List (Directive (Handler N))) (state : State N) (script : Script N) {budget : Nat}
    (enough : (script.flatten ++ rest).length < budget) :
    ∃ left, rest.length < left ∧
      (runChosen dispatch context scope budget).run (state.before (script.flatten ++ rest)) =
        (runChosen dispatch context scope left).run (state.before rest) := by
  obtain ⟨left, more, same⟩ := chooseArm_flatten scope rest state script enough
  refine ⟨left, more, ?_⟩
  unfold runChosen
  rw [EStateM.run_bind, EStateM.run_bind, same]

theorem runChosen_elseif (dispatch : Dispatch N) (context : Context) (scope : Expr.Scope)
    (budget : Nat) (state : State N) (marker : Marked N .elseif)
    (rest : List (Directive (Handler N))) :
    (runChosen dispatch context scope (budget + 1)).run (state.before (marker.directive :: rest)) =
      (do
        if ← holds scope marker.directive.args (some (marker.directive.line : Int)) then
          runArm dispatch context false (← turns)
        else runChosen dispatch context scope budget).run (state.before rest) := by
  unfold runChosen
  rw [EStateM.run_bind, chooseArm_pulled (run_pull_cons _ _ _)]
  simp only [marker.marked]
  rw [← EStateM.run_bind, bind_assoc]
  congr 2
  funext value
  cases value <;> rfl

mutual

theorem Script.tracks {depth : Nat} {context : Context} {nested : Bool} {read : Nat → Run N Flow}
    (reads : Reads (dispatchTo depth) context nested read) (noSkip : context.skip = false)
    (rest : List (Directive (Handler N))) (state : State N) (script : Script N) {budget : Nat}
    (enough : (script.flatten ++ rest).length < budget) :
    Tracks (ReadsOn read rest) ((script.run context depth nested).run (state.before []))
      ((read budget).run (state.before (script.flatten ++ rest))) := by
  obtain ⟨budget, rfl⟩ : ∃ fewer, budget = fewer + 1 := ⟨budget - 1, by omega⟩
  cases script with
  | done => exact .goOn rfl ⟨budget + 1, enough, rfl⟩
  | command command following =>
      simp only [Script.flatten, List.cons_append, Script.run] at enough ⊢
      rw [reads.dispatched budget state command.directive _ (.inl command.marked)]
      refine dispatchTo_tracks depth context command fun last kept => ?_
      rw [State.eq_before kept]
      exact Script.tracks reads noSkip rest last following (by simpa using enough)
  | finish marker following =>
      simp only [Script.flatten, List.cons_append, Script.run]
      rw [reads.finish budget state marker.directive _ marker.marked]
      cases nested with
      | true => exact .finish (Stream.ofDirectives (following.flatten ++ rest)).close
      | false => exact .finish (Stream.ofDirectives (following.flatten ++ rest)).close
  | block opening body arms following =>
      simp only [Script.flatten, List.cons_append, List.append_assoc] at enough ⊢
      rw [reads.dispatched budget state opening.directive _ (.inr opening.marked)]
      cases depth with
      | zero => exact .broken _ (.inl rfl)
      | succ inner =>
          simp only [Script.run]
          have block : Tracks (Closes (following.flatten ++ rest))
              ((opened context opening.directive do
                let scope ← newScope
                if ← holds scope opening.directive.args none then body.run context inner true
                else arms.run context inner scope).run (state.before []))
              ((dispatchTo (inner + 1) context opening.directive).run
                (state.before
                  (body.flatten ++ (arms.flatten ++ (following.flatten ++ rest))))) := by
            rw [dispatchTo_succ, run_dispatch_block _ _ opening.opens rfl, run_opened]
            refine Tracks.blockEnd ?_ context opening.directive
            refine runBlock_tracks noSkip opening.directive.args ?_ ?_ (state.noted .debug
              (startRow opening.directive.name opening.directive.call))
            · intro state budget enough
              exact (Script.tracks (runArm_reads (dispatchTo inner) context false) noSkip
                (arms.flatten ++ (following.flatten ++ rest)) state body enough).throughArms
            · intro scope state budget enough
              obtain ⟨left, more, same⟩ := runChosen_flatten (dispatchTo inner) context scope
                (arms.flatten ++ (following.flatten ++ rest)) state body enough
              rw [same]
              exact Arms.tracks inner scope noSkip (following.flatten ++ rest) state arms more
          refine block.andThen fun last kept => ?_
          rw [State.eq_before kept]
          refine Script.tracks reads noSkip rest last following ?_
          simp only [List.length_cons, List.length_append] at enough ⊢
          omega

theorem Arms.tracks (depth : Nat) {context : Context} (scope : Expr.Scope)
    (noSkip : context.skip = false) (rest : List (Directive (Handler N))) (state : State N)
    (arms : Arms N) {budget : Nat} (enough : (arms.flatten ++ rest).length < budget) :
    Tracks (Closes rest) ((arms.run context depth scope).run (state.before []))
      ((runChosen (dispatchTo depth) context scope budget).run
        (state.before (arms.flatten ++ rest))) := by
  obtain ⟨budget, rfl⟩ : ∃ fewer, budget = fewer + 1 := ⟨budget - 1, by omega⟩
  cases arms with
  | closed closing =>
      simp only [Arms.flatten, List.cons_append, List.nil_append, Arms.run]
      unfold runChosen
      rw [EStateM.run_bind, chooseArm_pulled (run_pull_cons _ _ _)]
      simp only [closing.marked]
      exact .goOn rfl rfl
  | fallback marker body closing =>
      simp only [Arms.flatten, List.cons_append, List.append_assoc, List.nil_append, Arms.run]
      unfold runChosen
      rw [EStateM.run_bind, chooseArm_pulled (run_pull_cons _ _ _)]
      simp only [marker.marked]
      have enough : (body.flatten ++ closing.directive :: rest).length <
          (body.flatten ++ closing.directive :: rest).length + 2 := by omega
      exact (Script.tracks (runArm_reads (dispatchTo depth) context true) noSkip
        (closing.directive :: rest) state body enough).throughClosing
  | «elseif» marker body following =>
      simp only [Arms.flatten, List.cons_append, List.append_assoc, Arms.run] at enough ⊢
      rw [runChosen_elseif]
      refine holds_tracks scope marker.directive.args _ fun value last => ?_
      cases value with
      | true =>
          have enough : (body.flatten ++ (following.flatten ++ rest)).length <
              (body.flatten ++ (following.flatten ++ rest)).length + 2 := by omega
          exact (Script.tracks (runArm_reads (dispatchTo depth) context false) noSkip
            (following.flatten ++ rest) last body enough).throughArms
      | false =>
          obtain ⟨left, more, same⟩ := runChosen_flatten (dispatchTo depth) context scope
            (following.flatten ++ rest) last body (by simpa using enough)
          simp only [Bool.false_eq_true, ↓reduceIte]
          rw [same]
          exact Arms.tracks depth scope noSkip rest last following more

end

theorem Script.run_flatten (script : Script N) (depth : Nat) (path : String) (state : State N) :
    (withStream (Stream.ofDirectives script.flatten)
      (do runStream (dispatchTo depth) { path := some path } (← turns))).run state =
        (withStream (Stream.ofDirectives [])
          (script.run { path := some path } depth false)).run state := by
  have enough : (script.flatten ++ []).length < script.flatten.length + 2 := by simp
  have tracks := Script.tracks (runStream_reads (dispatchTo depth) { path := some path }) rfl []
    state script enough
  have turned : (do runStream (dispatchTo depth) { path := some path } (← turns)).run
      (state.before script.flatten) = (runStream (dispatchTo depth) { path := some path }
        (script.flatten.length + 2)).run (state.before script.flatten) :=
    run_bind_ok (run_turns_before state script.flatten)
  rw [List.append_nil, ← turned] at tracks
  rw [run_withStream, run_withStream]
  change Tracks _ (EStateM.run _ { state with stream := some (Stream.ofDirectives []) })
    (EStateM.run _ { state with stream := some (Stream.ofDirectives script.flatten) }) at tracks
  generalize EStateM.run _ { state with stream := some (Stream.ofDirectives script.flatten) } =
    real at tracks ⊢
  generalize EStateM.run _ { state with stream := some (Stream.ofDirectives []) } =
    reference at tracks ⊢
  cases tracks with
  | @goOn last real kept on =>
      obtain ⟨left, more, rfl⟩ := on
      obtain ⟨left, rfl⟩ : ∃ fewer, left = fewer + 1 := ⟨left - 1, by omega⟩
      rw [runStream_nothing (run_pull_nil last)]
      rfl
  | finish stream => rfl
  | broken stream fatal => rfl

/-- The directives of a script, run from a stream of their own, do just what the script as a tree
does on a stream that it takes nothing from. The scope that it makes for each of its blocks is one
that was not there before and holds the user's names; a condition is evaluated in the scope that it
is given and binds names nowhere else. -/
theorem runStream_flatten (script : Script N) (depth : Nat) (path : String) :
    (∀ state : State N, (withStream (Stream.ofDirectives script.flatten)
      (do runStream (dispatchTo depth) { path := some path } (← turns))).run state =
        (withStream (Stream.ofDirectives [])
          (script.run { path := some path } depth false)).run state) ∧
    (∀ state : State N, OpensScope state (newScope.run state)) ∧
    ∀ scope condition line (state : State N),
      Judged scope condition line state ((holds scope condition line).run state) :=
  ⟨script.run_flatten depth path, newScope_opens, holds_judged⟩

end ExScript.Engine
