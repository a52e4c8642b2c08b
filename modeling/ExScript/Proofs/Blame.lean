import ExScript.Proofs.Scripted
import ExScript.Proofs.Standing

/-!
Scripts whose block structure breaks. The error ends the script, and its place is that of the
directive to blame: either it is raised there, or without a line, which then is filled in where the
block that broke was entered.
-/

namespace ExScript.Engine

variable {N α β : Type} {path : String} {opener : Option Nat} {front : List (Event N)}
  {Q : α → List (Event N) → Prop} {R : β → List (Event N) → Prop} {state : State N}

/-- An error of block structure on its way out of the blocks that were entered at a line, or out of
all. The first place that is filled in is that of the directive to blame. -/
structure Broken (path : String) (opener : Option Nat) (before : List (Event N)) (code : String)
    (culprit : Directive (Handler N)) (error : ScriptError) : Prop where
  kind : error.kind = .conditional code
  path : error.path.or (opener.map fun _ => path) = some path
  line : error.line.or (opener.map Int.ofNat) = some (Int.ofNat culprit.line)
  fromScript : FromScript culprit
  blames : Blames before code culprit

/-- How a run on a script goes on behind what was met before. If the structure breaks, that is the
last that is met. -/
inductive Goes (path : String) (opener : Option Nat) (front : List (Event N))
    (Q : α → List (Event N) → Prop) : List (Event N) × Ended N α → Prop where
  | ok {events value last} (script : InScript last) (unbroken : Unbroken events)
      (good : Q value (front ++ events)) : Goes path opener front Q (events, .ok value last)
  | exhausted {events last} (unbroken : Unbroken events) :
      Goes path opener front Q (events, .error .exhausted last)
  | broke {events code culprit error last} (unbroken : Unbroken events)
      (broken : Broken path opener (front ++ events) code culprit error) :
      Goes path opener front Q (events ++ [.broke code last.session.channel.history.toList],
        .error (.fault (.script error)) last)

namespace Goes

theorem bind {first : Course N α} {next : α → Course N β}
    (goes : Goes path opener front Q (first state))
    (each : ∀ events value last, InScript last → Q value (front ++ events) →
      Goes path opener (front ++ events) R (next value last)) :
    Goes path opener front R ((first >>= next) state) := by
  have whole : (first >>= next) state = Course.onward (first state).1 next (first state).2 := rfl
  rw [whole]
  generalize first state = result at goes
  cases goes with
  | @ok events value last script unbroken good =>
      have behind := each events value last script good
      unfold Course.onward
      dsimp only
      generalize next value last = result at behind
      cases behind with
      | @ok more _ final after still good =>
          rw [List.append_assoc] at good
          exact .ok after (unbroken.append still) good
      | exhausted still => exact .exhausted (unbroken.append still)
      | broke still broken =>
          rw [List.append_assoc] at broken
          rw [← List.append_assoc]
          exact .broke (unbroken.append still) broken
  | exhausted unbroken => exact .exhausted unbroken
  | broke unbroken broken => exact .broke unbroken broken

theorem mono {Q R : α → List (Event N) → Prop} {result : List (Event N) × Ended N α}
    (goes : Goes path opener front Q result)
    (weaker : ∀ value total, Q value total → R value total) :
    Goes path opener front R result := by
  cases goes with
  | ok script unbroken good => exact .ok script unbroken (weaker _ _ good)
  | exhausted unbroken => exact .exhausted unbroken
  | broke unbroken broken => exact .broke unbroken broken

theorem pure {value : α} (script : InScript state) (good : Q value front) :
    Goes path opener front Q ((pure value : Course N α) state) := by
  refine .ok script unbroken_nil ?_
  rwa [List.append_nil]

theorem behind {result : List (Event N) × Ended N α} (goes : Goes path none [] Q result)
    (opener : Option Nat) (front : List (Event N)) :
    Goes path opener front (fun value total => ∃ events, total = front ++ events ∧ Q value events)
      result := by
  cases goes with
  | ok script unbroken good => exact .ok script unbroken ⟨_, rfl, good⟩
  | exhausted unbroken => exact .exhausted unbroken
  | broke unbroken broken =>
      have place := broken.path
      have line := broken.line
      simp only [Option.map_none, Option.or_none] at place line
      exact .broke unbroken ⟨broken.kind, by rw [place]; rfl, by rw [line]; rfl,
        broken.fromScript, broken.blames.prepend front⟩

theorem exhausts (state : State N) :
    Goes path opener front Q ((Course.silent (throw .exhausted) : Course N α) state) :=
  .exhausted unbroken_nil

theorem silent {action : Run N α} (script : InScript state) (shares : Shares action)
    (keeps : KeepsRegistry action) {value : α} {last : State N}
    (ended : action.run state = .ok value last) (good : Q value front) :
    Goes path opener front Q (Course.silent action state) := by
  have whole : Course.silent action state = ([], action.run state) := rfl
  rw [whole, ended]
  refine .ok (script.ok shares keeps ended) unbroken_nil ?_
  rwa [List.append_nil]

theorem turns (script : InScript state) :
    Goes path opener front (fun _ total => total = front) (Course.silent turns state) := by
  obtain ⟨budget, counted⟩ := run_turns state
  exact silent script shares_throughout.turns keepsRegistry_throughout.turns counted rfl

theorem finished {Q : Flow → List (Event N) → Prop} (script : InScript state)
    (good : Q .finish front) : Goes path opener front Q (Course.finished state) := by
  obtain ⟨stream, current, -⟩ := script.stream
  exact silent script shares_throughout.finished keepsRegistry_throughout.finished
    (run_finished current) good

theorem breaks {fault : Fault} {error : ScriptError} {code : String}
    {culprit : Directive (Handler N)} (same : fault = .script error)
    (broken : Broken path opener front code culprit error) (state : State N) :
    Goes path opener front Q ((Course.breaking code (raise fault) : Course N α) state) := by
  subst same
  have broken : Broken path opener (front ++ []) code culprit error := by rwa [List.append_nil]
  exact .broke unbroken_nil broken

theorem malformed {opening : Nat} {code : String} (known : code = "E583" ∨ code = "E584")
    {culprit : Directive (Handler N)} (tidy : FromScript culprit)
    (blames : Blames front code culprit) (state : State N) :
    Goes path (some opening) front Q
      ((Course.breaking code (raise (malformed code culprit.line)) : Course N α) state) := by
  rcases known with rfl | rfl
  · exact breaks rfl ⟨rfl, rfl, rfl, tidy, blames⟩ state
  · exact breaks rfl ⟨rfl, rfl, rfl, tidy, blames⟩ state

theorem meet {event : Event N} (calm : ∀ code shown, event ≠ .broke code shown)
    (script : InScript state) :
    Goes path opener front (fun _ total => total = front ++ [event]) (Course.meet event state) :=
  .ok script (fun code shown member => calm code shown (List.mem_singleton.mp member).symm) rfl

end Goes

def Told (front : List (Event N)) : Option (Directive (Handler N)) → List (Event N) → Prop
  | none, total => total = front ++ [.ended]
  | some directive, total => total = front ++ [.met directive] ∧ FromScript directive

theorem pull_goes (script : InScript state) :
    Goes path opener front (Told front) (Course.pull state) := by
  obtain ⟨given, last, ended, -, fromScript⟩ := script.pull
  have first : Goes path opener front (fun value total => value = given ∧ total = front)
      (Course.silent pull state) :=
    .silent script shares_throughout.pull keepsRegistry_throughout.pull ended ⟨rfl, rfl⟩
  refine first.bind fun events value last behind good => ?_
  obtain ⟨rfl, same⟩ := good
  rw [same]
  cases value with
  | none => exact (Goes.meet (by simp) behind).bind fun _ _ _ after met => .pure after met
  | some directive =>
      exact (Goes.meet (by simp) behind).bind fun _ _ _ after met =>
        .pure after ⟨met, fromScript directive rfl⟩

theorem runIn_unplaced (world : Expr.World) (outside : Expr.Outside) (scope : Expr.Scope)
    (source : String) {error : ScriptError}
    (failed : (world.runIn outside scope source).1 = .error error) :
    error.path = none ∧ error.line = none := by
  unfold Expr.World.runIn at failed
  dsimp only at failed
  split at failed
  · cases failed
    exact ⟨rfl, rfl⟩
  · split at failed
    · cases failed
      exact ⟨rfl, rfl⟩
    · split at failed
      · cases failed
      · cases failed
        exact ⟨rfl, rfl⟩

theorem ofCondition_unplaced {error : ScriptError}
    (unplaced : error.path = none ∧ error.line = none) {line : Option Int}
    (somewhere : line ≠ some 0) :
    ∃ message, Fault.ofCondition error line =
      .script ⟨.conditional "E15", message, none, line⟩ := by
  unfold Fault.ofCondition Fault.conditional
  rw [unplaced.1, unplaced.2]
  cases line with
  | none => split <;> exact ⟨_, rfl⟩
  | some number =>
      have other : number ≠ 0 := fun zero => somewhere (congrArg some zero)
      simp only [other, ↓reduceIte]
      split <;> exact ⟨_, rfl⟩

theorem run_holds_error {scope : Expr.Scope} {condition : String} {line : Option Int}
    (somewhere : line ≠ some 0) {stop : Stop} {last : State N}
    (failed : (holds scope condition line).run state = .error stop last) :
    ∃ message, stop = .fault (.script ⟨.conditional "E15", message, none, line⟩) := by
  have judged := holds_judged scope condition line state
  rw [failed] at judged
  cases judged with
  | fault evaluated =>
      obtain ⟨message, same⟩ := ofCondition_unplaced (runIn_unplaced _ _ _ _ evaluated) somewhere
      exact ⟨message, congrArg Stop.fault same⟩

theorem holds_goes (script : InScript state) {opening : Nat} {scope : Expr.Scope}
    {condition : String} {line : Option Int} {culprit : Directive (Handler N)}
    (tidy : FromScript culprit)
    (place : line.or (some (Int.ofNat opening)) = some (Int.ofNat culprit.line))
    (blames : Blames (front ++ [.judged scope condition]) "E15" culprit) :
    Goes path (some opening) front (fun _ total => total = front ++ [.judged scope condition])
      (Course.holds scope condition line state) := by
  refine (Goes.meet (by simp) script).bind fun events _ last after met => ?_
  rw [met]
  have somewhere : line ≠ some 0 := by
    rintro rfl
    have zero : culprit.line = 0 := by simpa using place.symm
    have first := tidy.line
    omega
  unfold Course.breaking
  cases ended : (holds scope condition line).run last with
  | ok value final =>
      have behind := after.ok (shares_throughout.holds scope condition line)
        (keepsRegistry_throughout.holds scope condition line) ended
      exact .ok behind unbroken_nil (List.append_nil _)
  | error stop final =>
      obtain ⟨message, rfl⟩ := run_holds_error somewhere ended
      refine .broke unbroken_nil ⟨rfl, rfl, place, tidy, ?_⟩
      rwa [List.append_nil]

structure InBlock (opening : Directive (Handler N)) (events : List (Event N))
    (unclosed : List Bool) : Prop where
  fromScript : FromScript opening
  mark : opening.mark = .opens
  split : ∃ inner, events = .dispatched opening :: inner ∧ Standing inner unclosed

theorem run_stray (dispatch : Dispatch N) (context : Context) (call : Call) {builtin : Builtin}
    {code : String} (stray : builtin.stray? = some code) :
    ∃ message, runBuiltin dispatch context call builtin =
      raise (.script ⟨.conditional code, message, none, none⟩) := by
  cases builtin <;> cases stray <;> exact ⟨_, rfl⟩

section Blocks

variable {opening : Directive (Handler N)} {unclosed : List Bool} {fallbackSeen : Bool}

namespace InBlock

theorem on (inBlock : InBlock opening front unclosed) {more : List (Event N)} {left : List Bool}
    (leads : ∀ inner, Standing inner unclosed → Standing (inner ++ more) left) :
    InBlock opening (front ++ more) left := by
  obtain ⟨inner, rfl, standing⟩ := inBlock.split
  exact ⟨inBlock.fromScript, inBlock.mark, inner ++ more, rfl, leads inner standing⟩

theorem ended (inBlock : InBlock opening front (fallbackSeen :: unclosed)) :
    InBlock opening (front ++ [.ended]) (fallbackSeen :: unclosed) :=
  inBlock.on fun _ standing => standing.unmet (noneOpen_of_undispatched (by simp)) rfl

theorem judged (inBlock : InBlock opening front (fallbackSeen :: unclosed)) (scope : Expr.Scope)
    (condition : String) :
    InBlock opening (front ++ [.judged scope condition]) (fallbackSeen :: unclosed) :=
  inBlock.on fun _ standing => standing.unmet (noneOpen_of_undispatched (by simp)) rfl

theorem seen (inBlock : InBlock opening front (true :: unclosed)) :
    FallbackSeen 0 (metIn front) := by
  obtain ⟨inner, rfl, standing⟩ := inBlock.split
  rw [metIn_dispatched]
  exact standing.scanned.innermost.mp rfl

theorem missingEnd (inBlock : InBlock opening front (fallbackSeen :: unclosed)) (state : State N) :
    Goes path (some opening.line) (front ++ [.ended]) Q
      ((Course.breaking "E171" (raise missingEnd) : Course N α) state) := by
  obtain ⟨inner, rfl, standing⟩ := inBlock.split
  have blames : Blames ([] ++ .dispatched opening :: (inner ++ [.ended])) "E171" opening :=
    .unclosed inBlock.mark standing.scanned.inside standing.noneOpen
  exact .breaks rfl ⟨rfl, rfl, rfl, inBlock.fromScript, blames⟩ state

theorem lateArm (inBlock : InBlock opening front (true :: unclosed))
    {directive : Directive (Handler N)} (tidy : FromScript directive)
    (mark : directive.mark = .elseif) (state : State N) :
    Goes path (some opening.line) (front ++ [.met directive]) Q
      ((Course.breaking "E584" (raise (malformed "E584" directive.line)) : Course N α) state) :=
  .malformed (.inr rfl) tidy (.lateArm mark inBlock.seen) state

theorem secondFallback (inBlock : InBlock opening front (true :: unclosed))
    {directive : Directive (Handler N)} (tidy : FromScript directive)
    (mark : directive.mark = .fallback) (state : State N) :
    Goes path (some opening.line) (front ++ [.met directive]) Q
      ((Course.breaking "E583" (raise (malformed "E583" directive.line)) : Course N α) state) :=
  .malformed (.inl rfl) tidy (.secondFallback mark inBlock.seen) state

end InBlock

theorem skipBlocks_goes (turns : Nat) {below : List Bool} (script : InScript state)
    (inBlock : InBlock opening front (unclosed ++ below)) :
    Goes path (some opening.line) front (fun _ total => InBlock opening total below)
      ((skipBlocks turns unclosed : Course N Unit) state) := by
  induction turns generalizing unclosed front state with
  | zero =>
      cases unclosed with
      | nil => exact .pure script inBlock
      | cons fallbackSeen outer => exact .exhausts state
  | succ turns ih =>
      cases unclosed with
      | nil => exact .pure script inBlock
      | cons fallbackSeen outer =>
          refine (pull_goes script).bind fun events given last behind told => ?_
          cases given with
          | none =>
              rw [told]
              exact inBlock.missingEnd last
          | some directive =>
              rw [told.1]
              dsimp only
              cases mark : directive.mark with
              | opens => exact ih behind (inBlock.on fun _ standing => standing.opens mark)
              | elseif =>
                  cases fallbackSeen with
                  | true => exact inBlock.lateArm told.2 mark last
                  | false => exact ih behind (inBlock.on fun _ standing => standing.elseif mark)
              | fallback =>
                  cases fallbackSeen with
                  | true => exact inBlock.secondFallback told.2 mark last
                  | false => exact ih behind (inBlock.on fun _ standing => standing.fallback mark)
              | closes => exact ih behind (inBlock.on fun _ standing => standing.closes mark)
              | finish | plain =>
                  exact ih behind (inBlock.on fun _ standing => standing.plain (by simp [mark]))

theorem skipBlock_goes {below : List Bool} (script : InScript state)
    (inBlock : InBlock opening front (fallbackSeen :: below)) :
    Goes path (some opening.line) front (fun _ total => InBlock opening total below)
      ((skipBlock fallbackSeen : Course N Unit) state) := by
  refine (Goes.turns script).bind fun events budget last behind same => ?_
  rw [same]
  exact skipBlocks_goes budget behind inBlock

def Chooses (opening : Directive (Handler N)) : Chosen → List (Event N) → Prop
  | .arm isFallback, total => InBlock opening total [isFallback]
  | .none, total => InBlock opening total []

theorem chooseArm_goes (scope : Expr.Scope) (turns : Nat) (script : InScript state)
    (inBlock : InBlock opening front [false]) :
    Goes path (some opening.line) front (Chooses opening)
      ((chooseArm scope turns : Course N Chosen) state) := by
  induction turns generalizing front state with
  | zero => exact .exhausts state
  | succ turns ih =>
      refine (pull_goes script).bind fun events given last behind told => ?_
      cases given with
      | none =>
          rw [told]
          exact inBlock.missingEnd last
      | some directive =>
          rw [told.1]
          dsimp only
          cases mark : directive.mark with
          | opens =>
              have nested := inBlock.on fun _ standing => standing.opens mark
              refine (skipBlock_goes behind nested).bind fun _ _ _ after left => ?_
              exact ih after left
          | elseif =>
              have arm := inBlock.on fun _ standing => standing.elseif mark
              have blames : Blames (front ++ [.met directive] ++ [.judged scope directive.args])
                  "E15" directive := by
                rw [List.append_assoc]
                exact .armCondition mark
              refine (holds_goes behind told.2 rfl blames).bind fun _ value _ after same => ?_
              rw [same]
              cases value with
              | true => exact .pure after (arm.judged scope directive.args)
              | false => exact ih after (arm.judged scope directive.args)
          | fallback =>
              exact .pure behind (inBlock.on fun _ standing => standing.fallback mark)
          | closes => exact .pure behind (inBlock.on fun _ standing => standing.closes mark)
          | finish | plain =>
              exact ih behind (inBlock.on fun _ standing => standing.plain (by simp [mark]))

structure Passed (directive : Directive (Handler N)) (inner : List (Event N)) : Prop where
  block : directive.mark = .opens → Standing inner []
  other : directive.mark ≠ .opens → inner = []

def Handled (directive : Directive (Handler N)) (flow : Flow) (events : List (Event N)) : Prop :=
  flow = .goOn → ∃ inner, events = .dispatched directive :: inner ∧ Passed directive inner

theorem InBlock.passed (inBlock : InBlock opening front [fallbackSeen])
    {directive : Directive (Handler N)}
    (ordinary : directive.mark = .opens ∨ directive.mark = .plain) {inner : List (Event N)}
    (passed : Passed directive inner) :
    InBlock opening (front ++ [.met directive] ++ .dispatched directive :: inner)
      [fallbackSeen] := by
  rw [List.append_assoc]
  refine inBlock.on fun _ standing => ?_
  rcases ordinary with mark | mark
  · exact standing.block mark (passed.block mark)
  · have other : directive.mark ≠ .opens := by simp [mark]
    have nothing := passed.other other
    subst nothing
    have behind := (standing.plain (.inl mark)).unmet (noneOpen_dispatched other) rfl
    rwa [List.append_assoc] at behind

def LeavesBlock (opening : Directive (Handler N)) (flow : Flow) (total : List (Event N)) : Prop :=
  flow = .goOn → InBlock opening total []

theorem skipRest_goes (script : InScript state) (inBlock : InBlock opening front [fallbackSeen]) :
    Goes path (some opening.line) front (LeavesBlock opening)
      ((skipBlock fallbackSeen >>= fun _ => pure .goOn : Course N Flow) state) :=
  (skipBlock_goes script inBlock).bind fun _ _ _ after left => .pure after fun _ => left

theorem finish_goes (script : InScript state) (directive : Directive (Handler N)) :
    Goes path (some opening.line) front (LeavesBlock opening)
      ((Course.silent (note .debug ("conditional.finish line=" ++ toString directive.line)) >>=
        fun _ => Course.finished) state) := by
  have noted : Goes path (some opening.line) front (fun _ _ => True) (Course.silent
      (note .debug ("conditional.finish line=" ++ toString directive.line)) state) :=
    .silent script (shares_throughout.note _ _ (.append (by decide) _))
      (keepsRegistry_throughout.note _ _ (.append (by decide) _)) (run_note _ _ _) trivial
  exact noted.bind fun _ _ _ after _ => .finished after Flow.noConfusion

variable {told : Context → Directive (Handler N) → Course N Flow}
  (handled : ∀ (state : State N) directive, InScript state → FromScript directive →
    Goes path none [] (Handled directive) (told { path := some path } directive state))

include handled

theorem ordinary_goes {directive : Directive (Handler N)}
    (ordinary : directive.mark = .opens ∨ directive.mark = .plain) (tidy : FromScript directive)
    (script : InScript state) (inBlock : InBlock opening front [fallbackSeen])
    {next : Flow → Course N Flow} (finished : next .finish = Course.finished)
    (onward : ∀ inner last, InScript last →
      InBlock opening (front ++ [.met directive] ++ .dispatched directive :: inner)
        [fallbackSeen] →
      Goes path (some opening.line)
        (front ++ [.met directive] ++ .dispatched directive :: inner) (LeavesBlock opening)
        (next .goOn last)) :
    Goes path (some opening.line) (front ++ [.met directive]) (LeavesBlock opening)
      ((told { path := some path } directive >>= next) state) := by
  have goes := (handled state directive script tidy).behind (some opening.line)
    (front ++ [.met directive])
  -- Behind the directive, its own events say whether a block that it opened was closed.
  refine goes.bind fun _ flow last after met => ?_
  obtain ⟨events, total, goesOn⟩ := met
  cases flow with
  | finish =>
      rw [finished]
      exact .finished after Flow.noConfusion
  | goOn =>
      obtain ⟨inner, rfl, passed⟩ := goesOn rfl
      rw [total]
      exact onward inner last after (inBlock.passed ordinary passed)

theorem runArm_goes (isFallback : Bool) (turns : Nat) (script : InScript state)
    (inBlock : InBlock opening front [isFallback]) :
    Goes path (some opening.line) front (LeavesBlock opening)
      (runArm told { path := some path } isFallback turns state) := by
  induction turns generalizing front state with
  | zero => exact .exhausts state
  | succ turns ih =>
      refine (pull_goes script).bind fun events given last behind same => ?_
      cases given with
      | none =>
          rw [same]
          exact skipRest_goes behind inBlock.ended
      | some directive =>
          rw [same.1]
          dsimp only
          cases mark : directive.mark with
          | elseif =>
              cases isFallback with
              | true => exact inBlock.lateArm same.2 mark last
              | false =>
                  exact skipRest_goes behind (inBlock.on fun _ standing => standing.elseif mark)
          | fallback =>
              cases isFallback with
              | true => exact inBlock.secondFallback same.2 mark last
              | false =>
                  exact skipRest_goes behind (inBlock.on fun _ standing => standing.fallback mark)
          | closes =>
              exact .pure behind fun _ => inBlock.on fun _ standing => standing.closes mark
          | finish => exact finish_goes behind directive
          | opens =>
              exact ordinary_goes handled (.inl mark) same.2 behind inBlock rfl
                fun _ _ after inside => ih after inside
          | plain =>
              exact ordinary_goes handled (.inr mark) same.2 behind inBlock rfl
                fun _ _ after inside => ih after inside

theorem runBlock_goes (script : InScript state) (tidy : FromScript opening)
    (mark : opening.mark = .opens) :
    Goes path (some opening.line) [.dispatched opening] (LeavesBlock opening)
      (runBlock told { path := some path } opening.args state) := by
  have inBlock : InBlock opening [.dispatched opening] [false] := ⟨tidy, mark, [], rfl, .start⟩
  have entered : Goes path (some opening.line) [.dispatched opening]
      (fun _ total => total = [.dispatched opening]) (Course.silent newScope state) := by
    obtain ⟨within, ran, -⟩ := run_newScope state
    exact .silent script shares_throughout.newScope keepsRegistry_throughout.newScope ran rfl
  have blames (scope : Expr.Scope) :
      Blames ([] ++ [.dispatched opening, .judged scope opening.args]) "E15" opening :=
    .condition mark
  refine entered.bind fun _ scope _ behind same => ?_
  rw [same]
  refine (holds_goes behind tidy rfl (blames scope)).bind fun _ value _ after same => ?_
  rw [same]
  have judged := inBlock.judged scope opening.args
  cases value with
  | true =>
      refine (Goes.turns after).bind fun _ budget _ counted same => ?_
      rw [same]
      exact runArm_goes handled false budget counted judged
  | false =>
      refine (Goes.turns after).bind fun _ budget _ counted same => ?_
      rw [same]
      refine (chooseArm_goes scope budget counted judged).bind fun _ chosen _ next chooses => ?_
      cases chosen with
      | arm isFallback =>
          refine (Goes.turns next).bind fun _ budget _ counted same => ?_
          rw [same]
          exact runArm_goes handled isFallback budget counted chooses
      | none => exact .pure next fun _ => chooses

theorem execute_block (dispatch : Dispatch N) {directive : Directive (Handler N)}
    (script : InScript state) (tidy : FromScript directive)
    (opens : directive.command.handler = .builtin .ifBlock) :
    Goes path (some directive.line) [.dispatched directive]
      (fun outcome total => LeavesBlock directive outcome.next total)
      (Course.execute told dispatch { path := some path } directive state) := by
  obtain ⟨stream, current, -⟩ := script.stream
  have present : state.stream.isSome = true := by
    rw [current]
    rfl
  have block : Goes path (some directive.line) [.dispatched directive] (LeavesBlock directive)
      (Course.runIf told dispatch { path := some path } directive.args state) := by
    unfold Course.runIf
    rw [if_pos present]
    exact runBlock_goes handled script tidy (tidy.opens_iff.mpr opens)
  unfold Course.execute
  simp only [opens]
  exact block.bind fun _ flow _ after leaves => .pure after leaves

omit handled

theorem execute_stray (dispatch : Dispatch N) {Q : Outcome → List (Event N) → Prop}
    {directive : Directive (Handler N)} (tidy : FromScript directive) {builtin : Builtin}
    {code : String}
    (handler : directive.command.handler = .builtin builtin)
    (stray : builtin.stray? = some code) :
    Goes path (some directive.line) [.dispatched directive] Q
      (Course.execute told dispatch { path := some path } directive state) := by
  obtain ⟨message, raises⟩ :=
    run_stray dispatch { path := some path } directive.call stray
  have blames : Blames ([] ++ [.dispatched directive]) code directive := .stray handler stray
  have breaks : Course.execute told dispatch { path := some path } directive state =
      Course.breaking code (runBuiltin dispatch { path := some path } directive.call builtin)
        state := by
    unfold Course.execute
    cases builtin <;> cases stray <;> simp only [handler, Builtin.stray?]
  rw [breaks, raises]
  exact .breaks rfl ⟨rfl, rfl, rfl, tidy, blames⟩ state

theorem execute_silent (dispatch : Dispatch N) {directive : Directive (Handler N)}
    (context : Context) (within : Within .mild directive) :
    (Course.execute told dispatch context directive state).1 = [] := by
  unfold Course.execute
  unfold Within at within
  cases known : directive.command.handler with
  | builtin builtin =>
      rw [known] at within
      cases builtin <;> first | rfl | cases within
  | host program => rfl

end Blocks

theorem InScript.noted (script : InScript state) (level : Level) (text : String) :
    InScript (state.noted level text) :=
  ⟨script.only, script.stream⟩

theorem Goes.contain {directive : Directive (Handler N)} {Q : Outcome → List (Event N) → Prop}
    {events : List (Event N)} {action : Run N Outcome}
    (goes : Goes path (some directive.line) [.dispatched directive] Q
      (events, action.run (state.noted .debug (startRow directive.name directive.call)))) :
    Goes path none [] (fun flow total => ∃ outcome, flow = outcome.next ∧ Q outcome total)
      (.dispatched directive :: events,
        (Course.contain { path := some path } directive action).run state) := by
  have calm {more : List (Event N)} (unbroken : Unbroken more) :
      Unbroken (.dispatched directive :: more) := by
    intro code shown member
    rcases List.mem_cons.mp member with same | later
    · cases same
    · exact unbroken code shown later
  unfold Course.contain
  rw [run_dispatchBy, run_logged]
  generalize action.run (state.noted .debug (startRow directive.name directive.call)) = result
    at goes
  cases goes with
  | @ok _ outcome last script unbroken good =>
      exact .ok (script.noted _ _) (calm unbroken) ⟨outcome, rfl, good⟩
  | exhausted unbroken => exact .exhausted (calm unbroken)
  | @broke before code culprit error last unbroken broken =>
      have structural : structural? (.script error) = some error := by
        simp only [structural?, broken.kind]
      have filled : Broken path none ([] ++ .dispatched directive :: before) code culprit
          (attributed (some path) directive.line error) :=
        ⟨broken.kind, (Option.or_none ..).trans broken.path, (Option.or_none ..).trans broken.line,
          broken.fromScript, broken.blames⟩
      dsimp only
      rw [structural]
      exact @Goes.broke _ _ _ _ _ _ (.dispatched directive :: before) code culprit _
        ((last.noted .debug (errorRow directive.name)).noted .debug (endRow directive.name))
        (calm unbroken) filled

theorem FromScript.within {directive : Directive (Handler N)} (tidy : FromScript directive)
    (noBlock : directive.command.handler ≠ .builtin .ifBlock)
    (noStray : ∀ builtin, directive.command.handler = .builtin builtin → builtin.stray? = none) :
    Within .mild directive := by
  unfold Within
  cases known : directive.command.handler with
  | builtin builtin =>
      have noStray := noStray builtin known
      rw [known] at noBlock
      cases builtin <;> first | rfl | exact absurd rfl noBlock | cases noStray
  | host program => exact tidy.tidy.mild program directive.call known

theorem dispatchTo_mild (depth : Nat) {directive : Directive (Handler N)} (script : InScript state)
    (within : Within .mild directive) (other : directive.mark ≠ .opens) :
    Goes path none [] (Handled directive)
      (Course.dispatchTo (depth + 1) { path := some path } directive state) := by
  have tells := Course.Tells.dispatchTo (depth + 1) { path := some path } directive state
  have silent : (Course.dispatchTo (depth + 1) { path := some path } directive state).1 =
      [.dispatched directive] :=
    congrArg (Event.dispatched directive :: ·) (execute_silent _ { path := some path } within)
  have unbroken : Unbroken [Event.dispatched directive] := by
    intro code shown member
    simp at member
  generalize Course.dispatchTo (depth + 1) { path := some path } directive state = result
    at silent tells
  obtain ⟨events, ended⟩ := result
  subst silent
  dsimp only at tells
  cases ended with
  | ok flow last =>
      have behind := script.ok (shares_throughout.dispatchTo Shares.recordScript _ _ _)
        (dispatchTo_keepsRegistry _ _ _) tells.symm
      exact .ok behind unbroken fun _ => ⟨[], rfl, fun opens => absurd opens other, fun _ => rfl⟩
  | error stop last =>
      have tooDeep := dispatchTo_stop _ _ within tells.symm
      subst tooDeep
      exact .exhausted unbroken

theorem dispatchTo_goes (depth : Nat) {directive : Directive (Handler N)} (script : InScript state)
    (tidy : FromScript directive) :
    Goes path none [] (Handled directive)
      (Course.dispatchTo depth { path := some path } directive state) := by
  induction depth generalizing directive state with
  | zero => exact .exhausts state
  | succ depth ih =>
      have started := script.noted .debug (startRow directive.name directive.call)
      by_cases opens : directive.command.handler = .builtin .ifBlock
      · have executed := execute_block (fun _ _ script tidy => ih script tidy)
          (Engine.dispatchTo depth) started tidy opens
        refine executed.contain.mono ?_
        rintro _ total ⟨outcome, rfl, leaves⟩ goesOn
        obtain ⟨inner, rfl, standing⟩ := (leaves goesOn).split
        exact ⟨inner, rfl, fun _ => standing, fun other => absurd (tidy.opens_iff.mpr opens) other⟩
      · by_cases stray : ∃ builtin code, directive.command.handler = .builtin builtin ∧
            builtin.stray? = some code
        · obtain ⟨builtin, code, known, stray⟩ := stray
          have executed : Goes path (some directive.line) [.dispatched directive] (fun _ _ => False)
              (Course.execute (Course.dispatchTo depth) (Engine.dispatchTo depth)
                { path := some path } directive
                (state.noted .debug (startRow directive.name directive.call))) :=
            execute_stray _ tidy known stray
          refine executed.contain.mono ?_
          rintro flow total ⟨outcome, -, impossible⟩
          exact impossible.elim
        · refine dispatchTo_mild depth script (tidy.within opens fun builtin known => ?_)
            fun mark => opens (tidy.opens_iff.mp mark)
          cases straying : builtin.stray? with
          | none => rfl
          | some code => exact absurd ⟨builtin, code, known, straying⟩ stray

theorem runStream_goes (depth turns : Nat) (script : InScript state) :
    Goes path none front (fun _ _ => True)
      (runStream (Course.dispatchTo depth) { path := some path } turns state) := by
  induction turns generalizing front state with
  | zero => exact .exhausts state
  | succ turns ih =>
      refine (pull_goes script).bind fun events given last behind told => ?_
      cases given with
      | none => exact .pure behind trivial
      | some directive =>
          dsimp only
          split
          · exact .finished behind trivial
          · have goes : Goes path none [] (Handled directive) _ :=
              dispatchTo_goes depth behind told.2
            refine (goes.behind none (front ++ events)).bind fun _ flow _ after _ => ?_
            cases flow with
            | finish => exact .finished after trivial
            | goOn => exact ih after

end ExScript.Engine
