import ExScript.Proofs.Coupling
import ExScript.Proofs.Extent
import ExScript.Proofs.ScriptReading

/-!
Blocks that are run side by side, at the prompt and in a script. Both runs go through the same arms,
and neither pulls a directive that is behind the end of the block.
-/

namespace ExScript.Engine

variable {N α β : Type} {registry : Registry (Handler N)} {extra : List String} {total : Nat}
  {directive : Directive (Handler N)} {rest : List (Directive (Handler N))} {name : String}

def Behind (registry : Registry (Handler N)) (extra : List String) (total : Nat)
    (extent : Extent (Handler N)) (state other : State N) : Prop :=
  ∃ rest, extent = .closed rest ∧ Facing registry extra total rest state other

def Onwards (registry : Registry (Handler N)) (extra : List String) (total : Nat)
    (extent : Extent (Handler N)) : Flow → State N → State N → Prop
  | .goOn => Behind registry extra total extent
  | .finish => fun state other => Counterpart state other ∧ state.stream.isSome = true ∧
      other.stream.isSome = true

/-- An arm that is chosen lies ahead, and the block reaches from there as far as before. -/
def Arrives (registry : Registry (Handler N)) (extra : List String) (total : Nat)
    (directives : List (Directive (Handler N))) (extent : Extent (Handler N)) :
    Chosen → State N → State N → Prop
  | .arm isFallback => fun state other => ∃ rest, rest <:+ directives ∧
      extentFrom [isFallback] rest = extent ∧ Facing registry extra total rest state other
  | .none => Behind registry extra total extent

theorem Arrives.suffix {shorter directives : List (Directive (Handler N))}
    {extent : Extent (Handler N)} {chosen : Chosen} {state other : State N}
    (arrives : Arrives registry extra total shorter extent chosen state other)
    (suffix : shorter <:+ directives) :
    Arrives registry extra total directives extent chosen state other := by
  cases chosen with
  | arm isFallback =>
      obtain ⟨rest, within, same, facing⟩ := arrives
      exact ⟨rest, within.trans suffix, same, facing⟩
  | none => exact arrives

namespace Couples

theorem skipBlocks {unclosed : List Bool} {budget allowance : Nat} (enough : rest.length < budget)
    (also : rest.length < allowance) (ends : extentFrom unclosed rest ≠ .unclosed) :
    Couples (Facing registry extra total rest)
      (fun _ => Behind registry extra total (extentFrom unclosed rest))
      (Engine.skipBlocks budget unclosed) (Engine.skipBlocks allowance unclosed) := by
  induction rest generalizing unclosed budget allowance with
  | nil =>
      cases unclosed with
      | nil =>
          rw [Engine.skipBlocks, Engine.skipBlocks]
          exact .pure fun state other facing => ⟨[], rfl, facing⟩
      | cons fallbackSeen outer => exact absurd rfl ends
  | cons directive rest ih =>
      obtain ⟨budget, rfl⟩ := Nat.exists_eq_succ_of_ne_zero (Nat.ne_zero_of_lt enough)
      obtain ⟨allowance, rfl⟩ := Nat.exists_eq_succ_of_ne_zero (Nat.ne_zero_of_lt also)
      rw [List.length_cons] at enough also
      cases unclosed with
      | nil =>
          rw [Engine.skipBlocks, Engine.skipBlocks]
          exact .pure fun state other facing => ⟨directive :: rest, rfl, facing⟩
      | cons fallbackSeen outer =>
          have on {unclosed : List Bool} (ends : extentFrom unclosed rest ≠ .unclosed) :=
            @ih unclosed budget allowance (by omega) (by omega) ends
          unfold extentFrom at ends ⊢
          refine .pull ?_
          dsimp only
          cases mark : directive.mark with
          | opens | closes | finish | plain =>
              simp only [mark] at ends ⊢
              exact on ends
          | «elseif» | fallback =>
              cases fallbackSeen with
              | true =>
                  exact .raises ⟨_, rfl⟩ _ fun state other facing => facing.counterpart
              | false =>
                  simp only [mark, Bool.false_eq_true, ↓reduceIte] at ends ⊢
                  exact on ends

theorem skipBlock {fallbackSeen : Bool} (ends : extentFrom [fallbackSeen] rest ≠ .unclosed) :
    Couples (Facing registry extra total rest)
      (fun _ => Behind registry extra total (extentFrom [fallbackSeen] rest))
      (Engine.skipBlock fallbackSeen) (Engine.skipBlock fallbackSeen) :=
  .turns fun _ _ enough also => skipBlocks enough also ends

theorem chooseArm (scope : Expr.Scope) {budget allowance : Nat} (enough : rest.length < budget)
    (also : rest.length < allowance) (ends : extentFrom [false] rest ≠ .unclosed) :
    Couples (Facing registry extra total rest)
      (Arrives registry extra total rest (extentFrom [false] rest))
      (Engine.chooseArm scope budget) (Engine.chooseArm scope allowance) := by
  induction budget generalizing allowance rest with
  | zero => cases enough
  | succ budget ih =>
      obtain ⟨allowance, rfl⟩ := Nat.exists_eq_succ_of_ne_zero (Nat.ne_zero_of_lt also)
      cases rest with
      | nil => exact absurd rfl ends
      | cons directive rest =>
          rw [List.length_cons] at enough also
          have suffix := List.suffix_cons directive rest
          have on {shorter : List (Directive (Handler N))} (bound : shorter.length ≤ rest.length)
              (ends : extentFrom [false] shorter ≠ .unclosed) :=
            @ih shorter allowance (by omega) (by omega) ends
          unfold extentFrom at ends ⊢
          refine .pull ?_
          dsimp only
          cases mark : directive.mark with
          | closes =>
              simp only [mark] at ends ⊢
              rw [extentFrom]
              exact .pure fun state other facing => ⟨rest, rfl, facing⟩
          | fallback =>
              exact .pure fun state other facing => ⟨rest, suffix, rfl, facing⟩
          | finish | plain =>
              simp only [mark] at ends ⊢
              exact (on (Nat.le_refl _) ends).mono fun _ _ _ arrives => arrives.suffix suffix
          | «elseif» =>
              simp only [mark, Bool.false_eq_true, ↓reduceIte] at ends ⊢
              refine (holds scope directive.args (some (directive.line : Int))).bind fun value => ?_
              cases value with
              | true => exact .pure fun state other facing => ⟨rest, suffix, rfl, facing⟩
              | false =>
                  exact (on (Nat.le_refl _) ends).mono fun _ _ _ arrives => arrives.suffix suffix
          | opens =>
              simp only [mark] at ends ⊢
              rw [extentFrom_inner] at ends ⊢
              have inner : extentFrom [false] rest ≠ .unclosed := by
                intro unclosed
                rw [unclosed] at ends
                exact ends rfl
              refine (skipBlock inner).bind fun _ => ?_
              rintro state other ⟨behind, closed, facing⟩
              rw [closed] at ends ⊢
              have shorter := extentFrom_closed_suffix closed
              exact ((on shorter.length_le ends).mono fun _ _ _ arrives =>
                arrives.suffix (shorter.trans suffix)) state other facing

end Couples

def reach {C : Type} (directive : Directive C) (rest : List (Directive C)) : Extent C :=
  if directive.mark = .opens then extentFrom [false] rest else .closed rest

theorem extentFrom_reach (ordinary : directive.mark = .opens ∨ directive.mark = .plain)
    (fallbackSeen : Bool) :
    extentFrom [fallbackSeen] (directive :: rest) =
      (reach directive rest).andThen (extentFrom [fallbackSeen]) := by
  rw [extentFrom, reach]
  rcases ordinary with mark | mark
  · rw [if_pos mark, mark]
    exact extentFrom_inner fallbackSeen rest
  · have noBlock : directive.mark ≠ .opens := by simp [mark]
    rw [if_neg noBlock, mark]
    rfl

theorem reach_suffix {behind : List (Directive (Handler N))}
    (closed : reach directive rest = .closed behind) : behind <:+ rest := by
  unfold reach at closed
  split at closed
  · exact extentFrom_closed_suffix closed
  · cases closed
    exact List.suffix_rfl

/-- Commands are where their names say that blocks begin, and the others do alike at the prompt and
in the script of a name. -/
structure Placeless (name : String) (directive : Directive (Handler N)) : Prop where
  block : directive.mark = .opens ↔ directive.command.handler = .builtin .ifBlock
  indifferent : directive.mark ≠ .opens → directive.mark ≠ .finish → ∀ depth, Indifferent
    (executeBy (dispatchTo depth) {} directive.command directive.call)
    (executeBy (dispatchTo depth) { path := some name } directive.command directive.call)

def AllPlaceless (name : String) (directives : List (Directive (Handler N))) : Prop :=
  ∀ directive ∈ directives, Placeless name directive

theorem AllPlaceless.suffix {directives : List (Directive (Handler N))}
    (placeless : AllPlaceless name directives) (suffix : rest <:+ directives) :
    AllPlaceless name rest :=
  fun directive member => placeless directive (suffix.subset member)

/-- Dispatching does alike at the prompt and in the script of a name. -/
def DispatchesAlike (name : String) (registry : Registry (Handler N)) (extra : List String)
    (total : Nat) (told : Context → Directive (Handler N) → Course N Flow) : Prop :=
  ∀ directive rest, AllPlaceless name (directive :: rest) → directive.mark ≠ .finish →
    reach directive rest ≠ .unclosed →
      Couples (Facing registry extra total rest)
        (Onwards registry extra total (reach directive rest)) (told {} directive)
        (told { path := some name } directive)

namespace Couples

theorem finished (extent : Extent (Handler N)) :
    Couples (Onwards registry extra total extent .finish) (Onwards registry extra total extent)
      Course.finished Course.finished := by
  rintro state other ⟨counterpart, present, alive⟩
  obtain ⟨stream, current⟩ := Option.isSome_iff_exists.mp present
  obtain ⟨following, stands⟩ := Option.isSome_iff_exists.mp alive
  rw [Course.finished_eq current, Course.finished_eq stands]
  exact .ok rfl ⟨counterpart.moved _ _ _ _, rfl, rfl⟩

theorem skipRest {fallbackSeen : Bool} (ends : extentFrom [fallbackSeen] rest ≠ .unclosed) :
    Couples (Facing registry extra total rest)
      (Onwards registry extra total (extentFrom [fallbackSeen] rest))
      (Engine.skipBlock fallbackSeen >>= fun _ => Pure.pure .goOn)
      (Engine.skipBlock fallbackSeen >>= fun _ => Pure.pure .goOn) :=
  (skipBlock ends).bind fun _ => .pure fun _ _ behind => behind

end Couples

theorem DispatchesAlike.goesOn {told : Context → Directive (Handler N) → Course N Flow}
    (dispatches : DispatchesAlike name registry extra total told)
    (placeless : AllPlaceless name (directive :: rest)) (noFinish : directive.mark ≠ .finish)
    (ends : reach directive rest ≠ .unclosed) {extent : Extent (Handler N)}
    {next following : Flow → Course N Flow}
    (each : ∀ behind, reach directive rest = .closed behind →
      Couples (Facing registry extra total behind) (Onwards registry extra total extent)
        (next .goOn) (following .goOn))
    (finishes : next .finish = Course.finished) (also : following .finish = Course.finished) :
    Couples (Facing registry extra total rest) (Onwards registry extra total extent)
      (told {} directive >>= next) (told { path := some name } directive >>= following) := by
  refine (dispatches directive rest placeless noFinish ends).bind fun flow => ?_
  cases flow with
  | finish =>
      rw [finishes, also]
      exact .finished extent
  | goOn =>
      rintro state other ⟨behind, closed, facing⟩
      exact each behind closed state other facing

namespace Couples

section Dispatching

variable {told : Context → Directive (Handler N) → Course N Flow}
  (dispatches : DispatchesAlike name registry extra total told)

include dispatches

theorem runArm {isFallback : Bool} {budget allowance : Nat} (placeless : AllPlaceless name rest)
    (enough : rest.length < budget) (also : rest.length < allowance)
    (ends : extentFrom [isFallback] rest ≠ .unclosed) :
    Couples (Facing registry extra total rest)
      (Onwards registry extra total (extentFrom [isFallback] rest))
      (Engine.runArm told {} isFallback budget)
      (Engine.runArm told { path := some name } isFallback allowance) := by
  induction budget generalizing allowance rest with
  | zero => cases enough
  | succ budget ih =>
      obtain ⟨allowance, rfl⟩ := Nat.exists_eq_succ_of_ne_zero (Nat.ne_zero_of_lt also)
      cases rest with
      | nil => exact absurd rfl ends
      | cons directive rest =>
          rw [List.length_cons] at enough also
          -- Both runs have a turn for each directive; which has more of them makes no difference.
          have on {shorter : List (Directive (Handler N))} (suffix : shorter <:+ rest)
              (ends : extentFrom [isFallback] shorter ≠ .unclosed) := by
            have bound := suffix.length_le
            have within := suffix.trans (List.suffix_cons directive rest)
            exact @ih shorter allowance (placeless.suffix within) (by omega) (by omega) ends
          refine .pull ?_
          dsimp only
          cases mark : directive.mark with
          | «elseif» | fallback =>
              cases isFallback with
              | true => exact .raises ⟨_, rfl⟩ _ fun state other facing => facing.counterpart
              | false =>
                  simp only [extentFrom, mark, Bool.false_eq_true, ↓reduceIte] at ends ⊢
                  exact skipRest ends
          | closes =>
              simp only [extentFrom, mark]
              exact .pure fun state other facing => ⟨rest, rfl, facing⟩
          | finish =>
              refine (silent (.note _ _) (keepsRegistry_throughout.note _ _ (.append (by decide) _))
                fun _ => ⟨_, _, rfl⟩).bind fun _ => ?_
              exact fun state other facing => finished _ state other
                ⟨facing.counterpart, facing.present⟩
          | opens | plain =>
              rw [extentFrom_reach (by simp [mark])] at ends ⊢
              have inner : reach directive rest ≠ .unclosed := by
                intro unclosed
                rw [unclosed] at ends
                exact ends rfl
              refine dispatches.goesOn placeless (by simp [mark]) inner ?_ rfl rfl
              intro behind closed
              rw [closed] at ends ⊢
              exact on (reach_suffix closed) ends

theorem runBlock (condition : String) (placeless : AllPlaceless name rest)
    (ends : extentFrom [false] rest ≠ .unclosed) :
    Couples (Facing registry extra total rest)
      (Onwards registry extra total (extentFrom [false] rest))
      (Engine.runBlock told {} condition)
      (Engine.runBlock told { path := some name } condition) := by
  unfold Engine.runBlock
  dsimp only [Telling.act, Telling.holds]
  simp only [Bool.false_eq_true, ↓reduceIte]
  refine (silent .newScope keepsRegistry_throughout.newScope fun _ => ⟨_, _, rfl⟩).bind
    fun scope => ?_
  refine (holds scope condition none).bind fun value => ?_
  cases value with
  | true =>
      simp only [↓reduceIte]
      exact .turns fun _ _ enough also => runArm dispatches placeless enough also ends
  | false =>
      simp only [Bool.false_eq_true, ↓reduceIte]
      refine .turns fun _ _ enough also => (chooseArm scope enough also ends).bind fun chosen => ?_
      cases chosen with
      | none => exact .pure fun _ _ behind => behind
      | arm isFallback =>
          rintro state other ⟨rest, suffix, same, facing⟩
          rw [← same] at ends ⊢
          exact Couples.turns (fun _ _ enough also =>
            runArm dispatches (placeless.suffix suffix) enough also ends) state other facing

end Dispatching

end Couples

theorem Course.dispatchTo_events (depth : Nat) (context : Context)
    (directive : Directive (Handler N)) (state : State N) :
    (Course.dispatchTo (depth + 1) context directive state).1 =
      .dispatched directive :: (Course.execute (Course.dispatchTo depth) (Engine.dispatchTo depth)
        context directive (state.noted .debug (startRow directive.name directive.call))).1 :=
  rfl

theorem Course.doings_breaking (code : String) (action : Run N α) (state : State N) :
    doings (Course.breaking code action state).1 = [] := by
  unfold Course.breaking
  split <;> rfl

theorem Course.doings_dispatchTo (depth : Nat) (context : Context)
    (noBlock : directive.command.handler ≠ .builtin .ifBlock) (state : State N) :
    doings (Course.dispatchTo (depth + 1) context directive state).1 =
      [.called directive.command directive.call] := by
  have inner (state : State N) : doings (Course.execute (Course.dispatchTo depth)
      (Engine.dispatchTo depth) context directive state).1 = [] := by
    unfold Course.execute
    cases known : directive.command.handler with
    | host program => rfl
    | builtin builtin =>
        cases stray : builtin.stray? with
        | some code => cases builtin <;> cases stray <;> exact doings_breaking _ _ state
        | none => cases builtin <;> first | rfl | exact absurd known noBlock
  rw [dispatchTo_events]
  exact congrArg (List.cons _) (inner _)

theorem Course.dispatchTo_block (depth : Nat) (context : Context)
    (block : directive.command.handler = .builtin .ifBlock) {state : State N}
    (present : state.stream.isSome = true) :
    Course.dispatchTo (depth + 1) context directive state =
      (.dispatched directive :: (Engine.runBlock (Course.dispatchTo depth) context directive.args
          (state.noted .debug (startRow directive.name directive.call))).1,
        blockEnd context directive (Engine.runBlock (Course.dispatchTo depth) context directive.args
          (state.noted .debug (startRow directive.name directive.call))).2) := by
  have inner (state : State N) (present : state.stream.isSome = true) :
      (Course.execute (Course.dispatchTo depth) (Engine.dispatchTo depth) context directive
        state).1 = (Engine.runBlock (Course.dispatchTo depth) context directive.args state).1 := by
    unfold Course.execute
    simp only [block]
    rw [map_events]
    unfold Course.runIf
    rw [if_pos present]
  refine Prod.ext ?_ ?_
  · rw [dispatchTo_events]
    exact congrArg (List.cons _) (inner _ present)
  · have block := run_dispatch_block (Engine.dispatchTo depth) context block present
    rw [Course.Tells.dispatchTo, dispatchTo_succ, block]
    exact congrArg _ (Course.Tells.runBlock
      (fun context directive => Course.Tells.dispatchTo depth context directive) context
      directive.args _).symm

theorem Onwards.noted {extent : Extent (Handler N)} {flow : Flow} {state other : State N}
    (onwards : Onwards registry extra total extent flow state other) (level : Level)
    (text : String) :
    Onwards registry extra total extent flow (state.noted level text) (other.noted level text) := by
  cases flow with
  | goOn =>
      obtain ⟨rest, closed, facing⟩ := onwards
      exact ⟨rest, closed, facing.noted level text⟩
  | finish => exact ⟨onwards.1.noted level text, onwards.2⟩

theorem Structural.attributed {fault : Fault} {error : ScriptError}
    (structural : structural? fault = some error) (path : Option String) (line : Nat) :
    Structural (.script (attributed path line error)) :=
  ⟨_, structural_attributed structural path line⟩

theorem Coupled.blockEnd {extent : Extent (Handler N)}
    {first second : List (Event N) × Ended N Flow}
    (coupled : Coupled (Onwards registry extra total extent) first second)
    (context another : Context) (directive : Directive (Handler N)) :
    Coupled (Onwards registry extra total extent)
      (.dispatched directive :: first.1, Engine.blockEnd context directive first.2)
      (.dispatched directive :: second.1, Engine.blockEnd another directive second.2) := by
  have called {events others : List (Event N)} (same : doings events = doings others) :
      doings (.dispatched directive :: events) = doings (.dispatched directive :: others) :=
    congrArg (List.cons _) same
  cases coupled with
  | ok same good => exact .ok (called same) (good.noted _ _)
  | exhausted same counterpart => exact .exhausted (called same) counterpart
  | broke same first second counterpart =>
      obtain ⟨error, structural⟩ := first
      obtain ⟨raised, also⟩ := second
      dsimp only [Engine.blockEnd]
      rw [structural, also]
      exact .broke (called same) (.attributed structural _ _) (.attributed also _ _)
        ((counterpart.noted _ _).noted _ _)

theorem Indifferent.dispatched {execute : Execute N} {context another : Context}
    (indifferent : Indifferent (execute context directive.command directive.call)
      (execute another directive.command directive.call))
    {state other : State N} (counterpart : Counterpart state other) :
    Coupled (fun _ last final => Counterpart last final ∧ Unprompted state last ∧
        Unprompted other final)
      ([], (dispatchBy execute context directive).run state)
      ([], (dispatchBy execute another directive).run other) := by
  have alike := indifferent state other counterpart
  rw [run_dispatchBy, run_dispatchBy]
  generalize (execute context directive.command directive.call).run state = ended at alike
  generalize (execute another directive.command directive.call).run other = finished at alike
  cases alike with
  | ok counterpart left right => exact .ok rfl ⟨counterpart, left, right⟩
  | @error stop last final counterpart left right =>
      cases stop with
      | exhausted => exact .exhausted rfl counterpart
      | fault fault =>
          dsimp only
          cases structural : structural? fault with
          | some error =>
              exact .broke rfl (.attributed structural _ _) (.attributed structural _ _) counterpart
          | none =>
              have reports := (Indifferent.report context.path another.path directive fault last
                final counterpart).earlier left right
              rw [run_report, run_report] at reports
              dsimp only
              cases reports with
              | ok counterpart left right => exact .ok rfl ⟨counterpart, left, right⟩

theorem dispatchTo_alike (name : String) (registry : Registry (Handler N)) (extra : List String)
    (total depth : Nat) : DispatchesAlike name registry extra total (Course.dispatchTo depth) := by
  induction depth with
  | zero =>
      intro directive rest placeless noFinish ends
      exact .exhausts fun state other facing => facing.counterpart
  | succ depth ih =>
      intro directive rest placeless noFinish ends state other facing
      have here := placeless directive List.mem_cons_self
      by_cases opens : directive.mark = .opens
      · have block := here.block.mp opens
        have inside := placeless.suffix (List.suffix_cons directive rest)
        have reaches : reach directive rest = extentFrom [false] rest := if_pos opens
        rw [reaches] at ends ⊢
        rw [Course.dispatchTo_block depth _ block facing.present.1,
          Course.dispatchTo_block depth _ block facing.present.2]
        exact (Couples.runBlock ih directive.args inside ends _ _ (facing.noted _ _)).blockEnd _ _ _
      · have alone := fun block => opens (here.block.mpr block)
        have reaches : reach directive rest = .closed rest := if_neg opens
        have kept {flow : Flow} {last : State N}
            (ended : (Course.dispatchTo (depth + 1) {} directive state).2 = .ok flow last) :
            last.registry = state.registry := by
          rw [Course.Tells.dispatchTo] at ended
          rw [← after_ok ended]
          exact dispatchTo_keepsRegistry (depth + 1) {} directive state
        have same : doings (Course.dispatchTo (depth + 1) {} directive state).1 =
            doings (Course.dispatchTo (depth + 1) { path := some name } directive other).1 := by
          rw [Course.doings_dispatchTo depth _ alone, Course.doings_dispatchTo depth _ alone]
        have contained := (here.indifferent opens noFinish depth).dispatched facing.counterpart
        rw [← dispatchTo_succ, ← Course.Tells.dispatchTo, ← Course.Tells.dispatchTo] at contained
        rw [reaches]
        generalize Course.dispatchTo (depth + 1) {} directive state = course at *
        generalize Course.dispatchTo (depth + 1) { path := some name } directive other = twin at *
        refine (contained.told same).mono ?_
        rintro flow last final ended ⟨counterpart, left, right⟩
        have onward := facing.kept counterpart (kept ended) left right
        cases flow with
        | goOn => exact ⟨rest, rfl, onward⟩
        | finish => exact ⟨counterpart, onward.present⟩

end ExScript.Engine
