import ExScript.Proofs.ScriptReading

/-!
How the loop over a script ends. Three ways lead there: something finishes it, all of its lines are
read, or a pull fails within a block that the script itself opens. In the last case the lines behind
the failure are passed over in silence.
-/

namespace ExScript.Engine

variable {N : Type}

inductive Ending where
  | finished
  | readThrough
  | brokenOff
  deriving DecidableEq, Repr

inductive Comes (depth : Nat) (context : Context) : State N → Ending → Prop where
  | finish {state last directive} (pulled : pull.run state = .ok (some directive) last)
      (named : directive.name = "finish") : Comes depth context state .finished
  | finished {state last directive next} (pulled : pull.run state = .ok (some directive) last)
      (other : directive.name ≠ "finish")
      (ended : (dispatchTo (depth + 1) context directive).run last = .ok .finish next)
      (live : Live next) : Comes depth context state .finished
  | readThrough {state last} (pulled : pull.run state = .ok none last)
      (consumed : Consumed last) : Comes depth context state .readThrough
  | brokenOff {state last directive digits between}
      (pulled : pull.run state = .ok (some directive) last) (other : directive.name ≠ "finish")
      (opens : directive.command.handler = .builtin .ifBlock)
      (failed : (runBlock (dispatchTo depth) context directive.args).run
        (last.noted .debug (startRow directive.name directive.call)) =
          .error (.fault (.oversizedCount digits)) between) :
      Comes depth context state .brokenOff
  | turn {state last directive next ending}
      (pulled : pull.run state = .ok (some directive) last) (other : directive.name ≠ "finish")
      (went : (dispatchTo (depth + 1) context directive).run last = .ok .goOn next)
      (live : Live next) (behind : Comes depth context next ending) :
      Comes depth context state ending

theorem brokenOff_dead {depth : Nat} {context : Context} (noSkip : context.skip = false)
    {directive : Directive (Handler N)} (opens : directive.command.handler = .builtin .ifBlock)
    {state between : State N} (ready : Ready state) (live : Live state) {digits : Nat}
    (failed : (runBlock (dispatchTo depth) context directive.args).run
      (state.noted .debug (startRow directive.name directive.call)) =
        .error (.fault (.oversizedCount digits)) between) :
    ∃ last, (dispatchTo (depth + 1) context directive).run state = .ok .goOn last ∧
      Spent state last := by
  have sound := runBlock_started noSkip (dispatchTo_sound depth noSkip) directive ready live
  rw [failed] at sound
  rw [dispatchTo_succ, run_dispatch_block _ _ opens ready.streaming, failed]
  cases sound with
  | broken structural => cases structural
  | failure spent => exact blockEnd_spent context directive digits spent

theorem live_or_brokenOff {depth : Nat} {context : Context} {directive : Directive (Handler N)}
    {state last : State N}
    (went : Went (dispatchTo depth) context directive state (.ok .goOn last)) :
    Onward state last ∨
      (directive.command.handler = .builtin .ifBlock ∧ ∃ digits between,
        (runBlock (dispatchTo depth) context directive.args).run
          (state.noted .debug (startRow directive.name directive.call)) =
            .error (.fault (.oversizedCount digits)) between) := by
  cases went with
  | on onward => exact .inl onward
  | brokeOff opens failed spent => exact .inr ⟨opens, _, _, failed⟩

theorem comes_of_run {depth : Nat} {context : Context} (noSkip : context.skip = false)
    {state last : State N} (ready : Ready state) (live : Live state) {budget : Nat} {flow : Flow}
    (ran : (runStream (dispatchTo (depth + 1)) context budget).run state = .ok flow last) :
    ∃ ending, Comes depth context state ending := by
  induction budget generalizing state with
  | zero => cases ran
  | succ budget ih =>
      have pulls := pull_pulls ready live
      unfold runStream at ran
      dsimp only [Telling.act, Telling.pull] at ran
      rw [EStateM.run_bind] at ran
      cases pulled : pull.run state with
      | error stop next => rw [pulled] at ran; cases ran
      | ok found next =>
          rw [pulled] at ran pulls
          cases pulls with
          | nothing spent consumed => exact ⟨.readThrough, .readThrough pulled consumed⟩
          | @directive directive _ onward regular fewer =>
              dsimp only at ran
              by_cases named : directive.name = "finish"
              · exact ⟨.finished, .finish pulled named⟩
              · simp only [named, ↓reduceIte] at ran
                rw [EStateM.run_bind] at ran
                have went := dispatchTo_went depth noSkip regular onward.ready onward.live
                cases dispatched : (dispatchTo (depth + 1) context directive).run next with
                | error stop behind => rw [dispatched] at ran; cases ran
                | ok following behind =>
                    rw [dispatched] at ran went
                    cases following with
                    | finish =>
                        cases went with
                        | finished live =>
                            exact ⟨.finished, .finished pulled named dispatched live⟩
                    | goOn =>
                        -- A block that broke off has gone on as well; its stream tells the two apart.
                        rcases live_or_brokenOff went with
                          further | ⟨opens, digits, between, failed⟩
                        · obtain ⟨ending, comes⟩ := ih further.ready further.live ran
                          exact ⟨ending, .turn pulled named dispatched further.live comes⟩
                        · exact ⟨.brokenOff, .brokenOff pulled named opens failed⟩

theorem runStream_finish {dispatch : Dispatch N} {context : Context} {state last : State N}
    {directive : Directive (Handler N)} (pulled : pull.run state = .ok (some directive) last)
    (named : directive.name = "finish") (live : Live last) (budget : Nat) :
    ∃ closed, (runStream dispatch context (budget + 1)).run state = .ok .finish closed := by
  obtain ⟨stream, current, -⟩ := live
  refine ⟨{ last with stream := some stream.close }, ?_⟩
  rw [runStream_pulled pulled]
  simp only [named, ↓reduceIte]
  exact run_finished current

theorem runStream_finished {dispatch : Dispatch N} {context : Context} {state last next : State N}
    {directive : Directive (Handler N)} (pulled : pull.run state = .ok (some directive) last)
    (other : directive.name ≠ "finish")
    (ended : (dispatch context directive).run last = .ok .finish next)
    (live : Live next) (budget : Nat) :
    ∃ closed, (runStream dispatch context (budget + 1)).run state = .ok .finish closed := by
  obtain ⟨stream, current, -⟩ := live
  refine ⟨{ next with stream := some stream.close }, ?_⟩
  rw [runStream_pulled pulled]
  simp only [other, ↓reduceIte]
  rw [run_bind_ok ended]
  exact run_finished current

theorem runStream_turn {dispatch : Dispatch N} {context : Context} {state last next : State N}
    {directive : Directive (Handler N)} (pulled : pull.run state = .ok (some directive) last)
    (other : directive.name ≠ "finish")
    (went : (dispatch context directive).run last = .ok .goOn next) (budget : Nat) :
    (runStream dispatch context (budget + 1)).run state =
      (runStream dispatch context budget).run next := by
  rw [runStream_pulled pulled]
  simp only [other, ↓reduceIte]
  rw [run_bind_ok went]

theorem pulled_onward {state last : State N} {directive : Directive (Handler N)}
    (ready : Ready state) (live : Live state)
    (pulled : pull.run state = .ok (some directive) last) :
    Onward state last ∧ Regular directive.command ∧ left last < left state := by
  have pulls := pull_pulls ready live
  rw [pulled] at pulls
  cases pulls with
  | directive onward regular fewer => exact ⟨onward, regular, fewer⟩

theorem run_of_comes {depth : Nat} {context : Context} (noSkip : context.skip = false)
    {state : State N} {ending : Ending} (comes : Comes depth context state ending)
    (ready : Ready state) (live : Live state) {budget : Nat} (enough : left state < budget) :
    ∃ flow last,
      (runStream (dispatchTo (depth + 1)) context budget).run state = .ok flow last := by
  induction comes generalizing budget with
  | finish pulled named =>
      obtain ⟨budget, rfl⟩ := Nat.exists_eq_succ_of_ne_zero (Nat.ne_zero_of_lt enough)
      obtain ⟨onward, -, -⟩ := pulled_onward ready live pulled
      exact ⟨.finish, runStream_finish pulled named onward.live budget⟩
  | finished pulled other ended still =>
      obtain ⟨budget, rfl⟩ := Nat.exists_eq_succ_of_ne_zero (Nat.ne_zero_of_lt enough)
      exact ⟨.finish, runStream_finished pulled other ended still budget⟩
  | readThrough pulled consumed =>
      obtain ⟨budget, rfl⟩ := Nat.exists_eq_succ_of_ne_zero (Nat.ne_zero_of_lt enough)
      exact ⟨.goOn, _, runStream_nothing pulled budget⟩
  | brokenOff pulled other opens failed =>
      obtain ⟨budget, rfl⟩ := Nat.exists_eq_succ_of_ne_zero (Nat.ne_zero_of_lt enough)
      obtain ⟨onward, -, fewer⟩ := pulled_onward ready live pulled
      obtain ⟨last, went, spent⟩ := brokenOff_dead noSkip opens onward.ready onward.live failed
      -- one more turn finds the stream ended
      obtain ⟨budget, rfl⟩ : ∃ further, budget = further + 1 :=
        Nat.exists_eq_succ_of_ne_zero (by omega)
      rw [runStream_turn pulled other went]
      exact ⟨.goOn, last, runStream_nothing (pull_dead spent.ready spent.dead) budget⟩
  | turn pulled other went still behind ih =>
      obtain ⟨budget, rfl⟩ := Nat.exists_eq_succ_of_ne_zero (Nat.ne_zero_of_lt enough)
      obtain ⟨onward, regular, fewer⟩ := pulled_onward ready live pulled
      have gone := dispatchTo_went depth noSkip regular onward.ready onward.live
      rw [went] at gone
      rw [runStream_turn pulled other went]
      cases gone with
      | on further =>
          have := further.fewer
          exact ih further.ready still (by omega)
      | brokeOff opens failed spent => exact absurd still spent.dead

section Behind

variable {depth : Nat} {context : Context} {state last : State N} {ending : Ending}
  {directive : Directive (Handler N)}

theorem Comes.of_nothing (comes : Comes depth context state ending)
    (pulled : pull.run state = .ok none last) : ending = .readThrough := by
  cases comes with
  | readThrough => rfl
  | finish again | finished again | brokenOff again | turn again => cases pulled.symm.trans again

theorem Comes.of_finish (comes : Comes depth context state ending)
    (pulled : pull.run state = .ok (some directive) last) (named : directive.name = "finish") :
    ending = .finished := by
  cases comes with
  | finish => rfl
  | readThrough again => cases pulled.symm.trans again
  | finished again other | brokenOff again other | turn again other =>
      cases pulled.symm.trans again
      exact absurd named other

theorem Comes.of_finished (comes : Comes depth context state ending)
    (noSkip : context.skip = false) (ready : Ready last) (live : Live last)
    (pulled : pull.run state = .ok (some directive) last) {next : State N}
    (ended : (dispatchTo (depth + 1) context directive).run last = .ok .finish next) :
    ending = .finished := by
  cases comes with
  | finish | finished => rfl
  | readThrough again => cases pulled.symm.trans again
  | turn again _ went =>
      cases pulled.symm.trans again
      cases ended.symm.trans went
  | brokenOff again _ opens failed =>
      cases pulled.symm.trans again
      obtain ⟨behind, went, -⟩ := brokenOff_dead noSkip opens ready live failed
      cases ended.symm.trans went

theorem Comes.of_dead (comes : Comes depth context state ending)
    (pulled : pull.run state = .ok (some directive) last) (other : directive.name ≠ "finish")
    {next : State N} (went : (dispatchTo (depth + 1) context directive).run last = .ok .goOn next)
    (dead : ¬ Live next) : ending = .brokenOff := by
  cases comes with
  | brokenOff => rfl
  | readThrough again => cases pulled.symm.trans again
  | finish again named =>
      cases pulled.symm.trans again
      exact absurd named other
  | finished again _ ended =>
      cases pulled.symm.trans again
      cases ended.symm.trans went
  | turn again _ on live =>
      cases pulled.symm.trans again
      cases on.symm.trans went
      exact absurd live dead

theorem Comes.of_live (comes : Comes depth context state ending)
    (noSkip : context.skip = false) (ready : Ready last) (live : Live last)
    (pulled : pull.run state = .ok (some directive) last) (other : directive.name ≠ "finish")
    {next : State N} (went : (dispatchTo (depth + 1) context directive).run last = .ok .goOn next)
    (still : Live next) : Comes depth context next ending := by
  cases comes with
  | readThrough again => cases pulled.symm.trans again
  | finish again named =>
      cases pulled.symm.trans again
      exact absurd named other
  | finished again _ ended =>
      cases pulled.symm.trans again
      cases ended.symm.trans went
  | brokenOff again _ opens failed =>
      cases pulled.symm.trans again
      obtain ⟨behind, on, spent⟩ := brokenOff_dead noSkip opens ready live failed
      cases on.symm.trans went
      exact absurd still spent.dead
  | turn again _ on _ behind =>
      cases pulled.symm.trans again
      cases on.symm.trans went
      exact behind

end Behind

theorem comes_unique {depth : Nat} {context : Context} (noSkip : context.skip = false)
    {state : State N} {ending other : Ending} (comes : Comes depth context state ending)
    (ready : Ready state) (live : Live state) (also : Comes depth context state other) :
    ending = other := by
  induction comes with
  | finish pulled named => exact (also.of_finish pulled named).symm
  | readThrough pulled => exact (also.of_nothing pulled).symm
  | finished pulled unnamed ended =>
      obtain ⟨onward, -, -⟩ := pulled_onward ready live pulled
      exact (also.of_finished noSkip onward.ready onward.live pulled ended).symm
  | brokenOff pulled unnamed opens failed =>
      obtain ⟨onward, -, -⟩ := pulled_onward ready live pulled
      obtain ⟨last, went, spent⟩ := brokenOff_dead noSkip opens onward.ready onward.live failed
      exact (also.of_dead pulled unnamed went spent.dead).symm
  | turn pulled unnamed went still behind ih =>
      obtain ⟨onward, regular, -⟩ := pulled_onward ready live pulled
      have gone := dispatchTo_went depth noSkip regular onward.ready onward.live
      rw [went] at gone
      cases gone with
      | brokeOff opens failed spent => exact absurd still spent.dead
      | on further =>
          exact ih further.ready still
            (also.of_live noSkip onward.ready onward.live pulled unnamed went still)

end ExScript.Engine
