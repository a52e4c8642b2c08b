import ExScript.Proofs.Blocks
import ExScript.Proofs.Ordinary
import ExScript.Proofs.Pulling
import ExScript.Proofs.Throughout

/-!
Reading a script to its end. Every pull is one of the loop over the script or one of a block, and a
block that goes on has not met the end of the stream: where one of its pulls fails or finds nothing,
the block breaks off.
-/

namespace ExScript.Engine

variable {N α β : Type}

def Regular (command : Descriptor (Handler N)) : Prop :=
  command.handler = .builtin .ifBlock ∨ ∀ call, command.handler.Streamless call

structure Ready (state : State N) : Prop where
  only : state.registry.Only Regular
  reads : ∃ stream, state.stream = some stream ∧ stream.ReadsText Regular

/-- The stream still has something to give, or has its end yet to be noticed. -/
def Live (state : State N) : Prop :=
  ∃ stream, state.stream = some stream ∧ stream.ended = false

def left (state : State N) : Nat :=
  (state.stream.map (·.remaining)).getD 0

def Consumed (state : State N) : Prop :=
  ∃ stream, state.stream = some stream ∧ stream.atHand = [] ∧ stream.pending = none

structure Onward (state last : State N) : Prop where
  ready : Ready last
  live : Live last
  fewer : left last ≤ left state

structure Spent (state last : State N) : Prop where
  ready : Ready last
  dead : ¬ Live last
  fewer : left last ≤ left state

structure SameReading (state last : State N) : Prop where
  stream : last.stream = state.stream
  registry : last.registry = state.registry

namespace SameReading

variable {state last : State N}

theorem ready (same : SameReading state last) (ready : Ready state) : Ready last := by
  obtain ⟨only, reads⟩ := ready
  constructor
  · rw [same.registry]
    exact only
  · rw [same.stream]
    exact reads

theorem live_iff (same : SameReading state last) : Live last ↔ Live state := by
  unfold Live
  rw [same.stream]

theorem left_eq (same : SameReading state last) : left last = left state := by
  unfold left
  rw [same.stream]

theorem onward (same : SameReading state last) (ready : Ready state) (live : Live state) :
    Onward state last :=
  ⟨same.ready ready, same.live_iff.mpr live, Nat.le_of_eq same.left_eq⟩

end SameReading

theorem Ready.streaming {state : State N} (ready : Ready state) : state.stream.isSome := by
  obtain ⟨stream, current, -⟩ := ready.reads
  rw [current]
  rfl

inductive Pulls (state : State N) : Ended N (Option (Directive (Handler N))) → Prop where
  | directive {directive last} (onward : Onward state last) (regular : Regular directive.command)
      (fewer : left last < left state) : Pulls state (.ok (some directive) last)
  | nothing {last} (spent : Spent state last) (consumed : Consumed last) :
      Pulls state (.ok none last)
  | failure {digits last} (spent : Spent state last) :
      Pulls state (.error (.fault (.oversizedCount digits)) last)

theorem not_live {state : State N} {stream : Stream (Handler N)}
    (current : state.stream = some stream) (ended : stream.ended = true) : ¬ Live state := by
  rintro ⟨other, same, live⟩
  rw [current] at same
  cases same
  rw [ended] at live
  cases live

theorem pull_pulls {state : State N} (ready : Ready state) (live : Live state) :
    Pulls state (pull.run state) := by
  obtain ⟨stream, current, reads⟩ := ready.reads
  obtain ⟨other, same, live⟩ := live
  rw [current] at same
  cases same
  have gave := Stream.pull_gave ready.only reads live state.session
  rw [run_pull current]
  generalize stream.pull state.registry state.session = pulled at gave
  obtain ⟨result, next, session⟩ := pulled
  dsimp only at gave
  have before : left state = stream.remaining := by simp [left, current]
  cases gave with
  | directive further open_ command fewer =>
      refine .directive ⟨⟨ready.only, next, rfl, further⟩, ⟨next, rfl, open_⟩, ?_⟩ command ?_
      · rw [before]
        exact Nat.le_of_lt fewer
      · rw [before]
        exact fewer
  | nothing further ended lines pending fewer =>
      refine .nothing ⟨⟨ready.only, next, rfl, further⟩, not_live rfl ended, ?_⟩
        ⟨next, rfl, lines, pending⟩
      rw [before]
      exact fewer
  | failure further ended fewer =>
      refine .failure ⟨⟨ready.only, next, rfl, further⟩, not_live rfl ended, ?_⟩
      rw [before]
      exact fewer

theorem pull_dead {state : State N} (ready : Ready state) (dead : ¬ Live state) :
    pull.run state = .ok none state := by
  obtain ⟨stream, current, reads⟩ := ready.reads
  have ended : stream.ended = true := by
    cases known : stream.ended with
    | true => rfl
    | false => exact absurd ⟨stream, current, known⟩ dead
  rw [run_pull current, Stream.pull_ended ended]
  dsimp only
  rw [← current]

/-- How a run on the stream of a script can end: as it should, too deep, with an error of block
structure, or with the failure of a pull, after which the stream has ended. -/
inductive Sound (origin : State N) (done : α → State N → Prop) : Ended N α → Prop where
  | ok {value last} (reached : done value last) : Sound origin done (.ok value last)
  | exhausted {last} : Sound origin done (.error .exhausted last)
  | broken {fault error last} (structural : structural? fault = some error) :
      Sound origin done (.error (.fault fault) last)
  | failure {digits last} (spent : Spent origin last) :
      Sound origin done (.error (.fault (.oversizedCount digits)) last)

namespace Sound

variable {origin state : State N} {done : α → State N → Prop}

theorem bind {further : β → State N → Prop} {action : Run N α} {next : α → Run N β}
    (first : Sound origin done (action.run state))
    (second : ∀ value last, done value last → Sound origin further ((next value).run last)) :
    Sound origin further ((action >>= next).run state) := by
  rw [EStateM.run_bind]
  generalize action.run state = result at first
  cases first with
  | ok reached => exact second _ _ reached
  | exhausted => exact .exhausted
  | broken structural => exact .broken structural
  | failure spent => exact .failure spent

theorem raise {fault : Fault} {error : ScriptError} (structural : structural? fault = some error)
    (last : State N) : Sound origin done ((Engine.raise fault : Run N α).run last) :=
  .broken structural

theorem earlier {last : State N} {before : α → State N → Prop} {result : Ended N α}
    (sound : Sound last done result) (fewer : left last ≤ left state)
    (weaker : ∀ value final, done value final → before value final) :
    Sound state before result := by
  cases sound with
  | ok reached => exact .ok (weaker _ _ reached)
  | exhausted => exact .exhausted
  | broken structural => exact .broken structural
  | failure spent => exact .failure ⟨spent.ready, spent.dead, Nat.le_trans spent.fewer fewer⟩

end Sound

theorem Onward.trans {state middle last : State N} (onward : Onward middle last)
    (fewer : left middle ≤ left state) : Onward state last :=
  ⟨onward.ready, onward.live, Nat.le_trans onward.fewer fewer⟩

theorem pull_sound {state : State N} (ready : Ready state) {done : α → State N → Prop}
    {next : Option (Directive (Handler N)) → Run N α}
    (gave : ∀ directive last, Onward state last → Regular directive.command →
      Sound state done ((next (some directive)).run last))
    (nothing : ∀ last, Spent state last → Sound state done ((next none).run last)) :
    Sound state done ((pull >>= next).run state) := by
  by_cases live : Live state
  · have pulls := pull_pulls ready live
    rw [EStateM.run_bind]
    generalize pull.run state = result at pulls
    cases pulls with
    | directive onward regular fewer => exact gave _ _ onward regular
    | nothing spent consumed => exact nothing _ spent
    | failure spent => exact .failure spent
  · rw [run_bind_ok (pull_dead ready live)]
    exact nothing state ⟨ready, live, Nat.le_refl _⟩

theorem skipBlocks_sound {state : State N} (ready : Ready state) (budget : Nat)
    (unclosed : List Bool) (started : unclosed = [] → Live state) :
    Sound state (fun _ last => Onward state last)
      ((skipBlocks budget unclosed : Run N Unit).run state) := by
  induction budget generalizing state unclosed with
  | zero =>
      cases unclosed with
      | nil => exact .ok ⟨ready, started rfl, Nat.le_refl _⟩
      | cons fallbackSeen outer => exact .exhausted
  | succ budget ih =>
      cases unclosed with
      | nil => exact .ok ⟨ready, started rfl, Nat.le_refl _⟩
      | cons fallbackSeen outer =>
          have on (last : State N) (onward : Onward state last) (unclosed : List Bool) :
              Sound state (fun _ last => Onward state last)
                ((skipBlocks budget unclosed : Run N Unit).run last) :=
            (ih onward.ready unclosed fun _ => onward.live).earlier onward.fewer
              fun _ _ further => further.trans onward.fewer
          unfold skipBlocks
          dsimp only [Telling.pull, Telling.missingEnd, Telling.malformed]
          refine pull_sound ready ?_ ?_
          · intro directive last onward regular
            dsimp only
            split
            · exact on last onward _
            · split
              · exact .raise rfl last
              · exact on last onward _
            · split
              · exact .raise rfl last
              · exact on last onward _
            · exact on last onward _
            · exact on last onward _
          · intro last spent
            exact .raise rfl last

theorem turns_sound {origin state : State N} {done : α → State N → Prop} {next : Nat → Run N α}
    (on : ∀ budget, Sound origin done ((next budget).run state)) :
    Sound origin done ((turns >>= next).run state) := by
  obtain ⟨budget, counted⟩ := run_turns state
  rw [run_bind_ok counted]
  exact on (budget + 1)

theorem skipBlock_sound {state : State N} (ready : Ready state) (fallbackSeen : Bool) :
    Sound state (fun _ last => Onward state last)
      ((skipBlock fallbackSeen : Run N Unit).run state) :=
  turns_sound fun budget => skipBlocks_sound ready budget [fallbackSeen] nofun

theorem holds_sound {state : State N} (scope : Expr.Scope) (condition : String)
    (line : Option Int) :
    Sound state (fun _ last => SameReading state last)
      ((holds scope condition line).run state) := by
  rcases run_holds scope condition line state with
    ⟨value, last, ran, kept⟩ | ⟨stop, last, ran, breaks⟩
  · rw [ran]
    refine .ok ⟨kept, ?_⟩
    rw [← after_ok ran]
    exact keepsRegistry_throughout.holds scope condition line state
  · obtain ⟨error, rfl, -, structural⟩ := structural_breaks breaks
    rw [ran]
    exact .broken structural

theorem chooseArm_sound {state : State N} (ready : Ready state) (scope : Expr.Scope)
    (budget : Nat) :
    Sound state (fun _ last => Onward state last)
      ((chooseArm scope budget : Run N Chosen).run state) := by
  induction budget generalizing state with
  | zero => exact .exhausted
  | succ budget ih =>
      have on (last : State N) (onward : Onward state last) :
          Sound state (fun _ last => Onward state last)
            ((chooseArm scope budget : Run N Chosen).run last) :=
        (ih onward.ready).earlier onward.fewer fun _ _ further => further.trans onward.fewer
      unfold chooseArm
      dsimp only [Telling.pull, Telling.holds, Telling.missingEnd]
      refine pull_sound ready ?_ ?_
      · intro directive last onward regular
        dsimp only
        split
        · refine Sound.bind ((skipBlock_sound onward.ready false).earlier onward.fewer
            fun _ _ further => further.trans onward.fewer) ?_
          exact fun _ further behind => on further behind
        · refine Sound.bind ((holds_sound scope _ _).earlier onward.fewer
            fun _ _ same => (same.onward onward.ready onward.live).trans onward.fewer) ?_
          intro value further behind
          cases value with
          | true => exact .ok behind
          | false => exact on further behind
        · exact .ok onward
        · exact .ok onward
        · exact on last onward
      · intro last spent
        exact .raise rfl last

def LeftOff (state : State N) (flow : Flow) (last : State N) : Prop :=
  match flow with
  | .goOn => Onward state last
  | .finish => Live last

theorem LeftOff.earlier {state middle last : State N} {flow : Flow}
    (off : LeftOff middle flow last) (fewer : left middle ≤ left state) :
    LeftOff state flow last := by
  cases flow with
  | goOn => exact off.trans fewer
  | finish => exact off

def Dispatched (state : State N) (flow : Flow) (last : State N) : Prop :=
  match flow with
  | .goOn => Ready last ∧ left last ≤ left state
  | .finish => Live last

theorem close_sound {state last : State N} (live : Live last) :
    Sound state (LeftOff state)
      ((do
        closeStream
        pure .finish : Run N Flow).run last) := by
  obtain ⟨stream, current, open_⟩ := live
  rw [run_finished current]
  exact .ok ⟨stream.close, rfl, open_⟩

theorem runArm_sound {dispatch : Dispatch N} {context : Context}
    (dispatched : ∀ directive (state : State N), Regular directive.command → Ready state →
      Live state → Sound state (Dispatched state) ((dispatch context directive).run state))
    {state : State N} (ready : Ready state) (isFallback : Bool) (budget : Nat) :
    Sound state (LeftOff state) ((runArm dispatch context isFallback budget).run state) := by
  have skipped {state : State N} (ready : Ready state) (fallbackSeen : Bool) :
      Sound state (LeftOff state)
        ((do
          skipBlock fallbackSeen
          pure .goOn : Run N Flow).run state) :=
    (skipBlock_sound ready fallbackSeen).bind fun _ _ onward => .ok onward
  induction budget generalizing state with
  | zero => exact .exhausted
  | succ budget ih =>
      unfold runArm
      dsimp only [Telling.act, Telling.pull, Telling.malformed]
      refine pull_sound ready ?_ ?_
      · intro directive last onward regular
        have on (fallbackSeen : Bool) : Sound state (LeftOff state)
            ((do
              skipBlock fallbackSeen
              pure .goOn : Run N Flow).run last) :=
          (skipped onward.ready fallbackSeen).earlier onward.fewer
            fun _ _ off => off.earlier onward.fewer
        dsimp only
        split
        · split
          · exact .raise rfl last
          · exact on false
        · split
          · exact .raise rfl last
          · exact on true
        · exact .ok onward
        · rw [run_bind_ok (run_note _ _ _)]
          exact close_sound onward.live
        · refine Sound.bind ((dispatched directive last regular onward.ready onward.live).earlier
            onward.fewer fun _ _ went => went) ?_
          intro flow further went
          cases flow with
          | finish => exact close_sound went
          | goOn =>
              have fewer := Nat.le_trans went.2 onward.fewer
              exact (ih went.1).earlier fewer fun _ _ off => off.earlier fewer
      · intro last spent
        exact (skipped spent.ready isFallback).earlier spent.fewer
          fun _ _ off => off.earlier spent.fewer

theorem runBlock_sound {dispatch : Dispatch N} {context : Context} (noSkip : context.skip = false)
    (dispatched : ∀ directive (state : State N), Regular directive.command → Ready state →
      Live state → Sound state (Dispatched state) ((dispatch context directive).run state))
    {state : State N} (ready : Ready state) (live : Live state) (condition : String) :
    Sound state (LeftOff state) ((runBlock dispatch context condition).run state) := by
  have inArm : { context with skip := false } = context := by
    cases context
    cases noSkip
    rfl
  unfold runBlock
  dsimp only [Telling.act, Telling.holds]
  simp only [noSkip, Bool.false_eq_true, ↓reduceIte, inArm]
  have entered : Sound state (fun _ last => SameReading state last) (newScope.run state) :=
    .ok ⟨rfl, rfl⟩
  refine entered.bind fun scope last same => ?_
  have onward := same.onward ready live
  refine Sound.bind ((holds_sound scope condition none).earlier onward.fewer
    fun _ _ same => (same.onward onward.ready onward.live).trans onward.fewer) ?_
  intro value last onward
  have arm (isFallback : Bool) (last : State N) (onward : Onward state last) :
      Sound state (LeftOff state) ((turns >>= fun budget =>
        runArm dispatch context isFallback budget).run last) :=
    turns_sound fun budget => (runArm_sound dispatched onward.ready isFallback budget).earlier
      onward.fewer fun _ _ off => off.earlier onward.fewer
  cases value with
  | true => exact arm false last onward
  | false =>
      simp only [Bool.false_eq_true, ↓reduceIte]
      refine turns_sound fun budget => ?_
      refine Sound.bind ((chooseArm_sound onward.ready scope budget).earlier onward.fewer
        fun _ _ further => further.trans onward.fewer) ?_
      intro chosen last onward
      cases chosen with
      | arm isFallback => exact arm isFallback last onward
      | none => exact .ok onward

/-- What comes of a directive that the loop over a script has dispatched. The failure of a pull
within a block is contained like any other, so the loop goes on, with a stream that has ended. -/
inductive Went (inner : Dispatch N) (context : Context) (directive : Directive (Handler N))
    (state : State N) : Ended N Flow → Prop where
  | on {last} (onward : Onward state last) : Went inner context directive state (.ok .goOn last)
  | finished {last} (live : Live last) :
      Went inner context directive state (.ok .finish last)
  | brokeOff {digits between last} (opens : directive.command.handler = .builtin .ifBlock)
      (failed : (runBlock inner context directive.args).run
        (state.noted .debug (startRow directive.name directive.call)) =
          .error (.fault (.oversizedCount digits)) between)
      (spent : Spent state last) : Went inner context directive state (.ok .goOn last)
  | exhausted {last} : Went inner context directive state (.error .exhausted last)
  | broken {fault error last} (structural : structural? fault = some error) :
      Went inner context directive state (.error (.fault fault) last)

theorem Went.sound {inner : Dispatch N} {context : Context} {directive : Directive (Handler N)}
    {state : State N} {result : Ended N Flow} (went : Went inner context directive state result) :
    Sound state (Dispatched state) result := by
  cases went with
  | on onward => exact .ok ⟨onward.ready, onward.fewer⟩
  | finished live => exact .ok live
  | brokeOff opens failed spent => exact .ok ⟨spent.ready, spent.fewer⟩
  | exhausted => exact .exhausted
  | broken structural => exact .broken structural

theorem structural_attributed {fault : Fault} {error : ScriptError}
    (structural : structural? fault = some error) (path : Option String) (line : Nat) :
    structural? (.script (attributed path line error)) = some (attributed path line error) := by
  cases fault with
  | script given =>
      simp only [structural?] at structural
      split at structural
      next code kind =>
        cases structural
        simp only [structural?, attributed, kind]
      next => cases structural
  | _ => cases structural

theorem run_report_same (path : Option String) (directive : Directive (Handler N)) (fault : Fault)
    (state : State N) : SameReading state (after (report path directive fault) state) := by
  cases path <;> exact ⟨rfl, rfl⟩

theorem dispatchTo_alone (depth : Nat) (context : Context) {directive : Directive (Handler N)}
    (alone : directive.command.handler.Streamless directive.call) {state : State N}
    (ready : Ready state) (live : Live state) :
    Went (dispatchTo depth) context directive state
      ((dispatchTo (depth + 1) context directive).run state) := by
  have aside := dispatchTo_aside (depth + 1) context alone
  have keeps := dispatchTo_keepsRegistry (depth + 1) context directive state
  cases ended : (dispatchTo (depth + 1) context directive).run state with
  | ok flow last =>
      rw [after_ok ended] at keeps
      have same : SameReading state last := ⟨aside.ok_stream ended, keeps⟩
      cases flow with
      | goOn => exact .on (same.onward ready live)
      | finish => exact .finished (same.live_iff.mpr live)
  | error stop last =>
      rw [dispatchTo_succ, run_dispatchBy] at ended
      cases executed : (executeBy (dispatchTo depth) context directive.command
          directive.call).run state with
      | ok outcome between => rw [executed] at ended; cases ended
      | error reason between =>
          rw [executed] at ended
          cases reason with
          | exhausted => cases ended; exact .exhausted
          | fault fault =>
              dsimp only at ended
              cases structural : structural? fault with
              | none => rw [structural] at ended; cases ended
              | some error =>
                  rw [structural] at ended
                  cases ended
                  exact .broken (structural_attributed structural _ _)

theorem blockEnd_spent (context : Context) (directive : Directive (Handler N)) (digits : Nat)
    {state between : State N} (spent : Spent state between) :
    ∃ last, blockEnd context directive (.error (.fault (.oversizedCount digits)) between) =
      .ok .goOn last ∧ Spent state last := by
  have same := run_report_same context.path directive (.oversizedCount digits)
    ((between.noted .debug (errorRow directive.name)).noted .debug (endRow directive.name))
  exact ⟨_, rfl, same.ready ⟨spent.ready.only, spent.ready.reads⟩,
    fun live => spent.dead (same.live_iff.mp live),
    Nat.le_trans (Nat.le_of_eq same.left_eq) spent.fewer⟩

theorem Sound.blockEnd {inner : Dispatch N} {context : Context} {directive : Directive (Handler N)}
    (opens : directive.command.handler = .builtin .ifBlock) {state : State N}
    (sound : Sound state (LeftOff state) ((runBlock inner context directive.args).run
      (state.noted .debug (startRow directive.name directive.call)))) :
    Went inner context directive state (blockEnd context directive
      ((runBlock inner context directive.args).run
        (state.noted .debug (startRow directive.name directive.call)))) := by
  generalize ran : (runBlock inner context directive.args).run
    (state.noted .debug (startRow directive.name directive.call)) = result at sound
  cases sound with
  | @ok flow last reached =>
      cases flow with
      | goOn => exact .on ⟨⟨reached.ready.only, reached.ready.reads⟩, reached.live, reached.fewer⟩
      | finish => exact .finished reached
  | exhausted => exact .exhausted
  | @broken fault error last structural =>
      simp only [Engine.blockEnd, structural]
      exact .broken (structural_attributed structural _ _)
  | @failure digits last spent =>
      obtain ⟨last, ended, spent⟩ := blockEnd_spent context directive digits spent
      rw [ended]
      exact .brokeOff opens ran spent

theorem runBlock_started {depth : Nat} {context : Context} (noSkip : context.skip = false)
    (dispatched : ∀ directive (state : State N), Regular directive.command → Ready state →
      Live state → Sound state (Dispatched state) ((dispatchTo depth context directive).run state))
    (directive : Directive (Handler N)) {state : State N} (ready : Ready state)
    (live : Live state) :
    Sound state (LeftOff state) ((runBlock (dispatchTo depth) context directive.args).run
      (state.noted .debug (startRow directive.name directive.call))) := by
  have started : Onward state (state.noted .debug (startRow directive.name directive.call)) :=
    ⟨⟨ready.only, ready.reads⟩, live, Nat.le_refl _⟩
  exact (runBlock_sound noSkip dispatched started.ready started.live directive.args).earlier
    started.fewer fun _ _ off => off.earlier started.fewer

theorem went_of_sound (depth : Nat) {context : Context} (noSkip : context.skip = false)
    (dispatched : ∀ directive (state : State N), Regular directive.command → Ready state →
      Live state → Sound state (Dispatched state) ((dispatchTo depth context directive).run state))
    {directive : Directive (Handler N)} (regular : Regular directive.command) {state : State N}
    (ready : Ready state) (live : Live state) :
    Went (dispatchTo depth) context directive state
      ((dispatchTo (depth + 1) context directive).run state) := by
  rcases regular with opens | alone
  · rw [dispatchTo_succ, run_dispatch_block _ _ opens ready.streaming]
    exact Sound.blockEnd opens (runBlock_started noSkip dispatched directive ready live)
  · exact dispatchTo_alone depth context (alone _) ready live

theorem dispatchTo_sound (depth : Nat) {context : Context} (noSkip : context.skip = false)
    (directive : Directive (Handler N)) (state : State N) (regular : Regular directive.command)
    (ready : Ready state) (live : Live state) :
    Sound state (Dispatched state) ((dispatchTo depth context directive).run state) := by
  induction depth generalizing directive state with
  | zero => exact .exhausted
  | succ depth ih => exact (went_of_sound depth noSkip ih regular ready live).sound

theorem dispatchTo_went (depth : Nat) {context : Context} (noSkip : context.skip = false)
    {directive : Directive (Handler N)} (regular : Regular directive.command) {state : State N}
    (ready : Ready state) (live : Live state) :
    Went (dispatchTo depth) context directive state
      ((dispatchTo (depth + 1) context directive).run state) :=
  went_of_sound depth noSkip (dispatchTo_sound depth noSkip) regular ready live

end ExScript.Engine
