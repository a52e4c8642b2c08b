import ExScript.Proofs.Completion

/-!
Names that last, and those of a single evaluation. Conditions and expressions are evaluated in
scopes of their own, which start as the user's table and come to nothing.
-/

namespace ExScript

namespace Expr

inductive World.Made : World → Prop
  | start (environment : List (String × String)) (names : List (String × Value)) :
      Made (({ environment } : World).withNames names)
  | named {world : World} (made : Made world) (name : String) (value : Value) :
      Made (world.bind .user name value)
  | opened {world : World} (made : Made world) : Made world.newScope.2
  | evaluated {world : World} (made : Made world) (outside : Outside) (scope : Scope)
      (source : String) : Made (world.runIn outside scope source).2
  | flushed {world : World} (made : Made world) : Made world.flushed

theorem World.Made.distinct {world : World} (made : world.Made) : world.Distinct := by
  induction made with
  | start environment names =>
      intro scope
      cases scope with
      | user =>
          have none : (∅ : Table Value).keys.Nodup := List.nodup_nil
          exact Table.keys_insertAll_nodup none names
      | fresh index => exact List.nodup_nil
  | named made name value ih =>
      exact ih.setTable .user (Table.keys_insert_nodup (ih .user) name value)
  | opened made ih => exact ih.newScope
  | @evaluated world made outside scope source ih =>
      exact (world.runIn_beside outside scope source).distinct ih
  | @flushed world made ih => exact .congr world.table_flushed ih

end Expr

namespace Engine

open ExScript.Expr (Beside)
open ExScript.Expr.World (Kept)

variable {N α β : Type}

theorem run_evaluate (source : String) (state : State N) :
    ∃ last, last.world = (state.world.evaluate state.outside source).2.flushed ∧
      (evaluate source).run state = match (state.world.evaluate state.outside source).1 with
        | .ok value => .ok value last
        | .error error => .error (.fault (.script error)) last := by
  obtain ⟨session, ran⟩ :=
    run_onWorld (fun outside world => world.evaluate outside source) state
  refine ⟨{ state with world := (state.world.evaluate state.outside source).2.flushed, session },
    rfl, ?_⟩
  unfold evaluate
  rw [run_bind_ok ran]
  cases (state.world.evaluate state.outside source).1 <;> rfl

theorem evaluate_kept (source : String) (state : State N) :
    Kept state.world (after (evaluate source) state).world := by
  obtain ⟨last, world, ran⟩ := run_evaluate source state
  have kept := state.world.evaluate_kept state.outside source
  have reached : after (evaluate source) state = last := by
    unfold after
    rw [ran]
    cases (state.world.evaluate state.outside source).1 <;> rfl
  rw [reached, world]
  exact ⟨fun scope known => (Expr.World.table_flushed _ scope).trans (kept.tables scope known),
    fun held => .congr (Expr.World.table_flushed _) (kept.distinct held)⟩

def Still (action : Run N α) : Prop :=
  ∀ state, (after action state).world = state.world ∧ (after action state).files = state.files

namespace Still

theorem pure (value : α) : Still (pure value : Run N α) :=
  fun _ => ⟨rfl, rfl⟩

theorem raise (fault : Fault) : Still (raise fault : Run N α) :=
  fun _ => ⟨rfl, rfl⟩

theorem exhausted : Still (throw .exhausted : Run N α) :=
  fun _ => ⟨rfl, rfl⟩

theorem get : Still (get : Run N (State N)) :=
  fun _ => ⟨rfl, rfl⟩

theorem say (kind : MessageKind) (text : String) : Still (say kind text : Run N Unit) :=
  fun _ => ⟨rfl, rfl⟩

theorem pull : Still (pull : Run N (Option (Directive (Handler N)))) := by
  intro state
  cases current : state.stream with
  | none =>
      rw [after_error (run_pull_none current)]
      exact ⟨rfl, rfl⟩
  | some stream =>
      rw [after_pull current]
      exact ⟨rfl, rfl⟩

theorem bind {action : Run N α} {next : α → Run N β} (first : Still action)
    (behind : ∀ value, Still (next value)) : Still (action >>= next) :=
  fun state => after_bind (fun last => last.world = state.world ∧ last.files = state.files)
    (first state) fun value last here =>
      ⟨(behind value last).1.trans here.1, (behind value last).2.trans here.2⟩

theorem skipBlocks (budget : Nat) (unclosed : List Bool) :
    Still (skipBlocks budget unclosed : Run N Unit) := by
  induction budget generalizing unclosed with
  | zero =>
      cases unclosed with
      | nil => exact .pure _
      | cons fallbackSeen outer => exact .exhausted
  | succ budget ih =>
      cases unclosed with
      | nil => exact .pure _
      | cons fallbackSeen outer =>
          refine .bind .pull fun pulled => ?_
          cases pulled with
          | none => exact .raise _
          | some directive =>
              dsimp only
              split
              · exact ih _
              · split
                · exact .raise _
                · exact ih _
              · split
                · exact .raise _
                · exact ih _
              · exact ih _
              · exact ih _

theorem turns : Still (turns : Run N Nat) := by
  refine .bind .get fun state => ?_
  split <;> exact .pure _

theorem skipBlock (fallbackSeen : Bool) : Still (skipBlock fallbackSeen : Run N Unit) :=
  .bind .turns fun _ => .skipBlocks _ _

end Still

theorem Still.ended {action : Run N α} (still : Still action) {state last : State N} {value : α}
    (ended : action.run state = .ok value last) :
    last.world = state.world ∧ last.files = state.files := by
  have same := still state
  rwa [after_ok ended] at same

theorem Still.failed {action : Run N α} (still : Still action) {state last : State N} {stop : Stop}
    (ended : action.run state = .error stop last) :
    last.world = state.world ∧ last.files = state.files := by
  have same := still state
  unfold after at same
  rwa [ended] at same

theorem Still.behind {action : Run N α} {next : α → Run N β} {state : State N}
    (first : Kept state.world (after action state).world) (still : ∀ value, Still (next value)) :
    Kept state.world (after (action >>= next) state).world :=
  after_bind (fun last => Kept state.world last.world) first fun value last kept =>
    (still value last).1.symm ▸ kept

theorem Still.kept {action : Run N α} (still : Still action) (state : State N) :
    Kept state.world (after action state).world :=
  (still state).1.symm ▸ .refl state.world

theorem checkDigits_still (value : Expr.Value) : Still (checkDigits value : Run N Unit) := by
  refine .bind .get fun state => ?_
  split
  · exact .raise _
  · exact .pure _

theorem rendered_kept (source : String) (state : State N) :
    Kept state.world (after (rendered source) state).world := by
  unfold rendered
  split
  · exact (Still.pure "").kept state
  · exact Still.behind (evaluate_kept source state) fun value =>
      (checkDigits_still value).bind fun _ => Still.get.bind fun _ => .pure _

theorem echo_kept (dispatch : Dispatch N) (context : Context) (call : Call) (kind : MessageKind)
    (state : State N) :
    Kept state.world (after (runBuiltin dispatch context call (.echo kind)) state).world := by
  have said (text : String) : Still (do say kind text; pure Outcome.nothing : Run N Outcome) :=
    (Still.say kind text).bind fun _ => .pure _
  exact Still.behind (rendered_kept call.args state) said

def tried (outside : Expr.Outside) (scope : Expr.Scope) (world : Expr.World)
    (conditions : List String) : Expr.World :=
  conditions.foldl (fun world condition => (world.runIn outside scope condition).2.flushed) world

structure Tried (scope : Expr.Scope) (conditions : List String) (state last : State N) : Prop where
  world : last.world = tried state.outside scope state.world conditions
  files : last.files = state.files
  beside : Beside scope state.world last.world

def Tries (scope : Expr.Scope) (action : Run N α) : Prop :=
  ∀ state, ∃ conditions, Tried scope conditions state (after action state)

theorem Tried.append {scope : Expr.Scope} {earlier later : List String}
    {state between last : State N} (first : Tried scope earlier state between)
    (second : Tried scope later between last) : Tried scope (earlier ++ later) state last := by
  have outside : between.outside = state.outside := by
    unfold State.outside
    rw [first.files]
  refine ⟨?_, second.files.trans first.files, first.beside.trans second.beside⟩
  rw [second.world, first.world, outside]
  exact (List.foldl_append ..).symm

theorem Tried.behind {scope : Expr.Scope} {action : Run N α} {next : α → Run N β}
    {state : State N} {conditions : List String}
    (first : Tried scope conditions state (after action state))
    (behind : ∀ value, Tries scope (next value)) :
    ∃ more, Tried scope (conditions ++ more) state (after (action >>= next) state) := by
  refine after_bind (fun last => ∃ more, Tried scope (conditions ++ more) state last) ?_ ?_
  · exact ⟨[], by rwa [List.append_nil]⟩
  · rintro value last ⟨more, earlier⟩
    obtain ⟨others, later⟩ := behind value last
    exact ⟨more ++ others, List.append_assoc .. ▸ earlier.append later⟩

theorem holds_tried (scope : Expr.Scope) (condition : String) (line : Option Int)
    (state : State N) : Tried scope [condition] state (after (holds scope condition line) state) := by
  have judged := holds_judged scope condition line state
  unfold after
  generalize (holds scope condition line).run state = result at judged
  cases judged with
  | truth evaluated world beside elsewhere =>
      exact ⟨world, by rw [elsewhere], beside⟩
  | fault evaluated world beside elsewhere =>
      exact ⟨world, by rw [elsewhere], beside⟩

namespace Tries

variable {scope : Expr.Scope}

theorem of_still {action : Run N α} (still : Still action) : Tries scope action := by
  intro state
  obtain ⟨world, files⟩ := still state
  exact ⟨[], world, files, world ▸ .refl scope _⟩

theorem bind {action : Run N α} {next : α → Run N β} (first : Tries scope action)
    (behind : ∀ value, Tries scope (next value)) : Tries scope (action >>= next) := by
  intro state
  obtain ⟨conditions, here⟩ := first state
  obtain ⟨more, there⟩ := here.behind behind
  exact ⟨_, there⟩

theorem holds (condition : String) (line : Option Int) :
    Tries scope (holds scope condition line : Run N Bool) :=
  fun state => ⟨_, holds_tried scope condition line state⟩

theorem chooseArm (budget : Nat) : Tries scope (chooseArm scope budget : Run N Chosen) := by
  induction budget with
  | zero => exact of_still .exhausted
  | succ budget ih =>
      refine bind (of_still .pull) fun pulled => ?_
      cases pulled with
      | none => exact of_still (.raise _)
      | some directive =>
          dsimp only
          split
          · exact bind (of_still (.skipBlock _)) fun _ => ih
          · refine bind (holds _ _) fun truth => ?_
            split
            · exact of_still (.pure _)
            · exact ih
          · exact of_still (.pure _)
          · exact of_still (.pure _)
          · exact ih

end Tries

def choice (scope : Expr.Scope) (condition : String) : Run N (Option Bool) := do
  if ← holds scope condition none then pure (some false)
  else match ← chooseArm scope (← turns) with
    | .arm isFallback => pure (some isFallback)
    | .none => pure none

theorem runBlock_choice (dispatch : Dispatch N) {context : Context} (noSkip : context.skip = false)
    (condition : String) :
    runBlock dispatch context condition = (do
      let scope ← newScope
      match ← choice scope condition with
      | some isFallback => runArm dispatch context isFallback (← turns)
      | none => pure .goOn) := by
  have inArm : ({ context with skip := false } : Context) = context := by
    rw [← noSkip]
  unfold runBlock choice
  dsimp only [Telling.act, Telling.holds]
  rw [if_neg (by simp [noSkip]), inArm]
  refine bind_congr fun scope => ?_
  rw [bind_assoc]
  refine bind_congr fun truth => ?_
  cases truth with
  | true => simp
  | false =>
      simp only [Bool.false_eq_true, ↓reduceIte, bind_assoc]
      refine bind_congr fun budget => bind_congr fun chosen => ?_
      cases chosen <;> simp

theorem choice_tried (scope : Expr.Scope) (condition : String) (state : State N) :
    ∃ more, Tried scope (condition :: more) state (after (choice scope condition) state) := by
  refine (holds_tried scope condition none state).behind fun truth => ?_
  split
  · exact .of_still (.pure _)
  · refine .bind (.of_still .turns) fun budget => .bind (.chooseArm budget) fun chosen => ?_
    cases chosen <;> exact .of_still (.pure _)

theorem listVariables_still : Still (listVariables : Run N Unit) := by
  have shown (items : List (String × Expr.Value)) (start : PUnit)
      (body : String × Expr.Value → PUnit → Run N (ForInStep PUnit))
      (each : ∀ item value, Still (body item value)) : Still (forIn items start body) := by
    induction items generalizing start with
    | nil => exact .pure _
    | cons item rest ih =>
        rw [List.forIn_cons]
        refine .bind (each item start) fun step => ?_
        cases step with
        | done value => exact .pure _
        | yield value => exact ih value
  refine .bind .get fun state => .bind (shown _ _ _ fun item _ => ?_) fun _ => .pure _
  exact .bind (checkDigits_still item.2) fun _ => .bind (.say _ _) fun _ => .pure _

theorem run_define (name : String) (value : Expr.Value) (state : State N) :
    (define name value).run state =
      if Text.isIdentifier name then
        .ok ⟨⟩ { state with world := state.world.bind .user name value }
      else
        .error (.fault (.script (.expression ("Illegal variable name: " ++ name)))) state := by
  unfold define Expr.World.define
  rw [run_get_bind]
  split
  next legal =>
    split at legal
    next named =>
      cases legal
      rw [if_pos named]
      rfl
    next => cases legal
  next illegal =>
    split at illegal
    next => cases illegal
    next named =>
      cases illegal
      rw [if_neg named]
      rfl

inductive Refused (args : String) (state : State N) : Stop → Prop
  | malformed (none : assignment? args = none) :
      Refused args state
        (.fault (.script (.plain ("E18: Unexpected characters in :let: " ++ Text.strip args))))
  | invalid {name source : String} {error : ScriptError}
      (assigns : assignment? args = some (name, source))
      (evaluated : (state.world.evaluate state.outside source).1 = .error error) :
      Refused args state (.fault (.script error))
  | illegal {name source : String} {value : Expr.Value}
      (assigns : assignment? args = some (name, source))
      (evaluated : (state.world.evaluate state.outside source).1 = .ok value)
      (illegal : Text.isIdentifier name = false) :
      Refused args state (.fault (.script (.expression ("Illegal variable name: " ++ name))))

/-- What an assignment comes to: a binding of its name in the user's table and no other change, or
none if it is refused. Without arguments there is nothing to bind. -/
inductive Assigned (args : String) (state : State N) : Ended N Unit → Prop
  | listed {last : State N} (blank : Text.strip args = "") (same : last.world = state.world) :
      Assigned args state (.ok ⟨⟩ last)
  | unlisted {stop : Stop} {last : State N} (blank : Text.strip args = "")
      (same : last.world = state.world) : Assigned args state (.error stop last)
  | bound {name source : String} {value : Expr.Value} {last : State N}
      (given : Text.strip args ≠ "") (assigns : assignment? args = some (name, source))
      (legal : Text.isIdentifier name = true)
      (evaluated : (state.world.evaluate state.outside source).1 = .ok value)
      (user : last.world.user = state.world.user.insert name value)
      (others : ∀ scope, scope ≠ .user → state.world.Knows scope →
        last.world.table scope = state.world.table scope) :
      Assigned args state (.ok ⟨⟩ last)
  | refused {stop : Stop} {last : State N} (given : Text.strip args ≠ "")
      (reason : Refused args state stop) (kept : Kept state.world last.world) :
      Assigned args state (.error stop last)

theorem define_assigns {args name source : String} {value : Expr.Value} {state between : State N}
    (given : Text.strip args ≠ "") (assigns : assignment? args = some (name, source))
    (evaluated : (state.world.evaluate state.outside source).1 = .ok value)
    (kept : Kept state.world between.world) :
    Assigned args state ((define name value).run between) := by
  rw [run_define]
  split
  next legal =>
    refine .bound given assigns legal evaluated ?_ fun scope other known => ?_
    · exact congrArg (·.insert name value) (kept.tables .user trivial)
    · exact (between.world.table_setTable_ne other _).trans (kept.tables scope known)
  next illegal =>
    exact .refused given (.illegal assigns evaluated (Bool.eq_false_iff.mpr illegal)) kept

theorem let_assigns (args : String) (state : State N) :
    Assigned args state ((runLet args).run state) := by
  unfold runLet
  split
  next blank =>
    cases ended : (listVariables : Run N Unit).run state with
    | ok value last => exact .listed blank (listVariables_still.ended ended).1
    | error stop last => exact .unlisted blank (listVariables_still.failed ended).1
  next given =>
    split
    next none => exact .refused given (.malformed none) (.refl _)
    next name source assigns =>
      have kept := evaluate_kept source state
      obtain ⟨last, -, ran⟩ := run_evaluate source state
      cases evaluated : (state.world.evaluate state.outside source).1 with
      | ok value =>
          rw [evaluated] at ran
          rw [after_ok ran] at kept
          rw [run_bind_ok ran]
          exact define_assigns given assigns evaluated kept
      | error error =>
          rw [evaluated] at ran
          rw [after_error ran] at kept
          rw [run_bind_error ran]
          exact .refused given (.invalid assigns evaluated) kept

/-- The conditions of a block are evaluated in one scope, which is new, each in the world that the
one before has left, and nothing is bound elsewhere. Then the block is over, or an arm is run. -/
def ChoosesArm (dispatch : Dispatch N) (context : Context) (condition : String) (state : State N) :
    Prop :=
  ∃ more began,
    began.world = tried state.outside state.world.newScope.1 state.world.newScope.2
      (condition :: more) ∧
    Kept state.world began.world ∧
    (after (runBlock dispatch context condition) state = began ∨
      ∃ isFallback budget, (runBlock dispatch context condition).run state =
        (runArm dispatch context isFallback budget).run began)

theorem runBlock_choosesArm (dispatch : Dispatch N) {context : Context}
    (noSkip : context.skip = false) (condition : String) (state : State N) :
    ChoosesArm dispatch context condition state := by
  obtain ⟨entered, within, -, world, outside⟩ := run_newScope state
  obtain ⟨more, tried, -, beside⟩ := choice_tried state.world.newScope.1 condition entered
  rw [world, outside] at tried
  rw [world] at beside
  have kept : Kept state.world _ := .of_beside beside
  refine ⟨more, _, tried, kept, ?_⟩
  rw [runBlock_choice dispatch noSkip]
  cases ended : (choice state.world.newScope.1 condition).run entered with
  | error stop last =>
      left
      rw [after_error ended]
      unfold after
      rw [run_bind_ok within, run_bind_error ended]
  | ok chosen last =>
      rw [after_ok ended]
      cases chosen with
      | none =>
          left
          unfold after
          rw [run_bind_ok within, run_bind_ok ended]
          rfl
      | some isFallback =>
          right
          obtain ⟨budget, counted⟩ := run_turns last
          refine ⟨isFallback, budget + 1, ?_⟩
          rw [run_bind_ok within, run_bind_ok ended]
          exact run_bind_ok counted

/-- What evaluation does to names, as expressions, assignments and conditions are evaluated. -/
structure NamesKept (state : State N) : Prop where
  evaluated : ∀ source, Kept state.world (after (evaluate source) state).world
  echoed : ∀ (dispatch : Dispatch N) (context : Context) (call : Call) (kind : MessageKind),
    Kept state.world (after (runBuiltin dispatch context call (.echo kind)) state).world
  tested : ∀ scope condition line,
    Judged scope condition line state ((holds scope condition line).run state)
  begun : ∀ name,
    state.world.newScope.2.lookup? state.world.newScope.1 name = state.world.lookup? .user name
  opened : OpensScope state (newScope.run state)
  block : ∀ (dispatch : Dispatch N) (context : Context) (condition : String),
    context.skip = false → ChoosesArm dispatch context condition state
  assigned : ∀ args, Assigned args state ((runLet args).run state)

/-- Evaluation binds no name that lasts, whether it returns or fails. -/
theorem names_kept {state : State N} (distinct : state.world.Distinct) : NamesKept state where
  evaluated source := evaluate_kept source state
  echoed dispatch context call kind := echo_kept dispatch context call kind state
  tested scope condition line := holds_judged scope condition line state
  begun := Expr.World.lookup?_newScope distinct
  opened := newScope_opens state
  block dispatch _ condition noSkip := runBlock_choosesArm dispatch noSkip condition state
  assigned args := let_assigns args state

def failing : State Unit :=
  { builtinState with
    world := ((({} : Expr.World).withNames []).execute builtinState.outside
      "def f(x):\n  y = 1\n  raise ValueError('t')").2 }

/-- A call that fails half-way leaves neither the parameter of the function nor what its body has
assigned. -/
theorem names_kept_failingCall : failing.world.Distinct ∧
    failing.world.user.keys = ["f"] ∧
    (failing.world.evaluate failing.outside "f(5)").1.toOption.isNone = true ∧
    Kept failing.world (after (evaluate "f(5)") failing).world ∧
    Assigned "z = f(5)" failing ((runLet "z = f(5)").run failing) := by
  have distinct : failing.world.Distinct :=
    ((Expr.World.Made.start [] []).evaluated builtinState.outside .user _).distinct
  exact ⟨distinct, by decide +kernel, by decide +kernel, (names_kept distinct).evaluated _,
    (names_kept distinct).assigned _⟩

end Engine

end ExScript
