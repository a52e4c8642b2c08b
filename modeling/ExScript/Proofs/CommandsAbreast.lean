import ExScript.Proofs.Abreast

/-!
Commands side by side. Two ways to execute directives that differ in nothing but what is shown make
no other difference to scripts, blocks and typed lines either.
-/

namespace ExScript

variable {compares : Channel → Channel → Prop} {place : Option String}

namespace Engine

variable {N α β : Type}

def Context.At (place : Option String) (context : Context) : Prop :=
  ∀ path, context.path = some path → place = some path

theorem Context.at_prompt (place : Option String) : Context.At place {} :=
  nofun

namespace Abreast

section Lasting

variable (lasting : Channel.Lasting compares)

include lasting

theorem skipBlocks (budget : Nat) (unclosed : List Bool) :
    Abreast compares place (skipBlocks budget unclosed : Run N Unit)
      (skipBlocks budget unclosed) := by
  induction budget generalizing unclosed with
  | zero =>
      cases unclosed with
      | nil => exact pure _
      | cons fallbackSeen outer => exact exhausted
  | succ budget ih =>
      cases unclosed with
      | nil => exact pure _
      | cons fallbackSeen outer =>
          refine (pull lasting).bind fun pulled => ?_
          cases pulled with
          | none => exact raise _
          | some directive =>
              dsimp only
              split
              · exact ih _
              · split
                · exact raise _
                · exact ih _
              · split
                · exact raise _
                · exact ih _
              · exact ih _
              · exact ih _

theorem skipBlock (fallbackSeen : Bool) :
    Abreast compares place (skipBlock fallbackSeen : Run N Unit) (skipBlock fallbackSeen) :=
  turns fun _ => skipBlocks lasting _ _

theorem chooseArm (scope : Expr.Scope) (budget : Nat) :
    Abreast compares place (chooseArm scope budget : Run N Chosen) (chooseArm scope budget) := by
  induction budget with
  | zero => exact exhausted
  | succ budget ih =>
      refine (pull lasting).bind fun pulled => ?_
      cases pulled with
      | none => exact raise _
      | some directive =>
          dsimp only
          split
          · exact (skipBlock lasting _).bind fun _ => ih
          · refine (holds lasting _ _ _).bind fun value => ?_
            split
            · exact pure _
            · exact ih
          · exact pure _
          · exact pure _
          · exact ih

omit lasting in
theorem finished :
    Abreast compares place (do
      Engine.closeStream
      Pure.pure .finish : Run N Flow) (do
      Engine.closeStream
      Pure.pure .finish) :=
  closeStream.bind fun _ => pure _

theorem skipped (fallbackSeen : Bool) :
    Abreast compares place (do
      Engine.skipBlock fallbackSeen
      Pure.pure .goOn : Run N Flow) (do
      Engine.skipBlock fallbackSeen
      Pure.pure .goOn) :=
  (skipBlock lasting fallbackSeen).bind fun _ => pure _

section Dispatching

variable {dispatch other : Dispatch N}
  (dispatched : ∀ {place context} directive, Context.At place context →
    Abreast compares place (dispatch context directive) (other context directive))

include dispatched

theorem runArm {context : Context} (here : context.At place) (isFallback : Bool) (budget : Nat) :
    Abreast compares place (runArm dispatch context isFallback budget)
      (runArm other context isFallback budget) := by
  induction budget with
  | zero => exact exhausted
  | succ budget ih =>
      refine (pull lasting).bind fun pulled => ?_
      cases pulled with
      | none => exact skipped lasting isFallback
      | some directive =>
          dsimp only
          split
          · split
            · exact raise _
            · exact skipped lasting false
          · split
            · exact raise _
            · exact skipped lasting true
          · exact pure _
          · exact (note _ _).bind fun _ => finished
          · refine (dispatched directive here).bind fun flow => ?_
            cases flow with
            | finish => exact finished
            | goOn => exact ih

theorem runBlock {context : Context} (here : context.At place) (condition : String) :
    Abreast compares place (runBlock dispatch context condition)
      (runBlock other context condition) := by
  have inArm : Context.At place { context with skip := false } := here
  unfold Engine.runBlock
  dsimp only [Telling.act, Telling.holds]
  split
  · exact skipped lasting false
  · refine newScope.bind fun scope => (holds lasting _ _ _).bind fun value => ?_
    split
    · exact turns fun _ => runArm lasting dispatched inArm _ _
    · refine turns fun _ => (chooseArm lasting scope _).bind fun chosen => ?_
      cases chosen with
      | arm isFallback => exact turns fun _ => runArm lasting dispatched inArm _ _
      | none => exact pure _

theorem runIf {context : Context} (here : context.At place) (condition : String) :
    Abreast compares place (runIf openPrompted dispatch context condition)
      (runIf openPrompted other context condition) := by
  have block := runBlock lasting dispatched here condition
  refine reading (fun _ _ _ => rfl) fun state => ?_
  split
  · exact block
  · exact reading (fun _ _ _ => rfl) fun _ => block.withStream _

theorem runStream {context : Context} (here : context.At place) (budget : Nat) :
    Abreast compares place (runStream dispatch context budget)
      (runStream other context budget) := by
  induction budget with
  | zero => exact exhausted
  | succ budget ih =>
      refine (pull lasting).bind fun pulled => ?_
      cases pulled with
      | none => exact pure _
      | some directive =>
          dsimp only
          split
          · exact finished
          · refine (dispatched directive here).bind fun flow => ?_
            cases flow with
            | finish => exact finished
            | goOn => exact ih

theorem runSource (path : String) (source : LineSource) :
    Abreast compares (some path) (runSource dispatch path source)
      (runSource other path source) := by
  have here : Context.At (some path) { path := some path } := fun _ same => same
  refine ((turns fun _ => runStream lasting dispatched here _).withStream _).bind fun flow => ?_
  cases flow with
  | goOn => exact pure _
  | finish => exact reading (fun _ _ _ => rfl) fun _ => note _ _

omit dispatched in
theorem asScript (name : String) {first second : Run N Unit}
    (inside : Abreast compares (some name) first second) :
    Abreast compares place (asScript name first) (asScript name second) := by
  refine (inside.withScript name).attempt.bind fun result => ?_
  cases result with
  | ok value => exact pure _
  | error fault =>
      exact ((note _ _).bind fun _ => say lasting _ _).bind fun _ => pure _

theorem sourceString (text name : String) :
    Abreast compares place (sourceString dispatch text name) (sourceString other text name) :=
  asScript lasting name (runSource lasting dispatched name _)

theorem runTyped :
    Abreast compares place (runTyped dispatch) (runTyped other) := by
  have first : Abreast compares place (runFirst dispatch) (runFirst other) := by
    refine (pull lasting).bind fun pulled => ?_
    cases pulled with
    | none => exact pure _
    | some directive => exact dispatched directive (Context.at_prompt place)
  exact first.attempt.bind fun result => closeStream.bind fun _ => lift result

theorem runKnownLine (line : String) :
    Abreast compares place (runKnownLine dispatch line) (runKnownLine other line) := by
  refine reading (fun _ _ _ => rfl) fun state => ?_
  refine ((runTyped lasting dispatched).withStream _).attempt.bind fun result => ?_
  cases result with
  | ok flow => exact pure _
  | error fault =>
      dsimp only
      split
      · exact raise _
      · exact (note _ _).bind fun _ => (say lasting _ _).bind fun _ => pure _

theorem executeLine (line : String) :
    Abreast compares place (executeLine dispatch line) (executeLine other line) := by
  unfold Engine.executeLine
  split
  · exact pure _
  · split
    · exact raise _
    · refine reading (fun _ _ _ => rfl) fun state => ?_
      split
      · exact runKnownLine lasting dispatched line
      · exact (say lasting _ _).bind fun _ => pure _

theorem runSteps (statements : List Expr.Statement) :
    Abreast compares place (runSteps dispatch statements) (runSteps other statements) := by
  have taken (step : Step) :
      Abreast compares place (runStep dispatch step) (runStep other step) := by
    cases step with
    | line text => exact (executeLine lasting dispatched text).bind fun _ => pure _
    | raise kind text => exact raise _
    | idle => exact pure _
  induction statements with
  | nil => exact pure _
  | cons statement rest ih =>
      unfold Engine.runSteps
      split
      · exact raise _
      · exact (taken _).bind fun _ => ih

theorem interpret (context : Context) (program : Program N) :
    Abreast compares place (interpret dispatch context program)
      (interpret other context program) := by
  induction program with
  | done outcome => exact pure _
  | fail fault => exact raise _
  | record entry next ih =>
      refine bind ?_ fun _ => ih
      exact modify (fun _ _ => rfl) fun _ => rfl
  | say kind text next ih => exact (say lasting kind text).bind fun _ => ih
  | whereabouts next ih => exact (whereabouts context).bind fun _ => ih _
  | pull next ih => exact (pull lasting).bind fun _ => ih _
  | close next ih => exact closeStream.bind fun _ => ih
  | runString text name next ih =>
      exact (sourceString lasting dispatched text name).bind fun _ => ih _
  | runLine line next ih => exact (executeLine lasting dispatched line).bind fun _ => ih _

theorem runDelegate (path : Path) (delegate : Delegate N) :
    Abreast compares place (runDelegate dispatch path delegate)
      (runDelegate other path delegate) := by
  cases delegate with
  | driving =>
      refine bind ?_ fun _ => note _ _
      refine reading (fun _ _ _ => rfl) fun state => (lift _).bind fun text => ?_
      split
      · exact raise _
      · exact runSteps lasting dispatched _
  | stylesheet => exact addStylesheet path
  | host program =>
      exact (interpret lasting dispatched {} (program path)).withoutStream.bind fun _ => pure _

theorem runFile (path : Path) :
    Abreast compares (some path.text) (runFile dispatch path) (runFile other path) := by
  refine reading (fun _ _ _ => rfl) fun state => ?_
  split
  · exact runDelegate lasting dispatched path _
  · exact (lift _).bind fun source => runSource lasting dispatched path.text source

theorem source (path : Path) (written : String) (silent : Bool) :
    Abreast compares place (source dispatch path written silent)
      (source other path written silent) := by
  refine reading (fun _ _ _ => rfl) fun state => (lift _).bind fun _ => ?_
  split
  · refine (note _ _).bind fun _ => ?_
    dsimp only
    split
    · exact (say lasting _ _).bind fun _ => (say lasting _ _).bind fun _ => pure _
    · exact pure _
  · refine (asScript lasting _ (runFile lasting dispatched path)).bind fun completed => ?_
    dsimp only
    split
    · exact (addScriptName _).bind fun _ => (note _ _).bind fun _ => pure _
    · exact pure _

theorem sourceFound (all : Bool) (candidates : List Path) :
    Abreast compares place (sourceFound dispatch all candidates)
      (sourceFound other all candidates) := by
  induction candidates with
  | nil => exact pure _
  | cons candidate rest ih =>
      refine reading (fun _ _ _ => rfl) fun state => (lift _).bind fun _ => ?_
      dsimp only
      split
      · refine (source lasting dispatched _ _ _).bind fun _ => ?_
        split
        · exact ih.bind fun _ => pure _
        · exact pure _
      · exact ih

theorem sourceRuntime (names : List String) (all : Bool) :
    Abreast compares place (sourceRuntime dispatch names all)
      (sourceRuntime other names all) := by
  refine reading (fun _ _ _ => rfl) fun state => (lift _).bind fun directories => ?_
  refine (note _ _).bind fun _ => (sourceFound lasting dispatched all _).bind fun found => ?_
  dsimp only
  split
  · exact (note _ _).bind fun _ => pure _
  · exact pure _

end Dispatching

theorem plain : Plain (N := N) fun action => Abreast compares place action action where
  pure := pure
  fails fault _ := raise fault
  bind := bind
  reading blind := reading fun state channel log =>
    blind state state.stream (state.session.heard channel log)
  say := say lasting
  evaluate := evaluate lasting
  execute := execute lasting
  define := define
  runShell := runShell lasting

theorem runBuiltin {dispatch other : Dispatch N}
    (dispatched : ∀ {place context} directive, Context.At place context →
      Abreast compares place (dispatch context directive) (other context directive))
    {context : Context} (here : context.At place) (call : Call) (builtin : Builtin) :
    Abreast compares place (runBuiltin dispatch context call builtin)
      (runBuiltin other context call builtin) := by
  cases builtin with
  | ifBlock => exact (runIf lasting dispatched here call.args).bind fun _ => pure _
  | elseifArm | elseArm | endif => exact raise _
  | source =>
      refine bind ((plain lasting).requireArguments _) fun file => ?_
      exact (source lasting dispatched _ _ _).bind fun _ => pure _
  | runtime =>
      refine bind ((plain lasting).requireArguments _) fun args => ?_
      split
      · exact raise _
      · exact (sourceRuntime lasting dispatched _ _).bind fun _ => pure _
  | finish | scriptNames | echo | letVariable | statements | runShell =>
      exact (plain lasting).runBuiltin dispatch context call rfl rfl

omit lasting in
theorem logged (name : String) (call : Call) {first second : Run N Outcome}
    (inside : Abreast compares place first second) :
    Abreast compares place (logged name call first) (logged name call second) := by
  refine (note _ _).bind fun _ => inside.attempt.bind fun result => ?_
  cases result with
  | ok outcome => exact (note _ _).bind fun _ => pure _
  | error fault => exact (note _ _).bind fun _ => (note _ _).bind fun _ => raise _

theorem dispatchBy {execute other : Execute N} {context : Context}
    {directive : Directive (Handler N)}
    (inside : Abreast compares place (execute context directive.command directive.call)
      (other context directive.command directive.call)) :
    Abreast compares place (dispatchBy execute context directive)
      (dispatchBy other context directive) := by
  refine inside.attempt.bind fun result => ?_
  cases result with
  | ok outcome => exact pure _
  | error fault =>
      dsimp only
      split
      · exact raise _
      · exact (report lasting _ _ _).bind fun _ => pure _

end Lasting

end Abreast

end Engine

end ExScript
