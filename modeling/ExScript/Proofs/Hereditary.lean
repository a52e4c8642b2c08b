import ExScript.Proofs.Running

/-!
Properties of actions that pass from the parts of an action to the whole. One that the primitive
actions have, commands have as well. What a command does to the streams that it opens itself is a
premise here, so that the same lemmas serve for properties of all actions and for those of actions
that leave the current stream alone.
-/

namespace ExScript

namespace Text

def Diverges (one other : String) : Prop :=
  ¬ one.toList <+: other.toList ∧ ¬ other.toList <+: one.toList

instance (one other : String) : Decidable (Diverges one other) :=
  inferInstanceAs (Decidable (_ ∧ _))

theorem Diverges.append {one other : String} (diverges : Diverges one other) (more : String) :
    Diverges one (other ++ more) := by
  unfold Diverges
  rw [String.toList_append]
  constructor
  · intro begins
    rcases List.prefix_or_prefix_of_prefix begins (List.prefix_append _ _) with inside | longer
    · exact diverges.1 inside
    · exact diverges.2 longer
  · intro begins
    exact diverges.2 ((List.prefix_append _ _).trans begins)

end Text

def Stream.prompted {C : Type} (prompting : Prompting) (initial : List String) : Stream C :=
  .ofSource (.ofPrompt prompting initial) false

namespace Engine

variable {N α β : Type}

def State.on (state : State N) (stream : Option (Stream (Handler N))) : State N :=
  { state with stream }

abbrev Uncompleted (text : String) : Prop :=
  Text.Diverges "source.done path=" text

def Incidental (text : String) : Prop :=
  Uncompleted text ∧ Text.Diverges "command.call." text

instance (text : String) : Decidable (Incidental text) :=
  inferInstanceAs (Decidable (_ ∧ _))

theorem Incidental.append {text : String} (incidental : Incidental text) (more : String) :
    Incidental (text ++ more) :=
  ⟨incidental.1.append more, incidental.2.append more⟩

def handle (dispatch : Dispatch N) (context : Context) (command : Descriptor (Handler N))
    (call : Call) : Run N Outcome :=
  match command.handler with
  | .builtin builtin => runBuiltin dispatch context call builtin
  | .host program => interpret dispatch context (program call)

theorem executeBy_eq_logged (dispatch : Dispatch N) (context : Context)
    (command : Descriptor (Handler N)) (call : Call) :
    executeBy dispatch context command call =
      logged command.name call (handle dispatch context command call) := rfl

def closingBehind (action : Run N α) : Run N α := do
  let result ← attempt action
  closeStream
  lift result

def shelteringLine (action : Run N Flow) : Run N Flow := do
  match ← attempt action with
  | .ok flow => pure flow
  | .error fault =>
      match structural? fault with
      | none => raise fault
      | some error => do
          note .warning ("prompt.failed error=" ++ error.message)
          say .error error.message
          pure .goOn

def shelteringScript (name : String) (action : Run N Unit) : Run N Bool := do
  match ← attempt action with
  | .ok _ => pure true
  | .error fault => do
      reportFailure name fault
      pure false

/-- What a command may do on the way, and the ways to put steps together. A continuation that goes
by the state must not go by its stream. -/
structure Hereditary (P : {α : Type} → Run N α → Prop) : Prop where
  pure : ∀ {α : Type} (value : α), P (pure value : Run N α)
  fails : ∀ {α : Type} (fault : Fault), structural? fault = none → P (raise fault : Run N α)
  bind : ∀ {α β : Type} {action : Run N α} {next : α → Run N β},
    P action → (∀ value, P (next value)) → P (action >>= next)
  reading : ∀ {α : Type} {next : State N → Run N α},
    (∀ state stream, next (state.on stream) = next state) → (∀ state, P (next state)) →
      P (get >>= next)
  note : ∀ level text, Incidental text → P (note level text : Run N Unit)
  say : ∀ kind text, P (say kind text : Run N Unit)
  whereabouts : ∀ context, P (whereabouts context : Run N Whereabouts)
  record : ∀ entry,
    P (modify fun state => { state with records := state.records.push entry } : Run N Unit)
  evaluate : ∀ source, P (evaluate source : Run N Expr.Value)
  execute : ∀ source, P (execute source : Run N Expr.Value)
  define : ∀ name value, P (define name value : Run N Unit)
  runShell : ∀ args bang, P (runShell args bang : Run N Unit)

structure Fallible (P : {α : Type} → Run N α → Prop) : Prop where
  pure : ∀ {α : Type} (value : α), P (pure value : Run N α)
  raise : ∀ {α : Type} (fault : Fault), P (raise fault : Run N α)
  bind : ∀ {α β : Type} {action : Run N α} {next : α → Run N β},
    P action → (∀ value, P (next value)) → P (action >>= next)
  note : ∀ level text, Incidental text → P (note level text : Run N Unit)
  say : ∀ kind text, P (say kind text : Run N Unit)
  locate : ∀ path line, P (onSession (·.locate path line) : Run N Unit)
  executes : ∀ {dispatch : Dispatch N} {context : Context} {command : Descriptor (Handler N)}
    {call : Call}, P (handle dispatch context command call) →
      P (executeBy dispatch context command call)
  dispatchBy : ∀ {execute : Execute N} {context : Context} {directive : Directive (Handler N)},
    P (execute context directive.command directive.call) → P (dispatchBy execute context directive)
  shelteringLine : ∀ {action : Run N Flow}, P action → P (shelteringLine action)
  shelteringScript : ∀ name {action : Run N Unit}, P action → P (shelteringScript name action)

structure Catching (P : {α : Type} → Run N α → Prop) : Prop where
  pure : ∀ {α : Type} (value : α), P (pure value : Run N α)
  raise : ∀ {α : Type} (fault : Fault), P (raise fault : Run N α)
  bind : ∀ {α β : Type} {action : Run N α} {next : α → Run N β},
    P action → (∀ value, P (next value)) → P (action >>= next)
  attempt : ∀ {α : Type} {action : Run N α}, P action → P (attempt action)
  note : ∀ level text, Uncompleted text → P (note level text : Run N Unit)
  say : ∀ kind text, P (say kind text : Run N Unit)
  locate : ∀ path line, P (onSession (·.locate path line) : Run N Unit)

/-- A property that failing does not break either. -/
structure Robust (P : {α : Type} → Run N α → Prop) : Prop extends Hereditary P, Fallible P where
  addStylesheet : ∀ path, P (addStylesheet path : Run N Unit)

/-- A property that does not depend on the script being read. -/
structure Pervasive (P : {α : Type} → Run N α → Prop) : Prop extends Robust P where
  withScript : ∀ {α : Type} (path : String) {action : Run N α},
    P action → P (withScript path action)

structure Streamed (P : {α : Type} → Run N α → Prop) (dispatch : Dispatch N) : Prop where
  script : ∀ stream path,
    P (withStream stream (do runStream dispatch { path := some path } (← turns)))
  line : ∀ prompting initial, P (withStream (.prompted prompting initial) (runTyped dispatch))

structure OwnStreams (P : {α : Type} → Run N α → Prop) (dispatch : Dispatch N) : Prop extends
    Streamed P dispatch where
  delegate : ∀ program : Program N, P (withoutStream (interpret dispatch {} program))

structure Calling (P : {α : Type} → Run N α → Prop) (dispatch : Dispatch N) : Prop where
  text : ∀ text name, P (sourceString dispatch text name)
  line : ∀ line, P (executeLine dispatch line)

def recordScript (path : Path) : Run N Unit := do
  addScriptName path.text
  note .info ("source.done path=" ++ path.text)

structure Sourcing (P : {α : Type} → Run N α → Prop) (dispatch : Dispatch N) : Prop extends
    Calling P dispatch where
  file : ∀ path, P (asScript path.text (runFile dispatch path))
  record : ∀ path, P (recordScript path : Run N Unit)

theorem failureRow_incidental (name : String) (fault : Fault) :
    Incidental (failureRow name fault) := by
  have failed : Incidental ("source.failed path=" ++ name) := .append (by decide) _
  unfold failureRow
  split
  · exact (((failed.append _).append _).append _).append _
  · exact (failed.append _).append _

theorem Fallible.lift {P : {α : Type} → Run N α → Prop} (closed : Fallible P)
    (result : Except Fault α) : P (lift result : Run N α) := by
  cases result with
  | ok value => exact closed.pure value
  | error fault => exact closed.raise fault

namespace Catching

variable {P : {α : Type} → Run N α → Prop}

theorem logged (closed : Catching P) (name : String) (call : Call) {action : Run N Outcome}
    (inside : P action) : P (logged name call action) := by
  have named : Uncompleted ("command.call.start name=" ++ name) := .append (by decide) _
  have start : Uncompleted (startRow name call) :=
    ((((((named.append _).append _).append _).append _).append _).append _).append _
  have stop : Uncompleted (endRow name) := .append (by decide) _
  refine closed.bind (closed.note _ _ start) fun _ => ?_
  refine closed.bind (closed.attempt inside) fun result => ?_
  cases result with
  | ok outcome => exact closed.bind (closed.note _ _ stop) fun _ => closed.pure _
  | error fault =>
      exact closed.bind (closed.note _ _ (.append (by decide) _)) fun _ =>
        closed.bind (closed.note _ _ stop) fun _ => closed.raise _

theorem report (closed : Catching P) (path : Option String) (directive : Directive (Handler N))
    (fault : Fault) : P (report path directive fault) := by
  have failed : Uncompleted ("directive.failed name=" ++ directive.name) := .append (by decide) _
  refine closed.bind (closed.note _ _ ?_) fun _ => ?_
  · exact (((((failed.append _).append _).append _).append _).append _).append _
  cases path with
  | none => exact closed.say _ _
  | some path => exact closed.bind (closed.locate _ _) fun _ => closed.say _ _

theorem dispatchBy (closed : Catching P) {execute : Execute N} {context : Context}
    {directive : Directive (Handler N)}
    (inside : P (execute context directive.command directive.call)) :
    P (dispatchBy execute context directive) := by
  refine closed.bind (closed.attempt inside) fun result => ?_
  cases result with
  | ok outcome => exact closed.pure _
  | error fault =>
      dsimp only
      split
      · exact closed.raise _
      · exact closed.bind (closed.report _ _ _) fun _ => closed.pure _

theorem closingBehind (closed : Catching P) (closeStream : P (closeStream : Run N Unit))
    {action : Run N α} (inside : P action) : P (closingBehind action) := by
  refine closed.bind (closed.attempt inside) fun result => closed.bind closeStream fun _ => ?_
  cases result with
  | ok value => exact closed.pure value
  | error fault => exact closed.raise fault

theorem shelteringLine (closed : Catching P) {action : Run N Flow} (inside : P action) :
    P (shelteringLine action) := by
  refine closed.bind (closed.attempt inside) fun result => ?_
  cases result with
  | ok flow => exact closed.pure flow
  | error fault =>
      dsimp only
      split
      · exact closed.raise fault
      · exact closed.bind (closed.note _ _ (.append (by decide) _)) fun _ =>
          closed.bind (closed.say _ _) fun _ => closed.pure _

theorem shelteringScript (closed : Catching P) (name : String) {action : Run N Unit}
    (inside : P action) : P (shelteringScript name action) := by
  refine closed.bind (closed.attempt inside) fun result => ?_
  cases result with
  | ok value => exact closed.pure _
  | error fault =>
      refine closed.bind ?_ fun _ => closed.pure _
      exact closed.bind (closed.note _ _ (failureRow_incidental name fault).1) fun _ =>
        closed.say _ _

theorem fallible (closed : Catching P) : Fallible P where
  pure := closed.pure
  raise := closed.raise
  bind := closed.bind
  note level text incidental := closed.note level text incidental.1
  say := closed.say
  locate := closed.locate
  executes := closed.logged _ _
  dispatchBy := closed.dispatchBy
  shelteringLine := closed.shelteringLine
  shelteringScript := closed.shelteringScript

end Catching

namespace Robust

variable {P : {α : Type} → Run N α → Prop} {dispatch : Dispatch N}

theorem openPrompted (closed : Robust P) (initial : List String)
    {next : Stream (Handler N) → Run N α}
    (each : ∀ prompting, P (next (.prompted prompting initial))) :
    P (openPrompted initial >>= next) :=
  closed.reading (fun _ _ => rfl) fun _ => each _

theorem runKnownLine (closed : Robust P)
    (typed : ∀ prompting initial,
      P (withStream (.prompted prompting initial) (runTyped dispatch))) (line : String) :
    P (runKnownLine dispatch line) :=
  closed.openPrompted [line] fun prompting => closed.shelteringLine (typed prompting [line])

theorem executeLine (closed : Robust P)
    (typed : ∀ prompting initial,
      P (withStream (.prompted prompting initial) (runTyped dispatch))) (line : String) :
    P (executeLine dispatch line) := by
  unfold Engine.executeLine
  split
  · exact closed.pure _
  · split
    · exact closed.raise _
    · refine closed.reading (fun _ _ => rfl) fun state => ?_
      split
      · exact closed.runKnownLine typed line
      · exact closed.bind (closed.say _ _) fun _ => closed.pure _

theorem runStep (closed : Robust P) (own : Streamed P dispatch) (step : Step) :
    P (runStep dispatch step) := by
  cases step with
  | line text => exact closed.bind (closed.executeLine own.line text) fun _ => closed.pure _
  | raise kind text => exact closed.raise _
  | idle => exact closed.pure _

theorem runSteps (closed : Robust P) (own : Streamed P dispatch)
    (statements : List Expr.Statement) : P (runSteps dispatch statements) := by
  induction statements with
  | nil => exact closed.pure _
  | cons statement rest ih =>
      unfold Engine.runSteps
      split
      · exact closed.raise _
      · exact closed.bind (closed.runStep own _) fun _ => ih

theorem runDriving (closed : Robust P) (own : Streamed P dispatch) (path : Path) :
    P (runDriving dispatch path) := by
  refine closed.reading (fun _ _ => rfl) fun state => ?_
  refine closed.bind (closed.lift _) fun text => ?_
  split
  · exact closed.raise _
  · exact closed.runSteps own _

theorem runSource (closed : Robust P) (own : Streamed P dispatch) (path : String)
    (source : LineSource) : P (runSource dispatch path source) := by
  refine closed.bind (own.script _ path) fun flow => ?_
  cases flow with
  | goOn => exact closed.pure _
  | finish =>
      exact closed.reading (fun _ _ => rfl) fun state =>
        closed.note _ _ (.append (.append (.append (by decide) _) _) _)

theorem runDelegate (closed : Robust P) (own : OwnStreams P dispatch) (path : Path)
    (delegate : Delegate N) : P (runDelegate dispatch path delegate) := by
  cases delegate with
  | driving =>
      exact closed.bind (closed.runDriving own.toStreamed path) fun _ =>
        closed.note _ _ (.append (by decide) _)
  | stylesheet => exact closed.addStylesheet path
  | host program => exact closed.bind (own.delegate (program path)) fun _ => closed.pure _

theorem runFile (closed : Robust P) (own : OwnStreams P dispatch) (path : Path) :
    P (runFile dispatch path) := by
  refine closed.reading (fun _ _ => rfl) fun state => ?_
  split
  · exact closed.runDelegate own path _
  · exact closed.bind (closed.lift _) fun source => closed.runSource own.toStreamed _ source

end Robust

namespace Pervasive

variable {P : {α : Type} → Run N α → Prop} {dispatch : Dispatch N}

theorem asScript (closed : Pervasive P) (name : String) {action : Run N Unit}
    (inside : P action) : P (asScript name action) :=
  closed.shelteringScript name (closed.withScript name inside)

theorem sourceString (closed : Pervasive P) (own : Streamed P dispatch) (text name : String) :
    P (sourceString dispatch text name) :=
  closed.asScript name (closed.runSource own _ _)

theorem calling (closed : Pervasive P) (own : Streamed P dispatch) : Calling P dispatch where
  text := closed.sourceString own
  line := closed.executeLine own.line

theorem sourcing (closed : Pervasive P) (own : OwnStreams P dispatch)
    (record : ∀ path, P (recordScript path : Run N Unit)) : Sourcing P dispatch where
  toCalling := closed.calling own.toStreamed
  file path := closed.asScript _ (closed.runFile own path)
  record := record

end Pervasive

def MildResult (result : Except Fault α) : Prop :=
  ∀ fault, result = .error fault → structural? fault = none

theorem mapM_mild {items : List α} {convert : α → Except Fault β}
    (each : ∀ item, MildResult (convert item)) : MildResult (items.mapM convert) := by
  induction items with
  | nil => intro fault failed; cases failed
  | cons item rest ih =>
      intro fault failed
      rw [List.mapM_cons] at failed
      cases first : convert item with
      | error reason =>
          rw [first] at failed
          cases failed
          exact each item fault first
      | ok value =>
          cases second : rest.mapM convert with
          | error reason =>
              rw [first, second] at failed
              cases failed
              exact ih fault second
          | ok values =>
              rw [first, second] at failed
              cases failed

theorem runtimeDirectories_mild (settings : Settings) (home : String) :
    MildResult (settings.runtimeDirectories home) := by
  apply mapM_mild
  intro item fault failed
  split at failed
  · cases failed
  · cases failed
    rfl

theorem check_mild (files : FileTree) (path : Path) : MildResult (files.check path) := by
  intro fault failed
  unfold FileTree.check at failed
  split at failed
  · next refused =>
    cases failed
    rcases FileTree.refusal?_cases refused with rfl | rfl <;> rfl
  · cases failed

def Builtin.formsBlocks : Builtin → Bool
  | .ifBlock | .elseifArm | .elseArm | .endif => true
  | _ => false

def Builtin.runsLines : Builtin → Bool
  | .ifBlock | .source | .runtime => true
  | _ => false

/-- What commands do on the way that run no lines, and the ways to put steps together. A
continuation that goes by the state must not go by its stream and its session. -/
structure Plain (P : {α : Type} → Run N α → Prop) : Prop where
  pure : ∀ {α : Type} (value : α), P (pure value : Run N α)
  fails : ∀ {α : Type} (fault : Fault), structural? fault = none → P (raise fault : Run N α)
  bind : ∀ {α β : Type} {action : Run N α} {next : α → Run N β},
    P action → (∀ value, P (next value)) → P (action >>= next)
  reading : ∀ {α : Type} {next : State N → Run N α},
    (∀ state stream session, next { state with stream, session } = next state) →
      (∀ state, P (next state)) → P (get >>= next)
  say : ∀ kind text, P (say kind text : Run N Unit)
  evaluate : ∀ source, P (evaluate source : Run N Expr.Value)
  execute : ∀ source, P (execute source : Run N Expr.Value)
  define : ∀ name value, P (define name value : Run N Unit)
  runShell : ∀ args bang, P (runShell args bang : Run N Unit)

namespace Plain

variable {P : {α : Type} → Run N α → Prop}

theorem requireArguments (plain : Plain P) (args : String) :
    P (requireArguments args : Run N String) := by
  unfold Engine.requireArguments
  dsimp only
  split
  · exact plain.fails _ rfl
  · exact plain.pure _

theorem echoAll (plain : Plain P) (texts : List String) :
    P (echoAll texts : Run N Unit) := by
  induction texts with
  | nil => exact plain.pure _
  | cons text rest ih => exact plain.bind (plain.say _ _) fun _ => ih

theorem listScriptNames (plain : Plain P) : P (listScriptNames : Run N Unit) :=
  plain.reading (fun _ _ _ => rfl) fun _ => plain.echoAll _

theorem checkDigits (plain : Plain P) (value : Expr.Value) :
    P (checkDigits value : Run N Unit) := by
  refine plain.reading (fun _ _ _ => rfl) fun state => ?_
  split
  · exact plain.fails _ rfl
  · exact plain.pure _

theorem rendered (plain : Plain P) (source : String) :
    P (rendered source : Run N String) := by
  unfold Engine.rendered
  split
  · exact plain.pure _
  · refine plain.bind (plain.evaluate source) fun value => ?_
    refine plain.bind (plain.checkDigits value) fun _ => ?_
    exact plain.reading (fun _ _ _ => rfl) fun _ => plain.pure _

theorem forIn_list (plain : Plain P) (items : List α) (start : β)
    {body : α → β → Run N (ForInStep β)} (each : ∀ item value, P (body item value)) :
    P (forIn items start body : Run N β) := by
  induction items generalizing start with
  | nil => exact plain.pure _
  | cons item rest ih =>
      rw [List.forIn_cons]
      refine plain.bind (each item start) fun step => ?_
      cases step with
      | done value => exact plain.pure _
      | yield value => exact ih value

theorem listVariables (plain : Plain P) : P (listVariables : Run N Unit) := by
  refine plain.reading (fun _ _ _ => rfl) fun state => ?_
  refine plain.bind ?_ fun _ => plain.pure _
  refine plain.forIn_list _ _ fun pair _ => ?_
  exact plain.bind (plain.checkDigits pair.2) fun _ =>
    plain.bind (plain.say _ _) fun _ => plain.pure _

theorem runLet (plain : Plain P) (args : String) : P (runLet args : Run N Unit) := by
  unfold Engine.runLet
  split
  · exact plain.listVariables
  · split
    · exact plain.fails _ rfl
    · exact plain.bind (plain.evaluate _) fun value => plain.define _ value

theorem runBuiltin (plain : Plain P) (dispatch : Dispatch N) (context : Context) (call : Call)
    {builtin : Builtin} (alone : builtin.runsLines = false)
    (noBlock : builtin.formsBlocks = false) :
    P (runBuiltin dispatch context call builtin) := by
  cases builtin with
  | ifBlock | source | runtime => cases alone
  | elseifArm | elseArm | endif => cases noBlock
  | finish => exact plain.bind (plain.say _ _) fun _ => plain.pure _
  | scriptNames => exact plain.bind plain.listScriptNames fun _ => plain.pure _
  | echo kind =>
      refine plain.bind (plain.rendered _) fun text => ?_
      exact plain.bind (plain.say _ _) fun _ => plain.pure _
  | letVariable => exact plain.bind (plain.runLet _) fun _ => plain.pure _
  | statements =>
      refine plain.bind (plain.requireArguments _) fun source => ?_
      exact plain.bind (plain.execute _) fun _ => plain.pure _
  | runShell => exact plain.bind (plain.runShell _ _) fun _ => plain.pure _

end Plain

namespace Hereditary

variable {P : {α : Type} → Run N α → Prop} {dispatch : Dispatch N}

theorem plain (closed : Hereditary P) : Plain P where
  pure := closed.pure
  fails := closed.fails
  bind := closed.bind
  reading blind := closed.reading fun state stream => blind state stream state.session
  say := closed.say
  evaluate := closed.evaluate
  execute := closed.execute
  define := closed.define
  runShell := closed.runShell

theorem lift (closed : Hereditary P) {result : Except Fault α} (mild : MildResult result) :
    P (lift result : Run N α) := by
  cases result with
  | ok value => exact closed.pure value
  | error fault => exact closed.fails fault (mild fault rfl)

theorem source (closed : Hereditary P) (sourcing : Sourcing P dispatch) (path : Path)
    (written : String) (silent : Bool) : P (source dispatch path written silent) := by
  refine closed.reading (fun _ _ => rfl) fun state => ?_
  refine closed.bind (closed.lift (check_mild _ _)) fun _ => ?_
  split
  · refine closed.bind (closed.note _ _ (.append (.append (.append (by decide) _) _) _)) fun _ => ?_
    dsimp only
    split
    · exact closed.bind (closed.say _ _) fun _ =>
        closed.bind (closed.say _ _) fun _ => closed.pure _
    · exact closed.pure _
  · refine closed.bind (sourcing.file path) fun completed => ?_
    dsimp only
    split
    · have recorded := closed.bind (sourcing.record path) fun _ => closed.pure completed
      unfold Engine.recordScript at recorded
      rwa [bind_assoc] at recorded
    · exact closed.pure _

theorem sourceFound (closed : Hereditary P) (sourcing : Sourcing P dispatch) (all : Bool)
    (candidates : List Path) : P (sourceFound dispatch all candidates) := by
  induction candidates with
  | nil => exact closed.pure _
  | cons candidate rest ih =>
      refine closed.reading (fun _ _ => rfl) fun state => ?_
      refine closed.bind (closed.lift (check_mild _ _)) fun _ => ?_
      dsimp only
      split
      · refine closed.bind (closed.source sourcing _ _ _) fun _ => ?_
        split
        · exact closed.bind ih fun _ => closed.pure _
        · exact closed.pure _
      · exact ih

theorem sourceRuntime (closed : Hereditary P) (sourcing : Sourcing P dispatch)
    (names : List String) (all : Bool) : P (sourceRuntime dispatch names all) := by
  refine closed.reading (fun _ _ => rfl) fun state => ?_
  refine closed.bind (closed.lift (runtimeDirectories_mild _ _)) fun directories => ?_
  refine closed.bind (closed.note _ _ (.append (.append (.append (by decide) _) _) _)) fun _ => ?_
  refine closed.bind (closed.sourceFound sourcing all _) fun found => ?_
  dsimp only
  split
  · exact closed.bind (closed.note _ _ (.append (by decide) _)) fun _ => closed.pure _
  · exact closed.pure _

theorem runBuiltin (closed : Hereditary P) (sourcing : Sourcing P dispatch) (context : Context)
    (call : Call) {builtin : Builtin} (noBlock : builtin.formsBlocks = false) :
    P (runBuiltin dispatch context call builtin) := by
  cases builtin with
  | ifBlock | elseifArm | elseArm | endif => cases noBlock
  | source =>
      refine closed.bind (closed.plain.requireArguments _) fun file => ?_
      exact closed.bind (closed.source sourcing _ _ _) fun _ => closed.pure _
  | runtime =>
      refine closed.bind (closed.plain.requireArguments _) fun args => ?_
      split
      · exact closed.fails _ rfl
      · exact closed.bind (closed.sourceRuntime sourcing _ _) fun _ => closed.pure _
  | finish | scriptNames | echo | letVariable | statements | runShell =>
      exact closed.plain.runBuiltin dispatch context call rfl rfl

end Hereditary

/-- What programs of the host may end and fail with, and whether they may ask for the stream. -/
structure Licence where
  ends : Outcome → Prop := fun _ => True
  fails : Fault → Prop := fun _ => True
  streams : Prop := False

def Program.Within (licence : Licence) : Program N → Prop
  | .done outcome => licence.ends outcome
  | .fail fault => licence.fails fault
  | .record _ next => next.Within licence
  | .say _ _ next => next.Within licence
  | .whereabouts next => ∀ place, (next place).Within licence
  | .pull next => licence.streams ∧ ∀ pulled, (next pulled).Within licence
  | .close next => licence.streams ∧ next.Within licence
  | .runString _ _ next => ∀ completed, (next completed).Within licence
  | .runLine _ next => ∀ flow, (next flow).Within licence

theorem Program.Within.mono {first second : Licence} {program : Program N}
    (within : program.Within first) (ends : ∀ outcome, first.ends outcome → second.ends outcome)
    (fails : ∀ fault, first.fails fault → second.fails fault)
    (streams : first.streams → second.streams) : program.Within second := by
  induction program with
  | done outcome => exact ends outcome within
  | fail fault => exact fails fault within
  | record entry next ih => exact ih within
  | say kind text next ih => exact ih within
  | whereabouts next ih => exact fun place => ih place (within place)
  | pull next ih => exact ⟨streams within.1, fun pulled => ih pulled (within.2 pulled)⟩
  | close next ih => exact ⟨streams within.1, ih within.2⟩
  | runString text name next ih => exact fun completed => ih completed (within completed)
  | runLine line next ih => exact fun flow => ih flow (within flow)

namespace Hereditary

variable {P : {α : Type} → Run N α → Prop} {dispatch : Dispatch N}

theorem interpret (closed : Hereditary P) (calling : Calling P dispatch) (context : Context)
    {licence : Licence}
    (fails : ∀ fault, licence.fails fault → P (Engine.raise fault : Run N Outcome))
    (streams : licence.streams →
      P (pull : Run N (Option (Directive (Handler N)))) ∧ P (closeStream : Run N Unit))
    {program : Program N} (within : program.Within licence) :
    P (interpret dispatch context program) := by
  induction program with
  | done outcome => exact closed.pure outcome
  | fail fault => exact fails fault within
  | record entry next ih => exact closed.bind (closed.record entry) fun _ => ih within
  | say kind text next ih => exact closed.bind (closed.say kind text) fun _ => ih within
  | whereabouts next ih =>
      exact closed.bind (closed.whereabouts context) fun place => ih place (within place)
  | pull next ih =>
      exact closed.bind (streams within.1).1 fun pulled => ih _ (within.2 _)
  | close next ih => exact closed.bind (streams within.1).2 fun _ => ih within.2
  | runString text name next ih =>
      exact closed.bind (calling.text text name) fun completed => ih completed (within completed)
  | runLine line next ih =>
      exact closed.bind (calling.line line) fun flow => ih flow (within flow)

end Hereditary

end Engine

end ExScript
