import ExScript.Proofs.Isolation
import ExScript.Proofs.LogRows
import ExScript.Proofs.Occurrences
import ExScript.Proofs.TextFiles

/-!
The list of script names and what the log tells of it. A row of the log is written for each script
that ran to its end, and for nothing else; the names are those of these rows in their order, each
where it comes first. What sets off no script writes no such row, so this holds for everything that
an engine can do.
-/

namespace ExScript

def LogRow.completed? (row : LogRow) : Option String :=
  ("source.done path=".toList.isPrefixOf? row.text.toList).map String.ofList

def completions (rows : List LogRow) : List String :=
  rows.filterMap LogRow.completed?

theorem completions_append (rows others : List LogRow) :
    completions (rows ++ others) = completions rows ++ completions others :=
  List.filterMap_append

theorem completions_done (level : Level) (script path : String) :
    completions [⟨level, script, "source.done path=" ++ path⟩] = [path] := by
  have found : LogRow.completed? ⟨level, script, "source.done path=" ++ path⟩ = some path := by
    have split : "source.done path=".toList.isPrefixOf? ("source.done path=" ++ path).toList =
        some path.toList :=
      List.isPrefixOf?_eq_some_iff_append_eq.mpr String.toList_append.symm
    rw [LogRow.completed?, split, Option.map_some, String.ofList_toList]
  rw [completions, List.filterMap_cons, found]
  rfl

theorem completions_uncompleted (level : Level) (script : String) {text : String}
    (uncompleted : Engine.Uncompleted text) : completions [⟨level, script, text⟩] = [] := by
  have none : "source.done path=".toList.isPrefixOf? text.toList = none := by
    cases split : "source.done path=".toList.isPrefixOf? text.toList with
    | none => rfl
    | some rest =>
        exact absurd ⟨rest, List.isPrefixOf?_eq_some_iff_append_eq.mp split⟩ uncompleted.1
  have nothing : LogRow.completed? ⟨level, script, text⟩ = Option.none := by
    rw [LogRow.completed?, none]
    rfl
  rw [completions, List.filterMap_cons, nothing]
  rfl

theorem completions_incidental {rows : List LogRow}
    (incidental : ∀ row ∈ rows, Engine.Incidental row.text) : completions rows = [] := by
  induction rows with
  | nil => rfl
  | cons row rows ih =>
      obtain ⟨here, behind⟩ := List.forall_mem_cons.mp incidental
      have apart := completions_append [row] rows
      rw [completions_uncompleted row.level row.script here.1, ih behind] at apart
      exact apart

namespace Engine

variable {N α β : Type} {among : String → Prop}

/-- What a run leaves in the log and in the lists of the loader. The scripts that ran to their ends
are among certain ones. -/
structure Recorded (among : String → Prop) (state last : State N) (rows : List LogRow) :
    Prop where
  log : last.session.log.toList = state.session.log.toList ++ rows
  scriptNames : last.scriptNames = (completions rows).foldl addNew state.scriptNames
  stylesheets : ∃ sheets : List Path, last.stylesheets = sheets.foldl addNew state.stylesheets
  among : ∀ name ∈ completions rows, among name

theorem Recorded.of_uncompleted {state last : State N} {rows : List LogRow}
    (log : last.session.log.toList = state.session.log.toList ++ rows)
    (nothing : completions rows = []) (scriptNames : last.scriptNames = state.scriptNames)
    (stylesheets : last.stylesheets = state.stylesheets) : Recorded among state last rows := by
  refine ⟨log, ?_, ⟨[], stylesheets⟩, ?_⟩
  · rw [nothing]
    exact scriptNames
  · rw [nothing]
    exact List.forall_mem_nil _

theorem Recorded.of_passing {state last : State N} (passing : Passing state last) :
    ∃ rows, Recorded among state last rows := by
  obtain ⟨rows, log, incidental⟩ := passing.proceeds
  exact ⟨rows, .of_uncompleted log (completions_incidental incidental) passing.scriptNames
    passing.stylesheets⟩

theorem Recorded.trans {state middle last : State N} {rows others : List LogRow}
    (first : Recorded among state middle rows) (second : Recorded among middle last others) :
    Recorded among state last (rows ++ others) where
  log := by rw [second.log, first.log, List.append_assoc]
  scriptNames := by
    rw [completions_append, List.foldl_append, second.scriptNames, first.scriptNames]
  stylesheets := by
    obtain ⟨sheets, early⟩ := first.stylesheets
    obtain ⟨more, late⟩ := second.stylesheets
    exact ⟨sheets ++ more, by rw [List.foldl_append, late, early]⟩
  among := by
    rw [completions_append]
    exact List.forall_mem_append.mpr ⟨first.among, second.among⟩

def Records (among : String → Prop) (action : Run N α) : Prop :=
  ∀ state : State N, ∃ rows, Recorded among state (after action state) rows

namespace Records

theorem of_passes {action : Run N α} (passes : Passes action) : Records among action :=
  fun state => Recorded.of_passing (passes state)

theorem bind {action : Run N α} {next : α → Run N β} (first : Records among action)
    (second : ∀ value, Records among (next value)) : Records among (action >>= next) := by
  intro state
  refine after_bind (fun last => ∃ rows, Recorded among state last rows) (first state) ?_
  rintro value last ⟨rows, recorded⟩
  obtain ⟨others, further⟩ := second value last
  exact ⟨rows ++ others, recorded.trans further⟩

theorem attempt {action : Run N α} (inside : Records among action) :
    Records among (attempt action) := by
  intro state
  rw [after_attempt]
  exact inside state

theorem entering {enter : Run N Unit} {restore : State N → State N → State N} {action : Run N α}
    (entered : Records among enter)
    (restored : ∀ before last, (restore before last).session.log = last.session.log ∧
      (restore before last).scriptNames = last.scriptNames ∧
      (restore before last).stylesheets = last.stylesheets)
    (inside : Records among action) :
    Records among (restoring restore do
      enter
      action) := by
  intro state
  obtain ⟨rows, recorded⟩ := bind entered (fun _ => inside) state
  rw [after_restoring]
  obtain ⟨log, scriptNames, stylesheets⟩ :=
    restored state (after (enter >>= fun _ => action) state)
  refine ⟨rows, ?_, ?_, ?_, recorded.among⟩
  · exact (congrArg Array.toList log).trans recorded.log
  · exact scriptNames.trans recorded.scriptNames
  · rw [stylesheets]
    exact recorded.stylesheets

theorem onStream (stream : Option (Stream (Handler N))) {action : Run N α}
    (inside : Records among action) :
    Records among (restoring (fun before last => { last with stream := before.stream }) do
      modify fun state => { state with stream }
      action) :=
  entering (fun _ => ⟨[], .of_uncompleted (List.append_nil _).symm rfl rfl rfl⟩)
    (fun _ _ => ⟨rfl, rfl, rfl⟩) inside

theorem note (level : Level) {text : String} (uncompleted : Uncompleted text) :
    Records among (note level text : Run N Unit) :=
  fun _ => ⟨_, .of_uncompleted Array.toList_push (completions_uncompleted level _ uncompleted)
    rfl rfl⟩

theorem addStylesheet (path : Path) : Records among (addStylesheet path : Run N Unit) := by
  refine bind (fun state => ⟨[], ?_⟩) fun _ => of_passes (.note .info (.append (by decide) _))
  simp only [after, EStateM.run_modify]
  refine ⟨by split <;> simp, by split <;> rfl, ⟨[path], ?_⟩, List.forall_mem_nil _⟩
  simp only [List.foldl_cons, List.foldl_nil, addNew]
  split <;> rfl

end Records

theorem records_catching (among : String → Prop) : Catching (N := N) (Records among) where
  pure value := .of_passes (.pure value)
  raise fault := .of_passes (.raise fault)
  bind := .bind
  attempt := .attempt
  note level _ uncompleted := .note level uncompleted
  say kind text := .of_passes (.say kind text)
  locate path line := .of_passes (.locate path line)

theorem records_throughout (among : String → Prop) : Throughout (N := N) (Records among) where
  toFallible := (records_catching among).fallible
  fails fault _ := .of_passes (.raise fault)
  reading _ each := .bind (.of_passes .get) each
  whereabouts context := .of_passes (passes_hereditary.whereabouts context)
  record entry := .of_passes (passes_hereditary.record entry)
  evaluate source := .of_passes (passes_hereditary.evaluate source)
  execute source := .of_passes (passes_hereditary.execute source)
  define name value := .of_passes (.define name value)
  runShell args bang := .of_passes (.runShell args bang)
  exhausted := .of_passes .exhausted
  withScript _ := .entering (.of_passes (.unlogged fun _ => ⟨rfl, rfl, rfl, id⟩))
    fun _ _ => ⟨rfl, rfl, rfl⟩
  addStylesheet := .addStylesheet
  watching _ each := .bind (.of_passes .get) each
  pull := .of_passes .pull
  closeStream := .of_passes .closeStream
  newScope := .of_passes .newScope
  condition _ _ := .of_passes (.onWorld _)
  typed prompting initial _ inside := .onStream (some (.prompted prompting initial))
    ((records_catching among).closingBehind (.of_passes .closeStream) inside)
  withStream stream := .onStream (some stream)
  withoutStream := .onStream none

theorem records_recordScript {path : Path} (member : among path.text) :
    Records among (recordScript path : Run N Unit) := by
  intro state
  refine ⟨[⟨.info, state.session.currentScript, "source.done path=" ++ path.text⟩], ?_⟩
  have done := completions_done .info state.session.currentScript path.text
  have listed : after (recordScript path) state = state.listing path.text := rfl
  have session : (state.listing path.text).session =
      state.session.note .info ("source.done path=" ++ path.text) := by
    unfold State.listing
    split <;> rfl
  rw [listed]
  refine ⟨?_, ?_, ⟨[], ?_⟩, ?_⟩
  · rw [session]
    exact Array.toList_push
  · rw [done, State.listing, List.foldl_cons, List.foldl_nil, addNew]
    split <;> rfl
  · rw [State.listing]
    split <;> rfl
  · rw [done]
    exact List.forall_mem_singleton.mpr member

theorem dispatchTo_records (depth : Nat) (context : Context) (directive : Directive (Handler N)) :
    Records (fun _ => True) (dispatchTo depth context directive) :=
  (records_throughout _).dispatchTo (fun _ => records_recordScript trivial) depth context directive

theorem mem_scriptNames_listing (state : State N) (name : String) :
    name ∈ (state.listing name).scriptNames := by
  unfold State.listing
  split
  next listed => exact List.contains_iff_mem.mp listed
  next => exact List.mem_append_right _ (List.mem_singleton.mpr rfl)

/-- How a file is sourced, where the directives that are dispatched record certain scripts. Only
when it ran to its end its name is entered, behind those of the scripts that did so within it. -/
inductive SourcesFile (among : String → Prop) (dispatch : Dispatch N) (path : Path)
    (state : State N) : Ended N Bool → Prop where
  | completed {middle last rows}
      (ran : (asScript path.text (runFile dispatch path)).run state = .ok true middle)
      (recorded : Recorded among state middle rows) (listed : last = middle.listing path.text)
      (member : path.text ∈ last.scriptNames) :
      SourcesFile among dispatch path state (.ok true last)
  | failed {last rows} (recorded : Recorded among state last rows) :
      SourcesFile among dispatch path state (.ok false last)
  | raised {stop last rows} (recorded : Recorded among state last rows) :
      SourcesFile among dispatch path state (.error stop last)

section Sourcing

variable {dispatch : Dispatch N}

theorem records_asScript
    (dispatched : ∀ context directive, Records among (dispatch context directive)) (path : Path) :
    Records among (asScript path.text (runFile dispatch path)) :=
  (records_throughout among).asScript _
    ((records_throughout among).runFile ((records_throughout among).ownStreams dispatched) path)

theorem records_sourceString
    (dispatched : ∀ context directive, Records among (dispatch context directive))
    (text name : String) : Records among (sourceString dispatch text name) :=
  (records_throughout among).sourceString ((records_throughout among).streamed dispatched) text name

theorem source_unreadable {path : Path} {state : State N} {unreadable : Unreadable}
    (shown : state.files.refusal? path = none)
    (found : unreadable? state.files path = some unreadable) (written : String) (silent : Bool) :
    ∃ last rows, (source dispatch path written silent).run state = .ok false last ∧
      Recorded among state last rows := by
  let report : Run N Bool := do
    note .info ("source.unavailable path=" ++ path.text ++ " reason=" ++ unreadable.reason)
    if !silent then
      say .info (unreadable.message ++ written)
      say .error ("Cannot open file: " ++ written)
    pure false
  have ran : (source dispatch path written silent).run state = report.run state := by
    unfold source
    rw [run_get_bind]
    dsimp only
    rw [lift_check shown, pure_bind, found]
  have passes : Passes report := by
    refine .bind (.note .info (.append (.append (.append (by decide) _) _) _)) fun _ => ?_
    dsimp only
    split
    · exact .bind (.say _ _) fun _ => .bind (.say _ _) fun _ => .pure _
    · exact .pure _
  obtain ⟨rows, recorded⟩ := Recorded.of_passing (passes state)
  refine ⟨after report state, rows, ran.trans ?_, recorded⟩
  cases silent <;> rfl

theorem source_sourcesFile
    (dispatched : ∀ context directive, Records among (dispatch context directive)) (path : Path)
    (written : String) (silent : Bool) (state : State N) :
    SourcesFile among dispatch path state ((source dispatch path written silent).run state) := by
  rcases refusal : state.files.refusal? path with _ | fault
  case some =>
    obtain ⟨rows, recorded⟩ : ∃ rows, Recorded among state state rows :=
      Recorded.of_passing (.refl state)
    rw [source_refused dispatch refusal written silent]
    exact .raised recorded
  cases found : unreadable? state.files path with
  | some unreadable =>
      obtain ⟨last, rows, ended, recorded⟩ : ∃ last rows,
          (source dispatch path written silent).run state = .ok false last ∧
            Recorded among state last rows := source_unreadable refusal found written silent
      rw [ended]
      exact .failed recorded
  | none =>
      obtain ⟨rows, recorded⟩ := records_asScript dispatched path state
      rw [run_source found]
      unfold after at recorded
      cases ended : (asScript path.text (runFile dispatch path)).run state with
      | error stop last =>
          rw [ended] at recorded
          exact .raised recorded
      | ok completed middle =>
          rw [ended] at recorded
          cases completed with
          | false => exact .failed recorded
          | true => exact .completed ended recorded rfl (mem_scriptNames_listing middle _)

end Sourcing

inductive LoaderCall where
  | file (path : Path) (written : String) (silent : Bool)
  | text (content name : String)
  | runtime (names : List String) (all : Bool)

def LoaderCall.run (dispatch : Dispatch N) : LoaderCall → Run N Bool
  | .file path written silent => source dispatch path written silent
  | .text content name => sourceString dispatch content name
  | .runtime names all => sourceRuntime dispatch names all

def afterCalls (dispatch : Dispatch N) (calls : List LoaderCall) (state : State N) : State N :=
  calls.foldl (fun state call => after (call.run dispatch) state) state

theorem LoaderCall.records (depth : Nat) (call : LoaderCall) :
    Records (fun _ => True) (call.run (dispatchTo depth) : Run N Bool) := by
  have closed := records_throughout (N := N) fun _ => True
  have sourcing := closed.sourcing (closed.ownStreams (dispatchTo_records depth))
    fun _ => records_recordScript trivial
  cases call with
  | file path written silent => exact closed.source sourcing path written silent
  | text content name => exact sourcing.text content name
  | runtime names all => exact closed.sourceRuntime sourcing names all

theorem afterCalls_recorded (depth : Nat) (calls : List LoaderCall) (state : State N) :
    ∃ rows, Recorded (fun _ => True) state (afterCalls (dispatchTo depth) calls state) rows := by
  induction calls generalizing state with
  | nil => exact Recorded.of_passing (.refl state)
  | cons call calls ih =>
      obtain ⟨rows, first⟩ := call.records depth state
      obtain ⟨others, behind⟩ := ih (after (call.run (dispatchTo depth)) state)
      exact ⟨rows ++ others, first.trans behind⟩

/-- The script names are the scripts that ran to their ends, as the log tells of them, in the order
in which they first did. A file that was sourced to its end is one of them. One that was not, or a
text, adds no name: only scripts that are run in it do. -/
structure FaithfulRecord (N : Type) : Prop where
  calls : ∀ (depth : Nat) (calls : List LoaderCall) (state : State N),
    state.scriptNames.Nodup → state.stylesheets.Nodup →
    ∃ rows,
      (afterCalls (dispatchTo depth) calls state).session.log.toList =
        state.session.log.toList ++ rows ∧
      (afterCalls (dispatchTo depth) calls state).scriptNames =
        (state.scriptNames ++ completions rows).eraseDups ∧
      state.scriptNames <+: (afterCalls (dispatchTo depth) calls state).scriptNames ∧
      (afterCalls (dispatchTo depth) calls state).scriptNames.Nodup ∧
      (afterCalls (dispatchTo depth) calls state).stylesheets.Nodup
  file : ∀ (among : String → Prop) (dispatch : Dispatch N),
    (∀ context directive, Records among (dispatch context directive)) →
    ∀ path written silent state,
      SourcesFile among dispatch path state ((source dispatch path written silent).run state)
  text : ∀ (among : String → Prop) (dispatch : Dispatch N),
    (∀ context directive, Records among (dispatch context directive)) →
    ∀ text name, Records among (sourceString dispatch text name)
  dispatched : ∀ depth context directive,
    Records (fun _ => True) (dispatchTo depth context directive : Run N Flow)

theorem scriptNames_faithful : FaithfulRecord N where
  calls depth calls state names sheets := by
    obtain ⟨rows, recorded⟩ := afterCalls_recorded depth calls state
    refine ⟨rows, recorded.log, ?_, ?_, ?_, ?_⟩
    · rw [recorded.scriptNames, foldl_addNew names]
    · rw [recorded.scriptNames]
      exact prefix_foldl_addNew _ _
    · rw [recorded.scriptNames]
      exact nodup_foldl_addNew names _
    · obtain ⟨added, same⟩ := recorded.stylesheets
      rw [same]
      exact nodup_foldl_addNew sheets _
  file _ _ dispatched path written silent state :=
    source_sourcesFile dispatched path written silent state
  text _ _ dispatched := records_sourceString dispatched
  dispatched := dispatchTo_records

def nestingScripts : State Unit :=
  { builtinState with files := { inside := [
    (["outer"], .file (("source inner\nsource inner\n".toList).map fun c => UInt8.ofNat c.toNat)),
    (["inner"], .file [])] } }

def nestingCalls : List LoaderCall :=
  [.file ⟨"", ["outer"]⟩ "outer" false, .text "" "text"]

theorem scriptNames_faithful_nesting :
    ∃ rows, (afterCalls (dispatchTo 2) nestingCalls nestingScripts).scriptNames =
        (completions rows).eraseDups ∧
      completions rows = ["inner", "inner", "outer"] := by
  obtain ⟨rows, log, scriptNames, -⟩ :=
    scriptNames_faithful.calls 2 nestingCalls nestingScripts List.nodup_nil List.nodup_nil
  have told : completions
      (afterCalls (dispatchTo 2) nestingCalls nestingScripts).session.log.toList =
        ["inner", "inner", "outer"] := by
    decide +kernel
  rw [log] at told
  exact ⟨rows, scriptNames, told⟩

end Engine

end ExScript
