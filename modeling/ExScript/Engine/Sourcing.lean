import ExScript.Engine.Driving

/-!
Sourcing: running files, texts, and what the directories of the runtime path hold. A script runs in
a frame of its own, and what ends it early is reported once the frame is left.
-/

namespace ExScript.Engine

variable {N : Type}

def runStream {m : Type → Type} [Monad m] [Telling N m]
    (dispatch : Context → Directive (Handler N) → m Flow) (context : Context) :
    (turns : Nat) → m Flow
  | 0 => Telling.act (throw .exhausted)
  | turns + 1 => do
      match ← Telling.pull with
      | none => pure .goOn
      | some directive =>
          if directive.name = "finish" then Telling.act do
            closeStream
            pure .finish
          else
            match ← dispatch context directive with
            | .finish => Telling.act do
                closeStream
                pure .finish
            | .goOn => runStream dispatch context turns

def runSource (dispatch : Dispatch N) (path : String) (source : LineSource) : Run N Unit := do
  let stream : Stream (Handler N) := Stream.ofSource source true
  match ← withStream stream (do runStream dispatch { path := some path } (← turns)) with
  | .goOn => pure ()
  | .finish => do
      let line := ((← get).session.script.map (·.line)).getD 0
      note .info ("source.finish path=" ++ path ++ " line=" ++ toString line)

def failureRow (name : String) : Fault → String
  | .script error =>
      let line := match error.line with
        | none => "-"
        | some line => if line = 0 then "-" else toString line
      "source.failed path=" ++ name ++ " line=" ++ line ++ " error=" ++ error.message
  | fault => "source.failed path=" ++ name ++ " error=" ++ fault.text

def failureText (name : String) : Fault → String
  | .script error => { error with path := error.path.or (some name) : ScriptError }.text
  | fault => name ++ ": " ++ fault.text

def reportFailure (name : String) (fault : Fault) : Run N Unit := do
  note .warning (failureRow name fault)
  say .error ("Sourcing file failed: " ++ failureText name fault)

def asScript (name : String) (action : Run N Unit) : Run N Bool := do
  match ← attempt (withScript name action) with
  | .ok _ => pure true
  | .error fault => do
      reportFailure name fault
      pure false

def endsLine (text : String) : Bool :=
  match text.toList.getLast? with
  | none => true
  | some c => c = '\n' || c = '\r'

/-- Runs a text as a script; its last line counts even if nothing ends it. -/
def sourceString (dispatch : Dispatch N) (text name : String) : Run N Bool :=
  let text := if endsLine text then text else text ++ "\n"
  asScript name (runSource dispatch name (LineSource.ofText text (some name)))

def addStylesheet (path : Path) : Run N Unit := do
  modify fun state =>
    if state.stylesheets.contains path then state
    else { state with stylesheets := state.stylesheets ++ [path] }
  note .info ("stylesheet.registered path=" ++ path.text)

def whereabouts (context : Context) : Run N Whereabouts := do
  let state ← get
  let tracked := state.stream.any (·.tracked)
  let line := if tracked then (state.session.script.map (·.line)).getD 0 else 0
  pure {
    script := state.session.currentScript
    sourcing := state.session.sourcing
    context := context.path.map fun path => ⟨path, line⟩
    skip := context.skip
    streaming := state.stream.isSome }

def interpret (dispatch : Dispatch N) (context : Context) : Program N → Run N Outcome
  | .done outcome => pure outcome
  | .fail fault => raise fault
  | .record entry next => do
      modify fun state => { state with records := state.records.push entry }
      interpret dispatch context next
  | .say kind text next => do
      say kind text
      interpret dispatch context next
  | .whereabouts next => do
      interpret dispatch context (next (← whereabouts context))
  | .pull next => do
      let directive ← pull
      interpret dispatch context (next (directive.map (·.outline)))
  | .close next => do
      closeStream
      interpret dispatch context next
  | .runString text name next => do
      let completed ← sourceString dispatch text name
      interpret dispatch context (next completed)
  | .runLine line next => do
      let flow ← executeLine dispatch line
      interpret dispatch context (next flow)

def runDelegate (dispatch : Dispatch N) (path : Path) : Delegate N → Run N Unit
  | .driving => do
      runDriving dispatch path
      note .info ("script.loaded path=" ++ path.text)
  | .stylesheet => addStylesheet path
  | .host program => do
      let _ ← withoutStream (interpret dispatch {} (program path))

def setDelegate (suffix : String) (delegate : Delegate N) : Run N Unit :=
  modify fun state =>
    { state with delegates := state.delegates.insert (Text.lower suffix) delegate }

def runFile (dispatch : Dispatch N) (path : Path) : Run N Unit := do
  let state ← get
  match state.delegates.get? (Text.lower path.suffix) with
  | some delegate => runDelegate dispatch path delegate
  | none => do
      let source ← lift (LineSource.ofFile state.files path state.sourcing.encoding)
      runSource dispatch path.text source

inductive Unreadable where
  | missing
  | directory
  | forbidden
  deriving DecidableEq, Repr

def Unreadable.reason : Unreadable → String
  | .missing => "No such file"
  | .directory => "Cannot source a directory"
  | .forbidden => "Permission denied"

def Unreadable.message : Unreadable → String
  | .missing | .forbidden => "Could not source: "
  | .directory => "Cannot source a directory: "

def unreadable? (files : FileTree) (path : Path) : Option Unreadable :=
  if !files.contains path then some .missing
  else if files.isDirectory path then some .directory
  else if !files.isReadable path then some .forbidden
  else none

def addScriptName (name : String) : Run N Unit :=
  modify fun state =>
    if state.scriptNames.contains name then state
    else { state with scriptNames := state.scriptNames ++ [name] }

/-- Sources a file, which messages name as it was written; answers whether it ran to its end. A file
that is run to its end is a script name from then on. Where the system does not say what is at the
path, nothing is reported. -/
def source (dispatch : Dispatch N) (path : Path) (written : String) (silent : Bool) :
    Run N Bool := do
  let files := (← get).files
  lift (files.check path)
  match unreadable? files path with
  | some unreadable => do
      note .info ("source.unavailable path=" ++ path.text ++ " reason=" ++ unreadable.reason)
      if !silent then
        say .info (unreadable.message ++ written)
        say .error ("Cannot open file: " ++ written)
      pure false
  | none => do
      let completed ← asScript path.text (runFile dispatch path)
      if completed then
        addScriptName path.text
        note .info ("source.done path=" ++ path.text)
      pure completed

/-- Sources the candidates that are files and may be read, only the first of them unless all are
wanted; answers whether there was one. -/
def sourceFound (dispatch : Dispatch N) (all : Bool) : List Path → Run N Bool
  | [] => pure false
  | candidate :: rest => do
      let files := (← get).files
      lift (files.check candidate)
      if files.isFile candidate && files.isReadable candidate then
        let _ ← source dispatch candidate candidate.text false
        if all then
          let _ ← sourceFound dispatch all rest
        pure true
      else sourceFound dispatch all rest

def listText (texts : List String) : String :=
  "[" ++ Text.joinWith ", " (texts.map Text.quote) ++ "]"

def sourceRuntime (dispatch : Dispatch N) (names : List String) (all : Bool) : Run N Bool := do
  let state ← get
  let directories ← lift (state.sourcing.runtimeDirectories state.home)
  note .info ("runtime.search paths=" ++ listText names ++ " runtime_path=" ++
    state.sourcing.runtimePath)
  let candidates := directories.flatMap fun directory =>
    names.map fun name => directory.join (Path.ofString name)
  let found ← sourceFound dispatch all candidates
  if !found then note .info ("runtime.not_found paths=" ++ listText names)
  pure found

def sourceStart (dispatch : Dispatch N) : Run N Bool := do
  let state ← get
  match state.settings.rcFile with
  | none => pure false
  | some path =>
      match path.expandHome? state.home with
      | none => raise .unknownHome
      | some path => source dispatch path path.text true

end ExScript.Engine
