import ExScript.Engine.Program
import ExScript.Expr.Evaluator
import ExScript.Files
import ExScript.Script.Stream
import ExScript.Settings

/-!
The state of an engine, and runs that change it. A run ends with a value, with a fault, or because
it is nested too deeply; what it changed stays changed in every case.
-/

namespace ExScript.Engine

structure Plugin (N : Type) where
  name : String
  commands : List (Registration (Handler N))
  symbols : List (String × Expr.Value)
  isBuiltin : Bool := false

structure State (N : Type) where
  session : Session := {}
  registry : Registry (Handler N) := Registry.empty
  world : Expr.World := {}
  stream : Option (Stream (Handler N)) := none
  files : FileTree := {}
  settings : Settings := {}
  /-- The settings the engine was made with, which sourcing goes by. -/
  sourcing : Settings := {}
  scriptNames : List String := []
  stylesheets : List Path := []
  delegates : Table (Delegate N) := ⟨[(".py", .driving), (".css", .stylesheet)]⟩
  lastCommand : String := ""
  plugins : List (Plugin N) := []
  records : Array N := #[]

structure Context where
  skip : Bool := false
  path : Option String := none
  deriving DecidableEq, Repr

inductive Stop where
  | fault (fault : Fault)
  | exhausted
  deriving DecidableEq, Repr

abbrev Run (N : Type) := EStateM Stop (State N)

/-- Executing one directive, with the failures of its line contained. -/
abbrev Dispatch (N : Type) := Context → Directive (Handler N) → Run N Flow

variable {N α : Type}

def raise (fault : Fault) : Run N α :=
  throw (.fault fault)

def lift (result : Except Fault α) : Run N α :=
  match result with
  | .ok value => pure value
  | .error fault => raise fault

def attempt (action : Run N α) : Run N (Except Fault α) := fun state =>
  match action state with
  | .ok value state => .ok (.ok value) state
  | .error (.fault fault) state => .ok (.error fault) state
  | .error .exhausted state => .error .exhausted state

/-- Puts something back as it was before, however the action ends. -/
def restoring (restore : (before after : State N) → State N) (action : Run N α) : Run N α :=
  fun before =>
    match action before with
    | .ok value after => .ok value (restore before after)
    | .error stop after => .error stop (restore before after)

def onSession (change : Session → Session) : Run N Unit :=
  modify fun state => { state with session := change state.session }

def note (level : Level) (text : String) : Run N Unit :=
  onSession (·.note level text)

def say (kind : MessageKind) (text : String) : Run N Unit :=
  onSession (·.say kind text)

def withStream (stream : Stream (Handler N)) (action : Run N α) : Run N α :=
  restoring (fun before after => { after with stream := before.stream }) do
    modify fun state => { state with stream := some stream }
    action

def withoutStream (action : Run N α) : Run N α :=
  restoring (fun before after => { after with stream := before.stream }) do
    modify fun state => { state with stream := none }
    action

def withScript (path : String) (action : Run N α) : Run N α :=
  restoring (fun before after => { after with session := after.session.resume before.session }) do
    onSession (·.enter path)
    action

def noStream (request : String) : Fault :=
  .foreign "AttributeError" ("'NoneType' object has no attribute '" ++ request ++ "'")

def pull : Run N (Option (Directive (Handler N))) := do
  let state ← get
  match state.stream with
  | none => raise (noStream "pull")
  | some stream =>
      let pulled := stream.pull state.registry state.session
      set { state with stream := some pulled.stream, session := pulled.session }
      lift pulled.result

def closeStream : Run N Unit := do
  let state ← get
  match state.stream with
  | none => raise (noStream "close")
  | some stream => set { state with stream := some stream.close }

/-- More pulls than the current stream can answer. -/
def turns : Run N Nat := do
  match (← get).stream with
  | none => pure 1
  | some stream => pure (stream.remaining + 1)

def State.environment (state : State N) : List (String × String) :=
  state.world.environment

def State.home (state : State N) : String :=
  (state.environment.lookup "HOME").getD ""

def State.outside (state : State N) : Expr.Outside where
  present text :=
    let path := Path.ofString text
    match state.files.check path with
    | .ok () => .ok (state.files.contains path)
    | .error fault => .error (fault.kindName, fault.text)

/-- Lets expressions run; what they print goes to the console at once. -/
def onWorld (action : Expr.Outside → Expr.World → Except ScriptError α × Expr.World) :
    Run N (Except ScriptError α) := do
  let state ← get
  let (result, world) := action state.outside state.world
  let channel := state.session.channel.write world.printed
  set { state with
    world := { world with printed := "" }
    session := { state.session with channel } }
  pure result

def liftScript (result : Except ScriptError α) : Run N α :=
  match result with
  | .ok value => pure value
  | .error error => raise (.script error)

def evaluate (source : String) : Run N Expr.Value := do
  liftScript (← onWorld fun outside world => world.evaluate outside source)

def execute (source : String) : Run N Expr.Value := do
  liftScript (← onWorld fun outside world => world.execute outside source)

def define (name : String) (value : Expr.Value) : Run N Unit := do
  let state ← get
  match state.world.define name value with
  | .ok world => set { state with world }
  | .error error => raise (.script error)

def newScope : Run N Expr.Scope := do
  let state ← get
  let (scope, world) := state.world.newScope
  set { state with world }
  pure scope

end ExScript.Engine
