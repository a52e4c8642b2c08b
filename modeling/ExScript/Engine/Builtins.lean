import ExScript.Engine.Conditional
import ExScript.Engine.Sourcing
import ExScript.Shell.Capture
import ExScript.Text.Word

/-!
The commands that every engine can have: blocks of conditionals, sourcing, messages, variables and
the shell. A command may execute others in turn, which may do so again; how deep this can go is
bounded.
-/

namespace ExScript.Engine

variable {N : Type}

def failPlain {α : Type} (message : String) : Run N α :=
  raise (.script (.plain message))

def requireArguments (args : String) : Run N String :=
  let stripped := Text.strip args
  if stripped = "" then failPlain "E471: Argument required" else pure stripped

def paddedNumber (number : Nat) : String :=
  let digits := (toString number).toList
  String.ofList (List.replicate (3 - digits.length) ' ' ++ digits)

def echoAll (texts : List String) : Run N Unit :=
  match texts with
  | [] => pure ()
  | text :: rest => do
      say .echo text
      echoAll rest

def listScriptNames : Run N Unit := do
  let names := (← get).scriptNames
  echoAll (names.mapIdx fun index name => paddedNumber (index + 1) ++ ": " ++ name)

def checkDigits (value : Expr.Value) : Run N Unit := do
  if (← get).world.isOversized value then raise (.foreign "ValueError" Expr.tooManyDigits)

def rendered (source : String) : Run N String := do
  if Text.strip source = "" then pure ""
  else
    let value ← evaluate source
    checkDigits value
    pure ((← get).world.shown value)

def listVariables : Run N Unit := do
  let world := (← get).world
  for (name, value) in world.userValues do
    checkDigits value
    say .echo (name ++ " = " ++ world.written value)

def isNameStart (c : Char) : Bool :=
  c.isAlpha || c = '_'

/-- The name and the expression of an assignment. Of an expression that is all blank, the last blank
is left. -/
def assignment? (args : String) : Option (String × String) :=
  let chars := Text.stripStart args.toList
  let name := chars.takeWhile Text.isWord
  match name, Text.stripStart (chars.drop name.length) with
  | first :: _, '=' :: behind =>
      let source := match Text.stripStart behind with
        | [] => behind.drop (behind.length - 1)
        | source => source
      if isNameStart first && !source.isEmpty then
        some (String.ofList name, String.ofList source)
      else none
  | _, _ => none

def runLet (args : String) : Run N Unit := do
  if Text.strip args = "" then listVariables
  else match assignment? args with
    | none => failPlain ("E18: Unexpected characters in :let: " ++ Text.strip args)
    | some (name, source) => do
        let value ← evaluate source
        define name value

def runShell (args : String) (bang : Bool) : Run N Unit := do
  let written := if bang then "!" ++ args else args
  let command ← lift (Shell.recallLast written (← get).lastCommand)
  modify fun state => { state with lastCommand := command }
  note .info ("shell.run command=" ++ Text.quote command)
  say .info ("Executing: " ++ command)
  let state ← get
  let (output, files) :=
    Shell.capture state.settings.shell command state.environment state.files
  set { state with files }
  say .echo (← lift output)

def runBuiltin (dispatch : Dispatch N) (context : Context) (call : Call) :
    Builtin → Run N Outcome
  | .ifBlock => do
      let flow ← runIf openPrompted dispatch context call.args
      pure (.flow flow)
  | .elseifArm => raise (.conditional "E582")
  | .elseArm => raise (.conditional "E581")
  | .endif => raise (.conditional "E580")
  | .finish => do
      say .error ":finish used outside of a sourced file"
      pure .nothing
  | .source => do
      let file ← requireArguments call.args
      let _ ← source dispatch (Path.ofString file) file call.bang
      pure .nothing
  | .runtime => do
      let args ← requireArguments call.args
      match Text.arguments args with
      | .error fault => raise (.arguments fault)
      | .ok names => do
          let _ ← sourceRuntime dispatch names call.bang
          pure .nothing
  | .scriptNames => do
      listScriptNames
      pure .nothing
  | .echo kind => do
      say kind (← rendered call.args)
      pure .nothing
  | .letVariable => do
      runLet call.args
      pure .nothing
  | .statements => do
      let _ ← execute (← requireArguments call.args)
      pure .nothing
  | .runShell => do
      runShell call.args call.bang
      pure .nothing

def registration (specs : List String) (description : String) (builtin : Builtin)
    (hereDoc bang : Bool := false) : Registration (Handler N) :=
  { specs, description, hereDoc, bang, handler := .builtin builtin }

def builtinCommands : List (Registration (Handler N)) :=
  [registration ["if"] "Execute commands when an expression is true" .ifBlock true,
    registration ["elsei[f]"] "Alternative branch of :if" .elseifArm true,
    registration ["el[se]"] "Fallback branch of :if" .elseArm,
    registration ["en[dif]"] "End of an :if block" .endif,
    registration ["fini[sh]"] "Stop sourcing a script file" .finish,
    registration ["so[urce]"] "Read Ex commands from a file" .source false true,
    registration ["runt[ime]"] "Source the specified file from each runtime directory" .runtime
      false true,
    registration ["scrip[tnames]"] "List all sourced script names" .scriptNames,
    registration ["ec[ho]"] "Echo the value of an expression" (.echo .echo),
    registration ["echom[sg]"] "Echo an expression as an informational message" (.echo .info),
    registration ["echoe[rr]"] "Echo an expression as an error message" (.echo .error),
    registration ["let"] "Set or list variables" .letVariable,
    registration ["py[thon]"] "Run Python statements in the user scope" .statements true,
    registration ["!", "run"] "Run a command" .runShell false true]

def builtinSymbols : List (String × Expr.Value) :=
  [("env", .lookout .environment), ("exists", .lookout .presence)]

def executeBy (dispatch : Dispatch N) : Execute N := fun context command call =>
  logged command.name call
    (match command.handler with
      | .builtin builtin => runBuiltin dispatch context call builtin
      | .host program => interpret dispatch context (program call))

def dispatchTo : (depth : Nat) → Dispatch N
  | 0 => fun _ _ => throw .exhausted
  | depth + 1 => dispatchBy (executeBy (dispatchTo depth))

def maxDepth : Nat := 1000

def dispatch : Dispatch N :=
  dispatchTo maxDepth

def executeNamed (name : String) (call : Call) : Run N Outcome := do
  match (← get).registry.resolve name with
  | none => raise (.unknownName name)
  | some command => executeBy dispatch {} command call

end ExScript.Engine
