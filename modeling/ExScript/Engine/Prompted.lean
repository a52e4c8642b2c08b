import ExScript.Command.Line
import ExScript.Engine.Conditional
import ExScript.Engine.Dispatch

/-!
Lines typed at the prompt. What a line needs beyond itself, the rest of a block or the body of a
heredoc, is asked for.
-/

namespace ExScript.Engine

variable {N : Type}

def openPrompted (initial : List String := []) : Run N (Stream (Handler N)) := do
  let state ← get
  let prompting : Prompting :=
    { limit := state.settings.maxLines
      prompt := state.settings.prompt
      completions := state.registry.names }
  pure (Stream.ofSource (LineSource.ofPrompt prompting initial) false)

def runFirst {m : Type → Type} [Monad m] [Telling N m]
    (dispatch : Context → Directive (Handler N) → m Flow) : m Flow := do
  match ← Telling.pull with
  | none => pure .goOn
  | some directive => dispatch {} directive

/-- Runs the first directive of the current stream and closes the stream, however that ends. -/
def runTyped (dispatch : Dispatch N) : Run N Flow := do
  let result ← attempt (runFirst dispatch)
  closeStream
  lift result

def runKnownLine (dispatch : Dispatch N) (line : String) : Run N Flow := do
  let stream ← openPrompted [line]
  match ← attempt (withStream stream (runTyped dispatch)) with
  | .ok flow => pure flow
  | .error fault =>
      match structural? fault with
      | none => raise fault
      | some error => do
          note .warning ("prompt.failed error=" ++ error.message)
          say .error error.message
          pure .goOn

def namesCommand (registry : Registry (Handler N)) : Option CommandLine → Bool
  | none => false
  | some parsed => registry.has parsed.name

def executeLine (dispatch : Dispatch N) (line : String) : Run N Flow := do
  if CommandLine.isIgnored line then pure .goOn
  else match CommandLine.parse line with
    | .error digits => raise (.oversizedCount digits)
    | .ok parsed =>
        if namesCommand (← get).registry parsed then runKnownLine dispatch line
        else do
          say .error (ScriptError.unknownCommand (Text.strip line)).message
          pure .goOn

def promptMark : String := ":"

def ask (request : PromptRequest) : Run N (Option String) := do
  let state ← get
  let (answer, session) := state.session.ask request
  set { state with session }
  pure answer

def converse (dispatch : Dispatch N) (completions : List String) : (turns : Nat) → Run N Unit
  | 0 => throw .exhausted
  | turns + 1 => do
      match ← ask ⟨promptMark, completions⟩ with
      | none => pure ()
      | some line => do
          let _ ← executeLine dispatch line
          converse dispatch completions turns

def runPrompt (dispatch : Dispatch N) : Run N Unit := do
  let state ← get
  converse dispatch state.registry.names (state.session.answers.length + 1)

end ExScript.Engine
