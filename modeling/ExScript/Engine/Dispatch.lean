import ExScript.Engine.State
import ExScript.Text.Split

/-!
Executing commands and containing their failures. Whatever goes wrong in one line is reported with
its place and the script goes on; only errors of block structure, with the place filled in, go
further up.
-/

namespace ExScript.Engine

variable {N : Type}

abbrev Execute (N : Type) := Context → Descriptor (Handler N) → Call → Run N Outcome

def shortArguments (args : String) : String :=
  Text.shorten (Text.replaceText "\n" "\\n" args)

def truthText (value : Bool) : String :=
  if value then "True" else "False"

def countText : Option Nat → String
  | none => "None"
  | some count => toString count

def startRow (name : String) (call : Call) : String :=
  "command.call.start name=" ++ name ++ " bang=" ++ truthText call.bang ++
    " count=" ++ countText call.count ++ " \x7b " ++ shortArguments call.args ++ " \x7d"

def errorRow (name : String) : String :=
  "command.call.error name=" ++ name

def endRow (name : String) : String :=
  "command.call.end name=" ++ name

def logged (name : String) (call : Call) (action : Run N Outcome) : Run N Outcome := do
  note .debug (startRow name call)
  match ← attempt action with
  | .ok outcome => do
      note .debug (endRow name)
      pure outcome
  | .error fault => do
      note .debug (errorRow name)
      note .debug (endRow name)
      raise fault

def attributed (path : Option String) (line : Nat) (error : ScriptError) : ScriptError :=
  { error with path := error.path.or path, line := error.line.or (some (line : Int)) }

def report (path : Option String) (directive : Directive (Handler N)) (fault : Fault) :
    Run N Unit := do
  let shown := match path with
    | none => "-"
    | some path => if path = "" then "-" else path
  note .warning ("directive.failed name=" ++ directive.name ++ " path=" ++ shown ++ " line=" ++
    toString directive.line ++ " error=" ++ fault.report)
  match path with
  | none => pure ()
  | some path => onSession (·.locate path directive.line)
  say .error fault.report

def structural? : Fault → Option ScriptError
  | .script error =>
      match error.kind with
      | .conditional _ => some error
      | _ => none
  | _ => none

/-- Executes one directive and contains its failures. -/
def dispatchBy (execute : Execute N) : Dispatch N := fun context directive => do
  match ← attempt (execute context directive.command directive.call) with
  | .ok outcome => pure outcome.next
  | .error fault =>
      match structural? fault with
      | some error => raise (.script (attributed context.path directive.line error))
      | none => do
          report context.path directive fault
          pure .goOn

end ExScript.Engine
