import ExScript.Engine.Builtins
import ExScript.Engine.Plugins
import ExScript.Invocation
import ExScript.Logging

/-!
The program as a whole: an engine is made for an invocation, does what is asked, and the result is
the number that the program exits with.
-/

namespace ExScript.Application

open Engine

variable {N : Type}

def profile? : Invocation → Option Profile
  | .source .. | .run _ => some .standard
  | .prompt _ => some .interactive
  | .commands | .hooks => none

def printLine (text : String) : Run N Unit :=
  onSession fun session => { session with channel := session.channel.write (text ++ "\n") }

def hookLine (hook : String × List String) : String :=
  hook.1 ++ ": " ++ Text.joinWith ", " hook.2

def exitCode (completed : Bool) : Nat :=
  if completed then 0 else 1

def argumentsName : String := "<command-line>"

def perform : Invocation → Run N Nat
  | .source file silent => do
      let path := Path.ofString file
      let completed ← source dispatch path path.text silent
      pure (exitCode completed)
  | .run lines => do
      let completed ← sourceString dispatch (Text.joinWith "\n" lines) argumentsName
      pure (exitCode completed)
  | .prompt startFile => do
      if startFile then
        let _ ← sourceStart dispatch
      runPrompt dispatch
      pure 0
  | .commands => do
      (← get).registry.rows.forM printLine
      pure 0
  | .hooks => do
      match hookReport (← get) with
      | [] => printLine "(no hook implementations)"
      | hooks => hooks.forM fun hook => printLine (hookLine hook)
      pure 0

def run (invocation : Invocation) (bare : Bool) : Run N Nat := do
  if !bare then loadPlugins true
  perform invocation

def engine (settings : Settings) (environment : List (String × String)) (files : FileTree)
    (answers : List (Option String)) : State N :=
  { settings, sourcing := settings, files
    world := { environment }
    session := { answers } }

end ExScript.Application
