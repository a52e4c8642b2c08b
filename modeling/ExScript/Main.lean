import ExScript.Application

/-!
The program. The files under the working directory are read once at the start, and so are the lines
to be typed if there is a prompt; then the invocation is performed and its output printed.
-/

namespace ExScript

open Engine

def closed : Access :=
  { reading := false, changing := false, passing := false }

/-- The names under the working directory with what is there. What cannot be read counts as closed
to the user. -/
partial def gather (place : List String) (entries : Array IO.FS.DirEntry) :
    IO (List (List String × Node)) := do
  let mut found := []
  for entry in entries do
    let names := place ++ [entry.fileName]
    if ← entry.path.isDir then
      match ← entry.path.readDir.toBaseIO with
      | .ok entries => found := found ++ (names, .directory) :: (← gather names entries)
      | .error _ => found := found ++ [(names, .directory closed)]
    else
      match ← (IO.FS.readBinFile entry.path).toBaseIO with
      | .ok bytes => found := found ++ [(names, .file bytes.toList)]
      | .error _ => found := found ++ [(names, .file [] closed)]
  pure found

partial def typedLines (input : IO.FS.Stream) : IO (List (Option String)) := do
  let line ← input.getLine
  if line = "" then pure []
  else
    let text := if line.endsWith "\n" then (line.dropEnd 1).toString else line
    pure (some text :: (← typedLines input))

def variableNames : List String :=
  ["PATH", "HOME", "USER", "SHELL", "LANG", "TERM", "PWD"] ++
    (Settings.names.map fun name => Text.upper ("exrc_" ++ name))

def readEnvironment : IO (List (String × String)) := do
  let mut found := []
  for name in variableNames do
    match ← IO.getEnv name with
    | some value => found := found ++ [(name, value)]
    | none => pure ()
  pure found

def isPrompt : Invocation → Bool
  | .prompt _ => true
  | _ => false

def perform (invocation : Invocation) : IO UInt32 := do
  let environment ← readEnvironment
  let inside ← gather [] (← (← IO.currentDir).readDir)
  let files : FileTree := { inside, elsewhere := [("/", .directory), ("/dev/null", .file [])] }
  match Settings.load [] environment files with
  | .error fault => do
      IO.eprintln fault.kindName
      pure 1
  | .ok settings => do
      let answers ← if isPrompt invocation then typedLines (← IO.getStdin) else pure []
      let engine : State Unit := Application.engine settings environment files answers
      match (Application.run invocation false).run engine with
      | .ok code state => do
          IO.print state.session.channel.console
          pure (UInt32.ofNat code)
      | .error stop state => do
          IO.print state.session.channel.console
          IO.eprintln (match stop with
            | .fault fault => fault.kindName ++ ": " ++ fault.text
            | .exhausted => "RecursionError")
          pure 1

end ExScript

def main (arguments : List String) : IO UInt32 :=
  match ExScript.Invocation.parse? arguments with
  | some invocation => ExScript.perform invocation
  | none => do
      IO.eprintln ("usage: exrc source [--silent] FILE | exec LINE... | repl [--no-rc] | " ++
        "commands | hooks")
      pure 2
