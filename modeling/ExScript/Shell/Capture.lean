import ExScript.Shell.Run
import ExScript.Text.Lines

/-!
What a shell command prints, as one text. Finding the shell may fail; a command that ends with
another status than zero has the status named behind its output; one final newline goes away if it
is the only one.

Before it is run, a command can recall the last one: a `!` stands for it unless an odd number of
backslashes stands right in front, the last of which then only protects the `!` and goes away.
-/

namespace ExScript.Shell

inductive Interpreter where
  | commands
  | repeating
  | succeeding
  | failing
  deriving DecidableEq, Repr

def interpreters : List (String × Interpreter) :=
  [("sh", .commands), ("dash", .commands), ("bash", .commands), ("echo", .repeating),
    ("true", .succeeding), ("false", .failing)]

def programDirectories : List String :=
  ["/bin", "/usr/bin"]

def systemDirectories : List String :=
  ["/", "/bin", "/usr", "/usr/bin", "/etc", "/tmp", "/home", "/root", "/var", "/dev"]

inductive Missing where
  | absent
  | forbidden
  | tooLong
  deriving DecidableEq, Repr

def Missing.text : Missing → String
  | .absent => "[Errno 2] No such file or directory: "
  | .forbidden => "[Errno 13] Permission denied: "
  | .tooLong => "[Errno 36] File name too long: "

def interpreterAt (files : FileTree) (name : String) : Except Missing Interpreter :=
  let path := Path.ofString name
  if path.root = "" || path.root = "//" then
    match files.find path with
    | .node _ | .forbidden => .error .forbidden
    | .nothing => .error .absent
    | .tooLong => .error .tooLong
  else if path.names.any (· = "..") || systemDirectories.contains path.text then
    .error .forbidden
  else if systemDirectories.contains { path with names := path.names.dropLast }.text &&
      isLongName path.name then .error .tooLong
  else if programDirectories.contains { path with names := path.names.dropLast }.text then
    match interpreters.lookup path.name with
    | some interpreter => .ok interpreter
    | none => .error .absent
  else .error .absent

/-- Looks a name up in the directories given, one after the other. The first place where it was not
just absent is remembered. -/
def searchFor (files : FileTree) (name : String) (missing : Missing) :
    List String → Except Missing Interpreter
  | [] => .error missing
  | directory :: rest =>
      let place := if directory = "" then name else directory ++ "/" ++ name
      match interpreterAt files place with
      | .ok interpreter => .ok interpreter
      | .error found =>
          searchFor files name (if missing = .absent then found else missing) rest

def findInterpreter (files : FileTree) (environment : List (String × String)) (name : String) :
    Except Missing Interpreter :=
  if name = "" then .error .absent
  else if name.toList.contains '/' then interpreterAt files name
  else
    let directories := Text.splitOnChar ':'
      ((environment.lookup "PATH").getD "/bin:/usr/bin").toList
    let plain := if name = "." || name = ".." then Missing.forbidden else .absent
    searchFor files name plain (directories.map String.ofList)

structure Outcome where
  output : List Char
  complaints : List Char
  files : FileTree
  code : Int

def turnLimit : Nat := 100000

def runCommands (shell command : String) (environment : List (String × String))
    (files : FileTree) : Outcome :=
  let machine : Machine :=
    { name := shell, files
      bindings := environment.map fun (name, value) => (name, bytesOf value) }
  let bytes := bytesOf command
  match (runLines turnLimit (bytes.length + 1) bytes).run machine with
  | .ok _ machine | .error .exited machine =>
      ⟨machine.output, machine.complaints, machine.files, machine.status⟩
  | .error (.killed signal) machine =>
      ⟨machine.output, machine.complaints, machine.files, -signal⟩
  | .error .exhausted machine => ⟨machine.output, machine.complaints, machine.files, -9⟩

def Interpreter.run (interpreter : Interpreter) (shell command : String)
    (environment : List (String × String)) (files : FileTree) : Outcome :=
  match interpreter with
  | .commands => runCommands shell command environment files
  | .repeating => ⟨"-c ".toList ++ bytesOf command ++ ['\n'], [], files, 0⟩
  | .succeeding => ⟨[], [], files, 0⟩
  | .failing => ⟨[], [], files, 1⟩

def decodeOutput (bytes : List Char) : Except Fault (List Char) :=
  match Text.Encoding.decode .utf8 (bytes.map fun c => UInt8.ofNat c.toNat) with
  | .ok chars => .ok (Text.unifyNewlines chars)
  | .error fault => .error (.decoding fault)

def shownOutput (output : List Char) (code : Int) : List Char :=
  if code ≠ 0 then
    (output ++ ("\nshell returned " ++ toString code).toList).dropWhile (· = '\n')
  else if output.getLast? = some '\n' && output.count '\n' = 1 then output.dropLast
  else output

def Outcome.text (outcome : Outcome) : Except Fault String := do
  let output ← decodeOutput outcome.output
  let complaints ← decodeOutput outcome.complaints
  pure (String.ofList (shownOutput (output ++ complaints) outcome.code))

def capture (shell command : String) (environment : List (String × String)) (files : FileTree) :
    Except Fault String × FileTree :=
  if (shell ++ command).toList.contains '\x00' then (.error .nullByte, files)
  else match findInterpreter files environment shell with
    | .error missing =>
        (.error (.script (.plain ("Command failed: " ++ missing.text ++ Text.quote shell))), files)
    | .ok interpreter =>
        let outcome := interpreter.run shell command environment files
        (outcome.text, outcome.files)

/-- Replaces every `!` that is not protected; `run` backslashes have been read and not written. -/
def recallFrom (last : List Char) : (run : Nat) → List Char → List Char
  | run, [] => List.replicate run '\\'
  | run, c :: rest =>
      if c = '\\' then recallFrom last (run + 1) rest
      else if c = '!' then
        if run % 2 = 0 then List.replicate run '\\' ++ last ++ recallFrom last 0 rest
        else List.replicate (run - 1) '\\' ++ '!' :: recallFrom last 0 rest
      else List.replicate run '\\' ++ c :: recallFrom last 0 rest

def recalls : (run : Nat) → List Char → Bool
  | _, [] => false
  | run, c :: rest =>
      if c = '\\' then recalls (run + 1) rest
      else if c = '!' then run % 2 = 0 || recalls 0 rest
      else recalls 0 rest

def recallLast (command last : String) : Except Fault String :=
  if recalls 0 command.toList && last = "" then
    .error (.script (.plain "E34: No previous command"))
  else .ok (String.ofList (recallFrom last.toList 0 command.toList))

end ExScript.Shell
