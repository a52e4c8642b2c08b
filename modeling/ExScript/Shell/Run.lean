import ExScript.Files
import ExScript.Shell.Pattern
import ExScript.Shell.Printf
import ExScript.Shell.Sum

/-!
Running shell commands. A machine has bindings, the status of the last command, what was written to
its two outputs, and files. A run ends early when the shell exits, is killed by a signal, or takes
more turns than it is given.
-/

namespace ExScript.Shell

inductive Sink where
  | output
  | complaints
  | file (names : List String)
  | nowhere
  deriving DecidableEq, Repr

structure Machine where
  name : String
  bindings : List (String × List Char)
  arguments : List (List Char) := []
  functions : List (String × Command) := []
  status : Nat := 0
  output : List Char := []
  complaints : List Char := []
  files : FileTree
  line : Nat := 1

inductive Ending where
  | exited
  | killed (signal : Nat)
  | exhausted
  deriving DecidableEq, Repr

abbrev Run := EStateM Ending Machine

abbrev Sinks := Nat → Sink

def plainSinks : Sinks
  | 1 => .output
  | 2 => .complaints
  | _ => .nowhere

def Sinks.set (sinks : Sinks) (stream : Nat) (sink : Sink) : Sinks :=
  fun other => if other = stream then sink else sinks other

def ownNumber : String := "4242"

def signalNames : List (String × Nat) :=
  [("HUP", 1), ("INT", 2), ("QUIT", 3), ("ILL", 4), ("TRAP", 5), ("ABRT", 6), ("BUS", 7),
    ("FPE", 8), ("KILL", 9), ("USR1", 10), ("SEGV", 11), ("USR2", 12), ("PIPE", 13),
    ("ALRM", 14), ("TERM", 15), ("STKFLT", 16), ("VTALRM", 26), ("PROF", 27),
    ("PWR", 30), ("SYS", 31)]

def harmlessSignals : List Nat :=
  [0, 17, 18, 23, 28]

def bytesOf (text : String) : List Char :=
  (Text.encodeUtf8 text).map fun byte => Char.ofNat byte.toNat

def textOf (bytes : List Char) : String :=
  String.ofList bytes

def fileName (bytes : List Char) : String :=
  (String.fromUTF8? ⟨(bytes.map fun c => UInt8.ofNat c.toNat).toArray⟩).getD (textOf bytes)

def setStatus (status : Nat) : Run Unit :=
  modify fun machine => { machine with status }

def appendFile (files : FileTree) (names : List String) (bytes : List Char) : FileTree :=
  let (old, access) := match files.under? names with
    | some (.file old access) => (old, access)
    | _ => ([], {})
  files.put names (.file (old ++ bytes.map fun c => UInt8.ofNat c.toNat) access)

def write (sink : Sink) (bytes : List Char) : Run Unit :=
  modify fun machine =>
    match sink with
    | .output => { machine with output := machine.output ++ bytes }
    | .complaints => { machine with complaints := machine.complaints ++ bytes }
    | .file names => { machine with files := appendFile machine.files names bytes }
    | .nowhere => machine

def complain (sinks : Sinks) (bytes : List Char) : Run Unit := do
  let machine ← get
  write (sinks 2)
    (bytesOf machine.name ++ ": ".toList ++ (toString machine.line).toList ++ ": ".toList ++
      bytes ++ ['\n'])

def valueOf (name : String) : Run (List Char) := do
  let machine ← get
  pure (match name with
    | "?" => (toString machine.status).toList
    | "$" => ownNumber.toList
    | "#" => (toString machine.arguments.length).toList
    | "0" => bytesOf machine.name
    | "@" | "*" => joinWords machine.arguments
    | _ =>
        match name.toNat? with
        | some place => (machine.arguments[place - 1]?).getD []
        | none => (machine.bindings.lookup name).getD [])

def isBound (name : String) : Run Bool := do
  let machine ← get
  pure (match name.toNat? with
    | some place => place ≤ machine.arguments.length
    | none =>
        match name with
        | "@" | "*" => !machine.arguments.isEmpty
        | "?" | "$" | "#" => true
        | _ => (machine.bindings.lookup name).isSome)

def assign (name : String) (value : List Char) : Run Unit :=
  modify fun machine =>
    { machine with
      bindings := (name, value) :: machine.bindings.filter fun (other, _) => other != name }

structure Fields where
  complete : List (List Char) := []
  current : Option (List Char) := none

namespace Fields

def add (fields : Fields) (bytes : List Char) : Fields :=
  if bytes.isEmpty then fields
  else { fields with current := some (fields.current.getD [] ++ bytes) }

def close (fields : Fields) : Fields :=
  match fields.current with
  | none => fields
  | some word => { complete := fields.complete ++ [word] }

def addApart (fields : Fields) : List (List Char) → Fields
  | [] => fields
  | [word] => { fields with current := some (fields.current.getD [] ++ word) }
  | word :: rest =>
      addApart { fields with current := some (fields.current.getD [] ++ word) }.close rest

def split (fields : Fields) (bytes : List Char) : Fields :=
  bytes.foldl (fun fields c =>
    if isBreak c then fields.close else fields.add [c]) fields
where
  isBreak (c : Char) : Bool := c = ' ' || c = '\t' || c = '\n'

def take (fields : Fields) (quoted : Bool) (value : List Char) : Fields :=
  if quoted then fields.add value else fields.split value

end Fields

def dropNewlines (bytes : List Char) : List Char :=
  (bytes.reverse.dropWhile (· = '\n')).reverse

def exitWith (status : Nat) : Run Unit := do
  setStatus status
  throw .exited

def number? (bytes : List Char) : Option Nat :=
  if bytes.isEmpty || !bytes.all Char.isDigit then none else some (digitsValue bytes)

def signal? (bytes : List Char) : Option Nat :=
  match number? bytes with
  | some number => if number ≤ 64 then some number else none
  | none => signalNames.lookup (textOf bytes)

def sendSignal (sinks : Sinks) (signal : Nat) (targets : List (List Char)) : Run Unit :=
  match targets with
  | [target] =>
      if textOf target = ownNumber then
        if harmlessSignals.contains signal then setStatus 0 else throw (.killed signal)
      else if !target.all Char.isDigit then do
        complain sinks ("kill: Illegal number: ".toList ++ target)
        exitWith 2
      else do
        complain sinks "kill: No such process\n".toList
        setStatus 1
  | _ => do
      complain sinks "kill: No such process\n".toList
      setStatus 1

def runNamed (sinks : Sinks) (name : List Char) (arguments : List (List Char)) : Run Unit := do
  match textOf name with
  | "echo" => do
      write (sinks 1) (echoText arguments)
      setStatus 0
  | "printf" =>
      match arguments with
      | [] => do
          complain sinks "printf: usage: printf format [arg ...]".toList
          setStatus 2
      | format :: arguments => do
          let printed := printfText format arguments
          write (sinks 1) printed.text
          for complaint in printed.complaints do
            complain sinks ("printf: ".toList ++ complaint)
          setStatus (if printed.complaints.isEmpty then 0 else 1)
  | "true" | ":" | "wait" => setStatus 0
  | "false" => setStatus 1
  | "exit" =>
      match arguments with
      | [] => throw .exited
      | status :: _ =>
          match number? status with
          | some number => exitWith (number % 256)
          | none => do
              complain sinks ("exit: Illegal number: ".toList ++ status)
              exitWith 2
  | "kill" =>
      match arguments with
      | ['-', 's'] :: signal :: targets | ['-', 'n'] :: signal :: targets =>
          match signal? signal with
          | some signal => sendSignal sinks signal targets
          | none => do
              complain sinks ("kill: invalid signal number or name: ".toList ++ signal)
              setStatus 2
      | ('-' :: signal) :: targets =>
          match signal? signal with
          | some signal => sendSignal sinks signal targets
          | none => do
              complain sinks ("kill: Illegal option -".toList ++ signal.take 1)
              setStatus 2
      | targets => sendSignal sinks 15 targets
  | _ => do
      complain sinks (name ++ ": not found".toList)
      setStatus 127

def openSink (sinks : Sinks) (append : Bool) (target : List Char) : Run (Option Sink) := do
  let name := fileName target
  let path := Path.ofString name
  let machine ← get
  let refuse (reason : String) : Run (Option Sink) := do
    complain sinks ("cannot create ".toList ++ target ++ reason.toList)
    setStatus 2
    pure none
  if name = "/dev/null" then pure (some .nowhere)
  else if machine.files.find path = .tooLong then refuse ": File name too long"
  else if machine.files.find path = .forbidden then refuse ": Permission denied"
  else
    match (machine.files.find { path with names := path.names.dropLast }).node?,
      (machine.files.find path).node? with
    | some (.directory access), found =>
        if target.isEmpty then refuse ": Directory nonexistent"
        else if found.any Node.isDirectory then refuse ": Is a directory"
        else
          match FileTree.placeOf? path with
          | none => refuse ": Permission denied"
          | some names =>
              if !(found.map Node.access |>.getD access).changing then refuse ": Permission denied"
              else
                if !append || found.isNone then
                  let node := .file [] (found.map Node.access |>.getD {})
                  set { machine with files := machine.files.put names node }
                pure (some (.file names))
    | _, _ => refuse ": Directory nonexistent"

mutual

def expand (fuel : Nat) (sinks : Sinks) (parts : List Part) (fields : Fields) : Run Fields :=
  match fuel with
  | 0 => throw .exhausted
  | fuel + 1 =>
      match parts with
      | [] => pure fields
      | .text bytes :: rest => expand fuel sinks rest (fields.add bytes)
      | .loose bytes :: rest => expand fuel sinks rest (fields.split bytes)
      | .value "@" true :: rest => do
          expand fuel sinks rest (fields.addApart (← get).arguments)
      | .value name quoted :: rest => do
          let value ← valueOf name
          expand fuel sinks rest (fields.take quoted value)
      | .length name :: rest => do
          let value ← valueOf name
          expand fuel sinks rest (fields.add (toString value.length).toList)
      | .choice name substitute emptyToo inside quoted :: rest => do
          let value ← valueOf name
          let present := (← isBound name) && !(emptyToo && value.isEmpty)
          if present = (substitute ≠ .alternative) then
            expand fuel sinks rest
              (if substitute = .alternative then fields else fields.take quoted value)
          else
            match substitute with
            | .default | .alternative =>
                let inside := if quoted then inside.map Part.whole else inside
                expand fuel sinks rest (← expand fuel sinks inside fields)
            | .assigned => do
                let value ← expandWhole fuel sinks (.mk inside true)
                assign name value
                expand fuel sinks rest (fields.take quoted value)
            | .demanded => do
                let reason ← expandWhole fuel sinks (.mk inside true)
                let plain := if emptyToo then "parameter not set or null" else "parameter not set"
                complain sinks
                  (bytesOf name ++ ": ".toList ++ if reason.isEmpty then plain.toList else reason)
                exitWith 2
                pure fields
      | .trimmed name cut pattern quoted :: rest => do
          let value ← valueOf name
          let pattern ← expandPattern fuel sinks pattern
          expand fuel sinks rest (fields.take quoted (cut.apply (Sign.ofBytes pattern) value))
      | .sum expression quoted :: rest => do
          let text ← expandWhole fuel sinks (.mk expression true)
          match sumOf text (← get).bindings with
          | .error fault => do
              complain sinks (fault.report text)
              exitWith 2
              pure fields
          | .ok (value, bindings) => do
              modify fun machine => { machine with bindings }
              expand fuel sinks rest (fields.take quoted (toString value).toList)
      | .output body quoted :: rest => do
          let machine ← get
          set { machine with output := [] }
          runInside fuel (sinks.set 1 .output) body
          let value := dropNewlines (← get).output
          modify fun after => { after with output := machine.output }
          expand fuel sinks rest (fields.take quoted value)

def expandPattern (fuel : Nat) (sinks : Sinks) (parts : List Part) : Run (List PatternByte) :=
  match fuel with
  | 0 => throw .exhausted
  | fuel + 1 =>
      match parts with
      | [] => pure []
      | part :: rest => do
          let bytes ← expandWhole fuel sinks (.mk [part] true)
          let others ← expandPattern fuel sinks rest
          pure (bytes.map (fun c => (c, part.isFree)) ++ others)

def expandAll (fuel : Nat) (sinks : Sinks) (words : List Word) : Run (List (List Char)) :=
  match fuel with
  | 0 => throw .exhausted
  | fuel + 1 =>
      match words with
      | [] => pure []
      | .mk parts quoted :: rest => do
          let fields := (← expand fuel sinks parts {}).close.complete
          let others ← expandAll fuel sinks rest
          pure ((if fields.isEmpty && quoted then [[]] else fields) ++ others)

def expandWhole (fuel : Nat) (sinks : Sinks) (word : Word) : Run (List Char) :=
  match fuel with
  | 0 => throw .exhausted
  | fuel + 1 => do
      let .mk parts _ := word
      let fields := (← expand fuel sinks (parts.map Part.whole) {}).close
      pure (joinWords fields.complete)

/-- Runs a command of which only the output, the files and the status stay. -/
def runInside (fuel : Nat) (sinks : Sinks) (body : Command) : Run Unit :=
  match fuel with
  | 0 => throw .exhausted
  | fuel + 1 => do
      let before ← get
      let restore : Run Unit :=
        modify fun after =>
          { after with
            bindings := before.bindings, arguments := before.arguments
            functions := before.functions }
      try
        execute fuel sinks body
        restore
      catch
        | .exited => restore
        | ending => throw ending

def assignAll (fuel : Nat) (sinks : Sinks) (assignments : List (String × Word)) : Run Unit :=
  match fuel with
  | 0 => throw .exhausted
  | fuel + 1 =>
      match assignments with
      | [] => pure ()
      | (name, word) :: rest => do
          assign name (← expandWhole fuel sinks word)
          assignAll fuel sinks rest

def execute (fuel : Nat) (sinks : Sinks) (command : Command) : Run Unit :=
  match fuel with
  | 0 => throw .exhausted
  | fuel + 1 =>
      match command with
      | .nothing => pure ()
      | .simple assignments words => do
          let before ← get
          let words ← expandAll fuel sinks words
          match words with
          | [] => do
              setStatus 0
              assignAll fuel sinks assignments
          | name :: arguments => do
              assignAll fuel sinks assignments
              setStatus before.status
              match before.functions.lookup (textOf name) with
              | some body => do
                  modify fun machine => { machine with arguments }
                  execute fuel sinks body
                  modify fun after => { after with arguments := before.arguments }
              | none => do
                  runNamed sinks name arguments
                  unless assignments.isEmpty do
                    modify fun after => { after with bindings := before.bindings }
      | .pipe left right => do
          runInside fuel (sinks.set 1 .nowhere) left
          runInside fuel sinks right
      | .both left right => do
          execute fuel sinks left
          if (← get).status = 0 then execute fuel sinks right
      | .either left right => do
          execute fuel sinks left
          if (← get).status ≠ 0 then execute fuel sinks right
      | .then_ left right => do
          execute fuel sinks left
          execute fuel sinks right
      | .negate body => do
          execute fuel sinks body
          setStatus (if (← get).status = 0 then 1 else 0)
      | .subshell body => runInside fuel sinks body
      | .group body => execute fuel sinks body
      | .branch condition whenTrue whenFalse => do
          execute fuel sinks condition
          if (← get).status = 0 then execute fuel sinks whenTrue
          else
            setStatus 0
            execute fuel sinks whenFalse
      | .loop wanted condition body => do
          setStatus 0
          runLoop fuel sinks wanted condition body
      | .forEach name words body => do
          let words ← expandAll fuel sinks words
          setStatus 0
          runEach fuel sinks name words body
      | .select subject arms => do
          let subject ← expandWhole fuel sinks subject
          setStatus 0
          runArms fuel sinks subject arms
      | .define name body => do
          modify fun machine =>
            { machine with
              functions :=
                (name, body) :: machine.functions.filter fun (other, _) => other != name }
          setStatus 0
      | .redirect body stream kind target => do
          let target ← expandWhole fuel sinks target
          match kind with
          | .read => do
              let found := (← get).files.find (Path.ofString (fileName target))
              if found.node?.any (·.access.reading) || textOf target = "/dev/null" then
                execute fuel sinks body
              else
                let reason := match found with
                  | .tooLong => ": File name too long"
                  | .nothing => ": No such file"
                  | .node _ | .forbidden => ": Permission denied"
                complain sinks ("cannot open ".toList ++ target ++ reason.toList)
                setStatus 2
          | .copy =>
              match number? target with
              | some source =>
                  if source ≤ 2 then execute fuel (sinks.set stream (sinks source)) body
                  else do
                    complain sinks (target ++ ": Bad file descriptor".toList)
                    setStatus 2
              | none =>
                  if target = ['-'] then execute fuel (sinks.set stream .nowhere) body
                  else do
                    complain sinks "Bad fd number".toList
                    exitWith 2
          | .write | .append => do
              match ← openSink sinks (kind = .append) target with
              | some sink => execute fuel (sinks.set stream sink) body
              | none => pure ()

def runLoop (fuel : Nat) (sinks : Sinks) (wanted : Bool) (condition body : Command) : Run Unit :=
  match fuel with
  | 0 => throw .exhausted
  | fuel + 1 => do
      let status := (← get).status
      execute fuel sinks condition
      if ((← get).status = 0) = wanted then
        execute fuel sinks body
        runLoop fuel sinks wanted condition body
      else setStatus status

def runArms (fuel : Nat) (sinks : Sinks) (subject : List Char)
    (arms : List (List Word × Command)) : Run Unit :=
  match fuel with
  | 0 => throw .exhausted
  | fuel + 1 =>
      match arms with
      | [] => pure ()
      | ([], _) :: rest => runArms fuel sinks subject rest
      | (.mk pattern _ :: others, body) :: rest => do
          let pattern ← expandPattern fuel sinks pattern
          if matchesAll (Sign.ofBytes pattern) subject then execute fuel sinks body
          else runArms fuel sinks subject ((others, body) :: rest)

def runEach (fuel : Nat) (sinks : Sinks) (name : String) (words : List (List Char))
    (body : Command) : Run Unit :=
  match fuel with
  | 0 => throw .exhausted
  | fuel + 1 =>
      match words with
      | [] => pure ()
      | word :: rest => do
          assign name word
          execute fuel sinks body
          runEach fuel sinks name rest body

end

def runLines (fuel : Nat) : (turns : Nat) → List Char → Run Unit
  | 0, _ => pure ()
  | turns + 1, bytes =>
      if bytes.isEmpty then pure ()
      else
        match parseLine bytes with
        | .error fault => do
            complain plainSinks fault.text.toList
            exitWith 2
        | .ok (command, rest) => do
            execute fuel plainSinks command
            let read := (bytes.take (bytes.length - rest.length)).filter (· = '\n')
            modify fun machine => { machine with line := machine.line + read.length }
            runLines fuel turns rest

end ExScript.Shell
