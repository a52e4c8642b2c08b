/-!
Invocations of the program: what its command-line arguments ask for. Options may stand anywhere
behind the name of the command; behind `--` everything is an argument.
-/

namespace ExScript

inductive Invocation where
  | source (file : String) (silent : Bool)
  | run (lines : List String)
  | prompt (startFile : Bool)
  | commands
  | hooks
  deriving DecidableEq, Repr

namespace Invocation

structure Options where
  words : List String
  letters : List Char
  deriving DecidableEq, Repr

structure Sorted where
  options : List String := []
  operands : List String := []
  deriving DecidableEq, Repr

def isOption (argument : String) : Bool :=
  match argument.toList with
  | '-' :: _ :: _ => true
  | _ => false

def optionsOf? (known : Options) (argument : String) : Option (List String) :=
  if known.words.contains argument then some [argument]
  else match argument.toList with
    | '-' :: '-' :: _ => none
    | '-' :: letters =>
        if letters.all known.letters.contains then
          some (letters.map fun c => String.ofList ['-', c])
        else none
    | _ => none

def sort? (known : Options) : List String → Option Sorted
  | [] => some {}
  | argument :: rest =>
      if argument = "--" then some { operands := rest }
      else if isOption argument then do
        let names ← optionsOf? known argument
        let sorted ← sort? known rest
        pure { sorted with options := names ++ sorted.options }
      else do
        let sorted ← sort? known rest
        pure { sorted with operands := argument :: sorted.operands }

def noOptions : Options := ⟨[], []⟩

/-- Whether the last option of a pair that excludes each other is the positive one. -/
def lastSays (positive negative : String) (default : Bool) (options : List String) : Bool :=
  match options.reverse.find? fun name => name = positive || name = negative with
  | none => default
  | some name => name = positive

def ofCommand? (name : String) (arguments : List String) : Option Invocation :=
  match name with
  | "source" => do
      match ← sort? ⟨["--silent"], ['s']⟩ arguments with
      | ⟨options, [file]⟩ => some (.source file (!options.isEmpty))
      | _ => none
  | "exec" => do
      match ← sort? noOptions arguments with
      | ⟨_, []⟩ => none
      | ⟨_, lines⟩ => some (.run lines)
  | "repl" => do
      match ← sort? ⟨["--rc", "--no-rc"], []⟩ arguments with
      | ⟨options, []⟩ => some (.prompt (lastSays "--rc" "--no-rc" true options))
      | _ => none
  | "commands" => do
      match ← sort? noOptions arguments with
      | ⟨_, []⟩ => some .commands
      | _ => none
  | "hooks" => do
      match ← sort? noOptions arguments with
      | ⟨_, []⟩ => some .hooks
      | _ => none
  | _ => none

def parse? : List String → Option Invocation
  | "--" :: name :: arguments => ofCommand? name arguments
  | name :: arguments => ofCommand? name arguments
  | [] => none

end Invocation

end ExScript
