import ExScript.Path
import ExScript.Script.Assembly
import ExScript.Session

/-!
What commands are made of. A call is what one execution of a command is given, an outcome what it
gives back. Commands of the host are programs: trees of requests to the engine, each with all that
may follow it, and records of the host's own kind `N` on the way.
-/

namespace ExScript.Engine

inductive Flow where
  | goOn
  | finish
  deriving DecidableEq, Repr

inductive Outcome where
  | nothing
  | flow (flow : Flow)
  | text (value : String)
  deriving DecidableEq, Repr

def Outcome.next : Outcome → Flow
  | .flow next => next
  | _ => .goOn

structure Call where
  args : String := ""
  bang : Bool := false
  count : Option Nat := none
  deriving DecidableEq, Repr

structure Outline where
  line : Nat
  name : String
  call : Call
  deriving DecidableEq, Repr

structure Whereabouts where
  script : String
  sourcing : Option Frame
  context : Option Frame
  skip : Bool
  streaming : Bool
  deriving DecidableEq, Repr

inductive Program (N : Type) where
  | done (outcome : Outcome)
  | fail (fault : Fault)
  | record (entry : N) (next : Program N)
  | say (kind : MessageKind) (text : String) (next : Program N)
  | whereabouts (next : Whereabouts → Program N)
  | pull (next : Option Outline → Program N)
  | close (next : Program N)
  | runString (text name : String) (next : Bool → Program N)
  | runLine (line : String) (next : Flow → Program N)

inductive Builtin where
  | ifBlock
  | elseifArm
  | elseArm
  | endif
  | finish
  | source
  | runtime
  | scriptNames
  | echo (kind : MessageKind)
  | letVariable
  | statements
  | runShell
  deriving DecidableEq, Repr

inductive Handler (N : Type) where
  | builtin (builtin : Builtin)
  | host (program : Call → Program N)

inductive Delegate (N : Type) where
  | driving
  | stylesheet
  | host (program : Path → Program N)

end ExScript.Engine

namespace ExScript

open Engine

def Directive.call {C : Type} (directive : Directive C) : Call :=
  { args := directive.args, bang := directive.bang, count := directive.count }

def Directive.outline {C : Type} (directive : Directive C) : Outline :=
  { line := directive.line, name := directive.name, call := directive.call }

end ExScript
