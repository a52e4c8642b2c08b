import ExScript.Engine.State

/-!
Blocks of conditionals. A block has no cursor of its own: it pulls directives off the current
stream, and leaves the stream right behind its `endif`. Walks over a stream are written for every
monad in which their steps can be taken, so that one that tells what they meet needs no walks of its
own.
-/

namespace ExScript

namespace Engine

inductive Mark where
  | opens
  | elseif
  | fallback
  | closes
  | finish
  | plain
  deriving DecidableEq, Repr

def Mark.ofName : String → Mark
  | "if" => .opens
  | "elseif" => .elseif
  | "else" => .fallback
  | "endif" => .closes
  | "finish" => .finish
  | _ => .plain

end Engine

def Directive.mark {C : Type} (directive : Directive C) : Engine.Mark :=
  Engine.Mark.ofName directive.name

namespace Engine

variable {N : Type}

def missingEnd : Fault :=
  .conditional "E171"

def malformed (code : String) (line : Nat) : Fault :=
  .conditional code "" none (some (line : Int))

def holds (scope : Expr.Scope) (source : String) (line : Option Int) : Run N Bool := do
  match ← onWorld fun outside world => world.runIn outside scope source with
  | .ok value => do pure ((← get).world.truth value)
  | .error error => raise (.ofCondition error line)

/-- The steps that walks over a stream are made of. -/
class Telling (N : outParam Type) (m : Type → Type) where
  act : {α : Type} → Run N α → m α
  pull : m (Option (Directive (Handler N)))
  holds : Expr.Scope → String → Option Int → m Bool
  missingEnd : {α : Type} → m α
  malformed : {α : Type} → String → Nat → m α

instance : Telling N (Run N) where
  act action := action
  pull := pull
  holds := holds
  missingEnd := raise missingEnd
  malformed code line := raise (malformed code line)

section Walks

variable {m : Type → Type} [Monad m] [Telling N m]

/-- Skips to the end of a block. The blocks that are open, inner ones first, are given by whether
their fallback has been seen. -/
def skipBlocks : (turns : Nat) → (unclosed : List Bool) → m Unit
  | _, [] => pure ()
  | 0, _ => Telling.act (throw .exhausted)
  | turns + 1, fallbackSeen :: outer => do
      match ← Telling.pull with
      | none => Telling.missingEnd
      | some directive =>
          match directive.mark with
          | .opens => skipBlocks turns (false :: fallbackSeen :: outer)
          | .elseif =>
              if fallbackSeen then Telling.malformed "E584" directive.line
              else skipBlocks turns (fallbackSeen :: outer)
          | .fallback =>
              if fallbackSeen then Telling.malformed "E583" directive.line
              else skipBlocks turns (true :: outer)
          | .closes => skipBlocks turns outer
          | _ => skipBlocks turns (fallbackSeen :: outer)

def skipBlock (fallbackSeen : Bool) : m Unit := do
  skipBlocks (← Telling.act turns) [fallbackSeen]

inductive Chosen where
  | arm (isFallback : Bool)
  | none
  deriving DecidableEq, Repr

def chooseArm (scope : Expr.Scope) : (turns : Nat) → m Chosen
  | 0 => Telling.act (throw .exhausted)
  | turns + 1 => do
      match ← Telling.pull with
      | .none => Telling.missingEnd
      | some directive =>
          match directive.mark with
          | .opens => do
              skipBlock false
              chooseArm scope turns
          | .elseif => do
              if ← Telling.holds scope directive.args (some (directive.line : Int)) then
                pure (.arm false)
              else chooseArm scope turns
          | .fallback => pure (.arm true)
          | .closes => pure .none
          | _ => chooseArm scope turns

variable (dispatch : Context → Directive (Handler N) → m Flow)

def runArm (context : Context) (isFallback : Bool) : (turns : Nat) → m Flow
  | 0 => Telling.act (throw .exhausted)
  | turns + 1 => do
      match ← Telling.pull with
      | none => do
          skipBlock isFallback
          pure .goOn
      | some directive =>
          match directive.mark with
          | .elseif =>
              if isFallback then Telling.malformed "E584" directive.line
              else do
                skipBlock false
                pure .goOn
          | .fallback =>
              if isFallback then Telling.malformed "E583" directive.line
              else do
                skipBlock true
                pure .goOn
          | .closes => pure .goOn
          | .finish => do
              Telling.act (note .debug ("conditional.finish line=" ++ toString directive.line))
              Telling.act do
                closeStream
                pure .finish
          | _ => do
              match ← dispatch context directive with
              | .finish => Telling.act do
                  closeStream
                  pure .finish
              | .goOn => runArm context isFallback turns

def runBlock (context : Context) (condition : String) : m Flow := do
  if context.skip then
    skipBlock false
    pure .goOn
  else
    let scope ← Telling.act newScope
    let inArm := { context with skip := false }
    if ← Telling.holds scope condition none then runArm dispatch inArm false (← Telling.act turns)
    else
      match ← chooseArm scope (← Telling.act turns) with
      | .arm isFallback => runArm dispatch inArm isFallback (← Telling.act turns)
      | .none => pure .goOn

end Walks

/-- Runs a block on the current stream; where there is none, on one that is opened for it. -/
def runIf (openStream : Run N (Stream (Handler N))) (dispatch : Dispatch N) (context : Context)
    (condition : String) : Run N Flow := do
  match (← get).stream with
  | some _ => runBlock dispatch context condition
  | none => do
      let stream ← openStream
      withStream stream (runBlock dispatch context condition)

end Engine

end ExScript
