import ExScript.Proofs.Blocks
import ExScript.Proofs.Ordinary

/-!
Scripts as trees. A tree says what its blocks and their arms are, and running it follows its form:
there is no cursor, and arms that are not run are not looked at.
-/

namespace ExScript.Engine

structure Marked (N : Type) (mark : Mark) where
  directive : Directive (Handler N)
  marked : directive.mark = mark

structure OrdinaryCommand (N : Type) extends Marked N .plain where
  ordinary : Within .ordinary directive

structure Opening (N : Type) extends Marked N .opens where
  opens : directive.command.handler = .builtin .ifBlock

mutual

inductive Script (N : Type) where
  | done
  | command (command : OrdinaryCommand N) (rest : Script N)
  | finish (marker : Marked N .finish) (rest : Script N)
  | block (opening : Opening N) (body : Script N) (arms : Arms N) (rest : Script N)

inductive Arms (N : Type) where
  | closed (closing : Marked N .closes)
  | fallback (marker : Marked N .fallback) (body : Script N) (closing : Marked N .closes)
  | elseif (marker : Marked N .elseif) (body : Script N) (rest : Arms N)

end

variable {N : Type}

mutual

def Script.flatten : Script N → List (Directive (Handler N))
  | .done => []
  | .command command rest => command.directive :: rest.flatten
  | .finish marker rest => marker.directive :: rest.flatten
  | .block opening body arms rest =>
      opening.directive :: (body.flatten ++ (arms.flatten ++ rest.flatten))

def Arms.flatten : Arms N → List (Directive (Handler N))
  | .closed closing => [closing.directive]
  | .fallback marker body closing => marker.directive :: (body.flatten ++ [closing.directive])
  | .elseif marker body rest => marker.directive :: (body.flatten ++ rest.flatten)

end

mutual

/-- Runs a script, with the commands in it no deeper than `depth`. Only a finish within a block is
logged. -/
def Script.run (context : Context) (depth : Nat) (nested : Bool) : Script N → Run N Flow
  | .done => pure .goOn
  | .command command rest => do
      let _ ← dispatchTo depth context command.directive
      rest.run context depth nested
  | .finish marker _ => do
      if nested then
        note .debug ("conditional.finish line=" ++ toString marker.directive.line)
      pure .finish
  | .block opening body arms rest =>
      match depth with
      | 0 => throw .exhausted
      | inner + 1 => do
          let flow ← opened context opening.directive do
            let scope ← newScope
            if ← holds scope opening.directive.args none then body.run context inner true
            else arms.run context inner scope
          match flow with
          | .finish => pure .finish
          | .goOn => rest.run context (inner + 1) nested

def Arms.run (context : Context) (depth : Nat) (scope : Expr.Scope) : Arms N → Run N Flow
  | .closed _ => pure .goOn
  | .fallback _ body _ => body.run context depth true
  | .elseif marker body rest => do
      if ← holds scope marker.directive.args (some (marker.directive.line : Int)) then
        body.run context depth true
      else rest.run context depth scope

end

end ExScript.Engine
