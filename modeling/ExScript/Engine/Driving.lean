import ExScript.Engine.Prompted
import ExScript.Expr.Program

/-!
Scripts that drive the engine: statements that have it execute a line, and ones that raise an error.
-/

namespace ExScript.Engine

open ExScript.Expr (Tree Statement)

variable {N : Type}

inductive Step where
  | line (text : String)
  | raise (kind text : String)
  | idle
  deriving DecidableEq, Repr

def textOf? : Tree → Option String
  | .literal (.text value) => some value
  | _ => none

def raisedText (kind : String) (arguments : List String) : String :=
  match arguments with
  | [] => ""
  | [text] => if kind = "KeyError" then Text.quote text else text
  | texts => "(" ++ Text.joinWith ", " (texts.map Text.quote) ++ ")"

def raisedKind (kind : String) (arguments : List String) : Step :=
  if Expr.errorKinds.contains kind then .raise kind (raisedText kind arguments)
  else .raise "NameError" ("name '" ++ kind ++ "' is not defined")

def step? : Statement → Option Step
  | .expression (.call (.attribute (.name "engine") "execute_line") [argument] []) =>
      (textOf? argument).map .line
  | .expression (.literal _) => some .idle
  | .skip => some .idle
  | .raise (some (.call (.name kind) arguments [])) none =>
      (arguments.mapM textOf?).map (raisedKind kind)
  | .raise (some (.name kind)) none => some (raisedKind kind [])
  | _ => none

def runStep (dispatch : Dispatch N) : Step → Run N Unit
  | .line text => do
      let _ ← executeLine dispatch text
  | .raise kind text => raise (.foreign kind text)
  | .idle => pure ()

def runSteps (dispatch : Dispatch N) : List Statement → Run N Unit
  | [] => pure ()
  | statement :: rest =>
      match step? statement with
      | none => raise (.foreign "NotImplementedError" "")
      | some step => do
          runStep dispatch step
          runSteps dispatch rest

def runDriving (dispatch : Dispatch N) (path : Path) : Run N Unit := do
  let text ← lift ((← get).files.readText path "utf-8")
  match Expr.parse text with
  | .error malformed => raise (.foreign "SyntaxError" malformed.report)
  | .ok statements => runSteps dispatch statements

end ExScript.Engine
