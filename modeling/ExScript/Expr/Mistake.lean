import ExScript.Expr.Value

/-!
How an evaluation goes wrong, and the evaluations themselves: they change the world, and keep their
changes when they fail. A mistake has a kind and a text, as the language itself can raise it;
running out of steps is told apart.
-/

namespace ExScript.Expr

inductive Mistake where
  | raised (kind text : String)
  | exhausted
  deriving DecidableEq, Repr, Inhabited

namespace Mistake

def kind : Mistake → String
  | .raised kind _ => kind
  | .exhausted => "RecursionError"

def text : Mistake → String
  | .raised _ text => text
  | .exhausted => "maximum recursion depth exceeded"

def report (mistake : Mistake) : String :=
  mistake.kind ++ ": " ++ mistake.text

def ofType (text : String) : Mistake := .raised "TypeError" text
def ofValue (text : String) : Mistake := .raised "ValueError" text
def ofIndex (text : String) : Mistake := .raised "IndexError" text
def ofZero (text : String) : Mistake := .raised "ZeroDivisionError" text
def ofRange (text : String) : Mistake := .raised "OverflowError" text
def ofLimit (text : String) : Mistake := .raised "RuntimeError" text

def unboundName (name : String) : Mistake :=
  .raised "NameError" ("name '" ++ name ++ "' is not defined")

def noAttribute (typeName name : String) : Mistake :=
  .raised "AttributeError" ("'" ++ typeName ++ "' object has no attribute '" ++ name ++ "'")

def unsupported (form : String) : Mistake :=
  .raised "NotImplementedError" ("'" ++ form ++ "'")

end Mistake

abbrev Eval := EStateM Mistake World

def allocate (object : Object) : Eval Value := do
  let (value, world) := (← get).allocate object
  set world
  pure value

def makeList (items : List Value) : Eval Value :=
  allocate (.list items)

def makeTuple (items : List Value) : Eval Value :=
  allocate (.tuple items)

end ExScript.Expr
