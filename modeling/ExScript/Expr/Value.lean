import ExScript.Expr.Tree
import ExScript.Table

/-!
Values, and the world they live in. Lists, tuples, dictionaries, procedures and raised errors are
objects of the world: values refer to them by address, so that a change is seen everywhere.
-/

namespace ExScript.Expr

inductive Constant where
  | pi
  | e
  | tau
  | infinity
  | nan
  deriving DecidableEq, Repr

def Constant.float : Constant → Float
  | .pi => 3.141592653589793
  | .e => 2.718281828459045
  | .tau => 6.283185307179586
  | .infinity => 1.0 / 0.0
  | .nan => 0.0 / 0.0

inductive Lookout where
  | environment
  | presence
  deriving DecidableEq, Repr

inductive Value where
  | nothing
  | bool (value : Bool)
  | int (value : Int)
  | float (value : Float)
  | constant (name : Constant)
  | text (value : String)
  | range (start stop step : Int)
  | object (address : Nat)
  | function (name : String)
  | lookout (name : Lookout)
  | method (receiver : Value) (name : String)
  | kind (name : String)
  deriving Inhabited

/-- Where names are looked up: the user's own table, or one made for some evaluations. -/
inductive Scope where
  | user
  | fresh (index : Nat)
  deriving DecidableEq, Repr

structure Procedure where
  name : String
  required : List String
  optional : List (String × Value)
  body : List Statement
  home : Scope

inductive Object where
  | list (items : List Value)
  | tuple (items : List Value)
  | dict (entries : List (Value × Value))
  | procedure (procedure : Procedure)
  | raised (kind : String) (arguments : List Value)
  deriving Inhabited

structure World where
  objects : Array Object := #[]
  user : Table Value := ∅
  fresh : Array (Table Value) := #[]
  given : List String := []
  printed : String := ""
  environment : List (String × String) := []
  deriving Inhabited

/-- What evaluation may look at outside of its world: which paths lead somewhere. Where the system
does not say so, there is an error of some kind with a text. -/
structure Outside where
  present : String → Except (String × String) Bool

namespace World

def object (world : World) (address : Nat) : Object :=
  world.objects.getD address (.tuple [])

def allocate (world : World) (object : Object) : Value × World :=
  (.object world.objects.size, { world with objects := world.objects.push object })

def store (world : World) (address : Nat) (object : Object) : World :=
  { world with objects := world.objects.setIfInBounds address object }

def table (world : World) : Scope → Table Value
  | .user => world.user
  | .fresh index => world.fresh.getD index ∅

def setTable (world : World) (scope : Scope) (table : Table Value) : World :=
  match scope with
  | .user => { world with user := table }
  | .fresh index => { world with fresh := world.fresh.setIfInBounds index table }

end World

namespace Value

/-- Named numbers are numbers like any other, once they are calculated with. -/
def plain : Value → Value
  | .constant name => .float name.float
  | value => value

def same : Value → Value → Bool
  | .nothing, .nothing => true
  | .bool left, .bool right => left == right
  | .int left, .int right => left == right
  | .float left, .float right => left.toBits == right.toBits
  | .constant left, .constant right => left == right
  | .text left, .text right => left == right
  | .range start stop step, .range start' stop' step' =>
      start == start' && stop == stop' && step == step'
  | .object left, .object right => left == right
  | .function left, .function right => left == right
  | .lookout left, .lookout right => left == right
  | .method receiver name, .method receiver' name' => receiver.same receiver' && name == name'
  | .kind left, .kind right => left == right
  | _, _ => false

end Value

end ExScript.Expr
