import ExScript.Expr.Sequence

/-!
The names that every scope starts with: kinds of errors, functions, and numbers of mathematics. A
scope holds further names of its own, which may hide these.
-/

namespace ExScript.Expr

def errorKinds : List String :=
  ["ArithmeticError", "AssertionError", "AttributeError", "BaseException", "BufferError",
    "BytesWarning", "DeprecationWarning", "EOFError", "EnvironmentError", "Exception",
    "FloatingPointError", "GeneratorExit", "IOError", "ImportError", "ImportWarning",
    "IndentationError", "IndexError", "KeyError", "KeyboardInterrupt", "LookupError",
    "MemoryError", "NameError", "NotImplementedError", "OSError", "OverflowError",
    "ReferenceError", "RuntimeError", "RuntimeWarning", "StopIteration", "SyntaxError",
    "SyntaxWarning", "SystemError", "SystemExit", "TypeError", "UnboundLocalError",
    "UnicodeDecodeError", "UnicodeEncodeError", "UnicodeError", "UnicodeTranslateError",
    "UnicodeWarning", "ValueError", "Warning", "ZeroDivisionError"]

def functionNames : List String :=
  ["abs", "all", "any", "bin", "bool", "bytearray", "bytes", "chr", "complex", "dict", "dir",
    "divmod", "enumerate", "filter", "float", "format", "frozenset", "hash", "hex", "id", "int",
    "isinstance", "len", "list", "map", "max", "min", "oct", "open", "ord", "pow", "print",
    "range", "repr", "reversed", "round", "set", "slice", "sorted", "str", "sum", "tuple", "type",
    "zip", "acos", "acosh", "asin", "asinh", "atan", "atan2", "atanh", "ceil", "copysign", "cos",
    "cosh", "degrees", "exp", "fabs", "factorial", "floor", "fmod", "frexp", "fsum", "hypot",
    "isinf", "isnan", "ldexp", "log", "log10", "log1p", "modf", "radians", "sin", "sinh", "sqrt",
    "tan", "tanh", "trunc"]

def constants : List (String × Value) :=
  [("None", .nothing), ("True", .bool true), ("False", .bool false), ("pi", .constant .pi),
    ("e", .constant .e), ("tau", .constant .tau), ("inf", .constant .infinity),
    ("nan", .constant .nan)]

def initial? (name : String) : Option Value :=
  match constants.lookup name with
  | some value => some value
  | none =>
      if functionNames.contains name then some (.function name)
      else if errorKinds.contains name then some (.kind name)
      else none

namespace World

def lookup? (world : World) (scope : Scope) (name : String) : Option Value :=
  ((world.table scope).get? name).or (initial? name)

def bind (world : World) (scope : Scope) (name : String) (value : Value) : World :=
  world.setTable scope ((world.table scope).insert name value)

def isUserBinding (world : World) (name : String) (value : Value) : Bool :=
  world.given.contains name || !(initial? name).any value.same

/-- The user's names: those brought along, new ones, and those given another meaning. -/
def userTable (world : World) : Table Value :=
  world.user.filter world.isUserBinding

def isCallable (world : World) : Value → Bool
  | .function _ | .lookout _ | .method .. | .kind _ => true
  | .object address =>
      match world.object address with
      | .procedure _ => true
      | _ => false
  | _ => false

end World

end ExScript.Expr
