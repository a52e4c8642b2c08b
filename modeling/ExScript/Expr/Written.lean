import ExScript.Expr.Mistake
import ExScript.Number.FloatText
import ExScript.Text.Quoted
import ExScript.Text.Split

/-!
How values are written. Inside of lists, tuples and dictionaries texts are quoted; an object that
contains itself is written as dots where it comes up again.
-/

namespace ExScript.Expr

def typeFunctions : List String :=
  ["str", "int", "float", "bool", "list", "tuple", "dict", "range", "bytes", "bytearray",
    "complex", "enumerate", "filter", "frozenset", "map", "object", "reversed", "set", "slice",
    "type", "zip"]

def tooManyDigits : String :=
  "Exceeds the limit (4300 digits) for integer string conversion; " ++
    "use sys.set_int_max_str_digits() to increase the limit"

namespace World

def typeName (world : World) : Value → String
  | .nothing => "NoneType"
  | .bool _ => "bool"
  | .int _ => "int"
  | .float _ | .constant _ => "float"
  | .text _ => "str"
  | .range .. => "range"
  | .object address =>
      match world.object address with
      | .list _ => "list"
      | .tuple _ => "tuple"
      | .dict _ => "dict"
      | .procedure _ => "Procedure"
      | .raised kind _ => kind
  | .function name => if typeFunctions.contains name then "type" else "builtin_function_or_method"
  | .lookout .environment => "method"
  | .lookout .presence => "function"
  | .method .. => "builtin_function_or_method"
  | .kind _ => "type"

def refusedType (world : World) : Value → String
  | .nothing => "None"
  | value => world.typeName value

def rangeText (start stop step : Int) : String :=
  "range(" ++ toString start ++ ", " ++ toString stop ++
    (if step = 1 then "" else ", " ++ toString step) ++ ")"

def boolText (value : Bool) : String :=
  if value then "True" else "False"

def tupleText : List String → String
  | [item] => "(" ++ item ++ ",)"
  | items => "(" ++ Text.joinWith ", " items ++ ")"

def digitBound : Nat := Nat.pow 10 4300

def hasManyDigits (value : Int) : Bool :=
  14000 < value.natAbs.log2 && digitBound ≤ value.natAbs

def isOversizedFrom (world : World) : (depth : Nat) → (path : List Nat) → Value → Bool
  | _, _, .int value => hasManyDigits value
  | _, _, .range start stop step => [start, stop, step].any hasManyDigits
  | depth + 1, path, .object address =>
      let holds := isOversizedFrom world depth (address :: path)
      !path.contains address &&
        match world.object address with
        | .list items | .tuple items | .raised _ items => items.any holds
        | .dict entries => entries.any fun (key, value) => holds key || holds value
        | .procedure _ => false
  | _, _, _ => false

def isOversized (world : World) (value : Value) : Bool :=
  isOversizedFrom world (world.objects.size + 1) [] value

/-- Writes a value; `path` are the objects around it, and `depth` bounds how many those can be. -/
def writtenFrom (world : World) : (depth : Nat) → (path : List Nat) → Value → String
  | _, _, .nothing => "None"
  | _, _, .bool value => boolText value
  | _, _, .int value => toString value
  | _, _, .float value => Number.floatText value
  | _, _, .constant name => Number.floatText name.float
  | _, _, .text value => Text.quote value
  | _, _, .range start stop step => rangeText start stop step
  | _, _, .function name =>
      if typeFunctions.contains name then "<class '" ++ name ++ "'>"
      else "<built-in function " ++ name ++ ">"
  | _, _, .lookout .environment =>
      let rows := world.environment.map fun (name, value) =>
        Text.quote name ++ ": " ++ Text.quote value
      "<bound method Mapping.get of environ(\x7b" ++ Text.joinWith ", " rows ++ "\x7d)>"
  | _, _, .lookout .presence => "<function>"
  | _, _, .method _ name => "<built-in method " ++ name ++ ">"
  | _, _, .kind name => "<class '" ++ name ++ "'>"
  | 0, _, .object _ => "..."
  | depth + 1, path, .object address =>
      let inside := path.contains address
      let write := writtenFrom world depth (address :: path)
      match world.object address with
      | .list items =>
          if inside then "[...]" else "[" ++ Text.joinWith ", " (items.map write) ++ "]"
      | .tuple items => if inside then "(...)" else tupleText (items.map write)
      | .dict entries =>
          if inside then "\x7b...\x7d"
          else
            let rows := entries.map fun (key, value) => write key ++ ": " ++ write value
            "\x7b" ++ Text.joinWith ", " rows ++ "\x7d"
      | .procedure procedure =>
          let optional := procedure.optional.map fun (name, value) => name ++ "=" ++ write value
          "<Procedure " ++ procedure.name ++ "(" ++
            Text.joinWith ", " (procedure.required ++ optional) ++ ")>"
      | .raised kind [item] => kind ++ "(" ++ write item ++ ")"
      | .raised kind items => kind ++ "(" ++ Text.joinWith ", " (items.map write) ++ ")"

def written (world : World) (value : Value) : String :=
  writtenFrom world (world.objects.size + 1) [] value

/-- A value as a text: a text stands for itself, and an error for its arguments. -/
def shown (world : World) (value : Value) : String :=
  match value with
  | .text text => text
  | .object address =>
      match world.object address with
      | .raised _ [] => ""
      | .raised _ [.text text] => text
      | .raised _ [item] => world.written item
      | .raised _ items => tupleText (items.map world.written)
      | _ => world.written value
  | _ => world.written value

end World

end ExScript.Expr
