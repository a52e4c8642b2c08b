import ExScript.Expr.Names
import ExScript.Expr.Numerals
import ExScript.Path

/-!
The functions of the expression language that can be called. Numbers of arguments are checked first,
each with the words of its own function.
-/

namespace ExScript.Expr

structure Arity where
  least : Nat
  greatest : Nat
  few : Nat → String
  many : Nat → String

namespace Arity

def one (name : String) : Arity :=
  let say := fun (given : Nat) =>
    name ++ "() takes exactly one argument (" ++ toString given ++ " given)"
  ⟨1, 1, say, say⟩

def upToOne (name : String) : Arity :=
  let say := fun (given : Nat) => name ++ " expected at most 1 argument, got " ++ toString given
  ⟨0, 1, say, say⟩

def exactly (name : String) (count : Nat) : Arity :=
  let say := fun (given : Nat) => name ++ " expected " ++ toString count ++
    (if count = 1 then " argument, got " else " arguments, got ") ++ toString given
  ⟨count, count, say, say⟩

def between (name : String) (least greatest : Nat) : Arity :=
  let arguments := fun (count : Nat) => if count = 1 then " argument, got " else " arguments, got "
  ⟨least, greatest,
    fun given => name ++ " expected at least " ++ toString least ++ arguments least ++
      toString given,
    fun given => name ++ " expected at most " ++ toString greatest ++ arguments greatest ++
      toString given⟩

def takes (name : String) (least greatest : Nat) : Arity :=
  let arguments := fun (count given : Nat) =>
    toString count ++ (if count = 1 then " argument (" else " arguments (") ++ toString given ++
      " given)"
  ⟨least, greatest, fun given => name ++ "() takes at least " ++ arguments least given,
    fun given => name ++ "() takes at most " ++ arguments greatest given⟩

def ofSum : Arity :=
  { takes "sum" 1 2 with few := fun given =>
      "sum() takes at least 1 positional argument (" ++ toString given ++ " given)" }

def check (arity : Arity) (given : Nat) : Eval Unit :=
  if given < arity.least then throw (.ofType (arity.few given))
  else if arity.greatest < given then throw (.ofType (arity.many given))
  else pure ()

end Arity

def typed (text : String) (value : Value) : Eval Mistake := do
  pure (.ofType (text ++ "'" ++ (← get).typeName value ++ "'"))

def checkDigits (values : List Value) : Eval Unit := do
  if values.any (← get).isOversized then throw (.ofValue tooManyDigits)

def countDigits (chars : List Char) : Nat :=
  (chars.filter fun c => (letterValue? c).isSome).length

/-- The digits of a text that is read as a number are limited, unless the base is a power of two. -/
def checkLength (text : String) (base : Int) : Eval Unit := do
  let count := countDigits text.toList
  if 4300 < count && !([2, 4, 8, 16, 32].contains base) then
    throw (.ofValue ("Exceeds the limit (4300 digits) for integer string conversion: value has " ++
      toString count ++ " digits; use sys.set_int_max_str_digits() to increase the limit"))

def toWhole (value : Value) : Eval Value := do
  match value with
  | .text text =>
      match wholeOfText? text with
      | some whole => do
          checkLength text 10
          pure (.int whole)
      | none => throw (.ofValue ("invalid literal for int() with base 10: " ++ Text.quote text))
  | _ =>
      match value.quantity? with
      | some (.whole whole) => pure (.int whole)
      | some (.real real) =>
          match Number.Dyadic.ofFloat? real with
          | some dyadic => pure (.int dyadic.truncate)
          | none =>
              if real.isNaN then throw (.ofValue "cannot convert float NaN to integer")
              else throw (.ofRange "cannot convert float infinity to integer")
      | none => throw (← typed
          "int() argument must be a string, a bytes-like object or a real number, not " value)

def toWholeIn (value base : Value) : Eval Value := do
  match base.quantity? with
  | some (.whole base) =>
      if (base ≠ 0 && base < 2) || 36 < base then
        throw (.ofValue "int() base must be >= 2 and <= 36, or 0")
      else
        match value with
        | .text text =>
            match wholeInBase? base.toNat text with
            | some whole => do
                checkLength text base
                pure (.int whole)
            | none => throw (.ofValue ("invalid literal for int() with base " ++ toString base ++
                ": " ++ Text.quote text))
        | _ => throw (.ofType "int() can't convert non-string with explicit base")
  | _ => throw (.ofType ("'" ++ (← get).typeName base ++
      "' object cannot be interpreted as an integer"))

def toReal (value : Value) : Eval Value := do
  match value with
  | .text text =>
      match floatOfText? text with
      | some real => pure (.float real)
      | none => throw (.ofValue ("could not convert string to float: " ++ Text.quote text))
  | _ =>
      match value.quantity? with
      | some quantity => do pure (.float (← lift quantity.toFloat))
      | none => throw (← typed "float() argument must be a string or a real number, not " value)

def magnitude (value : Value) : Eval Value := do
  match value.quantity? with
  | some (.whole whole) => pure (.int whole.natAbs)
  | some (.real real) => pure (.float real.abs)
  | none => throw (← typed "bad operand type for abs(): " value)

def extreme (order : Order) (name : String) (parts : List Value) : Eval Value :=
  match parts with
  | [] => throw (.ofValue (name ++ "() arg is an empty sequence"))
  | first :: rest =>
      rest.foldlM (fun best part => do
        pure (if ← lift ((← get).ordered order part best) then part else best)) first

def extremeOf (order : Order) (name : String) (arguments : List Value) : Eval Value := do
  match arguments with
  | [] => throw (.ofType (name ++ " expected at least 1 argument, got 0"))
  | [source] => extreme order name (← partsOf source)
  | parts => extreme order name parts

def total (source : Value) (start : Value) : Eval Value := do
  let parts ← partsOf source
  match start with
  | .text _ => throw (.ofType "sum() can't sum strings [use ''.join(seq) instead]")
  | _ =>
      parts.foldlM (fun sum part =>
        match sum.quantity?, part.quantity? with
        | some left, some right => lift (left.combine .add right)
        | _, _ => concatenate sum part) start

/-- Where to put a part into a sorted row, between two places: behind all that it does not
precede. -/
def insertionPlace (sorted : Array Value) (part : Value) (low high : Nat) : Eval Nat := do
  if low < high then
    let middle := (low + high) / 2
    if ← lift ((← get).ordered .less part (sorted.getD middle .nothing)) then
      insertionPlace sorted part low middle
    else insertionPlace sorted part (middle + 1) high
  else pure low
termination_by high - low

def runLength (falling : Bool) : (previous : Value) → List Value → Eval Nat
  | _, [] => pure 0
  | previous, part :: rest => do
      if (← lift ((← get).ordered .less part previous)) = falling then
        pure ((← runLength falling part rest) + 1)
      else pure 0

/-- Sorts by inserting each part behind the run that the row starts with. -/
def sortParts (parts : List Value) : Eval (List Value) := do
  match parts with
  | first :: second :: rest =>
      let falling ← lift ((← get).ordered .less second first)
      let count := (← runLength falling second rest) + 2
      let run := parts.take count
      let start := (if falling then run.reverse else run).toArray
      let sorted ← (parts.drop count).foldlM (fun (sorted : Array Value) part => do
        let place ← insertionPlace sorted part 0 sorted.size
        pure (sorted.toList.take place ++ part :: sorted.toList.drop place).toArray) start
      pure sorted.toList
  | _ => pure parts

def toRangeBound (value : Value) : Eval Int := do
  match value.whole? with
  | some whole => pure whole
  | none => throw (.ofType ("'" ++ (← get).typeName value ++
      "' object cannot be interpreted as an integer"))

def toRange (arguments : List Value) : Eval Value := do
  match ← arguments.mapM toRangeBound with
  | [stop] => pure (.range 0 stop 1)
  | [start, stop] => pure (.range start stop 1)
  | [start, stop, step] =>
      if step = 0 then throw (.ofValue "range() arg 3 must not be zero")
      else pure (.range start stop step)
  | _ => pure (.range 0 0 1)

def codeOf (value : Value) : Eval Value := do
  match value with
  | .text text =>
      match text.toList with
      | [c] => pure (.int c.toNat)
      | chars => throw (.ofType ("ord() expected a character, but string of length " ++
          toString chars.length ++ " found"))
  | _ => throw (.ofType ("ord() expected string of length 1, but " ++ (← get).typeName value ++
      " found"))

def characterOf (value : Value) : Eval Value := do
  let whole ← toRangeBound value
  if whole < 0 || 0x110000 ≤ whole then throw (.ofValue "chr() arg not in range(0x110000)")
  else pure (.text (String.ofList [Char.ofNat whole.toNat]))

def toDict (arguments : List Value) (named : List (String × Value)) : Eval Value := do
  let entries ← match arguments with
    | [.object address] =>
        match (← get).object address with
        | .dict entries => pure entries
        | _ => throw (.unsupported "dict")
    | [] => pure []
    | _ => throw (.unsupported "dict")
  let world ← get
  allocate (.dict (named.foldl (fun entries (name, value) =>
    world.enter (.text name) value entries) entries))

def printAll (arguments : List Value) (named : List (String × Value)) : Eval Value := do
  let world ← get
  let part := fun (name default : String) => match named.lookup name with
    | some (.text text) => text
    | _ => default
  checkDigits arguments
  let line := Text.joinWith (part "sep" " ") (arguments.map world.shown) ++ part "end" "\n"
  set { world with printed := world.printed ++ line }
  pure .nothing

def refuseNamed (name : String) (named : List (String × Value)) : Eval Unit :=
  if named.isEmpty then pure ()
  else throw (.ofType (name ++ "() takes no keyword arguments"))

def noDecoding (world : World) (arguments : List Value) : Mistake :=
  .ofType (match arguments with
    | _ :: .text _ :: .text _ :: _ | [_, .text _] =>
        match arguments.headD .nothing with
        | .text _ => "decoding str is not supported"
        | value => "decoding to str: need a bytes-like object, " ++ world.typeName value ++ " found"
    | _ :: .text _ :: errors :: _ =>
        "str() argument 'errors' must be str, not " ++ world.refusedType errors
    | _ =>
        "str() argument 'encoding' must be str, not " ++
          world.refusedType (arguments.getD 1 .nothing))

def callPlain (name : String) (arguments : List Value) : Eval Value := do
  let first := arguments.headD .nothing
  let count := arguments.length
  match name with
  | "len" => do
      (Arity.one name).check count
      pure (.int (← lengthOf first))
  | "repr" => do
      (Arity.one name).check count
      checkDigits arguments
      pure (.text ((← get).written first))
  | "str" => do
      (Arity.takes name 0 3).check count
      let world ← get
      checkDigits arguments
      if 1 < count then throw (noDecoding world arguments)
      else pure (.text (if count = 0 then "" else world.shown first))
  | "bool" => do
      (Arity.upToOne name).check count
      pure (.bool (count ≠ 0 && (← get).truth first))
  | "int" => do
      (Arity.takes name 0 2).check count
      if count = 0 then pure (.int 0)
      else if count = 1 then toWhole first
      else toWholeIn first (arguments.getD 1 .nothing)
  | "float" => do
      (Arity.upToOne name).check count
      if count = 0 then pure (.float 0.0) else toReal first
  | "abs" => do
      (Arity.one name).check count
      magnitude first
  | "min" => extremeOf .less name arguments
  | "max" => extremeOf .greater name arguments
  | "sum" => do
      (Arity.ofSum).check count
      total first (arguments.getD 1 (.int 0))
  | "sorted" => do
      (Arity.exactly name 1).check count
      makeList (← sortParts (← partsOf first))
  | "list" => do
      (Arity.upToOne name).check count
      makeList (← if count = 0 then pure [] else partsOf first)
  | "tuple" => do
      (Arity.upToOne name).check count
      makeTuple (← if count = 0 then pure [] else partsOf first)
  | "range" => do
      (Arity.between name 1 3).check count
      toRange arguments
  | "any" => do
      (Arity.one name).check count
      pure (.bool ((← partsOf first).any (← get).truth))
  | "all" => do
      (Arity.one name).check count
      pure (.bool ((← partsOf first).all (← get).truth))
  | "ord" => do
      (Arity.one name).check count
      codeOf first
  | "chr" => do
      (Arity.one name).check count
      characterOf first
  | _ => throw (.unsupported name)

def callFunction (name : String) (arguments : List Value) (named : List (String × Value)) :
    Eval Value := do
  if name = "print" then printAll arguments named
  else if name = "dict" then toDict arguments named
  else if name = "sorted" && named.all (·.1 = "reverse") then
    let sorted ← callPlain name arguments
    let world ← get
    if named.any fun (_, value) => world.truth value then
      makeList ((← sortParts ((← partsOf (arguments.headD .nothing)).reverse)).reverse)
    else pure sorted
  else
    refuseNamed name named
    callPlain name arguments

def callLookout (outside : Outside) (name : Lookout) (arguments : List Value)
    (named : List (String × Value)) : Eval Value := do
  let world ← get
  match name with
  | .environment =>
      let default := (arguments[1]?).or (named.lookup "default")
      match (arguments.head?).or (named.lookup "key") with
      | some (.text key) =>
          match world.environment.lookup key with
          | some text => pure (.text text)
          | none => pure (default.getD .nothing)
      | some value => throw (.ofType ("str expected, not " ++ world.typeName value))
      | none => throw (.ofType
          "Mapping.get() missing 1 required positional argument: 'key'")
  | .presence =>
      match (arguments.head?).or (named.lookup "path") with
      | some (.text path) =>
          match outside.present path with
          | .ok answer => pure (.bool answer)
          | .error (kind, text) => throw (.raised kind text)
      | some value => throw (.ofType
          ("expected str, bytes or os.PathLike object, not " ++ world.typeName value))
      | none => throw (.ofType "<lambda>() missing 1 required positional argument: 'path'")

end ExScript.Expr
