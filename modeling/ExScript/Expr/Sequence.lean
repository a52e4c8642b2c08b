import ExScript.Expr.Arithmetic

/-!
Values that have parts: their length, the parts one by one, by index, by key and by slice, and
membership.
-/

namespace ExScript.Expr

namespace World

def length? (world : World) : Value → Option Nat
  | .text text => some text.length
  | .range start stop step => some (rangeLength start stop step)
  | .object address =>
      match world.object address with
      | .list items => some items.length
      | .tuple items => some items.length
      | .dict entries => some entries.length
      | _ => none
  | _ => none

def rangeItem? (start stop step : Int) (index : Nat) : Option Value :=
  if index < rangeLength start stop step then some (.int (start + step * index)) else none

/-- The part that comes at a place when the value is gone through; lists are looked up as they are
at that moment. -/
def part? (world : World) (value : Value) (index : Nat) : Option Value :=
  match value with
  | .text text => (text.toList[index]?).map fun c => .text (String.ofList [c])
  | .range start stop step => rangeItem? start stop step index
  | .object address =>
      match world.object address with
      | .list items => items[index]?
      | .tuple items => items[index]?
      | .dict entries => (entries[index]?).map (·.1)
      | _ => none
  | _ => none

def parts? (world : World) : Value → Option (List Value)
  | .text text => some (text.toList.map fun c => .text (String.ofList [c]))
  | .range start stop step =>
      some ((List.range (rangeLength start stop step)).map fun (index : Nat) =>
        .int (start + step * index))
  | .object address =>
      match world.object address with
      | .list items => some items
      | .tuple items => some items
      | .dict entries => some (entries.map (·.1))
      | _ => none
  | _ => none

def notIterable (world : World) (value : Value) : Mistake :=
  .ofType ("'" ++ world.typeName value ++ "' object is not iterable")

def noLength (world : World) (value : Value) : Mistake :=
  .ofType ("object of type '" ++ world.typeName value ++ "' has no len()")

end World

def partsOf (value : Value) : Eval (List Value) := do
  match (← get).parts? value with
  | some parts => pure parts
  | none => throw ((← get).notIterable value)

def lengthOf (value : Value) : Eval Nat := do
  match (← get).length? value with
  | some length => pure length
  | none => throw ((← get).noLength value)

def place? (length : Nat) (index : Int) : Option Nat :=
  let position := if index < 0 then index + length else index
  if 0 ≤ position && position < length then some position.toNat else none

namespace World

def unhashable? (world : World) : (depth : Nat) → Value → Option String
  | depth + 1, .object address =>
      match world.object address with
      | .list _ => some "list"
      | .dict _ => some "dict"
      | .tuple items => items.findSome? (unhashable? world depth)
      | _ => none
  | _, _ => none

end World

def checkKey (key : Value) : Eval Unit := do
  match (← get).unhashable? (← get).depth key with
  | some name => throw (.ofType ("unhashable type: '" ++ name ++ "'"))
  | none => pure ()

namespace World

def entry? (world : World) (entries : List (Value × Value)) (key : Value) : Option Value :=
  (entries.find? fun (other, _) => world.equal other key).map (·.2)

/-- Enters a value under a key; a key that is there keeps its place and spelling. -/
def enter (world : World) (key value : Value) : List (Value × Value) → List (Value × Value)
  | [] => [(key, value)]
  | (other, old) :: rest =>
      if world.equal other key then (other, value) :: rest
      else (other, old) :: enter world key value rest

end World

def indexType (kind : String) (index : Value) : Eval Mistake := do
  let name := (← get).typeName index
  pure (.ofType (
    if kind = "string" then "string indices must be integers, not '" ++ name ++ "'"
    else if kind = "range object" then "range indices must be integers or slices, not " ++ name
    else kind ++ " indices must be integers or slices, not " ++ name))

def noPart (kind message : String) (index : Int) : Mistake :=
  if kind ≠ "range object" && (index < -Int.pow 2 63 || Int.pow 2 63 ≤ index) then
    .ofIndex "cannot fit 'int' into an index-sized integer"
  else .ofIndex message

def partAt (kind : String) (length : Nat) (part : Nat → Option Value) (index : Value) :
    Eval Value := do
  match index.whole? with
  | none => throw (← indexType kind index)
  | some whole =>
      match (place? length whole).bind part with
      | some value => pure value
      | none => throw (noPart kind (kind ++ " index out of range") whole)

def notSubscriptable (subject : Value) : Eval Mistake := do
  let world ← get
  pure (.ofType (match subject with
    | .function name =>
        if typeFunctions.contains name then "type '" ++ name ++ "' is not subscriptable"
        else "'builtin_function_or_method' object is not subscriptable"
    | _ => "'" ++ world.typeName subject ++ "' object is not subscriptable"))

def itemOf (subject index : Value) : Eval Value := do
  let world ← get
  match subject with
  | .text text =>
      partAt "string" text.length (fun place => world.part? subject place) index
  | .range start stop step =>
      partAt "range object" (rangeLength start stop step) (World.rangeItem? start stop step)
        index
  | .object address =>
      match world.object address with
      | .list items => partAt "list" items.length (fun place => items[place]?) index
      | .tuple items => partAt "tuple" items.length (fun place => items[place]?) index
      | .dict entries => do
          checkKey index
          match world.entry? entries index with
          | some value => pure value
          | none => throw (.raised "KeyError" (world.written index))
      | _ => throw (← notSubscriptable subject)
  | _ => throw (← notSubscriptable subject)

def setItem (subject index value : Value) : Eval Unit := do
  let world ← get
  let refuse : Eval Unit := throw (.ofType ("'" ++ world.typeName subject ++
    "' object does not support item assignment"))
  match subject with
  | .object address =>
      match world.object address with
      | .list items =>
          match index.whole? with
          | none => throw (← indexType "list" index)
          | some whole =>
              match place? items.length whole with
              | some place => set (world.store address (.list (items.set place value)))
              | none => throw (noPart "list" "list assignment index out of range" whole)
      | .dict entries => do
          checkKey index
          set (world.store address (.dict (world.enter index value entries)))
      | _ => refuse
  | _ => refuse

def clampBound (length : Nat) (backwards : Bool) (bound : Int) : Int :=
  let low : Int := if backwards then -1 else 0
  let high : Int := if backwards then length - 1 else length
  let shifted := if bound < 0 then bound + length else bound
  max low (min high shifted)

def sliceBounds (length : Nat) (start stop : Option Int) (step : Int) : Int × Int :=
  let backwards := step < 0
  ((start.map (clampBound length backwards)).getD (if backwards then length - 1 else 0),
    (stop.map (clampBound length backwards)).getD (if backwards then -1 else length))

def slicePlaces (first last step : Int) : List Nat :=
  (List.range (rangeLength first last step)).map fun (count : Nat) =>
    (first + step * count).toNat

def boundOf (bound : Option Value) : Eval (Option Int) :=
  match bound with
  | none => pure none
  | some .nothing => pure none
  | some value =>
      match value.whole? with
      | some whole => pure (some whole)
      | none => throw (.ofType
          "slice indices must be integers or None or have an __index__ method")

def sliceOf (subject : Value) (start stop step : Option Value) : Eval Value := do
  let world ← get
  let bounds (length : Nat) : Eval (Int × Int × Int) := do
    let step := (← boundOf step).getD 1
    if step = 0 then throw (.ofValue "slice step cannot be zero")
    else
      let start ← boundOf start
      let stop ← boundOf stop
      let (first, last) := sliceBounds length start stop step
      pure (first, last, step)
  let pick (items : List Value) : Eval (List Value) := do
    let (first, last, step) ← bounds items.length
    pure ((slicePlaces first last step).filterMap fun place => items[place]?)
  match subject with
  | .text text => do
      let chars := text.toList
      let (first, last, step) ← bounds chars.length
      pure (.text (String.ofList
        ((slicePlaces first last step).filterMap fun place => chars[place]?)))
  | .range origin stop stride => do
      let (first, last, step) ← bounds (rangeLength origin stop stride)
      pure (.range (origin + stride * first) (origin + stride * last) (stride * step))
  | .object address =>
      match world.object address with
      | .list items => do makeList (← pick items)
      | .tuple items => do makeTuple (← pick items)
      | .dict _ => throw (.ofType "unhashable type: 'slice'")
      | _ => throw (← notSubscriptable subject)
  | _ => throw (← notSubscriptable subject)

def containsText (needle : List Char) : List Char → Bool
  | [] => needle.isEmpty
  | c :: rest => needle.isPrefixOf (c :: rest) || containsText needle rest

def Quantity.wholePart? : Quantity → Option Int
  | .whole value => some value
  | .real value => (Number.Dyadic.ofFloat? value).map (·.truncate)

def rangeHolds (start stop step value : Int) : Bool :=
  if 0 < step then start ≤ value && value < stop && (value - start) % step = 0
  else if step < 0 then stop < value && value ≤ start && (start - value) % (-step) = 0
  else false

def isWithin (item container : Value) : Eval Bool := do
  let world ← get
  match container with
  | .text text =>
      match item with
      | .text needle => pure (containsText needle.toList text.toList)
      | _ => throw (.ofType ("'in <string>' requires string as left operand, not " ++
          world.typeName item))
  | .object address =>
      match world.object address with
      | .dict entries => do
          checkKey item
          pure (world.entry? entries item).isSome
      | .list items => pure (items.any fun other => world.equal other item)
      | .tuple items => pure (items.any fun other => world.equal other item)
      | _ => throw (.ofType ("argument of type '" ++ world.typeName container ++
          "' is not iterable"))
  | .range start stop step =>
      match item.quantity? with
      | some quantity =>
          pure (quantity.wholePart?.any fun whole =>
            quantity.compare? (.whole whole) = some .eq && rangeHolds start stop step whole)
      | none => pure false
  | _ => throw (.ofType ("argument of type '" ++ world.typeName container ++ "' is not iterable"))

def compareValues (comparison : Comparison) (left right : Value) : Eval Bool := do
  let world ← get
  match comparison with
  | .equal => pure (world.equal left right)
  | .unequal => pure (!world.equal left right)
  | .less => lift (world.ordered .less left right)
  | .lessEqual => lift (world.ordered .lessEqual left right)
  | .greater => lift (world.ordered .greater left right)
  | .greaterEqual => lift (world.ordered .greaterEqual left right)
  | .within => isWithin left right
  | .notWithin => do pure (!(← isWithin left right))
  | .same => pure (left.same right)
  | .notSame => pure (!left.same right)

end ExScript.Expr
