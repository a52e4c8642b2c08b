import ExScript.Expr.Relation

/-!
The operators of the expression language. Whole numbers are unbounded and divide downwards, texts,
lists and tuples are joined and repeated. Powers, shifts and texts have limits.
-/

namespace ExScript.Expr

namespace BinaryOp

def mark : BinaryOp → String
  | .add => "+"
  | .subtract => "-"
  | .multiply => "*"
  | .divide => "/"
  | .floorDivide => "//"
  | .remainder => "%"
  | .power => "** or pow()"
  | .shiftLeft => "<<"
  | .shiftRight => ">>"
  | .meet => "&"
  | .join => "|"
  | .differ => "^"
  | .matrix => "@"

end BinaryOp

def maxExponent : Int := 10000
def maxShift : Int := 1000
def maxTextLength : Int := 262144

def textTooLong : Mistake :=
  .ofLimit ("String length exceeded, max string length is " ++ toString maxTextLength)

namespace Quantity

def tooLarge : Mistake := .ofRange "int too large to convert to float"

def largest : Int := Int.pow 2 1024 - Int.pow 2 970

def toFloat : Quantity → Except Mistake Float
  | .real value => .ok value
  | .whole value => if largest ≤ value.natAbs then .error tooLarge else .ok (Float.ofInt value)

/-- The quotient of two whole numbers, rounded once: sixty-odd binary places of it, the last of
which stands for all further ones. -/
def quotient (left right : Int) : Except Mistake Float :=
  let sign : Float := if (left < 0) != (right < 0) then -1.0 else 1.0
  let numerator := left.natAbs
  let denominator := right.natAbs
  if numerator ≤ Nat.pow 2 53 && denominator ≤ Nat.pow 2 53 then
    .ok (sign * (Float.ofNat numerator / Float.ofNat denominator))
  else
    let shift : Int := 66 + denominator.log2 - numerator.log2
    let scaled := numerator * Nat.pow 2 shift.toNat
    let divisor := denominator * Nat.pow 2 (-shift).toNat
    let whole := scaled / divisor
    let sticky := if scaled % divisor = 0 then whole else whole / 2 * 2 + 1
    let result := (Float.ofNat sticky).scaleB (-shift)
    if result.isInf then .error (.ofRange "integer division result too large for a float")
    else .ok (sign * result)

def realPower (base exponent : Float) : Except Mistake Value :=
  if base == 0.0 && exponent < 0.0 then
    .error (.ofZero "0.0 cannot be raised to a negative power")
  else
    let result := base.pow exponent
    if result.isInf && !base.isInf && !exponent.isInf then
      .error (.ofRange "(34, 'Numerical result out of range')")
    else .ok (.float result)

def power (left right : Quantity) : Except Mistake Value :=
  match left, right with
  | .whole base, .whole exponent =>
      if 0 ≤ exponent then .ok (.int (base.pow exponent.toNat))
      else do realPower (← left.toFloat) (← right.toFloat)
  | _, _ => do realPower (← left.toFloat) (← right.toFloat)

def exceeds (quantity : Quantity) (limit : Int) : Bool :=
  quantity.compare? (.whole limit) = some .gt

def ofReals (op : BinaryOp) (left right : Float) : Except Mistake Value :=
  match op with
  | .add => .ok (.float (left + right))
  | .subtract => .ok (.float (left - right))
  | .multiply => .ok (.float (left * right))
  | .divide =>
      if right == 0.0 then .error (.ofZero "float division by zero")
      else .ok (.float (left / right))
  | .floorDivide =>
      if right == 0.0 then .error (.ofZero "float floor division by zero")
      else .ok (.float (Number.floatDivMod left right).1)
  | .remainder =>
      if right == 0.0 then .error (.ofZero "float modulo")
      else .ok (.float (Number.floatDivMod left right).2)
  | _ => realPower left right

def ofWholes (op : BinaryOp) (left right : Int) : Except Mistake Value :=
  match op with
  | .add => .ok (.int (left + right))
  | .subtract => .ok (.int (left - right))
  | .multiply => .ok (.int (left * right))
  | .divide =>
      if right = 0 then .error (.ofZero "division by zero")
      else (quotient left right).map .float
  | .floorDivide =>
      if right = 0 then .error (.ofZero "integer division or modulo by zero")
      else .ok (.int (Int.fdiv left right))
  | .remainder =>
      if right = 0 then .error (.ofZero "integer modulo by zero")
      else .ok (.int (Int.fmod left right))
  | _ => power (.whole left) (.whole right)

def combine (op : BinaryOp) (left right : Quantity) : Except Mistake Value :=
  match left, right with
  | .whole left, .whole right => ofWholes op left right
  | _, _ => do ofReals op (← left.toFloat) (← right.toFloat)

end Quantity

/-- Whole numbers by their binary digits, negative ones continued with ones without end. -/
def bitwise (both : Nat → Nat → Nat) (left right : Int) (negative : Bool) : Int :=
  let width := max left.natAbs.log2 right.natAbs.log2 + 2
  let digits := fun (value : Int) => (value % Nat.pow 2 width).toNat
  let result : Int := both (digits left) (digits right)
  if negative then result - Nat.pow 2 width else result

def bits (op : BinaryOp) (left right : Int) : Int :=
  match op with
  | .meet => bitwise Nat.land left right (left < 0 && right < 0)
  | .join => bitwise Nat.lor left right (left < 0 || right < 0)
  | _ => bitwise Nat.xor left right ((left < 0) != (right < 0))

def shift (op : BinaryOp) (left right : Int) : Except Mistake Value :=
  if right < 0 then .error (.ofValue "negative shift count")
  else match op with
    | .shiftLeft => .ok (.int (left * Int.pow 2 right.toNat))
    | _ => .ok (.int (Int.fdiv left (Int.pow 2 (min right.toNat (left.natAbs.log2 + 1)))))

def Value.whole? : Value → Option Int
  | .bool value => some (if value then 1 else 0)
  | .int value => some value
  | _ => none

def Value.isBool : Value → Bool
  | .bool _ => true
  | _ => false

namespace World

def notSupported (world : World) (op : BinaryOp) (left right : Value) : Mistake :=
  .ofType ("unsupported operand type(s) for " ++ op.mark ++ ": '" ++ world.typeName left ++
    "' and '" ++ world.typeName right ++ "'")

def items? (world : World) : Value → Option (List Value)
  | .object address =>
      match world.object address with
      | .list items => some items
      | .tuple items => some items
      | _ => none
  | _ => none

def isSequence (world : World) (value : Value) : Bool :=
  match value with
  | .text _ => true
  | _ => (world.items? value).isSome

end World

def times {α : Type} (items : List α) (count : Int) : List α :=
  (List.replicate count.toNat items).flatten

def concatenate (left right : Value) : Eval Value := do
  let world ← get
  let refuse : Eval Value :=
    if world.isSequence left then
      let name := world.typeName left
      throw (.ofType ("can only concatenate " ++ name ++ " (not \"" ++ world.typeName right ++
        "\") to " ++ name))
    else throw (world.notSupported .add left right)
  match left, right with
  | .text text, .text text' =>
      if maxTextLength < text.length + text'.length then throw textTooLong
      else pure (.text (text ++ text'))
  | .object address, .object address' =>
      match world.object address, world.object address' with
      | .list items, .list items' => makeList (items ++ items')
      | .tuple items, .tuple items' => makeTuple (items ++ items')
      | _, _ => refuse
  | _, _ => refuse

def repeatSequence (sequence : Value) (count : Int) : Eval Value := do
  let world ← get
  match sequence with
  | .text text => pure (.text (String.ofList (times text.toList count)))
  | .object address =>
      match world.object address with
      | .list items => makeList (times items count)
      | .tuple items => makeTuple (times items count)
      | _ => pure sequence
  | _ => pure sequence

def multiplySequence (left right : Value) : Eval Value := do
  let world ← get
  let refuse (other : Value) : Eval Value :=
    throw (.ofType ("can't multiply sequence by non-int of type '" ++ world.typeName other ++ "'"))
  if world.isSequence left then
    match right.whole?, left with
    | some count, .text text =>
        if maxTextLength < text.length * count then throw textTooLong
        else repeatSequence left count
    | some count, _ => repeatSequence left count
    | none, _ => refuse right
  else if world.isSequence right then
    match left.whole? with
    | some count => repeatSequence right count
    | none => refuse left
  else throw (world.notSupported .multiply left right)

/-- A text without directives takes what has its own keys or places, or an empty tuple, and gives
itself. -/
def formatText (text : String) (right : Value) : Eval Value := do
  let world ← get
  let complete : Bool := match right with
    | .object address =>
        match world.object address with
        | .list _ | .dict _ => true
        | .tuple items => items.isEmpty
        | _ => false
    | .range .. => true
    | _ => false
  if text.toList.contains '%' then throw (.unsupported "format")
  else if complete then pure (.text text)
  else throw (.ofType "not all arguments converted during string formatting")

def lift {α : Type} (result : Except Mistake α) : Eval α :=
  match result with
  | .ok value => pure value
  | .error mistake => throw mistake

def applyNumbers (op : BinaryOp) (left right : Value) : Eval Value := do
  match left.quantity?, right.quantity? with
  | some quantity, some quantity' => lift (quantity.combine op quantity')
  | _, _ => throw ((← get).notSupported op left right)

def applyBits (op : BinaryOp) (left right : Value) : Eval Value := do
  match left.whole?, right.whole? with
  | some whole, some whole' =>
      let result := bits op whole whole'
      pure (if left.isBool && right.isBool then .bool (result ≠ 0) else .int result)
  | _, _ => throw ((← get).notSupported op left right)

def applyShift (op : BinaryOp) (left right : Value) : Eval Value := do
  match left.whole?, right.whole? with
  | some whole, some whole' => lift (shift op whole whole')
  | _, _ => throw ((← get).notSupported op left right)

def applyBinary (op : BinaryOp) (left right : Value) : Eval Value :=
  let numbers := left.quantity?.isSome && right.quantity?.isSome
  match op with
  | .add => if numbers then applyNumbers .add left right else concatenate left right
  | .multiply =>
      if numbers then applyNumbers .multiply left right else multiplySequence left right
  | .remainder =>
      match left with
      | .text text => formatText text right
      | _ => applyNumbers .remainder left right
  | .power =>
      if right.quantity?.any (·.exceeds maxExponent) then
        throw (.ofLimit ("Invalid exponent, max exponent is " ++ toString maxExponent))
      else applyNumbers .power left right
  | .shiftLeft =>
      if right.quantity?.any (·.exceeds maxShift) then
        throw (.ofLimit ("Invalid left shift, max left shift is " ++ toString maxShift))
      else applyShift .shiftLeft left right
  | .shiftRight => applyShift .shiftRight left right
  | .meet | .join | .differ => applyBits op left right
  | .matrix => do throw ((← get).notSupported .matrix left right)
  | _ => applyNumbers op left right

def badOperand (mark : String) (operand : Value) : Eval Value := do
  throw (.ofType ("bad operand type for unary " ++ mark ++ ": '" ++ (← get).typeName operand ++
    "'"))

def applyUnary (op : UnaryOp) (operand : Value) : Eval Value :=
  match op, operand.quantity? with
  | .negate, _ => do pure (.bool (!(← get).truth operand))
  | .plus, some (.whole value) => pure (.int value)
  | .plus, some (.real value) => pure (.float value)
  | .plus, none => badOperand "+" operand
  | .minus, some (.whole value) => pure (.int (-value))
  | .minus, some (.real value) => pure (.float (-value))
  | .minus, none => badOperand "-" operand
  | .invert, some (.whole value) => pure (.int (-value - 1))
  | .invert, _ => badOperand "~" operand

end ExScript.Expr
