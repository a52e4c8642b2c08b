import ExScript.Expr.Written
import ExScript.Number.Dyadic

/-!
Truth, equality and order of values. Numbers compare by what they stand for, texts by code points,
lists and tuples by their first difference.
-/

namespace ExScript.Expr

inductive Quantity where
  | whole (value : Int)
  | real (value : Float)

def Value.quantity? : Value → Option Quantity
  | .bool value => some (.whole (if value then 1 else 0))
  | .int value => some (.whole value)
  | .float value => some (.real value)
  | .constant name => some (.real name.float)
  | _ => none

namespace Quantity

def compareToFloat (whole : Int) (real : Float) : Option Ordering :=
  match Number.Dyadic.ofFloat? real with
  | some dyadic => some ((Number.Dyadic.ofInt whole).compare dyadic)
  | none => if real.isNaN then none else some (if real < 0.0 then .gt else .lt)

/-- How two numbers compare, exactly; there is no answer for what is not a number. -/
def compare? : Quantity → Quantity → Option Ordering
  | .whole left, .whole right => some (compare left right)
  | .whole left, .real right => compareToFloat left right
  | .real left, .whole right => (compareToFloat right left).map Ordering.swap
  | .real left, .real right =>
      if left < right then some .lt
      else if left == right then some .eq
      else if right < left then some .gt
      else none

end Quantity

def rangeLength (start stop step : Int) : Nat :=
  if 0 < step then ((stop - start + step - 1) / step).toNat
  else if step < 0 then ((start - stop - step - 1) / (-step)).toNat
  else 0

namespace World

def truth (world : World) : Value → Bool
  | .nothing => false
  | .bool value => value
  | .int value => value ≠ 0
  | .float value => !(value == 0.0)
  | .text value => value ≠ ""
  | .range start stop step => rangeLength start stop step ≠ 0
  | .object address =>
      match world.object address with
      | .list items => !items.isEmpty
      | .tuple items => !items.isEmpty
      | .dict entries => !entries.isEmpty
      | _ => true
  | _ => true

def rangeEqual (start stop step start' stop' step' : Int) : Bool :=
  let count := rangeLength start stop step
  count = rangeLength start' stop' step' &&
    (count = 0 || (start = start' && (count = 1 || step = step')))

def allEqual (equal : Value → Value → Bool) : List Value → List Value → Bool
  | [], [] => true
  | left :: lefts, right :: rights => equal left right && allEqual equal lefts rights
  | _, _ => false

def equalFrom (world : World) : (depth : Nat) → Value → Value → Bool
  | 0, left, right => left.same right
  | depth + 1, left, right =>
      match left, right with
      | .object address, .object address' =>
          address == address' ||
            match world.object address, world.object address' with
            | .list items, .list items' => allEqual (equalFrom world depth) items items'
            | .tuple items, .tuple items' => allEqual (equalFrom world depth) items items'
            | .dict entries, .dict entries' =>
                entries.length = entries'.length && entries.all fun (key, value) =>
                  entries'.any fun (key', value') =>
                    equalFrom world depth key key' && equalFrom world depth value value'
            | _, _ => false
      | .range start stop step, .range start' stop' step' =>
          rangeEqual start stop step start' stop' step'
      | _, _ =>
          match left.quantity?, right.quantity? with
          | some quantity, some quantity' => quantity.compare? quantity' = some .eq
          | _, _ => left.same right

def depth (world : World) : Nat :=
  world.objects.size + 1

def equal (world : World) (left right : Value) : Bool :=
  world.equalFrom world.depth left right

end World

inductive Order where
  | less
  | lessEqual
  | greater
  | greaterEqual
  deriving DecidableEq, Repr

namespace Order

def mark : Order → String
  | .less => "<"
  | .lessEqual => "<="
  | .greater => ">"
  | .greaterEqual => ">="

def holds (order : Order) (found : Ordering) : Bool :=
  match order with
  | .less => found = .lt
  | .lessEqual => found ≠ .gt
  | .greater => found = .gt
  | .greaterEqual => found ≠ .lt

end Order

namespace World

def notOrdered (world : World) (order : Order) (left right : Value) : Mistake :=
  .ofType ("'" ++ order.mark ++ "' not supported between instances of '" ++
    world.typeName left ++ "' and '" ++ world.typeName right ++ "'")

def firstDifference? (equal : Value → Value → Bool) :
    List Value → List Value → Option (Value × Value)
  | left :: lefts, right :: rights =>
      if equal left right then firstDifference? equal lefts rights else some (left, right)
  | _, _ => none

def orderedFrom (world : World) (order : Order) : (depth : Nat) → Value → Value →
    Except Mistake Bool
  | 0, _, _ => .error .exhausted
  | depth + 1, left, right =>
      let sequences (items items' : List Value) : Except Mistake Bool :=
        match firstDifference? (world.equalFrom depth) items items' with
        | some (item, item') => orderedFrom world order depth item item'
        | none => .ok (order.holds (compare items.length items'.length))
      match left, right with
      | .text text, .text text' => .ok (order.holds (compareOfLessAndEq text text'))
      | .object address, .object address' =>
          match world.object address, world.object address' with
          | .list items, .list items' => sequences items items'
          | .tuple items, .tuple items' => sequences items items'
          | _, _ => .error (world.notOrdered order left right)
      | _, _ =>
          match left.quantity?, right.quantity? with
          | some quantity, some quantity' =>
              .ok ((quantity.compare? quantity').any order.holds)
          | _, _ => .error (world.notOrdered order left right)

def ordered (world : World) (order : Order) (left right : Value) : Except Mistake Bool :=
  world.orderedFrom order world.depth left right

end World

end ExScript.Expr
