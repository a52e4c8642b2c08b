import ExScript.Number.Dyadic

/-!
The fewest decimal digits that read back as a given floating point number, and of several such
digit strings the one nearest to it. All comparisons are between integers.
-/

namespace ExScript.Number

/-- The digits `0.d₁d₂… * 10 ^ point` of a positive number. -/
structure Digits where
  digits : List Nat
  point : Int
  deriving DecidableEq, Repr

/-- A positive number in quarters of its last binary place, with the ends of the interval of reals
that round to it: the number is `centre * 2 ^ exponent`. -/
structure Interval where
  low : Nat
  centre : Nat
  high : Nat
  exponent : Int
  closed : Bool

/-- Below a power of two the neighbouring numbers are twice as dense. -/
def Interval.ofMantissa (mantissa : Nat) (exponent : Int) : Interval where
  low := if mantissa = Nat.pow 2 52 && exponent ≠ -1074 then 4 * mantissa - 1 else 4 * mantissa - 2
  centre := 4 * mantissa
  high := 4 * mantissa + 2
  exponent := exponent - 2
  closed := mantissa % 2 = 0

def scaled (x : Nat) (binary : Int) (y : Nat) (decimal : Int) : Nat × Nat :=
  (x * Nat.pow 2 binary.toNat * Nat.pow 10 (-decimal).toNat,
    y * Nat.pow 10 decimal.toNat * Nat.pow 2 (-binary).toNat)

namespace Interval

def holds (interval : Interval) (count : Nat) (decimal : Int) : Bool :=
  let (low, count₁) := scaled interval.low interval.exponent count decimal
  let (high, count₂) := scaled interval.high interval.exponent count decimal
  if interval.closed then low ≤ count₁ && count₂ ≤ high else low < count₁ && count₂ < high

def pointFrom (interval : Interval) : (steps : Nat) → Int → Int
  | 0, point => point
  | steps + 1, point =>
      let (centre, power) := scaled interval.centre interval.exponent 1 point
      if centre < power then point else pointFrom interval steps (point + 1)

def point (interval : Interval) : Int :=
  let log := Int.fdiv ((interval.centre.log2 + interval.exponent) * 30103) 100000
  pointFrom interval 4 (log - 1)

def floorAt (interval : Interval) (decimal : Int) : Nat :=
  let (centre, unit) := scaled interval.centre interval.exponent 1 decimal
  centre / unit

/-- Of two neighbouring multiples that both read back, the nearer one, and the even one of two that
are equally near. -/
def nearer (interval : Interval) (below : Nat) (decimal : Int) : Nat :=
  let (centre, middle) := scaled (2 * interval.centre) interval.exponent (2 * below + 1) decimal
  if centre < middle then below
  else if middle < centre then below + 1
  else if below % 2 = 0 then below else below + 1

def grid? (interval : Interval) (point : Int) (places : Nat) : Option Nat :=
  let decimal := point - places
  let below := interval.floorAt decimal
  match interval.holds below decimal && below ≠ 0, interval.holds (below + 1) decimal with
  | true, true => some (interval.nearer below decimal)
  | true, false => some below
  | false, true => some (below + 1)
  | false, false => none

end Interval

def digitsOf (value : Nat) : List Nat :=
  (Nat.toDigits 10 value).map fun c => c.toNat - 0x30

def shortestFrom (interval : Interval) (point : Int) : (grids : Nat) → (places : Nat) → Digits
  | 0, places => ⟨digitsOf (interval.floorAt (point - places)), point⟩
  | grids + 1, places =>
      match interval.grid? point places with
      | some count =>
          let digits := digitsOf count
          ⟨digits, point + digits.length - places⟩
      | none => shortestFrom interval point grids (places + 1)

def shortest (mantissa : Nat) (exponent : Int) : Digits :=
  let interval := Interval.ofMantissa mantissa exponent
  shortestFrom interval interval.point 17 1

end ExScript.Number
