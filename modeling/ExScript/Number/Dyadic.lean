/-!
Finite floating point numbers as exact dyadic fractions, so that comparison, remainder, rounding
and decimal notation can be worked out in integers.
-/

namespace ExScript.Number

structure Dyadic where
  mantissa : Int
  exponent : Int
  deriving DecidableEq, Repr

namespace Dyadic

def ofBits? (bits : Nat) : Option Dyadic :=
  let fraction : Nat := bits % Nat.pow 2 52
  let biased : Nat := bits / Nat.pow 2 52 % Nat.pow 2 11
  let sign : Int := if bits / Nat.pow 2 63 % 2 = 1 then -1 else 1
  if biased = 2047 then none
  else if biased = 0 then some ⟨sign * fraction, -1074⟩
  else some ⟨sign * ((Nat.pow 2 52 + fraction : Nat) : Int), (biased : Int) - 1075⟩

def ofFloat? (value : Float) : Option Dyadic :=
  ofBits? value.toBits.toNat

def align (x y : Dyadic) : Int × Int × Int :=
  let exponent := min x.exponent y.exponent
  (x.mantissa * Int.pow 2 (x.exponent - exponent).toNat,
    y.mantissa * Int.pow 2 (y.exponent - exponent).toNat, exponent)

def ofInt (value : Int) : Dyadic :=
  ⟨value, 0⟩

def compare (x y : Dyadic) : Ordering :=
  let (left, right, _) := align x y
  if left < right then .lt else if left = right then .eq else .gt

def truncate (x : Dyadic) : Int :=
  if 0 ≤ x.exponent then x.mantissa * Int.pow 2 x.exponent.toNat
  else Int.tdiv x.mantissa (Int.pow 2 (-x.exponent).toNat)

def remainder (x y : Dyadic) : Dyadic :=
  let (left, right, exponent) := align x y
  ⟨Int.tmod left right, exponent⟩

def toFloat (x : Dyadic) : Float :=
  (Float.ofInt x.mantissa).scaleB x.exponent

end Dyadic

def floatRemainder (x y : Float) : Float :=
  match Dyadic.ofFloat? x, Dyadic.ofFloat? y with
  | some left, some right =>
      if right.mantissa = 0 then 0.0 / 0.0
      else
        let rest := (left.remainder right).toFloat
        if rest == 0.0 && (x < 0.0 || x.toBits == (-0.0 : Float).toBits) then -0.0 else rest
  | some _, none => if y.isNaN then y else x
  | none, _ => 0.0 / 0.0

def withSign (magnitude sign : Float) : Float :=
  if sign < 0.0 || sign.toBits == (-0.0 : Float).toBits then -magnitude.abs else magnitude.abs

def floatDivMod (x y : Float) : Float × Float :=
  let rest := floatRemainder x y
  let quotient := (x - rest) / y
  let (quotient, rest) :=
    if rest == 0.0 then (quotient, withSign 0.0 y)
    else if (rest < 0.0) != (y < 0.0) then (quotient - 1.0, rest + y)
    else (quotient, rest)
  if quotient == 0.0 then (withSign 0.0 (x / y), rest)
  else
    let floor := quotient.floor
    (if quotient - floor > 0.5 then floor + 1.0 else floor, rest)

end ExScript.Number
