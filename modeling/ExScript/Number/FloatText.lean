import ExScript.Number.Shortest

/-!
Floating point numbers as texts, and texts as floating point numbers.
-/

namespace ExScript.Number

/-- How a number is laid out: positionally while the exponent of its first digit lies between two
bounds, with a point and an exponent mark outside of them. -/
structure FloatLayout where
  least : Int
  greatest : Int
  exponentWidth : Nat

def FloatLayout.standard : FloatLayout := ⟨-4, 15, 2⟩

def digitText (digits : List Nat) : String :=
  String.ofList (digits.map fun digit => Char.ofNat (0x30 + digit))

def padStart (width : Nat) (mark : Char) (text : String) : String :=
  String.ofList (List.replicate (width - text.length) mark) ++ text

def FloatLayout.positional (number : Digits) : String :=
  if number.point ≤ 0 then
    "0." ++ digitText (List.replicate (-number.point).toNat 0 ++ number.digits)
  else
    let whole := number.point.toNat
    let front := number.digits.take whole ++ List.replicate (whole - number.digits.length) 0
    let back := number.digits.drop whole
    digitText front ++ "." ++ digitText (if back.isEmpty then [0] else back)

def FloatLayout.exponential (layout : FloatLayout) (number : Digits) : String :=
  let exponent := number.point - 1
  let front := digitText (number.digits.take 1)
  let back := number.digits.drop 1
  front ++ (if back.isEmpty then "" else "." ++ digitText back) ++ "e" ++
    (if exponent < 0 then "-" else "+") ++
    padStart layout.exponentWidth '0' (toString exponent.natAbs)

def dropZeros (number : Digits) : Digits :=
  { number with digits := (number.digits.reverse.dropWhile (· = 0)).reverse }

def FloatLayout.write (layout : FloatLayout) (value : Float) : String :=
  match Dyadic.ofFloat? value with
  | none => if value.isNaN then "nan" else if value < 0.0 then "-inf" else "inf"
  | some dyadic =>
      let sign := if value.toBits.toNat / Nat.pow 2 63 = 1 then "-" else ""
      if dyadic.mantissa = 0 then sign ++ "0.0"
      else
        let number := dropZeros (shortest dyadic.mantissa.natAbs dyadic.exponent)
        let exponent := number.point - 1
        if layout.least ≤ exponent && exponent ≤ layout.greatest then
          sign ++ FloatLayout.positional number
        else sign ++ layout.exponential number

def floatText (value : Float) : String :=
  FloatLayout.standard.write value

/-- The number `mantissa * 10 ^ exponent`, rounded to nearest. Exponents far outside the range are
settled without powers. -/
def ofDecimal (mantissa : Nat) (exponent : Int) : Float :=
  if mantissa = 0 then 0.0
  else
    let point := (Nat.toDigits 10 mantissa).length + exponent
    if point > 400 then 1.0 / 0.0
    else if point < -400 then 0.0
    else Float.ofScientific mantissa (exponent < 0) exponent.natAbs

end ExScript.Number
