import ExScript.Expr.Token

/-!
Numerals of the expression language: decimal ones with fraction and exponent, and whole numbers in
bases two, eight and sixteen. Underscores may stand between digits. A numeral must not run into a
word, except into one of the operators written as words.
-/

namespace ExScript.Expr.Numeral

def isDecimal (c : Char) : Bool :=
  '0' ≤ c && c ≤ '9'

def digitValue (c : Char) : Nat :=
  if isDecimal c then c.toNat - 0x30
  else if 'a' ≤ c && c ≤ 'f' then c.toNat - 0x57
  else if 'A' ≤ c && c ≤ 'F' then c.toNat - 0x37
  else 16

def isHexadecimal (c : Char) : Bool :=
  digitValue c < 16

def valueIn (base : Nat) (digits : List Char) : Nat :=
  digits.foldl (fun value c => base * value + digitValue c) 0

def isWordChar (c : Char) : Bool :=
  ('a' ≤ c && c ≤ 'z') || ('A' ≤ c && c ≤ 'Z') || isDecimal c || c = '_' || 128 ≤ c.toNat

/-- Operators written as words, and whether more letters may follow them at once. -/
def operatorWords : List (List Char × Bool) :=
  [(['a', 'n', 'd'], false), (['e', 'l', 's', 'e'], false), (['f', 'o', 'r'], false),
    (['i', 'f'], true), (['i', 'n'], true), (['i', 's'], true), (['o', 'r'], false),
    (['n', 'o', 't'], false)]

def mayEnd (rest : List Char) : Bool :=
  match rest with
  | [] => true
  | c :: _ =>
      128 ≤ c.toNat || !isWordChar c ||
        operatorWords.any fun (word, joined) =>
          word.isPrefixOf rest && (joined || !(rest.drop word.length).head?.any isWordChar)

def ended {α : Type} (kind : String) (value : α) (rest : List Char) :
    Except String (α × List Char) :=
  if mayEnd rest then .ok (value, rest) else .error ("invalid " ++ kind ++ " literal")

/-- The digits of a run in which single underscores may stand between digits. An underscore that no
digit follows is refused. -/
def takeDigits (isDigit : Char → Bool) : (afterMark : Bool) → List Char →
    Option (List Char × List Char)
  | afterMark, [] => if afterMark then none else some ([], [])
  | afterMark, c :: rest =>
      if isDigit c then
        (takeDigits isDigit false rest).map fun (digits, behind) => (c :: digits, behind)
      else if afterMark then none
      else if c = '_' then takeDigits isDigit true rest
      else some ([], c :: rest)

def based (base : Nat) (kind : String) (chars : List Char) :
    Except String (Literal × List Char) :=
  let isDigit := fun c => digitValue c < base
  let invalid := "invalid " ++ kind ++ " literal"
  let wrongDigit := fun c =>
    if isDecimal c then "invalid digit '" ++ String.ofList [c] ++ "' in " ++ kind ++ " literal"
    else invalid
  let start := match chars with
    | '_' :: rest => rest
    | _ => chars
  match start with
  | [] => .error invalid
  | first :: _ =>
      if !isDigit first then .error (wrongDigit first)
      else
        let clean := start.takeWhile fun c => isDigit c || c = '_'
        match takeDigits isDigit false start with
        | none =>
            let doubled := (start.drop clean.length).head?
            .error (match doubled with
              | some c => if clean.getLast? = some '_' then wrongDigit c else invalid
              | none => invalid)
        | some (digits, rest) =>
            match rest with
            | c :: _ =>
                if isDecimal c then .error (wrongDigit c)
                else ended kind (.whole (valueIn base digits)) rest
            | [] => ended kind (.whole (valueIn base digits)) rest

def invalidDecimal : String := "invalid decimal literal"

/-- The exponent behind a numeral, if there is one. An `e` that no digit follows ends the numeral
in front of it. -/
def exponent? (chars : List Char) : Except String (Option (Int × List Char)) :=
  match chars with
  | e :: rest =>
      if e = 'e' || e = 'E' then
        let (sign, signed, digits) : Int × Bool × List Char := match rest with
          | '+' :: digits => (1, true, digits)
          | '-' :: digits => (-1, true, digits)
          | _ => (1, false, rest)
        match digits with
        | c :: _ =>
            if isDecimal c then
              match takeDigits isDecimal false digits with
              | none => .error invalidDecimal
              | some (taken, behind) => .ok (some (sign * valueIn 10 taken, behind))
            else if signed then .error invalidDecimal
            else if mayEnd chars then .ok none
            else .error invalidDecimal
        | [] => .error invalidDecimal
      else .ok none
  | [] => .ok none

def maxDigits : Nat := 4300

def wholeOf (digits rest : List Char) : Except String (Literal × List Char) :=
  if digits.head? = some '0' && digits.any (· ≠ '0') then
    .error ("leading zeros in decimal integer literals are not permitted; use an 0o prefix for " ++
      "octal integers")
  else if maxDigits < digits.length then
    .error ("Exceeds the limit (4300 digits) for integer string conversion: value has " ++
      toString digits.length ++ " digits; use sys.set_int_max_str_digits() to increase the " ++
      "limit - Consider hexadecimal for huge integer literals to avoid decimal conversion limits.")
  else ended "decimal" (.whole (valueIn 10 digits)) rest

def behindWhole (whole chars : List Char) : Except String (Literal × List Char) :=
  match chars with
  | '.' :: rest =>
      let fraction := match rest with
        | c :: _ => if isDecimal c then takeDigits isDecimal false rest else some ([], rest)
        | [] => some ([], [])
      match fraction with
      | none => .error invalidDecimal
      | some (places, behind) =>
          let mantissa := valueIn 10 (whole ++ places)
          match exponent? behind with
          | .error fault => .error fault
          | .ok (some (exponent, rest)) =>
              ended "decimal" (.decimal mantissa (exponent - places.length)) rest
          | .ok none => ended "decimal" (.decimal mantissa (-(places.length : Int))) behind
  | _ =>
      match exponent? chars with
      | .error fault => .error fault
      | .ok (some (exponent, rest)) =>
          ended "decimal" (.decimal (valueIn 10 whole) exponent) rest
      | .ok none => wholeOf whole chars

def scan (chars : List Char) : Except String (Literal × List Char) :=
  match chars with
  | '0' :: mark :: rest =>
      if mark = 'x' || mark = 'X' then based 16 "hexadecimal" rest
      else if mark = 'o' || mark = 'O' then based 8 "octal" rest
      else if mark = 'b' || mark = 'B' then based 2 "binary" rest
      else decimal chars
  | _ => decimal chars
where
  decimal (chars : List Char) : Except String (Literal × List Char) :=
    match takeDigits isDecimal false chars with
    | none => .error invalidDecimal
    | some (whole, behind) => behindWhole whole behind

end ExScript.Expr.Numeral
