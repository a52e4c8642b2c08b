import ExScript.Expr.Mistake
import ExScript.Number.FloatText
import ExScript.Text.Case
import ExScript.Text.Digit
import ExScript.Text.Split

/-!
Texts read as numbers: blanks around them do not count, digits may be those of any script, and
single underscores may stand between digits.
-/

namespace ExScript.Expr

def digitRun : (afterDigit : Bool) → List Char → Option (List Nat)
  | afterDigit, [] => if afterDigit then some [] else none
  | afterDigit, c :: rest =>
      match Text.digitValue? c with
      | some value => (digitRun true rest).map (value :: ·)
      | none => if c = '_' && afterDigit then digitRun false rest else none

def takeSign : List Char → Bool × List Char
  | '-' :: rest => (true, rest)
  | '+' :: rest => (false, rest)
  | chars => (false, chars)

def digitsToNat (digits : List Nat) : Nat :=
  digits.foldl (fun value digit => 10 * value + digit) 0

def wholeOfText? (text : String) : Option Int :=
  let (negative, chars) := takeSign (Text.stripChars text.toList)
  (digitRun false chars).map fun digits =>
    if negative then -(digitsToNat digits : Int) else digitsToNat digits

def letterValue? (c : Char) : Option Nat :=
  match Text.digitValue? c with
  | some value => some value
  | none =>
      let code := c.toLower.toNat
      if 0x61 ≤ code && code ≤ 0x7A then some (code - 0x61 + 10) else none

def digitRunIn (base : Nat) : (afterDigit : Bool) → List Char → Option (List Nat)
  | afterDigit, [] => if afterDigit then some [] else none
  | afterDigit, c :: rest =>
      match letterValue? c with
      | some value =>
          if value < base then (digitRunIn base true rest).map (value :: ·) else none
      | none => if c = '_' && afterDigit then digitRunIn base false rest else none

def markedBase? : List Char → Option Nat
  | '0' :: c :: _ =>
      match c.toLower with
      | 'x' => some 16
      | 'o' => some 8
      | 'b' => some 2
      | _ => none
  | _ => none

/-- A whole number in a base; base 0 stands for the one that the number is marked with, and for ten
without a mark, when the first digit is no zero unless all of them are. -/
def wholeInBase? (base : Nat) (text : String) : Option Int :=
  let (negative, chars) := takeSign (Text.stripChars text.toList)
  let marked := markedBase? chars
  let digits := if marked.isSome && (base = 0 || marked = some base) then
      let behind := chars.drop 2
      let behind := if behind.head? = some '_' then behind.drop 1 else behind
      digitRunIn (marked.getD base) false behind
    else if base = 0 then
      (digitRunIn 10 false chars).filter fun digits =>
        digits.head? ≠ some 0 || digits.all (· = 0)
    else digitRunIn base false chars
  let actual := if base = 0 then marked.getD 10 else base
  digits.map fun digits =>
    let size : Nat := digits.foldl (fun value digit => actual * value + digit) 0
    if negative then -(size : Int) else size

def isRunChar (c : Char) : Bool :=
  (Text.digitValue? c).isSome || c = '_'

def digitRunOrNone (chars : List Char) : Option (List Nat) :=
  if chars.isEmpty then some [] else digitRun false chars

def exponentOf? : List Char → Option Int
  | [] => some 0
  | c :: rest =>
      if c = 'e' || c = 'E' then
        let (negative, chars) := takeSign rest
        (digitRun false chars).map fun digits =>
          if negative then -(digitsToNat digits : Int) else digitsToNat digits
      else none

def decimalOf? (chars : List Char) : Option Float :=
  let whole := chars.takeWhile isRunChar
  let behind := chars.dropWhile isRunChar
  let (places, rest) := match behind with
    | '.' :: rest => (rest.takeWhile isRunChar, rest.dropWhile isRunChar)
    | _ => ([], behind)
  match digitRunOrNone whole, digitRunOrNone places, exponentOf? rest with
  | some whole, some places, some exponent =>
      if whole.isEmpty && places.isEmpty then none
      else some (Number.ofDecimal (digitsToNat (whole ++ places)) (exponent - places.length))
  | _, _, _ => none

def floatOfText? (text : String) : Option Float :=
  let (negative, chars) := takeSign (Text.stripChars text.toList)
  let word := chars.map Char.toLower
  let magnitude :=
    if word = "inf".toList || word = "infinity".toList then some (1.0 / 0.0)
    else if word = "nan".toList then some (0.0 / 0.0)
    else decimalOf? chars
  magnitude.map fun value => if negative then -value else value

end ExScript.Expr
