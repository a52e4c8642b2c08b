/-!
The words that `echo` prints and the formats of `printf`: escapes, and conversions that take the
arguments in turn. Texts are sequences of bytes.
-/

namespace ExScript.Shell

def isOctal (c : Char) : Bool :=
  '0' ≤ c && c ≤ '7'

def octalByte (digits : List Char) : Char :=
  Char.ofNat (digits.foldl (fun value c => 8 * value + (c.toNat - 0x30)) 0 % 256)

def escapeLetters : List (Char × Char) :=
  [('a', '\x07'), ('b', '\x08'), ('f', '\x0c'), ('n', '\n'), ('r', '\r'), ('t', '\t'),
    ('v', '\x0b'), ('\\', '\\')]

def escapeOf (chars : List Char) : Char × Nat :=
  let digits := (chars.take 3).takeWhile isOctal
  if !digits.isEmpty then (octalByte digits, digits.length)
  else match chars with
    | [] => ('\\', 0)
    | c :: _ =>
        match escapeLetters.lookup c with
        | some byte => (byte, 1)
        | none => ('\\', 0)

/-- A text as `echo` prints it, and whether `\c` ends all output there. The first number counts
characters that an escape has taken already. -/
def unescape : (taken : Nat) → List Char → List Char × Bool
  | _, [] => ([], false)
  | taken + 1, _ :: rest => unescape taken rest
  | 0, '\\' :: rest =>
      match rest with
      | 'c' :: _ => ([], true)
      | '0' :: after =>
          let zero := match after with
            | c :: _ => isOctal c
            | [] => false
          let (byte, length) := escapeOf (if zero then after else rest)
          let (others, ended) := unescape (if zero then length + 1 else length) rest
          (byte :: others, ended)
      | _ =>
          let (byte, length) := escapeOf rest
          let (others, ended) := unescape length rest
          (byte :: others, ended)
  | 0, c :: rest =>
      let (others, ended) := unescape 0 rest
      (c :: others, ended)

def joinWords : List (List Char) → List Char
  | [] => []
  | [word] => word
  | word :: rest => word ++ ' ' :: joinWords rest

def echoText (words : List (List Char)) : List Char :=
  let (words, newline) := match words with
    | ['-', 'n'] :: rest => (rest, false)
    | _ => (words, true)
  let (text, ended) := unescape 0 (joinWords words)
  if newline && !ended then text ++ ['\n'] else text

structure Conversion where
  left : Bool
  zeros : Bool
  plus : Bool
  blank : Bool
  marked : Bool
  width : Nat
  precision : Option Nat
  letter : Char

inductive FormatPart where
  | text (bytes : List Char)
  | conversion (conversion : Conversion)

def digitsValue (digits : List Char) : Nat :=
  digits.foldl (fun value c => 10 * value + (c.toNat - 0x30)) 0

def conversionOf? (chars : List Char) : Option (Conversion × Nat) :=
  let flags := chars.takeWhile fun c => "#-+ 0".toList.contains c
  let behind := chars.drop flags.length
  let width := behind.takeWhile Char.isDigit
  let behind := behind.drop width.length
  let (precision, taken) := match behind with
    | '.' :: rest =>
        let digits := rest.takeWhile Char.isDigit
        (some (digitsValue digits), digits.length + 1)
    | _ => (none, 0)
  match behind.drop taken with
  | [] => none
  | letter :: _ =>
      some ({ left := flags.contains '-', zeros := flags.contains '0', plus := flags.contains '+'
              blank := flags.contains ' ', marked := flags.contains '#'
              width := digitsValue width, precision, letter },
        flags.length + width.length + taken + 1)

def formatParts : (taken : Nat) → List Char → List FormatPart
  | _, [] => []
  | taken + 1, _ :: rest => formatParts taken rest
  | 0, '\\' :: rest =>
      let (byte, length) := escapeOf rest
      .text [byte] :: formatParts length rest
  | 0, '%' :: rest =>
      match rest with
      | '%' :: _ => .text ['%'] :: formatParts 1 rest
      | _ =>
          match conversionOf? rest with
          | none => []
          | some (conversion, length) => .conversion conversion :: formatParts length rest
  | 0, c :: rest => .text [c] :: formatParts 0 rest

def pad (conversion : Conversion) (sign digits : List Char) : List Char :=
  let missing := conversion.width - (sign.length + digits.length)
  if conversion.left then sign ++ digits ++ List.replicate missing ' '
  else if conversion.zeros && conversion.precision.isNone then
    sign ++ List.replicate missing '0' ++ digits
  else List.replicate missing ' ' ++ sign ++ digits

def digitsIn (base : Nat) (value : Nat) (capital : Bool) : List Char :=
  let digits := Nat.toDigits base value
  if capital then digits.map Char.toUpper else digits

def numberOf (text : List Char) : Int × Bool :=
  let text := text.dropWhile fun c => c = ' ' || c = '\t' || c = '\n'
  match text with
  | [] => (0, true)
  | '\'' :: c :: _ => (c.toNat, true)
  | '"' :: c :: _ => (c.toNat, true)
  | _ =>
      let (negative, rest) := match text with
        | '-' :: rest => (true, rest)
        | '+' :: rest => (false, rest)
        | _ => (false, text)
      let (base, rest) := match rest with
        | '0' :: 'x' :: rest => (16, rest)
        | '0' :: 'X' :: rest => (16, rest)
        | '0' :: rest => (8, '0' :: rest)
        | _ => (10, rest)
      let valueOf := fun (c : Char) =>
        if c.isDigit then c.toNat - 0x30
        else if 'a' ≤ c.toLower && c.toLower ≤ 'f' then c.toLower.toNat - 0x61 + 10
        else 99
      let digits := rest.takeWhile fun c => valueOf c < base
      let size := digits.foldl (fun (value : Nat) c => base * value + valueOf c) 0
      (if negative then -(size : Int) else size,
        !digits.isEmpty && (rest.drop digits.length).isEmpty)

/-- What one conversion writes for an argument, and whether the argument was right for it. There is
no answer for an unknown conversion. -/
def convert? (conversion : Conversion) (argument : List Char) :
    Option (List Char × Bool × Bool) :=
  let cut := fun (text : List Char) => match conversion.precision with
    | some limit => text.take limit
    | none => text
  let plain := { conversion with zeros := false }
  let (number, whole) := numberOf argument
  let unsigned := if number < 0 then (number + Int.pow 2 64).toNat else number.toNat
  let zeros := fun (digits : List Char) =>
    List.replicate (conversion.precision.getD 1 - digits.length) '0' ++ digits
  match conversion.letter with
  | 's' => some (pad plain [] (cut argument), true, false)
  | 'b' =>
      let (text, ended) := unescape 0 argument
      some (pad plain [] (cut text), true, ended)
  | 'c' => some (pad plain [] (argument.take 1), true, false)
  | 'd' | 'i' =>
      let sign := if number < 0 then ['-'] else if conversion.plus then ['+']
        else if conversion.blank then [' '] else []
      some (pad conversion sign (zeros (digitsIn 10 number.natAbs false)), whole, false)
  | 'u' => some (pad conversion [] (zeros (digitsIn 10 unsigned false)), whole, false)
  | 'o' =>
      let digits := zeros (digitsIn 8 unsigned false)
      let marked := if conversion.marked && digits.head? ≠ some '0' then '0' :: digits else digits
      some (pad conversion [] marked, whole, false)
  | 'x' =>
      let sign := if conversion.marked && unsigned ≠ 0 then ['0', 'x'] else []
      some (pad conversion sign (zeros (digitsIn 16 unsigned false)), whole, false)
  | 'X' =>
      let sign := if conversion.marked && unsigned ≠ 0 then ['0', 'X'] else []
      some (pad conversion sign (zeros (digitsIn 16 unsigned true)), whole, false)
  | _ => none

structure Printed where
  text : List Char := []
  complaints : List (List Char) := []
  ended : Bool := false

def printParts : List FormatPart → List (List Char) → Printed → List (List Char) × Printed
  | [], arguments, printed => (arguments, printed)
  | .text bytes :: rest, arguments, printed =>
      printParts rest arguments { printed with text := printed.text ++ bytes }
  | .conversion conversion :: rest, arguments, printed =>
      let argument := arguments.head?.getD []
      match convert? conversion argument with
      | none =>
          ([], { printed with
                  complaints := printed.complaints ++
                    ['%' :: conversion.letter :: ": invalid directive".toList]
                  ended := true })
      | some (text, whole, ended) =>
          let complaints := if whole then printed.complaints
            else printed.complaints ++ [argument ++ ": expected numeric value".toList]
          let printed := { printed with text := printed.text ++ text, complaints, ended }
          if ended then ([], printed) else printParts rest (arguments.drop 1) printed

def printTurns (parts : List FormatPart) : (turns : Nat) → List (List Char) → Printed → Printed
  | 0, _, printed => printed
  | turns + 1, arguments, printed =>
      let (left, printed) := printParts parts arguments printed
      if printed.ended || left.isEmpty || left.length = arguments.length then printed
      else printTurns parts turns left printed

def printfText (format : List Char) (arguments : List (List Char)) : Printed :=
  printTurns (formatParts 0 format) (arguments.length + 1) arguments {}

end ExScript.Shell
