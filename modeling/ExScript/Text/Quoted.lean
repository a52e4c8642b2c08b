import ExScript.Text.Printable

/-!
Quoted texts, as values and log rows show them: in single quotes unless the text holds one and no
double quote, with escapes for the quote, the backslash and every character that does not print.
-/

namespace ExScript.Text

def hexDigit (value : Nat) : Char :=
  Char.ofNat (if value < 10 then 0x30 + value else 0x57 + value)

def hexDigits : (width : Nat) → Nat → List Char
  | 0, _ => []
  | width + 1, value => hexDigits width (value / 16) ++ [hexDigit (value % 16)]

def escapeChar (mark c : Char) : List Char :=
  if c = mark || c = '\\' then ['\\', c]
  else if c = '\n' then ['\\', 'n']
  else if c = '\r' then ['\\', 'r']
  else if c = '\t' then ['\\', 't']
  else if isPrintable c then [c]
  else if c.toNat < 0x100 then '\\' :: 'x' :: hexDigits 2 c.toNat
  else if c.toNat < 0x10000 then '\\' :: 'u' :: hexDigits 4 c.toNat
  else '\\' :: 'U' :: hexDigits 8 c.toNat

def quoteMark (chars : List Char) : Char :=
  if chars.contains '\'' && !chars.contains '"' then '"' else '\''

def quoteChars (chars : List Char) : List Char :=
  let mark := quoteMark chars
  mark :: chars.flatMap (escapeChar mark) ++ [mark]

def quote (text : String) : String :=
  String.ofList (quoteChars text.toList)

end ExScript.Text
