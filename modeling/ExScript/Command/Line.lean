import ExScript.Text.Digit
import ExScript.Text.Split

/-!
Command lines: blanks and colons, an optional count, the command word, an optional `!`, and the
arguments. Counts have a greatest number of digits; a longer one is an error of the whole line.

Heredoc markers: arguments that end in `<<TOKEN` announce that the following lines belong to the
command, up to a line equal to the token.
-/

namespace ExScript

structure CommandLine where
  count : Option Nat
  name : String
  bang : Bool
  args : String
  deriving DecidableEq, Repr

namespace CommandLine

def isLetter (c : Char) : Bool :=
  ('a' ≤ c && c ≤ 'z') || ('A' ≤ c && c ≤ 'Z')

def isLeading (c : Char) : Bool :=
  Text.isBlank c || c = ':'

def maxDigits : Nat := 4300

def word? (chars : List Char) : Option (List Char × List Char) :=
  match chars with
  | '!' :: rest => some (['!'], rest)
  | _ =>
      let letters := chars.takeWhile isLetter
      if letters.isEmpty then none else some (letters, chars.dropWhile isLetter)

def dropFinalNewline (chars : List Char) : List Char :=
  match chars.reverse with
  | '\n' :: rest => rest.reverse
  | _ => chars

/-- Arguments start at their first character that is no blank and end before a final newline. -/
def argumentsOf (chars : List Char) : List Char :=
  dropFinalNewline (Text.stripStart chars)

/-- An error is the number of digits of a count that is too long. -/
def parseChars (chars : List Char) : Except Nat (Option CommandLine) :=
  let numbered := chars.dropWhile isLeading
  let digits := numbered.takeWhile Text.isDigit
  match word? (numbered.dropWhile Text.isDigit) with
  | none => .ok none
  | some (word, rest) =>
      if maxDigits < digits.length then .error digits.length
      else
        let bang := rest.head? = some '!'
        .ok (some {
          count := if digits.isEmpty then none else some (Text.digitsValue digits)
          name := String.ofList word
          bang
          args := String.ofList (argumentsOf (if bang then rest.drop 1 else rest)) })

def parse (line : String) : Except Nat (Option CommandLine) :=
  parseChars line.toList

/-- Lines of blanks, and lines whose first character behind blanks is `"`. A newline may only end
such a line. -/
def isIgnoredChars (chars : List Char) : Bool :=
  match Text.stripStart chars with
  | [] => true
  | '"' :: comment => !(dropFinalNewline comment).contains '\n'
  | _ => false

def isIgnored (line : String) : Bool :=
  isIgnoredChars line.toList

end CommandLine

end ExScript

namespace ExScript.Heredoc

/-- The token right behind a `<<`, if nothing but a final newline follows it. -/
def token? (chars : List Char) : Option (List Char) :=
  let rest := Text.stripStart chars
  let token := rest.takeWhile (!Text.isBlank ·)
  let behind := rest.dropWhile (!Text.isBlank ·)
  if token.isEmpty then none
  else if behind.isEmpty || behind = ['\n'] then some token
  else none

/-- The text before the last marker, and its token. -/
def cutChars? : List Char → Option (List Char × List Char)
  | [] => none
  | c :: rest =>
      match cutChars? rest with
      | some (before, token) => some (c :: before, token)
      | none =>
          match c, rest with
          | '<', '<' :: behind => (token? behind).map fun token => ([], token)
          | _, _ => none

def cut? (args : String) : Option (String × String) :=
  (cutChars? args.toList).map fun (before, token) =>
    (String.ofList before, String.ofList token)

end ExScript.Heredoc
