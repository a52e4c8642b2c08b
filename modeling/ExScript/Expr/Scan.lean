import ExScript.Expr.Quotation
import ExScript.Text.Identifier
import ExScript.Text.Lines
import ExScript.Text.Normal
import ExScript.Text.Printable
import ExScript.Text.Quoted

/-!
Reading a source as tokens. Newlines and the depth of indentation are tokens of their own; inside of
brackets neither counts. Blank lines and comments leave no token.
-/

namespace ExScript.Expr

/-- The line, the open brackets with their lines, and the open indentations, measured twice: with
tabs that reach to the next multiple of eight, and with tabs one wide. -/
structure Scanner where
  line : Nat := 1
  brackets : List (Char × Nat) := []
  indents : List (Nat × Nat) := []
  deriving Repr

namespace Scanner

def token (scanner : Scanner) (lexeme : Lexeme) : Token :=
  ⟨lexeme, scanner.line, scanner.brackets.length⟩

def stop (scanner : Scanner) (text : String) : List Token :=
  [scanner.token (.broken true ⟨text, scanner.line⟩)]

/-- Stops at a fault that does not count against what stands in front of it. -/
def stopHere (scanner : Scanner) (text : String) (line : Nat := scanner.line) : List Token :=
  [scanner.token (.broken false ⟨text, line⟩)]

def newline (scanner : Scanner) : Scanner :=
  { scanner with line := scanner.line + 1 }

def indentation (width plain : Nat) : List Char → Nat × Nat × List Char
  | ' ' :: rest => indentation (width + 1) (plain + 1) rest
  | '\t' :: rest => indentation ((width / 8 + 1) * 8) (plain + 1) rest
  | '\x0c' :: rest => indentation 0 0 rest
  | rest => (width, plain, rest)

/-- Closes the indentations deeper than a line's; the last part tells whether one is left that
fits. -/
def dedent (width : Nat) : List (Nat × Nat) → Nat × List (Nat × Nat)
  | [] => (0, [])
  | (indent, plain) :: rest =>
      if width < indent then
        let (count, left) := dedent width rest
        (count + 1, left)
      else (0, (indent, plain) :: rest)

def mixedTabs : String := "inconsistent use of tabs and spaces in indentation"

def indentTokens (scanner : Scanner) (width plain : Nat) :
    Except (List Token) (List Token × Scanner) :=
  let (current, currentPlain) := scanner.indents.headD (0, 0)
  if width = current then
    if plain = currentPlain then .ok ([], scanner) else .error (scanner.stopHere mixedTabs)
  else if current < width then
    if plain ≤ currentPlain then .error (scanner.stopHere mixedTabs)
    else
      let deeper := { scanner with indents := (width, plain) :: scanner.indents }
      .ok ([deeper.token .indent], deeper)
  else
    let (count, left) := dedent width scanner.indents
    let shallower := { scanner with indents := left }
    if (left.headD (0, 0)).1 ≠ width then
      .error (scanner.stopHere "unindent does not match any outer indentation level")
    else if (left.headD (0, 0)).2 ≠ plain then .error (scanner.stopHere mixedTabs)
    else .ok (List.replicate count (shallower.token .dedent), shallower)

def ending (scanner : Scanner) : List Token :=
  let last := { scanner with line := scanner.line - 1 }
  match scanner.brackets with
  | (bracket, opened) :: _ => [last.token (.unclosed bracket opened)]
  | [] => scanner.indents.map (fun _ => last.token .dedent) ++ [last.token .finish]

def longMarks : List (List Char) :=
  ["**=", "//=", ">>=", "<<=", "...", "**", "//", "<<", ">>", "<=", ">=", "==", "!=", "->", "+=",
    "-=", "*=", "/=", "%=", "&=", "|=", "^=", "@=", ":=", "<>"].map (·.toList)

def closingOf (c : Char) : Option Char :=
  if c = ')' then some '('
  else if c = ']' then some '['
  else if c = '\x7d' then some '\x7b'
  else none

def isOpening (c : Char) : Bool :=
  c = '(' || c = '[' || c = '\x7b'

def maxBrackets : Nat := 200

def bracket (scanner : Scanner) (c : Char) : Except String Scanner :=
  if isOpening c then
    if maxBrackets ≤ scanner.brackets.length then .error "too many nested parentheses"
    else .ok { scanner with brackets := (c, scanner.line) :: scanner.brackets }
  else match closingOf c, scanner.brackets with
    | none, _ => .ok scanner
    | some _, [] => .error ("unmatched '" ++ String.ofList [c] ++ "'")
    | some opening, (bracket, opened) :: rest =>
        if bracket = opening then .ok { scanner with brackets := rest }
        else .error ("closing parenthesis '" ++ String.ofList [c] ++
          "' does not match opening parenthesis '" ++ String.ofList [bracket] ++ "'" ++
          (if opened = scanner.line then "" else " on line " ++ toString opened))

def codePoint (c : Char) : String :=
  let width := if c.toNat < 0x10000 then 4 else if c.toNat < 0x100000 then 5 else 6
  let digits := Text.hexDigits width c.toNat
  "U+" ++ String.ofList (digits.map Char.toUpper)

def badCharacter (c : Char) : String :=
  if Text.isPrintable c then
    "invalid character '" ++ String.ofList [c] ++ "' (" ++ codePoint c ++ ")"
  else "invalid non-printable character " ++ codePoint c

def strayIn (word : List Char) : Option Char :=
  match word with
  | [] => none
  | first :: rest =>
      if !(first = '_' || Text.isIdentifierStart first) then some first
      else rest.find? fun c => !Text.isIdentifierRest c

/-- A word is a keyword as it is written; every other one is the name that its normal form is. -/
def wordLexeme (word : List Char) : Lexeme :=
  let text := String.ofList word
  if keywords.contains text then .keyword text
  else .name (String.ofList (Text.normalName word))

/-- Letters in front of a quotation: whether it is raw, and the form it has if it is not a plain
text. -/
def quotationKind? (word : List Char) : Option (Bool × Option String) :=
  let lower := word.map Char.toLower
  if lower.isEmpty || lower = ['u'] then some (false, none)
  else if lower = ['r'] then some (true, none)
  else if lower = ['b'] || lower = ['b', 'r'] || lower = ['r', 'b'] then some (true, some "bytes")
  else if lower = ['f'] || lower = ['f', 'r'] || lower = ['r', 'f'] then
    some (true, some "joinedstr")
  else none

def textLexeme (raw : Bool) (form : Option String) (body : List Char) : Lexeme :=
  match form with
  | some form => .unsupported form
  | none =>
      if raw then .text (String.ofList body)
      else match Quotation.unescape body with
        | .ok chars => .text (String.ofList chars)
        | .error fault => .misspelt fault

def newlinesIn (chars : List Char) : Nat :=
  chars.countP (· = '\n')

def quotation (scanner : Scanner) (raw : Bool) (form : Option String) (mark : Char)
    (rest : List Char) : Except (List Token) (Token × Scanner × List Char) :=
  let triple := [mark, mark].isPrefixOf rest
  let start := if triple then rest.drop 2 else rest
  match Quotation.cut mark triple 0 start with
  | .ok (body, behind) =>
      let moved := { scanner with line := scanner.line + newlinesIn body }
      .ok (scanner.token (textLexeme raw form body), moved, behind)
  | .error newlines =>
      let kind := if triple then "triple-quoted string" else "string"
      .error (scanner.stop ("unterminated " ++ kind ++ " literal (detected at line " ++
        toString (scanner.line + newlines) ++ ")"))

inductive Place where
  | lineStart
  | within

def isQuotationMark (c : Char) : Bool :=
  c = '"' || c = '\''

def scanFrom : (fuel : Nat) → Place → Scanner → List Char → List Token
  | 0, _, scanner, _ => ending scanner
  | _ + 1, .lineStart, scanner, [] => ending scanner
  | fuel + 1, .lineStart, scanner, chars =>
      let (width, plain, rest) := indentation 0 0 chars
      match rest with
      | [] => ending scanner.newline
      | '\n' :: behind => scanFrom fuel .lineStart scanner.newline behind
      | '#' :: comment =>
          scanFrom fuel .lineStart scanner.newline ((comment.dropWhile (· ≠ '\n')).drop 1)
      | _ =>
          let (scanner, width, plain, rest) := match rest with
            | '\\' :: '\n' :: behind =>
                let (next, nextPlain, rest) := indentation 0 0 behind
                if width = 0 then (scanner.newline, next, nextPlain, rest)
                else (scanner.newline, width, plain, rest)
            | _ => (scanner, width, plain, rest)
          match scanner.indentTokens width plain with
          | .error tokens => tokens
          | .ok (tokens, scanner) => tokens ++ scanFrom fuel .within scanner rest
  | _ + 1, .within, scanner, [] =>
      match scanner.brackets with
      | (bracket, opened) :: _ => [scanner.token (.unclosed bracket opened)]
      | [] => scanner.stopHere "unexpected EOF while parsing" (scanner.line - 1)
  | fuel + 1, .within, scanner, c :: rest =>
      if c = ' ' || c = '\t' || c = '\x0c' then scanFrom fuel .within scanner rest
      else if c = '#' then scanFrom fuel .within scanner (rest.dropWhile (· ≠ '\n'))
      else if c = '\n' then
        match scanner.brackets with
        | [] => scanner.token .newline :: scanFrom fuel .lineStart scanner.newline rest
        | (bracket, opened) :: _ =>
            if rest.isEmpty then [scanner.token (.unclosed bracket opened)]
            else scanFrom fuel .within scanner.newline rest
      else if c = '\\' then
        match rest with
        | '\n' :: behind => scanFrom fuel .within scanner.newline behind
        | _ => scanner.stopHere "unexpected character after line continuation character"
      else if Numeral.isDecimal c || (c = '.' && rest.head?.any Numeral.isDecimal) then
        match Numeral.scan (c :: rest) with
        | .error text => scanner.stop text
        | .ok (value, behind) =>
            scanner.token (.number value) :: scanFrom fuel .within scanner behind
      else if isQuotationMark c then
        match scanner.quotation false none c rest with
        | .error tokens => tokens
        | .ok (token, scanner, behind) => token :: scanFrom fuel .within scanner behind
      else if Numeral.isWordChar c then
        let word := c :: rest.takeWhile Numeral.isWordChar
        let behind := rest.dropWhile Numeral.isWordChar
        match quotationKind? word, behind with
        | some (raw, form), mark :: inside =>
            if isQuotationMark mark then
              match scanner.quotation raw form mark inside with
              | .error tokens => tokens
              | .ok (token, scanner, behind) => token :: scanFrom fuel .within scanner behind
            else scanner.token (wordLexeme word) :: scanFrom fuel .within scanner behind
        | _, _ =>
            match strayIn word with
            | some stray => scanner.stop (badCharacter stray)
            | none => scanner.token (wordLexeme word) :: scanFrom fuel .within scanner behind
      else match longMarks.find? (·.isPrefixOf (c :: rest)) with
        | some mark =>
            scanner.token (.mark (String.ofList mark)) ::
              scanFrom fuel .within scanner (rest.drop (mark.length - 1))
        | none =>
            if !Text.isPrintable c then scanner.stop (badCharacter c)
            else match scanner.bracket c with
              | .error text => scanner.stop text
              | .ok scanner =>
                  scanner.token (.mark (String.ofList [c])) :: scanFrom fuel .within scanner rest

end Scanner

def tokens (source : String) : List Token :=
  let chars := Text.unifyNewlines source.toList
  let ended := if chars.getLast? = some '\n' then chars else chars ++ ['\n']
  Scanner.scanFrom (2 * ended.length + 2) .lineStart {} ended

end ExScript.Expr
