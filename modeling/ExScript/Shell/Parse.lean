import ExScript.Shell.Command

/-!
Reading the text of a shell command: lists, pipelines, words with their quotations and expansions,
redirections, groups, conditions, loops, selections and functions.
-/

namespace ExScript.Shell

inductive SyntaxFault where
  | quotation
  | endOfFile
  | unexpected (token : String)
  | expecting (token wanted : String)
  | substitution
  | brace
  | arithmetic
  | backquote
  | functionName
  deriving DecidableEq, Repr

def SyntaxFault.text : SyntaxFault → String
  | .quotation => "Syntax error: Unterminated quoted string"
  | .endOfFile => "Syntax error: end of file unexpected"
  | .unexpected token => "Syntax error: " ++ token ++ " unexpected"
  | .expecting token wanted =>
      "Syntax error: " ++ token ++ " unexpected (expecting " ++ wanted ++ ")"
  | .substitution => "Bad substitution"
  | .brace => "Syntax error: Missing '\x7d'"
  | .arithmetic => "Syntax error: Missing '))'"
  | .backquote => "Syntax error: EOF in backquote substitution"
  | .functionName => "Syntax error: Bad function name"

namespace Parser

def isNameStart (c : Char) : Bool :=
  c.isAlpha || c = '_'

def isNameChar (c : Char) : Bool :=
  c.isAlphanum || c = '_'

def isOperator (c : Char) : Bool :=
  c = ';' || c = '&' || c = '|' || c = '<' || c = '>' || c = '(' || c = ')' || c = '\n'

def isSpace (c : Char) : Bool :=
  c = ' ' || c = '\t'

def skipSpace : List Char → List Char
  | '\\' :: '\n' :: rest => skipSpace rest
  | c :: rest => if isSpace c then skipSpace rest else c :: rest
  | [] => []

def skipComment (chars : List Char) : List Char :=
  match skipSpace chars with
  | '#' :: rest => rest.dropWhile (· ≠ '\n')
  | rest => rest

def skipLines : (fuel : Nat) → List Char → List Char
  | 0, chars => chars
  | fuel + 1, chars =>
      match skipComment chars with
      | '\n' :: rest => skipLines fuel rest
      | rest => rest

def plainWord (chars : List Char) : List Char :=
  chars.takeWhile fun c => !isSpace c && !isOperator c

def startsWord (word : String) (chars : List Char) : Bool :=
  plainWord chars = word.toList

def closers : List String :=
  ["then", "elif", "else", "fi", "do", "done", "esac", "\x7d"]

def quoted (text : String) : String :=
  "\"" ++ text ++ "\""

def tokenAt : List Char → String
  | [] => "end of file"
  | '\n' :: _ => "newline"
  | ';' :: ';' :: _ => quoted ";;"
  | '&' :: '&' :: _ => quoted "&&"
  | '|' :: '|' :: _ => quoted "||"
  | c :: rest =>
      if isOperator c then quoted (String.ofList [c])
      else match closers.find? (startsWord · (c :: rest)) with
        | some word => quoted word
        | none => "word"

def unexpectedAt (chars : List Char) : SyntaxFault :=
  .unexpected (tokenAt chars)

def isSpecial (c : Char) : Bool :=
  c = '?' || c = '$' || c = '#' || c = '!' || c = '@' || c = '*' || c = '-' || c.isDigit

/-- Where the parts of a word stand: in the open, in double quotes, or behind the mark of what
takes the place of a value. -/
inductive Place where
  | open_
  | quotes
  | braces (quoted : Bool)
  deriving DecidableEq, Repr

def Place.quoted : Place → Bool
  | .open_ => false
  | .quotes => true
  | .braces quoted => quoted

def Place.endsAt (place : Place) (c : Char) : Bool :=
  match place with
  | .open_ => isSpace c || isOperator c
  | .quotes => c = '"'
  | .braces _ => c = '\x7d'

def untilBackquote : List Char → Option (List Char × Nat)
  | [] => none
  | '\x60' :: _ => some ([], 0)
  | '\\' :: c :: rest =>
      (untilBackquote rest).map fun (inside, length) =>
        (if c = '\x60' || c = '$' || c = '\\' then (c :: inside, length + 2)
          else ('\\' :: c :: inside, length + 2))
  | c :: rest =>
      (untilBackquote rest).map fun (inside, length) => (c :: inside, length + 1)

def substitute? (c : Char) : Option Substitute :=
  match c with
  | '-' => some .default
  | '=' => some .assigned
  | '?' => some .demanded
  | '+' => some .alternative
  | _ => none

def braceName (chars : List Char) : List Char :=
  match chars with
  | [] => []
  | c :: _ =>
      if c.isDigit then chars.takeWhile Char.isDigit
      else if isSpecial c then [c]
      else chars.takeWhile isNameChar

mutual

def parts (fuel : Nat) (place : Place) (chars : List Char) :
    Except SyntaxFault ((List Part × Bool) × List Char) :=
  match fuel with
  | 0 => .error .endOfFile
  | fuel + 1 =>
      match chars with
      | [] =>
          match place with
          | .open_ => .ok (([], false), [])
          | .quotes => .error .quotation
          | .braces _ => .error .brace
      | c :: rest =>
          if place.endsAt c then .ok (([], false), if place = .open_ then chars else rest)
          else if c = '\\' then escaped fuel place rest
          else if c = '$' then do
            let (part, rest) ← expansion fuel place.quoted rest
            let ((others, seen), rest) ← parts fuel place rest
            .ok ((part :: others, seen), rest)
          else if c = '\x60' then do
            let (part, rest) ← backquoted fuel place.quoted rest
            let ((others, seen), rest) ← parts fuel place rest
            .ok ((part :: others, seen), rest)
          else if !place.quoted && c = '\'' then
            let inside := rest.takeWhile (· ≠ '\'')
            if inside.length = rest.length then .error .quotation
            else do
              let ((others, _), rest) ← parts fuel place (rest.drop (inside.length + 1))
              .ok ((.text inside :: others, true), rest)
          else if c = '"' then do
            let ((inside, _), rest) ← parts fuel .quotes rest
            let ((others, _), rest) ← parts fuel place rest
            .ok ((inside ++ others, true), rest)
          else do
            let ((others, seen), rest) ← parts fuel place rest
            .ok (((if place.quoted then .text [c] else .loose [c]) :: others, seen), rest)

/-- What follows a backslash. In double quotes it only protects some characters. -/
def escaped (fuel : Nat) (place : Place) (chars : List Char) :
    Except SyntaxFault ((List Part × Bool) × List Char) :=
  match fuel with
  | 0 => .error .endOfFile
  | fuel + 1 =>
      match chars with
      | [] =>
          match place with
          | .open_ => .ok (([.text ['\\']], false), [])
          | .quotes => .error .quotation
          | .braces _ => .error .brace
      | c :: rest => do
          let ((others, seen), rest) ← parts fuel place rest
          let keeps := place.quoted &&
            !(c = '$' || c = '\x60' || c = '"' || c = '\\' || c = '\n' || place.endsAt c)
          let bytes := if c = '\n' then [] else if keeps then ['\\', c] else [c]
          .ok ((.text bytes :: others, seen || (!place.quoted && c ≠ '\n')), rest)

def backquoted (fuel : Nat) (quoted : Bool) (chars : List Char) :
    Except SyntaxFault (Part × List Char) :=
  match fuel with
  | 0 => .error .endOfFile
  | fuel + 1 =>
      match untilBackquote chars with
      | none => .error .backquote
      | some (inside, length) => do
          let (body, rest) ← list fuel inside
          if rest.isEmpty then .ok (.output body quoted, chars.drop (length + 1))
          else .error (unexpectedAt rest)

def expansion (fuel : Nat) (quoted : Bool) (chars : List Char) :
    Except SyntaxFault (Part × List Char) :=
  match fuel with
  | 0 => .error .endOfFile
  | fuel + 1 =>
      match chars with
      | '(' :: '(' :: rest => do
          let (inside, rest) ← sumParts fuel 0 rest
          .ok (.sum inside quoted, rest)
      | '(' :: rest => do
          let (body, rest) ← list fuel rest
          match skipLines fuel rest with
          | ')' :: rest => .ok (.output body quoted, rest)
          | rest => .error (.expecting (tokenAt rest) "\")\"")
      | '\x7b' :: '#' :: c :: rest =>
          if c = '\x7d' then .ok (.value "#" quoted, rest)
          else
            let name := braceName (c :: rest)
            match name, (c :: rest).drop name.length with
            | _ :: _, '\x7d' :: rest => .ok (.length (String.ofList name), rest)
            | _, _ => .error .substitution
      | '\x7b' :: rest =>
          let name := braceName rest
          if name.isEmpty then .error .substitution
          else bracesBehind fuel quoted (String.ofList name) (rest.drop name.length)
      | c :: rest =>
          if isSpecial c then .ok (.value (String.ofList [c]) quoted, rest)
          else if isNameStart c then
            let name := chars.takeWhile isNameChar
            .ok (.value (String.ofList name) quoted, chars.drop name.length)
          else .ok (.text ['$'], chars)
      | [] => .ok (.text ['$'], [])

def bracesBehind (fuel : Nat) (quoted : Bool) (name : String) (chars : List Char) :
    Except SyntaxFault (Part × List Char) :=
  match fuel with
  | 0 => .error .endOfFile
  | fuel + 1 =>
      let choosing (emptyToo : Bool) (mark : Char) (rest : List Char) :
          Except SyntaxFault (Part × List Char) :=
        match substitute? mark with
        | none => .error .substitution
        | some substitute => do
            let ((inside, _), rest) ← parts fuel (.braces quoted) rest
            .ok (.choice name substitute emptyToo inside quoted, rest)
      let trimming (cut : Cut) (rest : List Char) : Except SyntaxFault (Part × List Char) := do
        let ((pattern, _), rest) ← parts fuel (.braces false) rest
        .ok (.trimmed name cut pattern quoted, rest)
      match chars with
      | [] => .error .brace
      | '\x7d' :: rest => .ok (.value name quoted, rest)
      | '%' :: '%' :: rest => trimming ⟨false, true⟩ rest
      | '%' :: rest => trimming ⟨false, false⟩ rest
      | '#' :: '#' :: rest => trimming ⟨true, true⟩ rest
      | '#' :: rest => trimming ⟨true, false⟩ rest
      | ':' :: mark :: rest => choosing true mark rest
      | mark :: rest => choosing false mark rest

def sumParts (fuel : Nat) (depth : Nat) (chars : List Char) :
    Except SyntaxFault (List Part × List Char) :=
  match fuel with
  | 0 => .error .endOfFile
  | fuel + 1 =>
      match chars with
      | [] => .error .arithmetic
      | '$' :: rest => do
          let (part, rest) ← expansion fuel true rest
          let (others, rest) ← sumParts fuel depth rest
          .ok (part :: others, rest)
      | '\x60' :: rest => do
          let (part, rest) ← backquoted fuel true rest
          let (others, rest) ← sumParts fuel depth rest
          .ok (part :: others, rest)
      | c :: rest =>
          if c = ')' && depth = 0 then
            match rest with
            | ')' :: rest => .ok ([], rest)
            | _ => .error .arithmetic
          else do
            let depth := if c = '(' then depth + 1 else if c = ')' then depth - 1 else depth
            let (others, rest) ← sumParts fuel depth rest
            .ok (.text [c] :: others, rest)

def word (fuel : Nat) (chars : List Char) : Except SyntaxFault (Word × List Char) :=
  match fuel with
  | 0 => .error .endOfFile
  | fuel + 1 =>
      let home := match chars with
        | '~' :: c :: _ => isSpace c || isOperator c || c = '/'
        | ['~'] => true
        | _ => false
      do
        let ((found, quoted), rest) ← parts fuel .open_ (if home then chars.drop 1 else chars)
        .ok (.mk (if home then .value "HOME" true :: found else found) quoted, rest)

def list (fuel : Nat) (chars : List Char) : Except SyntaxFault (Command × List Char) :=
  match fuel with
  | 0 => .error .endOfFile
  | fuel + 1 =>
      let start := skipLines fuel chars
      if start.isEmpty || start.head? = some ')' || start.take 2 = [';', ';'] ||
          closers.any (startsWord · start) then
        .ok (.nothing, start)
      else do
        let (first, rest) ← andOr fuel start
        match skipComment rest with
        | ';' :: ';' :: rest => .ok (first, ';' :: ';' :: rest)
        | ';' :: rest => do
            let (others, rest) ← list fuel rest
            .ok (.then_ first others, rest)
        | '&' :: rest => do
            let (others, rest) ← list fuel rest
            .ok (.then_ (.subshell first) others, rest)
        | '\n' :: rest => do
            let (others, rest) ← list fuel rest
            .ok (.then_ first others, rest)
        | rest => .ok (first, rest)

def andOr (fuel : Nat) (chars : List Char) : Except SyntaxFault (Command × List Char) :=
  match fuel with
  | 0 => .error .endOfFile
  | fuel + 1 => do
      let (first, rest) ← pipeline fuel chars
      andOrFrom fuel first rest

def andOrFrom (fuel : Nat) (left : Command) (chars : List Char) :
    Except SyntaxFault (Command × List Char) :=
  match fuel with
  | 0 => .error .endOfFile
  | fuel + 1 =>
      match skipSpace chars with
      | '&' :: '&' :: rest => do
          let (right, rest) ← pipeline fuel (skipLines fuel rest)
          andOrFrom fuel (.both left right) rest
      | '|' :: '|' :: rest => do
          let (right, rest) ← pipeline fuel (skipLines fuel rest)
          andOrFrom fuel (.either left right) rest
      | rest => .ok (left, rest)

def pipeline (fuel : Nat) (chars : List Char) : Except SyntaxFault (Command × List Char) :=
  match fuel with
  | 0 => .error .endOfFile
  | fuel + 1 =>
      let start := skipSpace chars
      if startsWord "!" start then do
        let (body, rest) ← pipeline fuel (start.drop 1)
        .ok (.negate body, rest)
      else do
        let (first, rest) ← command fuel start
        match skipSpace rest with
        | '|' :: '|' :: _ => .ok (first, skipSpace rest)
        | '|' :: rest => do
            let (right, rest) ← pipeline fuel (skipLines fuel rest)
            .ok (.pipe first right, rest)
        | rest => .ok (first, rest)

def command (fuel : Nat) (chars : List Char) : Except SyntaxFault (Command × List Char) :=
  match fuel with
  | 0 => .error .endOfFile
  | fuel + 1 =>
      match chars with
      | [] => .error .endOfFile
      | '(' :: rest => do
          let (body, rest) ← list fuel rest
          match body, rest with
          | .nothing, _ => .error (unexpectedAt rest)
          | _, ')' :: rest => redirections fuel (.subshell body) rest
          | _, _ => .error (.expecting (tokenAt rest) (quoted ")"))
      | c :: _ =>
          if c = ')' || c = ';' || c = '|' || c = '&' || c = '\n' then
            .error (unexpectedAt chars)
          else
          if startsWord "\x7b" chars then do
            let (body, rest) ← list fuel (chars.drop 1)
            let rest ← keyword "\x7d" rest
            redirections fuel (.group body) rest
          else if startsWord "if" chars then do
            let (body, rest) ← condition fuel (chars.drop 2)
            redirections fuel body rest
          else if startsWord "while" chars then looping fuel true (chars.drop 5)
          else if startsWord "until" chars then looping fuel false (chars.drop 5)
          else if startsWord "for" chars then forLoop fuel (skipSpace (chars.drop 3))
          else if startsWord "case" chars then selection fuel (skipSpace (chars.drop 4))
          else if closers.any (startsWord · chars) then .error (unexpectedAt chars)
          else simple fuel [] [] chars

def keyword (text : String) (chars : List Char) : Except SyntaxFault (List Char) :=
  if startsWord text chars then .ok (chars.drop text.length)
  else .error (.expecting (tokenAt chars) (quoted text))

def condition (fuel : Nat) (chars : List Char) : Except SyntaxFault (Command × List Char) :=
  match fuel with
  | 0 => .error .endOfFile
  | fuel + 1 => do
      let (test, rest) ← list fuel chars
      let rest ← keyword "then" rest
      let (whenTrue, rest) ← list fuel rest
      if startsWord "elif" rest then
        let (whenFalse, rest) ← condition fuel (rest.drop 4)
        .ok (.branch test whenTrue whenFalse, rest)
      else if startsWord "else" rest then
        let (whenFalse, rest) ← list fuel (rest.drop 4)
        let rest ← keyword "fi" rest
        .ok (.branch test whenTrue whenFalse, rest)
      else
        let rest ← keyword "fi" rest
        .ok (.branch test whenTrue .nothing, rest)

def looping (fuel : Nat) (wanted : Bool) (chars : List Char) :
    Except SyntaxFault (Command × List Char) :=
  match fuel with
  | 0 => .error .endOfFile
  | fuel + 1 => do
      let (test, rest) ← list fuel chars
      let rest ← keyword "do" rest
      let (body, rest) ← list fuel rest
      let rest ← keyword "done" rest
      redirections fuel (.loop wanted test body) rest

def forLoop (fuel : Nat) (chars : List Char) : Except SyntaxFault (Command × List Char) :=
  match fuel with
  | 0 => .error .endOfFile
  | fuel + 1 => do
      let name := chars.takeWhile isNameChar
      let rest := skipSpace (chars.drop name.length)
      let (words, rest) ← if startsWord "in" rest then wordsOf fuel (rest.drop 2)
        else .ok ([], rest)
      let rest := match skipSpace rest with
        | ';' :: rest => rest
        | rest => rest
      let rest ← keyword "do" (skipLines fuel rest)
      let (body, rest) ← list fuel rest
      let rest ← keyword "done" rest
      redirections fuel (.forEach (String.ofList name) words body) rest

def selection (fuel : Nat) (chars : List Char) : Except SyntaxFault (Command × List Char) :=
  match fuel with
  | 0 => .error .endOfFile
  | fuel + 1 => do
      let (subject, rest) ← redirectionTarget fuel chars
      let rest ← keyword "in" (skipLines fuel rest)
      let (arms, rest) ← armsOf fuel (skipLines fuel rest)
      redirections fuel (.select subject arms) rest

def armsOf (fuel : Nat) (chars : List Char) :
    Except SyntaxFault (List (List Word × Command) × List Char) :=
  match fuel with
  | 0 => .error .endOfFile
  | fuel + 1 =>
      if startsWord "esac" chars then .ok ([], chars.drop 4)
      else do
        let start := if chars.head? = some '(' then chars.drop 1 else chars
        let (patterns, rest) ← patternsOf fuel start
        let (body, rest) ← list fuel rest
        match rest with
        | ';' :: ';' :: rest => do
            let (others, rest) ← armsOf fuel (skipLines fuel rest)
            .ok ((patterns, body) :: others, rest)
        | rest =>
            if startsWord "esac" rest then .ok ([(patterns, body)], rest.drop 4)
            else .error (.expecting (tokenAt rest) (quoted ";;"))

def patternsOf (fuel : Nat) (chars : List Char) : Except SyntaxFault (List Word × List Char) :=
  match fuel with
  | 0 => .error .endOfFile
  | fuel + 1 => do
      let (first, rest) ← redirectionTarget fuel chars
      match skipSpace rest with
      | '|' :: rest => do
          let (others, rest) ← patternsOf fuel rest
          .ok (first :: others, rest)
      | ')' :: rest => .ok ([first], rest)
      | rest => .error (.expecting (tokenAt rest) (quoted ")"))

def wordsOf (fuel : Nat) (chars : List Char) : Except SyntaxFault ((List Word) × List Char) :=
  match fuel with
  | 0 => .error .endOfFile
  | fuel + 1 =>
      let start := skipSpace chars
      match start with
      | [] => .ok ([], [])
      | c :: _ =>
          if isOperator c then .ok ([], start)
          else do
            let (first, rest) ← word fuel start
            let (others, rest) ← wordsOf fuel rest
            .ok (first :: others, rest)

def redirection? (chars : List Char) : Option (Nat × Redirection × List Char) :=
  let digits := chars.takeWhile Char.isDigit
  let number := digits.foldl (fun value c => 10 * value + (c.toNat - 0x30)) 0
  let stream := fun (default : Nat) => if digits.isEmpty then default else number
  match chars.drop digits.length with
  | '>' :: '>' :: rest => some (stream 1, .append, rest)
  | '>' :: '&' :: rest => some (stream 1, .copy, rest)
  | '>' :: '|' :: rest => some (stream 1, .write, rest)
  | '>' :: rest => some (stream 1, .write, rest)
  | '<' :: rest => some (stream 0, .read, rest)
  | _ => none

def redirections (fuel : Nat) (body : Command) (chars : List Char) :
    Except SyntaxFault (Command × List Char) :=
  match fuel with
  | 0 => .error .endOfFile
  | fuel + 1 =>
      match redirection? (skipSpace chars) with
      | none => .ok (body, chars)
      | some (stream, kind, rest) => do
          let (target, rest) ← redirectionTarget fuel rest
          let (inner, rest) ← redirections fuel body rest
          .ok (.redirect inner stream kind target, rest)

def redirectionTarget (fuel : Nat) (chars : List Char) : Except SyntaxFault (Word × List Char) :=
  match fuel with
  | 0 => .error .endOfFile
  | fuel + 1 =>
      let start := skipSpace chars
      match start with
      | [] => .error .endOfFile
      | c :: _ =>
          if isOperator c then .error (unexpectedAt start)
          else word fuel start

def simple (fuel : Nat) (assignments : List (String × Word)) (words : List Word)
    (chars : List Char) : Except SyntaxFault (Command × List Char) :=
  match fuel with
  | 0 => .error .endOfFile
  | fuel + 1 =>
      let start := skipComment chars
      match redirection? start with
      | some (stream, kind, rest) => do
          let (target, rest) ← redirectionTarget fuel rest
          let (body, rest) ← simple fuel assignments words rest
          .ok (.redirect body stream kind target, rest)
      | none =>
          match start with
          | [] => .ok (.simple assignments words, [])
          | c :: _ =>
              if c = '(' then
                match words, skipSpace (start.drop 1) with
                | [name], ')' :: rest =>
                    match name.plain? with
                    | some name =>
                        if name.isEmpty || !name.all isNameChar then .error .functionName
                        else do
                          let (body, rest) ← command fuel (skipLines fuel rest)
                          .ok (.define (String.ofList name) body, rest)
                    | none => .error .functionName
                | [_], rest => .error (.expecting (tokenAt rest) (quoted ")"))
                | _, _ => .error (unexpectedAt start)
              else if isOperator c then .ok (.simple assignments words, start)
              else
                let name := start.takeWhile isNameChar
                let behind := start.drop name.length
                if words.isEmpty && isNameStart c && behind.head? = some '=' then do
                  let (value, rest) ← word fuel (behind.drop 1)
                  simple fuel (assignments ++ [(String.ofList name, value)]) words rest
                else do
                  let (next, rest) ← word fuel start
                  simple fuel assignments (words ++ [next]) rest

end

def commandLine (fuel : Nat) (chars : List Char) : Except SyntaxFault (Command × List Char) :=
  match fuel with
  | 0 => .error .endOfFile
  | fuel + 1 =>
      match skipComment chars with
      | [] => .ok (.nothing, [])
      | '\n' :: rest => .ok (.nothing, rest)
      | start => do
          let (first, rest) ← andOr fuel start
          match skipComment rest with
          | [] => .ok (first, [])
          | ';' :: ';' :: rest => .error (unexpectedAt (';' :: ';' :: rest))
          | ';' :: rest => do
              let (others, rest) ← commandLine fuel rest
              .ok (.then_ first others, rest)
          | '&' :: rest => do
              let (others, rest) ← commandLine fuel rest
              .ok (.then_ (.subshell first) others, rest)
          | '\n' :: rest => .ok (first, rest)
          | rest => .error (unexpectedAt rest)

end Parser

def parseLine (bytes : List Char) : Except SyntaxFault (Command × List Char) :=
  Parser.commandLine (8 * bytes.length + 50) bytes

end ExScript.Shell
