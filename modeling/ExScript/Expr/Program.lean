import ExScript.Expr.Parse

/-!
Reading a whole source as a sequence of statements, on lines of their own or divided by semicolons,
with indented blocks.
-/

namespace ExScript.Expr

namespace Parser

def startsItem (tokens : List Token) : Bool :=
  startsExpression tokens || isMark "*" tokens

def starItem (fuel : Nat) (tokens : List Token) : Except Refusal (Tree × List Token) :=
  if isMark "*" tokens then do
    let (_, rest) ← binary fuel binaryRows (tokens.drop 1)
    .ok (.unsupported "starred", rest)
  else expression fuel tokens

def moreItems (fuel : Nat) (tokens : List Token) :
    Except Refusal (Option (List Tree) × List Token) :=
  match fuel with
  | 0 => refuse tokens
  | fuel + 1 => do
      if isMark "," tokens then
        if startsItem (tokens.drop 1) then
          let (first, rest) ← starItem fuel (tokens.drop 1)
          let (others, rest) ← moreItems fuel rest
          .ok (some (first :: others.getD []), rest)
        else match brokenAt? (front (tokens.drop 1)) with
          | some fault => .error (.tokens fault)
          | none => .ok (some [], tokens.drop 1)
      else .ok (none, tokens)

def sequence (fuel : Nat) (tokens : List Token) : Except Refusal (Tree × List Token) := do
  let (first, rest) ← starItem fuel tokens
  let (others, rest) ← moreItems fuel rest
  match others with
  | none => .ok (first, rest)
  | some others => .ok (.tuple (first :: others), rest)

def checkTarget (fuel : Nat) (first : Bool) (line : Nat) (tree : Tree) (rest : List Token) :
    Except Refusal Unit :=
  match tree.firstInvalid? with
  | none => .ok ()
  | some invalid =>
      let inPlace := tree.isSingleTarget || tree.suggestsComparison
      if first && inPlace then
        match confused fuel rest with
        | .ok (_, behind) => reject (comparisonMistake tree) behind line
        | .error (.unexpected _) => reject (assignMistake invalid) rest line
        | .error refusal => .error refusal
      else reject (assignMistake invalid) rest line

def assignment (fuel : Nat) (line : Nat) (targets : List Tree) (tokens : List Token) :
    Except Refusal (Statement × List Token) :=
  match fuel with
  | 0 => refuse tokens
  | fuel + 1 => do
      checkTarget fuel (targets.length = 1) line (targets.headD (.tuple [])) tokens
      let (value, rest) ← sequence fuel (tokens.drop 1)
      if isMark "=" rest then assignment fuel line (value :: targets) rest
      else .ok (.assign targets.reverse value, rest)

def update (fuel : Nat) (op : BinaryOp) (target : Tree) (tokens : List Token) :
    Except Refusal (Statement × List Token) :=
  if target.isSingleTarget then do
    let (value, rest) ← sequence fuel (tokens.drop 1)
    .ok (.update op target value, rest)
  else do
    let (_, rest) ← sequence fuel (tokens.drop 1)
    reject ("'" ++ target.description ++ "' is an illegal expression for augmented assignment")
      rest (front tokens).line

def annotation (fuel : Nat) (target : Tree) (tokens : List Token) :
    Except Refusal (Statement × List Token) := do
  let (_, rest) ← expression fuel (tokens.drop 1)
  if target.isSingleTarget then
    if isMark "=" rest then
      let (_, rest) ← sequence fuel (rest.drop 1)
      .ok (.unsupported "annassign", rest)
    else .ok (.unsupported "annassign", rest)
  else match target with
    | .list _ => reject "only single target (not list) can be annotated" rest (front tokens).line
    | .tuple _ => reject "only single target (not tuple) can be annotated" rest (front tokens).line
    | _ => reject "illegal target for annotation" rest (front tokens).line

def assignmentOrExpression (fuel : Nat) (tokens : List Token) :
    Except Refusal (Statement × List Token) := do
  let (first, rest) ← sequence fuel tokens
  match markIn? updateMarks rest with
  | some op => update fuel op first rest
  | none =>
      if isMark "=" rest then assignment fuel (front tokens).line [first] rest
      else if isMark ":" rest then annotation fuel first rest
      else .ok (.expression first, rest)

def dottedName (tokens : List Token) : Except Refusal (List Token) :=
  match tokens with
  | ⟨.name _, _, _⟩ :: ⟨.mark ".", line, depth⟩ :: rest =>
      match rest with
      | ⟨.name word, line, depth⟩ :: behind => dottedName (⟨.name word, line, depth⟩ :: behind)
      | _ => refuse (if rest.isEmpty then [⟨.mark ".", line, depth⟩] else rest)
  | ⟨.name _, _, _⟩ :: rest => .ok rest
  | _ => refuse tokens

def loadedNames (fuel : Nat) (tokens : List Token) : Except Refusal (Statement × List Token) :=
  match fuel with
  | 0 => refuse tokens
  | fuel + 1 => do
      let rest ← if isMark "*" tokens then .ok (tokens.drop 1) else dottedName tokens
      let rest ← if isKeyword "as" rest then dottedName (rest.drop 1) else .ok rest
      if isMark "," rest then loadedNames fuel (rest.drop 1) else .ok (.load, rest)

def skipDots : List Token → List Token
  | [] => []
  | token :: rest =>
      if token.lexeme = .mark "." || token.lexeme = .mark "..." then skipDots rest
      else token :: rest

def loadFrom (fuel : Nat) (tokens : List Token) : Except Refusal (Statement × List Token) := do
  let dotted := skipDots tokens
  let rest ← if isKeyword "import" dotted && dotted.length < tokens.length then .ok dotted
    else dottedName dotted
  let rest ← expectKeyword "import" rest
  if isMark "(" rest then
    let (statement, rest) ← loadedNames fuel (rest.drop 1)
    let rest ← expectMark ")" (if isMark "," rest then rest.drop 1 else rest)
    .ok (statement, rest)
  else loadedNames fuel rest

def endsStatement (tokens : List Token) : Bool :=
  lexeme tokens == .newline || isMark ";" tokens

def raising (fuel : Nat) (tokens : List Token) : Except Refusal (Statement × List Token) := do
  if endsStatement tokens then .ok (.raise none none, tokens)
  else
    let (error, rest) ← expression fuel tokens
    if isKeyword "from" rest then
      let (cause, rest) ← expression fuel (rest.drop 1)
      .ok (.raise (some error) (some cause), rest)
    else .ok (.raise (some error) none, rest)

def checking (fuel : Nat) (tokens : List Token) : Except Refusal (Statement × List Token) := do
  let (condition, rest) ← expression fuel tokens
  if isMark "," rest then
    let (message, rest) ← expression fuel (rest.drop 1)
    .ok (.check condition (some message), rest)
  else .ok (.check condition none, rest)

def simple (fuel : Nat) (tokens : List Token) : Except Refusal (Statement × List Token) :=
  let rest := tokens.drop 1
  match lexeme tokens with
  | .keyword "pass" => .ok (.skip, rest)
  | .keyword "break" => .ok (.leave, rest)
  | .keyword "continue" => .ok (.again, rest)
  | .keyword "return" =>
      if endsStatement rest then .ok (.giveBack none, rest)
      else do
        let (value, rest) ← sequence fuel rest
        .ok (.giveBack (some value), rest)
  | .keyword "raise" => raising fuel rest
  | .keyword "assert" => checking fuel rest
  | .keyword "import" => loadedNames fuel rest
  | .keyword "from" => loadFrom fuel rest
  | .keyword "del" => do
      let (_, rest) ← sequence fuel rest
      .ok (.unsupported "delete", rest)
  | .keyword "global" => do
      let (_, rest) ← sequence fuel rest
      .ok (.unsupported "global", rest)
  | .keyword "nonlocal" => do
      let (_, rest) ← sequence fuel rest
      .ok (.unsupported "nonlocal", rest)
  | _ => assignmentOrExpression fuel tokens

def simpleLine (fuel : Nat) (tokens : List Token) :
    Except Refusal (List Statement × List Token) :=
  match fuel with
  | 0 => refuse tokens
  | fuel + 1 => do
      let (first, rest) ← simple fuel tokens
      if lexeme rest == .newline then .ok ([first], rest.drop 1)
      else if isMark ";" rest then
        if lexeme (rest.drop 1) == .newline then .ok ([first], rest.drop 2)
        else
          let (others, rest) ← simpleLine fuel (rest.drop 1)
          .ok (first :: others, rest)
      else refuse rest

def colon (forced : Bool) (tokens : List Token) : Except Refusal (List Token) :=
  if isMark ":" tokens then .ok (tokens.drop 1)
  else if forced || lexeme tokens == .newline then reject "expected ':'" tokens
  else refuse tokens

def statementPhrase (word : String) : String :=
  "'" ++ word ++ "' statement"

mutual

def statements (fuel : Nat) (tokens : List Token) :
    Except Refusal (List Statement × List Token) :=
  match fuel with
  | 0 => refuse tokens
  | fuel + 1 => do
      if lexeme tokens == .dedent || lexeme tokens == .finish then .ok ([], tokens)
      else
        let (first, rest) ← statement fuel tokens
        let (others, rest) ← statements fuel rest
        .ok (first ++ others, rest)

def statement (fuel : Nat) (tokens : List Token) : Except Refusal (List Statement × List Token) :=
  match fuel with
  | 0 => refuse tokens
  | fuel + 1 =>
      let line := (front tokens).line
      match lexeme tokens with
      | .keyword "if" => branch fuel "if" tokens
      | .keyword "while" => do
          let (condition, rest) ← namedItem fuel (tokens.drop 1)
          let (body, rest) ← block fuel false (statementPhrase "while") line rest
          let (otherwise, rest) ← elseBlock fuel rest
          .ok ([.repeatWhile condition body otherwise], rest)
      | .keyword "for" => do
          let (target, rest) ← targetList fuel (tokens.drop 1)
          let rest ← expectKeyword "in" rest
          let (source, rest) ← sequence fuel rest
          let (body, rest) ← block fuel true (statementPhrase "for") line rest
          let (otherwise, rest) ← elseBlock fuel rest
          .ok ([.forEach target source body otherwise], rest)
      | .keyword "def" =>
          match lexeme (tokens.drop 1) with
          | .name word => do
              let rest := tokens.drop 2
              if !isMark "(" rest then reject "expected '('" rest
              else
                let ((names, defaults), rest) ← parameters fuel ")" (rest.drop 1)
                let rest ← expectMark ")" rest
                let (body, rest) ← block fuel true "function definition" line rest
                .ok ([.define word names defaults body], rest)
          | _ => refuse (tokens.drop 1)
      | .keyword "class" =>
          match lexeme (tokens.drop 1) with
          | .name _ => do
              let rest := tokens.drop 2
              let (_, rest) ← if isMark "(" rest then arguments fuel false (rest.drop 1)
                else .ok (([], []), rest)
              let (_, rest) ← block fuel false "class definition" line rest
              .ok ([.unsupported "classdef"], rest)
          | _ => refuse (tokens.drop 1)
      | _ => simpleLine fuel tokens

def branch (fuel : Nat) (word : String) (tokens : List Token) :
    Except Refusal (List Statement × List Token) :=
  match fuel with
  | 0 => refuse tokens
  | fuel + 1 => do
      let (condition, rest) ← namedItem fuel (tokens.drop 1)
      let (body, rest) ← block fuel false (statementPhrase word) (front tokens).line rest
      let (otherwise, rest) ← if isKeyword "elif" rest then branch fuel "elif" rest
        else elseBlock fuel rest
      .ok ([.branch condition body otherwise], rest)

def elseBlock (fuel : Nat) (tokens : List Token) : Except Refusal (List Statement × List Token) :=
  match fuel with
  | 0 => refuse tokens
  | fuel + 1 =>
      if isKeyword "else" tokens then
        block fuel true (statementPhrase "else") (front tokens).line (tokens.drop 1)
      else .ok ([], tokens)

def block (fuel : Nat) (forced : Bool) (owner : String) (line : Nat) (tokens : List Token) :
    Except Refusal (List Statement × List Token) :=
  match fuel with
  | 0 => refuse tokens
  | fuel + 1 => do
      let rest ← colon forced tokens
      if lexeme rest == .newline then
        if lexeme (rest.drop 1) == .indent then
          let (body, rest) ← statements fuel (rest.drop 2)
          if lexeme rest == .dedent then .ok (body, rest.drop 1) else refuse rest
        else
          reject ("expected an indented block after " ++ owner ++ " on line " ++ toString line)
            (rest.drop 1)
      else simpleLine fuel rest

end

def laterFault? (tokens : List Token) (line : Nat) : Option Malformed :=
  match (tokens.getLastD finalToken).lexeme with
  | .broken firm fault => if firm then some fault else none
  | .unclosed bracket opened => if opened < line then some (neverClosed bracket opened) else none
  | _ => none

def Refusal.malformed (tokens : List Token) : Refusal → Malformed
  | .tokens fault => fault
  | .unexpected token =>
      match token.lexeme with
      | .indent => ⟨"unexpected indent", token.line⟩
      | .dedent => ⟨"unexpected unindent", token.line⟩
      | _ => (laterFault? tokens token.line).getD ⟨"invalid syntax", token.line⟩
  | .mistake text line last => (laterFault? tokens last.line).getD ⟨text, line⟩

end Parser

def parse (source : String) : Except Malformed (List Statement) :=
  let read := tokens source
  match Parser.statements (40 * read.length + 100) read with
  | .ok (body, rest) =>
      if Parser.lexeme rest == .finish then .ok body
      else match (Parser.refuse rest : Except Refusal Unit) with
        | .error refusal => .error (Parser.Refusal.malformed read refusal)
        | .ok _ => .ok body
  | .error refusal => .error (Parser.Refusal.malformed read refusal)

end ExScript.Expr
