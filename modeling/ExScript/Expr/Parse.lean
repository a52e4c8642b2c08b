import ExScript.Expr.Scan
import ExScript.Expr.Target

/-!
Reading tokens as a program. A source that is no program is refused at the first token that cannot
follow what stands in front of it; some common mistakes have words of their own. A fault of the
tokens further on takes precedence over either.
-/

namespace ExScript.Expr

/-- Why the parser gave up: the tokens themselves are at fault, a token cannot stand where it does,
or a known mistake was made, found with the token given read last. -/
inductive Refusal where
  | tokens (fault : Malformed)
  | unexpected (token : Token)
  | mistake (text : String) (line : Nat) (last : Token)

namespace Parser

abbrev Parse (α : Type) := List Token → Except Refusal (α × List Token)

def finalToken : Token := ⟨.finish, 0, 0⟩

def front (tokens : List Token) : Token :=
  tokens.headD finalToken

def lexeme (tokens : List Token) : Lexeme :=
  (front tokens).lexeme

def brokenAt? (token : Token) : Option Malformed :=
  match token.lexeme with
  | .broken _ fault => some fault
  | .unclosed bracket opened => some (neverClosed bracket opened)
  | _ => none

def refuse {α : Type} (tokens : List Token) : Except Refusal α :=
  match brokenAt? (front tokens) with
  | some fault => .error (.tokens fault)
  | none => .error (.unexpected (front tokens))

def reject {α : Type} (text : String) (tokens : List Token) (line : Nat := (front tokens).line) :
    Except Refusal α :=
  match brokenAt? (front tokens) with
  | some fault => .error (.tokens fault)
  | none => .error (.mistake text line (front tokens))

def isMark (text : String) (tokens : List Token) : Bool :=
  lexeme tokens == .mark text

def isKeyword (text : String) (tokens : List Token) : Bool :=
  lexeme tokens == .keyword text

def expectMark (text : String) (tokens : List Token) : Except Refusal (List Token) :=
  if isMark text tokens then .ok (tokens.drop 1) else refuse tokens

def expectKeyword (text : String) (tokens : List Token) : Except Refusal (List Token) :=
  if isKeyword text tokens then .ok (tokens.drop 1) else refuse tokens

def startsExpression (tokens : List Token) : Bool :=
  match lexeme tokens with
  | .name _ | .number _ | .text _ | .misspelt _ | .unsupported _ => true
  | .keyword word => ["not", "lambda", "None", "True", "False"].contains word
  | .mark mark => ["(", "[", "\x7b", "-", "+", "~", "..."].contains mark
  | _ => false

/-- The binary operators by rising strength; those of one row associate to the left. -/
def binaryRows : List (List (String × BinaryOp)) :=
  [[("|", .join)], [("^", .differ)], [("&", .meet)],
    [("<<", .shiftLeft), (">>", .shiftRight)], [("+", .add), ("-", .subtract)],
    [("*", .multiply), ("/", .divide), ("//", .floorDivide), ("%", .remainder),
      ("@", .matrix)]]

def updateMarks : List (String × BinaryOp) :=
  [("+=", .add), ("-=", .subtract), ("*=", .multiply), ("/=", .divide), ("//=", .floorDivide),
    ("%=", .remainder), ("@=", .matrix), ("&=", .meet), ("|=", .join), ("^=", .differ),
    ("<<=", .shiftLeft), (">>=", .shiftRight), ("**=", .power)]

def comparisonMarks : List (String × Comparison) :=
  [("==", .equal), ("!=", .unequal), ("<", .less), ("<=", .lessEqual), (">", .greater),
    (">=", .greaterEqual)]

def markIn? {α : Type} (rows : List (String × α)) (tokens : List Token) : Option α :=
  match lexeme tokens with
  | .mark text => rows.lookup text
  | _ => none

def comparison? (tokens : List Token) : Except Refusal (Option (Comparison × List Token)) :=
  match markIn? comparisonMarks tokens with
  | some op => .ok (some (op, tokens.drop 1))
  | none =>
      if isKeyword "in" tokens then .ok (some (.within, tokens.drop 1))
      else if isKeyword "not" tokens then
        if isKeyword "in" (tokens.drop 1) then .ok (some (.notWithin, tokens.drop 2))
        else refuse (tokens.drop 1)
      else if isKeyword "is" tokens then
        if isKeyword "not" (tokens.drop 1) then .ok (some (.notSame, tokens.drop 2))
        else .ok (some (.same, tokens.drop 1))
      else .ok none

/-- Words that start statements of their own in some positions, so that no comma is missing behind
them. -/
def softKeywords : List String := ["match", "case", "_"]

/-- Whether two expressions side by side, the first starting here, look as if a comma were missing
between them. -/
def mayLackComma (start : List Token) : Bool :=
  match lexeme start, lexeme (start.drop 1) with
  | .name _, .text _ => false
  | .name word, _ => !softKeywords.contains word
  | _, _ => true

def lastBefore (start rest : List Token) : Token :=
  (start.take (start.length - rest.length)).getLastD finalToken

def texts : List Token → Except String String × List Token
  | [] => (.ok "", [])
  | token :: rest =>
      match token.lexeme with
      | .text value =>
          let (others, behind) := texts rest
          (others.map (value ++ ·), behind)
      | .misspelt fault => (.error fault, (texts rest).2)
      | _ => (.ok "", token :: rest)

def printMistake (word : String) : String :=
  "Missing parentheses in call to '" ++ word ++ "'. Did you mean " ++ word ++ "(...)?"

def equalsMistake : String :=
  "invalid syntax. Maybe you meant '==' or ':=' instead of '='?"

def assignMistake (target : Tree) : String :=
  "cannot assign to " ++ target.description

def comparisonMistake (target : Tree) : String :=
  assignMistake target ++ " here. Maybe you meant '==' instead of '='?"

mutual

/-- An expression: a condition with two branches, or a disjunction. Two expressions side by side
are a mistake. -/
def expression (fuel : Nat) (tokens : List Token) : Except Refusal (Tree × List Token) :=
  match fuel with
  | 0 => refuse tokens
  | fuel + 1 =>
      if isKeyword "lambda" tokens then lambda fuel (tokens.drop 1)
      else do
        let (value, rest) ← disjunction fuel tokens
        if isKeyword "if" rest then
          let (condition, behind) ← disjunction fuel (rest.drop 1)
          if isKeyword "else" behind then
            let (otherwise, behind) ← expression fuel (behind.drop 1)
            .ok (.choice condition value otherwise, behind)
          else if isMark ":" behind then refuse behind
          else reject "expected 'else' after 'if' expression" behind (front tokens).line
        else if startsExpression rest then adjacent fuel tokens value rest
        else .ok (value, rest)

def adjacent (fuel : Nat) (start : List Token) (value : Tree) (rest : List Token) :
    Except Refusal (Tree × List Token) :=
  match fuel with
  | 0 => refuse rest
  | fuel + 1 =>
      match disjunction fuel rest with
      | .error (.unexpected _) => refuse rest
      | .error refusal => .error refusal
      | .ok (_, behind) =>
          if value.isLegacyWord then
            reject (printMistake value.word) behind (front start).line
          else if mayLackComma start && (lastBefore rest behind).depth ≠ 0 then
            reject "invalid syntax. Perhaps you forgot a comma?" behind (front start).line
          else match brokenAt? (front behind) with
            | some fault => .error (.tokens fault)
            | none => refuse rest

def lambda (fuel : Nat) (tokens : List Token) : Except Refusal (Tree × List Token) :=
  match fuel with
  | 0 => refuse tokens
  | fuel + 1 => do
      let (_, rest) ← parameters fuel ":" tokens
      let rest ← expectMark ":" rest
      let (_, rest) ← expression fuel rest
      .ok (.unsupported "lambda", rest)

def parameters (fuel : Nat) (closing : String) (tokens : List Token) :
    Except Refusal ((List String × List Tree) × List Token) :=
  match fuel with
  | 0 => refuse tokens
  | fuel + 1 =>
      if isMark closing tokens then .ok (([], []), tokens)
      else match lexeme tokens with
        | .name word => do
            let (default, rest) ← if isMark "=" (tokens.drop 1) then do
                let (value, rest) ← expression fuel (tokens.drop 2)
                .ok ([value], rest)
              else .ok ([], tokens.drop 1)
            if isMark "," rest then
              let ((names, defaults), rest) ← parameters fuel closing (rest.drop 1)
              if default.length = 1 && defaults.length < names.length then
                reject "non-default argument follows default argument" rest
              else .ok ((word :: names, default ++ defaults), rest)
            else if isMark closing rest then .ok (([word], default), rest)
            else refuse rest
        | _ => refuse tokens

def disjunction (fuel : Nat) (tokens : List Token) : Except Refusal (Tree × List Token) :=
  match fuel with
  | 0 => refuse tokens
  | fuel + 1 => do
      let (left, rest) ← conjunction fuel tokens
      if isKeyword "or" rest then
        let (right, rest) ← disjunction fuel (rest.drop 1)
        .ok (.either left right, rest)
      else .ok (left, rest)

def conjunction (fuel : Nat) (tokens : List Token) : Except Refusal (Tree × List Token) :=
  match fuel with
  | 0 => refuse tokens
  | fuel + 1 => do
      let (left, rest) ← inversion fuel tokens
      if isKeyword "and" rest then
        let (right, rest) ← conjunction fuel (rest.drop 1)
        .ok (.both left right, rest)
      else .ok (left, rest)

def inversion (fuel : Nat) (tokens : List Token) : Except Refusal (Tree × List Token) :=
  match fuel with
  | 0 => refuse tokens
  | fuel + 1 => do
      if isKeyword "not" tokens then
        let (operand, rest) ← inversion fuel (tokens.drop 1)
        .ok (.unary .negate operand, rest)
      else
        let (first, rest) ← binary fuel binaryRows tokens
        let (others, rest) ← comparisons fuel rest
        .ok (if others.isEmpty then first else .compare first others, rest)

def comparisons (fuel : Nat) (tokens : List Token) :
    Except Refusal (List (Comparison × Tree) × List Token) :=
  match fuel with
  | 0 => refuse tokens
  | fuel + 1 => do
      match ← comparison? tokens with
      | none => .ok ([], tokens)
      | some (op, rest) =>
          let (operand, rest) ← binary fuel binaryRows rest
          let (others, rest) ← comparisons fuel rest
          .ok ((op, operand) :: others, rest)

def binary (fuel : Nat) (rows : List (List (String × BinaryOp))) (tokens : List Token) :
    Except Refusal (Tree × List Token) :=
  match fuel with
  | 0 => refuse tokens
  | fuel + 1 =>
      match rows with
      | [] => factor fuel tokens
      | row :: stronger => do
          let (first, rest) ← binary fuel stronger tokens
          binaryOn fuel row stronger first rest

def binaryOn (fuel : Nat) (row : List (String × BinaryOp))
    (stronger : List (List (String × BinaryOp))) (left : Tree) (tokens : List Token) :
    Except Refusal (Tree × List Token) :=
  match fuel with
  | 0 => refuse tokens
  | fuel + 1 =>
      match markIn? row tokens with
      | none => .ok (left, tokens)
      | some op => do
          let (right, rest) ← binary fuel stronger (tokens.drop 1)
          binaryOn fuel row stronger (.binary op left right) rest

def factor (fuel : Nat) (tokens : List Token) : Except Refusal (Tree × List Token) :=
  match fuel with
  | 0 => refuse tokens
  | fuel + 1 =>
      match markIn? [("+", UnaryOp.plus), ("-", .minus), ("~", .invert)] tokens with
      | some op => do
          let (operand, rest) ← factor fuel (tokens.drop 1)
          .ok (.unary op operand, rest)
      | none => do
          let (base, rest) ← atom fuel tokens
          let (base, rest) ← trailers fuel base rest
          if isMark "**" rest then
            let (exponent, rest) ← factor fuel (rest.drop 1)
            .ok (.binary .power base exponent, rest)
          else .ok (base, rest)

def trailers (fuel : Nat) (subject : Tree) (tokens : List Token) :
    Except Refusal (Tree × List Token) :=
  match fuel with
  | 0 => refuse tokens
  | fuel + 1 => do
      if isMark "." tokens then
        match lexeme (tokens.drop 1) with
        | .name word => trailers fuel (.attribute subject word) (tokens.drop 2)
        | _ => refuse (tokens.drop 1)
      else if isMark "(" tokens then
        let ((positional, named), rest) ← arguments fuel false (tokens.drop 1)
        trailers fuel (.call subject positional named) rest
      else if isMark "[" tokens then
        let (index, rest) ← subscripts fuel (tokens.drop 1)
        trailers fuel (.item subject index) rest
      else .ok (subject, tokens)

def arguments (fuel : Nat) (afterNamed : Bool) (tokens : List Token) :
    Except Refusal ((List Tree × List (String × Tree)) × List Token) :=
  match fuel with
  | 0 => refuse tokens
  | fuel + 1 => do
      if isMark ")" tokens then .ok (([], []), tokens.drop 1)
      else
        match lexeme tokens, isMark "=" (tokens.drop 1) with
        | .name word, true =>
            let (value, rest) ← expression fuel (tokens.drop 2)
            if isKeyword "for" rest then reject equalsMistake rest (front tokens).line
            else
              let ((positional, named), rest) ← moreArguments fuel true rest
              .ok ((positional, (word, value) :: named), rest)
        | _, _ =>
            let starred := isMark "*" tokens || isMark "**" tokens
            let (value, rest) ← expression fuel (if starred then tokens.drop 1 else tokens)
            let (value, rest) ← if starred then .ok (.unsupported "starred", rest)
              else if isMark ":=" rest then do
                let (_, rest) ← expression fuel (rest.drop 1)
                .ok (.unsupported "namedexpr", rest)
              else if isKeyword "for" rest then do
                let (_, rest) ← clauses fuel rest
                .ok (.unsupported "generatorexp", rest)
              else .ok (value, rest)
            if isMark "=" rest then
              match value with
              | .literal .none | .literal (.truth _) =>
                  reject (assignMistake value) rest (front tokens).line
              | _ => reject "expression cannot contain assignment, perhaps you meant \"==\"?" rest
            else if afterNamed && !starred then
              reject "positional argument follows keyword argument" rest
            else
              let ((positional, named), rest) ← moreArguments fuel afterNamed rest
              .ok ((value :: positional, named), rest)

def moreArguments (fuel : Nat) (afterNamed : Bool) (tokens : List Token) :
    Except Refusal ((List Tree × List (String × Tree)) × List Token) :=
  match fuel with
  | 0 => refuse tokens
  | fuel + 1 =>
      if isMark ")" tokens then .ok (([], []), tokens.drop 1)
      else if isMark "," tokens then arguments fuel afterNamed (tokens.drop 1)
      else refuse tokens

def subscripts (fuel : Nat) (tokens : List Token) : Except Refusal (Tree × List Token) :=
  match fuel with
  | 0 => refuse tokens
  | fuel + 1 => do
      let (first, rest) ← subscript fuel tokens
      if isMark "]" rest then .ok (first, rest.drop 1)
      else
        let rest ← expectMark "," rest
        let (others, rest) ← moreSubscripts fuel rest
        .ok (.tuple (first :: others), rest)

def moreSubscripts (fuel : Nat) (tokens : List Token) :
    Except Refusal (List Tree × List Token) :=
  match fuel with
  | 0 => refuse tokens
  | fuel + 1 => do
      if isMark "]" tokens then .ok ([], tokens.drop 1)
      else
        let (first, rest) ← subscript fuel tokens
        if isMark "]" rest then .ok ([first], rest.drop 1)
        else
          let rest ← expectMark "," rest
          let (others, rest) ← moreSubscripts fuel rest
          .ok (first :: others, rest)

def subscript (fuel : Nat) (tokens : List Token) : Except Refusal (Tree × List Token) :=
  match fuel with
  | 0 => refuse tokens
  | fuel + 1 => do
      let (start, rest) ← if isMark ":" tokens then .ok (none, tokens) else do
        let (value, rest) ← namedItem fuel tokens
        .ok (some value, rest)
      if isMark ":" rest then
        let (stop, rest) ← bound fuel (rest.drop 1)
        let (step, rest) ← if isMark ":" rest then bound fuel (rest.drop 1)
          else .ok (none, rest)
        .ok (.slice start stop step, rest)
      else match start with
        | some value => .ok (value, rest)
        | none => refuse rest

def bound (fuel : Nat) (tokens : List Token) : Except Refusal (Option Tree × List Token) :=
  match fuel with
  | 0 => refuse tokens
  | fuel + 1 =>
      if isMark ":" tokens || isMark "]" tokens || isMark "," tokens then .ok (none, tokens)
      else do
        let (value, rest) ← expression fuel tokens
        .ok (some value, rest)

def namedItem (fuel : Nat) (tokens : List Token) : Except Refusal (Tree × List Token) :=
  match fuel with
  | 0 => refuse tokens
  | fuel + 1 => do
      if isMark "*" tokens then
        let (_, rest) ← binary fuel binaryRows (tokens.drop 1)
        .ok (.unsupported "starred", rest)
      else
        let (value, rest) ← expression fuel tokens
        if isMark ":=" rest then
          match value with
          | .name _ =>
              let (_, rest) ← expression fuel (rest.drop 1)
              .ok (.unsupported "namedexpr", rest)
          | _ =>
              reject ("cannot use assignment expressions with " ++ value.description) rest
        else if isMark "=" rest then
          let (_, behind) ← confused fuel rest
          match value with
          | .name _ => reject equalsMistake behind (front tokens).line
          | _ =>
              if value.suggestsComparison then
                reject (comparisonMistake value) behind (front tokens).line
              else refuse rest
        else .ok (value, rest)

def confused (fuel : Nat) (rest : List Token) : Except Refusal (Tree × List Token) :=
  match fuel with
  | 0 => refuse rest
  | fuel + 1 =>
      match binary fuel binaryRows (rest.drop 1) with
      | .ok (value, behind) =>
          if isMark "=" behind || isMark ":=" behind then refuse rest else .ok (value, behind)
      | .error (.unexpected _) => refuse rest
      | .error refusal => .error refusal

/-- Items up to a closing bracket, which is included; the flag tells whether a comma was seen. -/
def items (fuel : Nat) (closing : String) (tokens : List Token) :
    Except Refusal ((List Tree × Bool) × List Token) :=
  match fuel with
  | 0 => refuse tokens
  | fuel + 1 => do
      if isMark closing tokens then .ok (([], false), tokens.drop 1)
      else
        let (first, rest) ← namedItem fuel tokens
        if isMark closing rest then .ok (([first], false), rest.drop 1)
        else
          let rest ← expectMark "," rest
          let ((others, _), rest) ← items fuel closing rest
          .ok ((first :: others, true), rest)

def clauses (fuel : Nat) (tokens : List Token) :
    Except Refusal (List (Tree × Tree × List Tree) × List Token) :=
  match fuel with
  | 0 => refuse tokens
  | fuel + 1 => do
      if isKeyword "for" tokens then
        let (target, rest) ← targetList fuel (tokens.drop 1)
        let rest ← expectKeyword "in" rest
        let (source, rest) ← disjunction fuel rest
        let (tests, rest) ← conditions fuel rest
        let (others, rest) ← clauses fuel rest
        .ok ((target, source, tests) :: others, rest)
      else .ok ([], tokens)

def conditions (fuel : Nat) (tokens : List Token) : Except Refusal (List Tree × List Token) :=
  match fuel with
  | 0 => refuse tokens
  | fuel + 1 => do
      if isKeyword "if" tokens then
        let (first, rest) ← disjunction fuel (tokens.drop 1)
        let (others, rest) ← conditions fuel rest
        .ok (first :: others, rest)
      else .ok ([], tokens)

def targetList (fuel : Nat) (tokens : List Token) : Except Refusal (Tree × List Token) :=
  match fuel with
  | 0 => refuse tokens
  | fuel + 1 => do
      let (first, rest) ← target fuel tokens
      let (others, rest) ← moreTargets fuel rest
      let whole := match others with
        | none => first
        | some others => .tuple (first :: others)
      match whole.firstInvalid? with
      | some invalid => reject (assignMistake invalid) rest (front tokens).line
      | none => .ok (whole, rest)

def moreTargets (fuel : Nat) (tokens : List Token) :
    Except Refusal (Option (List Tree) × List Token) :=
  match fuel with
  | 0 => refuse tokens
  | fuel + 1 => do
      if isMark "," tokens then
        if isKeyword "in" (tokens.drop 1) then .ok (some [], tokens.drop 1)
        else
          let (first, rest) ← target fuel (tokens.drop 1)
          let (others, rest) ← moreTargets fuel rest
          .ok (some (first :: others.getD []), rest)
      else .ok (none, tokens)

def target (fuel : Nat) (tokens : List Token) : Except Refusal (Tree × List Token) :=
  match fuel with
  | 0 => refuse tokens
  | fuel + 1 => do
      if isMark "*" tokens then
        let (_, rest) ← binary fuel binaryRows (tokens.drop 1)
        .ok (.unsupported "starred", rest)
      else binary fuel binaryRows tokens

def atom (fuel : Nat) (tokens : List Token) : Except Refusal (Tree × List Token) :=
  match fuel with
  | 0 => refuse tokens
  | fuel + 1 =>
      let rest := tokens.drop 1
      match lexeme tokens with
      | .name word => .ok (.name word, rest)
      | .number value => .ok (.literal value, rest)
      | .keyword "None" => .ok (.literal .none, rest)
      | .keyword "True" => .ok (.literal (.truth true), rest)
      | .keyword "False" => .ok (.literal (.truth false), rest)
      | .text _ | .misspelt _ =>
          let (value, rest) := texts tokens
          match value, lexeme rest with
          | .error fault, _ => reject fault rest (front tokens).line
          | .ok _, .unsupported form => .ok (.unsupported form, rest.drop 1)
          | .ok value, _ => .ok (.literal (.text value), rest)
      | .unsupported form => .ok (.unsupported form, rest)
      | .mark "..." => .ok (.unsupported "ellipsis", rest)
      | .mark "(" => group fuel rest
      | .mark "[" => listDisplay fuel rest
      | .mark "\x7b" => dictDisplay fuel rest
      | _ => refuse tokens

def group (fuel : Nat) (tokens : List Token) : Except Refusal (Tree × List Token) :=
  match fuel with
  | 0 => refuse tokens
  | fuel + 1 => do
      if isMark ")" tokens then .ok (.tuple [], tokens.drop 1)
      else
        let (first, rest) ← namedItem fuel tokens
        if isMark ")" rest then .ok (first, rest.drop 1)
        else if isKeyword "for" rest then
          let (_, rest) ← clauses fuel rest
          let rest ← expectMark ")" rest
          .ok (.unsupported "generatorexp", rest)
        else
          let rest ← expectMark "," rest
          let ((others, _), rest) ← items fuel ")" rest
          .ok (.tuple (first :: others), rest)

def listDisplay (fuel : Nat) (tokens : List Token) : Except Refusal (Tree × List Token) :=
  match fuel with
  | 0 => refuse tokens
  | fuel + 1 => do
      if isMark "]" tokens then .ok (.list [], tokens.drop 1)
      else
        let (first, rest) ← namedItem fuel tokens
        if isMark "]" rest then .ok (.list [first], rest.drop 1)
        else if isKeyword "for" rest then
          let (parts, rest) ← clauses fuel rest
          let rest ← expectMark "]" rest
          .ok (.collect first parts, rest)
        else
          let rest ← expectMark "," rest
          let ((others, _), rest) ← items fuel "]" rest
          .ok (.list (first :: others), rest)

def dictDisplay (fuel : Nat) (tokens : List Token) : Except Refusal (Tree × List Token) :=
  match fuel with
  | 0 => refuse tokens
  | fuel + 1 => do
      if isMark "\x7d" tokens then .ok (.dict [], tokens.drop 1)
      else
        let (key, rest) ← namedItem fuel tokens
        if isMark ":" rest then
          let (value, rest) ← dictValue fuel rest
          if isKeyword "for" rest then
            let (_, rest) ← clauses fuel rest
            let rest ← expectMark "\x7d" rest
            .ok (.unsupported "dictcomp", rest)
          else
            let (others, rest) ← moreEntries fuel rest
            .ok (.dict ((key, value) :: others), rest)
        else if isMark "\x7d" rest then .ok (.unsupported "set", rest.drop 1)
        else if isKeyword "for" rest then
          let (_, rest) ← clauses fuel rest
          let rest ← expectMark "\x7d" rest
          .ok (.unsupported "setcomp", rest)
        else
          let rest ← expectMark "," rest
          let (_, rest) ← items fuel "\x7d" rest
          .ok (.unsupported "set", rest)

def dictValue (fuel : Nat) (tokens : List Token) : Except Refusal (Tree × List Token) :=
  match fuel with
  | 0 => refuse tokens
  | fuel + 1 =>
      if isMark "\x7d" (tokens.drop 1) || isMark "," (tokens.drop 1) then
        reject "expression expected after dictionary key and ':'" (tokens.drop 1)
          (front tokens).line
      else expression fuel (tokens.drop 1)

def moreEntries (fuel : Nat) (tokens : List Token) :
    Except Refusal (List (Tree × Tree) × List Token) :=
  match fuel with
  | 0 => refuse tokens
  | fuel + 1 => do
      if isMark "\x7d" tokens then .ok ([], tokens.drop 1)
      else
        let rest ← expectMark "," tokens
        if isMark "\x7d" rest then .ok ([], rest.drop 1)
        else
          let (key, rest) ← expression fuel rest
          if !isMark ":" rest then
            reject "':' expected after dictionary key" rest
          else
            let (value, rest) ← dictValue fuel rest
            let (others, rest) ← moreEntries fuel rest
            .ok ((key, value) :: others, rest)

end

end Parser

end ExScript.Expr
