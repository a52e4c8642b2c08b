import ExScript.Shell.Parse

/-!
Sums of the shell: expressions over words of 64 bits, with the values of variables, assignments to
them, and a choice between two values. A name without a value counts as zero.
-/

namespace ExScript.Shell

inductive SumFault where
  | wantsOperand
  | wantsEnd
  | wantsColon
  | wantsBracket
  | divisionByZero
  | noNumber (text : List Char)
  deriving DecidableEq, Repr

def SumFault.report (fault : SumFault) (expression : List Char) : List Char :=
  let inside (what : String) : List Char :=
    ("arithmetic expression: " ++ what ++ ": \"").toList ++ expression ++ ['"']
  match fault with
  | .wantsOperand => inside "expecting primary"
  | .wantsEnd => inside "expecting EOF"
  | .wantsColon => inside "expecting ':'"
  | .wantsBracket => inside "expecting ')'"
  | .divisionByZero => inside "division by zero"
  | .noNumber text => "Illegal number: ".toList ++ text

inductive BinaryOp where
  | times
  | quotient
  | remainder
  | plus
  | minus
  | shiftLeft
  | shiftRight
  | less
  | atMost
  | greater
  | atLeast
  | equal
  | different
  | bitAnd
  | bitXor
  | bitOr
  deriving DecidableEq, Repr

inductive UnaryOp where
  | minus
  | complement
  | negation
  deriving DecidableEq, Repr

inductive Sum where
  | number (value : Int64)
  | named (name : String)
  | unary (op : UnaryOp) (operand : Sum)
  | binary (op : BinaryOp) (left right : Sum)
  | both (left right : Sum)
  | either (left right : Sum)
  | choice (condition whenTrue whenFalse : Sum)
  | assign (name : String) (op : Option BinaryOp) (value : Sum)
  deriving Repr

namespace Sum

def levels : List (List (String × BinaryOp)) :=
  [[("|", .bitOr)], [("^", .bitXor)], [("&", .bitAnd)], [("==", .equal), ("!=", .different)],
    [("<", .less), ("<=", .atMost), (">", .greater), (">=", .atLeast)],
    [("<<", .shiftLeft), (">>", .shiftRight)], [("+", .plus), ("-", .minus)],
    [("*", .times), ("/", .quotient), ("%", .remainder)]]

def assignments : List (String × Option BinaryOp) :=
  [("=", none), ("*=", some .times), ("/=", some .quotient), ("%=", some .remainder),
    ("+=", some .plus), ("-=", some .minus), ("<<=", some .shiftLeft), (">>=", some .shiftRight),
    ("&=", some .bitAnd), ("^=", some .bitXor), ("|=", some .bitOr)]

def unaries : List (String × UnaryOp) :=
  [("-", .minus), ("~", .complement), ("!", .negation)]

def marks : List String :=
  ["<<=", ">>=", "<<", ">>", "<=", ">=", "==", "!=", "&&", "||", "*=", "/=", "%=", "+=", "-=",
    "&=", "^=", "|=", "=", "<", ">", "+", "-", "*", "/", "%", "&", "^", "|", "~", "!", "(", ")",
    "?", ":"]

inductive Token where
  | number (value : Int64)
  | name (text : String)
  | mark (text : String)
  | other
  deriving DecidableEq, Repr

def digitValue (c : Char) : Nat :=
  if c.isDigit then c.toNat - 0x30
  else if 'a' ≤ c && c ≤ 'f' then c.toNat - 0x57
  else if 'A' ≤ c && c ≤ 'F' then c.toNat - 0x37
  else 16

def numeral (chars : List Char) : Nat × Nat :=
  let hexadecimal := fun (c : Char) => digitValue c < 16
  let digits (base : Nat) (chars : List Char) : List Char :=
    chars.takeWhile fun c => digitValue c < base
  let value (base : Nat) (digits : List Char) : Nat :=
    digits.foldl (fun value c => base * value + digitValue c) 0
  match chars with
  | '0' :: x :: c :: rest =>
      if (x = 'x' || x = 'X') && hexadecimal c then
        (value 16 (digits 16 (c :: rest)), (digits 16 (c :: rest)).length + 2)
      else (value 8 (digits 8 chars), (digits 8 chars).length)
  | '0' :: _ => (value 8 (digits 8 chars), (digits 8 chars).length)
  | _ => (value 10 (digits 10 chars), (digits 10 chars).length)

def bounded (value : Nat) : Int64 :=
  Int64.ofNat (min value (Nat.pow 2 63 - 1))

def isBlank (c : Char) : Bool :=
  c = ' ' || c = '\t' || c = '\n'

def tokens : (fuel : Nat) → List Char → List Token
  | 0, _ => []
  | fuel + 1, chars =>
      match chars.dropWhile isBlank with
      | [] => []
      | c :: rest =>
          let chars := c :: rest
          if Parser.isNameStart c then
            let name := chars.takeWhile Parser.isNameChar
            .name (String.ofList name) :: tokens fuel (chars.drop name.length)
          else if c.isDigit then
            let (value, length) := numeral chars
            .number (bounded value) :: tokens fuel (chars.drop length)
          else
            match marks.find? fun mark => mark.toList.isPrefixOf chars with
            | some mark => .mark mark :: tokens fuel (chars.drop mark.length)
            | none => [.other]

def marked? {α : Type} (table : List (String × α)) : List Token → Option (α × List Token)
  | .mark mark :: rest => (table.lookup mark).map fun found => (found, rest)
  | _ => none

mutual

def expression (fuel : Nat) (tokens : List Token) : Except SumFault (Sum × List Token) :=
  match fuel with
  | 0 => .error .wantsOperand
  | fuel + 1 =>
      match tokens with
      | .name name :: rest =>
          match marked? assignments rest with
          | some (op, rest) => do
              let (value, rest) ← expression fuel rest
              .ok (.assign name op value, rest)
          | none => choosing fuel tokens
      | _ => choosing fuel tokens

def choosing (fuel : Nat) (tokens : List Token) : Except SumFault (Sum × List Token) :=
  match fuel with
  | 0 => .error .wantsOperand
  | fuel + 1 => do
      let (condition, rest) ← disjunction fuel tokens
      match rest with
      | .mark "?" :: rest => do
          let (whenTrue, rest) ← expression fuel rest
          match rest with
          | .mark ":" :: rest => do
              let (whenFalse, rest) ← choosing fuel rest
              .ok (.choice condition whenTrue whenFalse, rest)
          | _ => .error .wantsColon
      | rest => .ok (condition, rest)

def disjunction (fuel : Nat) (tokens : List Token) : Except SumFault (Sum × List Token) :=
  match fuel with
  | 0 => .error .wantsOperand
  | fuel + 1 => do
      let (left, rest) ← conjunction fuel tokens
      match rest with
      | .mark "||" :: rest => do
          let (right, rest) ← disjunction fuel rest
          .ok (.either left right, rest)
      | rest => .ok (left, rest)

def conjunction (fuel : Nat) (tokens : List Token) : Except SumFault (Sum × List Token) :=
  match fuel with
  | 0 => .error .wantsOperand
  | fuel + 1 => do
      let (left, rest) ← chain fuel levels tokens
      match rest with
      | .mark "&&" :: rest => do
          let (right, rest) ← conjunction fuel rest
          .ok (.both left right, rest)
      | rest => .ok (left, rest)

def chain (fuel : Nat) (levels : List (List (String × BinaryOp))) (tokens : List Token) :
    Except SumFault (Sum × List Token) :=
  match fuel with
  | 0 => .error .wantsOperand
  | fuel + 1 =>
      match levels with
      | [] => operand fuel tokens
      | level :: tighter => do
          let (left, rest) ← chain fuel tighter tokens
          chainFrom fuel level tighter left rest

def chainFrom (fuel : Nat) (level : List (String × BinaryOp))
    (tighter : List (List (String × BinaryOp))) (left : Sum) (tokens : List Token) :
    Except SumFault (Sum × List Token) :=
  match fuel with
  | 0 => .error .wantsOperand
  | fuel + 1 =>
      match marked? level tokens with
      | some (op, rest) => do
          let (right, rest) ← chain fuel tighter rest
          chainFrom fuel level tighter (.binary op left right) rest
      | none => .ok (left, tokens)

def operand (fuel : Nat) (tokens : List Token) : Except SumFault (Sum × List Token) :=
  match fuel with
  | 0 => .error .wantsOperand
  | fuel + 1 =>
      match tokens with
      | .number value :: rest => .ok (.number value, rest)
      | .name name :: rest => .ok (.named name, rest)
      | .mark "(" :: rest => do
          let (inner, rest) ← expression fuel rest
          match rest with
          | .mark ")" :: rest => .ok (inner, rest)
          | _ => .error .wantsBracket
      | .mark "+" :: rest => operand fuel rest
      | _ =>
          match marked? unaries tokens with
          | some (op, rest) => do
              let (inner, rest) ← operand fuel rest
              .ok (.unary op inner, rest)
          | none => .error .wantsOperand

end

def parse (text : List Char) : Except SumFault Sum := do
  let tokens := tokens text.length text
  let (sum, rest) ← expression (16 * tokens.length + 16) tokens
  if rest.isEmpty then .ok sum else .error .wantsEnd

def truth (holds : Bool) : Int64 :=
  if holds then 1 else 0

end Sum

def UnaryOp.apply (op : UnaryOp) (value : Int64) : Int64 :=
  match op with
  | .minus => -value
  | .complement => ~~~value
  | .negation => Sum.truth (value = 0)

def BinaryOp.apply (op : BinaryOp) (left right : Int64) : Except SumFault Int64 :=
  match op with
  | .times => .ok (left * right)
  | .quotient => if right = 0 then .error .divisionByZero else .ok (left / right)
  | .remainder => if right = 0 then .error .divisionByZero else .ok (left % right)
  | .plus => .ok (left + right)
  | .minus => .ok (left - right)
  | .shiftLeft => .ok (left <<< right)
  | .shiftRight => .ok (left >>> right)
  | .less => .ok (Sum.truth (left < right))
  | .atMost => .ok (Sum.truth (left ≤ right))
  | .greater => .ok (Sum.truth (right < left))
  | .atLeast => .ok (Sum.truth (right ≤ left))
  | .equal => .ok (Sum.truth (left = right))
  | .different => .ok (Sum.truth (left ≠ right))
  | .bitAnd => .ok (left &&& right)
  | .bitXor => .ok (left ^^^ right)
  | .bitOr => .ok (left ||| right)

namespace Sum

abbrev Bindings := List (String × List Char)

abbrev Reckoning := StateT Bindings (Except SumFault)

def numberOf (value : List Char) : Except SumFault Int64 :=
  let chars := value.dropWhile isBlank
  if chars.isEmpty then .ok 0
  else
    let (negative, chars) := match chars with
      | '-' :: rest => (true, rest)
      | '+' :: rest => (false, rest)
      | _ => (false, chars)
    let (found, length) := numeral chars
    if length = 0 || !(chars.drop length).all isBlank then .error (.noNumber value)
    else if negative then .ok (Int64.ofInt (max (-Int.pow 2 63) (-(found : Int))))
    else .ok (bounded found)

def lookupNumber (name : String) : Reckoning Int64 := do
  let bindings ← get
  numberOf ((bindings.lookup name).getD [])

def evaluate : Sum → Reckoning Int64
  | .number value => pure value
  | .named name => lookupNumber name
  | .unary op operand => do
      pure (op.apply (← evaluate operand))
  | .binary op left right => do
      let left ← evaluate left
      let right ← evaluate right
      op.apply left right
  | .both left right => do
      let left ← evaluate left
      if left = 0 then pure 0
      else
        let right ← evaluate right
        pure (truth (right ≠ 0))
  | .either left right => do
      let left ← evaluate left
      if left ≠ 0 then pure 1
      else
        let right ← evaluate right
        pure (truth (right ≠ 0))
  | .choice condition whenTrue whenFalse => do
      let condition ← evaluate condition
      if condition ≠ 0 then evaluate whenTrue else evaluate whenFalse
  | .assign name op value => do
      let value ← evaluate value
      let value ← match op with
        | none => pure value
        | some op => do
            let old ← lookupNumber name
            op.apply old value
      modify fun bindings =>
        (name, (toString value.toInt).toList) :: bindings.filter fun (other, _) => other != name
      pure value

end Sum

def sumOf (text : List Char) (bindings : Sum.Bindings) :
    Except SumFault (Int × Sum.Bindings) := do
  let sum ← Sum.parse text
  let (value, bindings) ← (sum.evaluate).run bindings
  .ok (value.toInt, bindings)

end ExScript.Shell
