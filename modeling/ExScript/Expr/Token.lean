import ExScript.Expr.Tree

/-!
Tokens of the expression language, each with its line and the number of brackets open behind it.
A sequence of tokens ends with its end mark, with a fault that stops the reading, or with a bracket
that the source leaves open.
-/

namespace ExScript.Expr

structure Malformed where
  text : String
  line : Nat
  deriving DecidableEq, Repr

def Malformed.report (fault : Malformed) : String :=
  fault.text ++ " (<unknown>, line " ++ toString fault.line ++ ")"

inductive Lexeme where
  | name (text : String)
  | keyword (text : String)
  | number (value : Literal)
  | text (value : String)
  | misspelt (fault : String)
  | mark (text : String)
  | unsupported (form : String)
  | newline
  | indent
  | dedent
  | finish
  /-- A fault that is `firm` also takes the place of a refusal further up. -/
  | broken (firm : Bool) (fault : Malformed)
  | unclosed (bracket : Char) (opened : Nat)
  deriving DecidableEq, Repr

structure Token where
  lexeme : Lexeme
  line : Nat
  depth : Nat
  deriving DecidableEq, Repr

def keywords : List String :=
  ["False", "None", "True", "and", "as", "assert", "async", "await", "break", "class", "continue",
    "def", "del", "elif", "else", "except", "finally", "for", "from", "global", "if", "import",
    "in", "is", "lambda", "nonlocal", "not", "or", "pass", "raise", "return", "try", "while",
    "with", "yield"]

def neverClosed (bracket : Char) (opened : Nat) : Malformed :=
  ⟨"'" ++ String.ofList [bracket] ++ "' was never closed", opened⟩

end ExScript.Expr
