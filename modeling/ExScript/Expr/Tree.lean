/-!
Programs of the expression language as trees: expressions, and the statements they are used in.
-/

namespace ExScript.Expr

inductive Literal where
  | none
  | truth (value : Bool)
  | whole (value : Nat)
  | decimal (mantissa : Nat) (exponent : Int)
  | text (value : String)
  deriving DecidableEq, Repr, Inhabited

inductive UnaryOp where
  | plus
  | minus
  | invert
  | negate
  deriving DecidableEq, Repr

inductive BinaryOp where
  | add
  | subtract
  | multiply
  | divide
  | floorDivide
  | remainder
  | power
  | shiftLeft
  | shiftRight
  | meet
  | join
  | differ
  | matrix
  deriving DecidableEq, Repr

inductive Comparison where
  | equal
  | unequal
  | less
  | lessEqual
  | greater
  | greaterEqual
  | within
  | notWithin
  | same
  | notSame
  deriving DecidableEq, Repr

/-- `unsupported` stands for a form that can be written and not evaluated. -/
inductive Tree where
  | literal (value : Literal)
  | name (text : String)
  | list (items : List Tree)
  | tuple (items : List Tree)
  | dict (pairs : List (Tree × Tree))
  | unary (op : UnaryOp) (operand : Tree)
  | binary (op : BinaryOp) (left right : Tree)
  | both (left right : Tree)
  | either (left right : Tree)
  | compare (first : Tree) (rest : List (Comparison × Tree))
  | choice (condition whenTrue whenFalse : Tree)
  | call (callee : Tree) (arguments : List Tree) (named : List (String × Tree))
  | attribute (subject : Tree) (name : String)
  | item (subject index : Tree)
  | slice (start stop step : Option Tree)
  | collect (element : Tree) (clauses : List (Tree × Tree × List Tree))
  | unsupported (form : String)
  deriving Inhabited

inductive Statement where
  | expression (tree : Tree)
  | assign (targets : List Tree) (value : Tree)
  | update (op : BinaryOp) (target value : Tree)
  | branch (condition : Tree) (whenTrue whenFalse : List Statement)
  | repeatWhile (condition : Tree) (body otherwise : List Statement)
  | forEach (target source : Tree) (body otherwise : List Statement)
  | define (name : String) (parameters : List String) (defaults : List Tree)
      (body : List Statement)
  | giveBack (value : Option Tree)
  | raise (error cause : Option Tree)
  | check (condition : Tree) (message : Option Tree)
  | skip
  | leave
  | again
  | load
  | unsupported (form : String)
  deriving Inhabited

end ExScript.Expr
