import ExScript.Expr.Tree

/-!
What may stand on the left of an assignment, and what a tree that may not is called.
-/

namespace ExScript.Expr

namespace Tree

def description : Tree → String
  | .literal .none => "None"
  | .literal (.truth true) => "True"
  | .literal (.truth false) => "False"
  | .literal _ => "literal"
  | .name _ => "name"
  | .list _ => "list"
  | .tuple _ => "tuple"
  | .dict _ => "dict literal"
  | .unary .. | .binary .. | .both .. | .either .. => "expression"
  | .compare .. => "comparison"
  | .choice .. => "conditional expression"
  | .call .. => "function call"
  | .attribute .. => "attribute"
  | .item .. => "subscript"
  | .slice .. => "slice"
  | .collect .. => "list comprehension"
  | .unsupported form =>
      if form = "lambda" then "lambda"
      else if form = "ellipsis" then "ellipsis"
      else if form = "generatorexp" then "generator expression"
      else if form = "namedexpr" then "named expression"
      else if form = "joinedstr" then "f-string expression"
      else if form = "set" then "set display"
      else "literal"

mutual

def firstInvalid? : Tree → Option Tree
  | .name _ => none
  | .item .. => none
  | .attribute .. => none
  | .list items => firstInvalidOf? items
  | .tuple items => firstInvalidOf? items
  | .unsupported form => if form = "starred" then none else some (.unsupported form)
  | tree => some tree

def firstInvalidOf? : List Tree → Option Tree
  | [] => none
  | first :: rest => (firstInvalid? first).or (firstInvalidOf? rest)

end

def isSingleTarget : Tree → Bool
  | .name _ => true
  | .item .. => true
  | .attribute .. => true
  | _ => false

/-- Words that were statements once, and are called like functions now. -/
def isLegacyWord : Tree → Bool
  | .name word => word = "print" || word = "exec"
  | _ => false

def word : Tree → String
  | .name word => word
  | _ => ""

def suggestsComparison : Tree → Bool
  | .literal .none | .literal (.truth _) => false
  | .literal _ | .dict _ | .unary .plus _ | .unary .minus _ | .unary .invert _ | .binary .. => true
  | .call .. | .attribute .. | .item .. | .collect .. => true
  | .unsupported form => form ≠ "lambda" && form ≠ "namedexpr" && form ≠ "generatorexp"
  | _ => false

end Tree

end ExScript.Expr
