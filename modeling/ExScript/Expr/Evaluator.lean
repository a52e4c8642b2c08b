import ExScript.Expr.Evaluation
import ExScript.Expr.Program
import ExScript.Fault

/-!
The evaluator that scripts use: one table of names that lasts, and scopes made from it for single
evaluations. Everything that goes wrong is one kind of script error, which names the expression and
gives the last line of the reason.
-/

namespace ExScript.Expr

def isLineBreak (c : Char) : Bool :=
  let code := c.toNat
  (0x0A ≤ code && code ≤ 0x0D) || (0x1C ≤ code && code ≤ 0x1E) || code = 0x85 ||
    code = 0x2028 || code = 0x2029

def lastLine (text : String) : String :=
  let chars := (Text.stripChars text.toList).reverse
  String.ofList (chars.takeWhile (!isLineBreak ·)).reverse

def invalidExpression (source : String) (mistake : Mistake) : ScriptError :=
  .expression ("E15: Invalid expression: " ++ Text.quote source ++ " (" ++
    lastLine mistake.report ++ ")")

def emptyExpression : ScriptError :=
  .expression "E15: Invalid expression: empty"

def maxSource : Nat := 50000

def parseOrMistake (source : String) : Except Mistake (List Statement) :=
  if maxSource < source.length then .error (.ofLimit "")
  else if source.toList.contains '\x00' then
    .error (.raised "SyntaxError" "source code string cannot contain null bytes")
  else match parse source with
    | .ok program => .ok program
    | .error fault => .error (.raised "SyntaxError" fault.report)

namespace World

def withNames (world : World) (names : List (String × Value)) : World :=
  { world with
    user := Table.insertAll ∅ names
    given := names.map (·.1) }

def newScope (world : World) : Scope × World :=
  (.fresh world.fresh.size, { world with fresh := world.fresh.push world.userTable })

def define (world : World) (name : String) (value : Value) : Except ScriptError World :=
  if Text.isIdentifier name then .ok (world.bind .user name value)
  else .error (.expression ("Illegal variable name: " ++ name))

def userNames (world : World) : List (String × Value) :=
  world.userTable.entries.mergeSort fun left right => left.1 ≤ right.1

def userValues (world : World) : List (String × Value) :=
  world.userNames.filter fun (_, value) => !world.isCallable value

def runIn (world : World) (outside : Outside) (scope : Scope) (source : String) :
    Except ScriptError Value × World :=
  let text := Text.strip source
  if text = "" then (.error emptyExpression, world)
  else match parseOrMistake text with
    | .error mistake => (.error (invalidExpression text mistake), world)
    | .ok program =>
        match (runProgram { outside, scope } program).run world with
        | .ok value world => (.ok value, world)
        | .error mistake world => (.error (invalidExpression text mistake), world)

def evaluate (world : World) (outside : Outside) (source : String) :
    Except ScriptError Value × World :=
  let (scope, world) := world.newScope
  world.runIn outside scope source

def execute (world : World) (outside : Outside) (source : String) :
    Except ScriptError Value × World :=
  world.runIn outside .user source

end World

end ExScript.Expr
