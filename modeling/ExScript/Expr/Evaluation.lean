import ExScript.Expr.Method

/-!
Running programs of the expression language. Steps are counted down to keep every run finite; a run
that needs more is a mistake of its own.
-/

namespace ExScript.Expr

structure Setting where
  outside : Outside
  scope : Scope
  inside : Bool := false

variable {α : Type}

inductive Signal where
  | next
  | leave
  | again
  | back (value : Value)

def maxTurns : Nat := 1000000000

def runAll (run : Statement → Eval Signal) : List Statement → Eval Signal
  | [] => pure .next
  | statement :: rest => do
      match ← run statement with
      | .next => runAll run rest
      | signal => pure signal

def loopWhile (test : Eval Bool) (body otherwise : Eval Signal) : (turns : Nat) → Eval Signal
  | 0 => throw .exhausted
  | turns + 1 => do
      if ← test then
        match ← body with
        | .leave => pure .next
        | .back value => pure (.back value)
        | _ => loopWhile test body otherwise turns
      else otherwise

def World.isResized (world : World) (source : Value) (size : Nat) : Bool :=
  match source with
  | .object address =>
      match world.object address with
      | .dict entries => entries.length ≠ size
      | _ => false
  | _ => false

def loopOver (source : Value) (size : Nat) (assign : Value → Eval Unit)
    (body otherwise : Eval Signal) : (turns : Nat) → (place : Nat) → Eval Signal
  | 0, _ => throw .exhausted
  | turns + 1, place => do
      let world ← get
      if world.isResized source size then
        throw (.raised "RuntimeError" "dictionary changed size during iteration")
      match world.part? source place with
      | none => otherwise
      | some part => do
          assign part
          match ← body with
          | .leave => pure .next
          | .back value => pure (.back value)
          | _ => loopOver source size assign body otherwise turns (place + 1)

/-- The first mistake of a comparison stops the chain, and so does the first that is false. -/
def compareChain (operand : Tree → Eval Value) (left : Value) :
    List (Comparison × Tree) → Eval Bool
  | [] => pure true
  | (comparison, tree) :: rest => do
      let right ← operand tree
      if ← compareValues comparison left right then compareChain operand right rest
      else pure false

def failedCall (world : World) (name : String) (arguments : List Value)
    (named : List (String × Value)) (mistake : Mistake) : Mistake :=
  let keywords := named.map fun (key, value) => Text.quote key ++ ": " ++ world.written value
  if (arguments ++ named.map (·.2)).any world.isOversized then .ofValue tooManyDigits
  else .raised mistake.kind ("Error running function '" ++ name ++ "' with args '[" ++
    Text.joinWith ", " (arguments.map world.written) ++ "]' and kwargs \x7b" ++
    Text.joinWith ", " keywords ++ "\x7d: " ++ mistake.text)

def calling (name : String) (arguments : List Value) (named : List (String × Value))
    (call : Eval Value) : Eval Value :=
  tryCatch call fun mistake => do
    throw (failedCall (← get) name arguments named mistake)

def notCallable (value : Value) : Eval Unit := do
  let world ← get
  if world.isCallable value then pure ()
  else throw (.ofType ("'" ++ world.shown value ++ "' is not callable!!"))

def bindArguments (procedure : Procedure) (arguments : List Value)
    (named : List (String × Value)) : Except Mistake (List (String × Value)) :=
  let required := procedure.required
  let missing := (required.drop arguments.length).map fun name => (name, named.lookup name)
  let positional := (required ++ procedure.optional.map (·.1)).zip arguments
  let most := required.length + procedure.optional.length
  if missing.any fun (_, value) => value.isNone then
    .error (.ofType ("not enough arguments for Procedure " ++ procedure.name ++ "() (expected " ++
      toString required.length ++ ", got " ++ toString arguments.length))
  else if most < arguments.length then
    .error (.ofType ("too many arguments for Procedure " ++ procedure.name ++
      "() (expected at most " ++ toString most ++ ", got " ++ toString arguments.length ++ ")"))
  else .ok (procedure.optional ++ named ++ positional)

def raisedText (parts : List Value) : Eval String := do
  let world ← get
  let texts ← parts.zipIdx.mapM fun (part, index) => match part with
    | .text text => pure text
    | _ => throw (.ofType ("sequence item " ++ toString index ++
        ": expected str instance, " ++ world.typeName part ++ " found"))
  pure (Text.joinWith " " texts)

def raiseValue (value cause : Value) : Eval Signal := do
  let world ← get
  match value with
  | .kind _ => throw (.ofType "can only join an iterable")
  | .object address =>
      match world.object address with
      | .raised kind parts => do
          let text ← raisedText parts
          throw (.raised kind (match cause with
            | .text more => text ++ ": " ++ more
            | _ => text))
      | _ => throw (.noAttribute (world.typeName value) "args")
  | _ => throw (.noAttribute (world.typeName value) "args")

/-- Runs an action with another table for a scope, whose own one is put back however that ends. -/
def lending (scope : Scope) (table : Table Value) (action : Eval α) : Eval α := fun world =>
  match action (world.setTable scope table) with
  | .ok value last => .ok value (last.setTable scope (world.table scope))
  | .error mistake last => .error mistake (last.setTable scope (world.table scope))

def lookUp (scope : Scope) (name : String) : Eval Value := do
  match (← get).lookup? scope name with
  | some value => pure value
  | none => throw (.unboundName name)

def literalValue : Literal → Value
  | .none => .nothing
  | .truth value => .bool value
  | .whole value => .int value
  | .decimal mantissa exponent => .float (Number.ofDecimal mantissa exponent)
  | .text value => .text value

mutual

def evaluate (fuel : Nat) (setting : Setting) (tree : Tree) : Eval Value :=
  match fuel with
  | 0 => throw .exhausted
  | fuel + 1 => do
      match tree with
      | .literal value => pure (literalValue value)
      | .name name => lookUp setting.scope name
      | .list items => do makeList (← items.mapM (evaluate fuel setting))
      | .tuple items => do makeTuple (← items.mapM (evaluate fuel setting))
      | .dict pairs => do
          let pairs ← pairs.mapM fun (key, value) => do
            let key ← evaluate fuel setting key
            let value ← evaluate fuel setting value
            checkKey key
            pure (key, value)
          let world ← get
          allocate (.dict (pairs.foldl (fun entries (key, value) =>
            world.enter key value entries) []))
      | .unary op operand => do applyUnary op (← evaluate fuel setting operand)
      | .binary op left right => do
          let left ← evaluate fuel setting left
          let right ← evaluate fuel setting right
          applyBinary op left right
      | .both left right => do
          let value ← evaluate fuel setting left
          if (← get).truth value then evaluate fuel setting right else pure value
      | .either left right => do
          let value ← evaluate fuel setting left
          if (← get).truth value then pure value else evaluate fuel setting right
      | .compare first rest => do
          let left ← evaluate fuel setting first
          pure (.bool (← compareChain (evaluate fuel setting) left rest))
      | .choice condition whenTrue whenFalse => do
          let value ← evaluate fuel setting condition
          evaluate fuel setting (if (← get).truth value then whenTrue else whenFalse)
      | .call callee arguments named => do
          let function ← evaluate fuel setting callee
          notCallable function
          let arguments ← arguments.mapM (evaluate fuel setting)
          let named ← named.mapM fun (name, value) => do
            pure (name, ← evaluate fuel setting value)
          apply fuel setting function arguments named
      | .attribute subject name => do
          let value ← evaluate fuel setting subject
          if isGuarded value name then
            throw (.raised "AttributeError" ("no safe attribute '" ++ name ++ "' for " ++
              (← get).written value))
          else match attribute? (← get) value name with
            | some found => pure found
            | none => do
                let again ← evaluate fuel setting subject
                throw (.noAttribute ((← get).typeName again) name)
      | .item subject (.slice start stop step) => do
          let value ← evaluate fuel setting subject
          let bound (tree : Option Tree) : Eval (Option Value) :=
            match tree with
            | none => pure none
            | some tree => do pure (some (← evaluate fuel setting tree))
          let start ← bound start
          let stop ← bound stop
          sliceOf value start stop (← bound step)
      | .item subject index => do
          let value ← evaluate fuel setting subject
          itemOf value (← evaluate fuel setting index)
      | .slice .. => throw (.unsupported "slice")
      | .collect element clauses => do makeList (← collect fuel setting element clauses)
      | .unsupported form => throw (.unsupported form)

/-- The elements of a comprehension. The sources of a clause are gone through first, then an
element is made for every part that was kept. A name bound before gets its value back. -/
def collect (fuel : Nat) (setting : Setting) (element : Tree)
    (clauses : List (Tree × Tree × List Tree)) : Eval (List Value) :=
  match fuel with
  | 0 => throw .exhausted
  | fuel + 1 =>
      match clauses with
      | [] => do pure [← evaluate fuel setting element]
      | (target, source, tests) :: rest => do
          let before ← match target with
            | .name name => do pure ((← get).lookup? setting.scope name)
            | _ => pure none
          let parts ← partsOf (← evaluate fuel setting source)
          let kept ← parts.filterM fun part => do
            assign fuel setting target part
            tests.allM fun test => do
              let value ← evaluate fuel setting test
              pure ((← get).truth value)
          let groups ← kept.mapM fun part => do
            assign fuel setting target part
            collect fuel setting element rest
          match target, before with
          | .name name, some value => modify (·.bind setting.scope name value)
          | _, _ => pure ()
          pure groups.flatten

def assign (fuel : Nat) (setting : Setting) (target : Tree) (value : Value) : Eval Unit :=
  match fuel with
  | 0 => throw .exhausted
  | fuel + 1 => do
      match target with
      | .name name => modify (·.bind setting.scope name value)
      | .item subject index => do
          let subject ← evaluate fuel setting subject
          setItem subject (← evaluate fuel setting index) value
      | .attribute subject name => do
          let subject ← evaluate fuel setting subject
          throw (.noAttribute ((← get).typeName subject) name)
      | .list targets => assignParts fuel setting targets value
      | .tuple targets => assignParts fuel setting targets value
      | _ => throw (.unsupported "starred")

def assignParts (fuel : Nat) (setting : Setting) (targets : List Tree) (value : Value) :
    Eval Unit :=
  match fuel with
  | 0 => throw .exhausted
  | fuel + 1 => do
      if (← lengthOf value) ≠ targets.length then throw (.ofValue "too many values to unpack")
      else
        let parts ← partsOf value
        (targets.zip parts).forM fun (target, part) => assign fuel setting target part

/-- Calls a value. The body of a procedure runs in the table of the scope that it is at home in. -/
def apply (fuel : Nat) (setting : Setting) (function : Value) (arguments : List Value)
    (named : List (String × Value)) : Eval Value :=
  match fuel with
  | 0 => throw .exhausted
  | fuel + 1 => do
      match function with
      | .function name => calling name arguments named (callFunction name arguments named)
      | .lookout .environment =>
          calling "get" arguments named
            (callLookout setting.outside .environment arguments named)
      | .lookout .presence =>
          calling "<lambda>" arguments named
            (callLookout setting.outside .presence arguments named)
      | .method receiver name =>
          calling name arguments named (callMethod receiver name arguments named)
      | .kind name => allocate (.raised name arguments)
      | .object address =>
          match (← get).object address with
          | .procedure procedure =>
              let call := do
                let saved := (← get).table procedure.home
                let bound ← lift (bindArguments procedure arguments named)
                let setting := { setting with scope := procedure.home, inside := true }
                let signal ← lending procedure.home (saved.insertAll bound)
                  (runAll (execute fuel setting) procedure.body)
                pure (match signal with
                  | .back value => value
                  | _ => .nothing)
              if procedure.home = setting.scope then call
              else calling procedure.name arguments named call
          | _ => pure .nothing
      | _ => pure .nothing

def execute (fuel : Nat) (setting : Setting) (statement : Statement) : Eval Signal :=
  match fuel with
  | 0 => throw .exhausted
  | fuel + 1 => do
      match statement with
      | .expression tree => do
          let _ ← evaluate fuel setting tree
          pure .next
      | .assign targets tree => do
          let value ← evaluate fuel setting tree
          targets.forM fun target => assign fuel setting target value
          pure .next
      | .update op target tree => do
          let value ← evaluate fuel setting (.binary op target tree)
          assign fuel setting target value
          pure .next
      | .branch condition whenTrue whenFalse => do
          let value ← evaluate fuel setting condition
          runAll (execute fuel setting) (if (← get).truth value then whenTrue else whenFalse)
      | .repeatWhile condition body otherwise =>
          let test : Eval Bool := do
            let value ← evaluate fuel setting condition
            pure ((← get).truth value)
          loopWhile test (runAll (execute fuel setting) body)
            (runAll (execute fuel setting) otherwise) maxTurns
      | .forEach target source body otherwise => do
          let value ← evaluate fuel setting source
          match (← get).length? value with
          | none => throw ((← get).notIterable value)
          | some size =>
              loopOver value size (assign fuel setting target) (runAll (execute fuel setting) body)
                (runAll (execute fuel setting) otherwise) maxTurns 0
      | .define name parameters defaults body => do
          let values ← defaults.mapM (evaluate fuel setting)
          let count := parameters.length - defaults.length
          let procedure ← allocate (.procedure {
            name, body
            required := parameters.take count
            optional := (parameters.drop count).zip values
            home := setting.scope })
          modify (·.bind setting.scope name procedure)
          pure .next
      | .giveBack tree =>
          if setting.inside then
            match tree with
            | none => pure (.back .nothing)
            | some tree => do pure (.back (← evaluate fuel setting tree))
          else throw (.raised "SyntaxError" "cannot return at top level")
      | .raise error cause => do
          let value ← match error with
            | some tree => evaluate fuel setting tree
            | none => pure .nothing
          let reason ← match cause with
            | some tree => evaluate fuel setting tree
            | none => pure .nothing
          raiseValue value reason
      | .check condition message => do
          let value ← evaluate fuel setting condition
          if (← get).truth value then pure .next
          else
            let text ← match message with
              | some tree => do
                  let value ← evaluate fuel setting tree
                  pure ((← get).shown value)
              | none => pure ""
            throw (.raised "AssertionError" text)
      | .skip => pure .next
      | .leave => pure .leave
      | .again => pure .again
      | .load => throw (.raised "NotImplementedError" "Import not supported")
      | .unsupported form => throw (.unsupported form)

end

def maxDepth : Nat := 4000

def runProgram (setting : Setting) : List Statement → Eval Value
  | [] => pure .nothing
  | [.expression tree] => evaluate maxDepth setting tree
  | statement :: rest => do
      match ← execute maxDepth setting statement with
      | .next => runProgram setting rest
      | _ => pure .nothing

end ExScript.Expr
