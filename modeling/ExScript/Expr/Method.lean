import ExScript.Expr.Function

/-!
What can be asked of a text and of a list by name. Some names of texts are kept out of reach, as is
every name between double underscores.
-/

namespace ExScript.Expr

def textMethods : List String :=
  ["upper", "lower", "strip", "split", "join", "startswith", "endswith", "replace", "find",
    "count"]

def listMethods : List String := ["append"]

def isGuarded (subject : Value) (name : String) : Bool :=
  let hidden := name.startsWith "__" && name.endsWith "__"
  match subject with
  | .text _ => hidden || name = "format" || name = "format_map"
  | _ => hidden

def attribute? (world : World) (subject : Value) (name : String) : Option Value :=
  match subject with
  | .text _ => if textMethods.contains name then some (.method subject name) else none
  | .object address =>
      match world.object address with
      | .list _ => if listMethods.contains name then some (.method subject name) else none
      | _ => none
  | _ => none

def startsWith (text needle : List Char) : Bool :=
  needle.isPrefixOf text

def endsWith (text needle : List Char) : Bool :=
  needle.reverse.isPrefixOf text.reverse

def matchesEnd (name : String) (test : List Char → Bool) (wanted : Value) : Eval Value := do
  let world ← get
  match wanted with
  | .text needle => pure (.bool (test needle.toList))
  | .object address =>
      match world.object address with
      | .tuple items =>
          pure (.bool (items.any fun item => match item with
            | .text needle => test needle.toList
            | _ => false))
      | _ => throw (.ofType (name ++ " first arg must be str or a tuple of str, not " ++
          world.typeName wanted))
  | _ => throw (.ofType (name ++ " first arg must be str or a tuple of str, not " ++
      world.typeName wanted))

def textArgument (value : Value) : Eval (List Char) := do
  match value with
  | .text text => pure text.toList
  | _ => throw (.ofType ("must be str, not " ++ (← get).typeName value))

def findPlace? (needle : List Char) : (place : Nat) → List Char → Option Nat
  | place, [] => if needle.isEmpty then some place else none
  | place, c :: rest =>
      if needle.isPrefixOf (c :: rest) then some place else findPlace? needle (place + 1) rest

def countOf (needle text : List Char) : Nat :=
  if needle.isEmpty then text.length + 1
  else (Text.splitOnText needle text.length text).length - 1

/-- Replaces occurrences from left to right; an empty needle occurs around every character. -/
def replaceIn (needle replacement : List Char) (limit : Nat) (text : List Char) : List Char :=
  if needle.isEmpty then
    match limit, text with
    | 0, _ => text
    | _ + 1, [] => replacement
    | limit + 1, c :: rest => replacement ++ c :: replaceIn needle replacement limit rest
  else replacement.intercalate (Text.splitOnText needle limit text)
termination_by text.length

/-- The runs between blanks, with what is left behind the last cut. -/
def splitBlanks : (fuel : Nat) → (limit : Nat) → List Char → List (List Char)
  | 0, _, _ => []
  | fuel + 1, limit, text =>
      match Text.stripStart text with
      | [] => []
      | start =>
          match limit with
          | 0 => [start]
          | limit + 1 =>
              start.takeWhile (!Text.isBlank ·) ::
                splitBlanks fuel limit (start.dropWhile (!Text.isBlank ·))

def limitOf (text : List Char) (limit : Option Value) : Eval Nat := do
  match limit with
  | none => pure (text.length + 1)
  | some value =>
      let whole ← toRangeBound value
      pure (if whole < 0 then text.length + 1 else whole.toNat)

def textValue (chars : List Char) : Value :=
  .text (String.ofList chars)

def splitText (text : List Char) (separator limit : Option Value) : Eval Value := do
  let limit ← limitOf text limit
  match separator with
  | none | some .nothing => makeList ((splitBlanks (text.length + 1) limit text).map textValue)
  | some (.text needle) =>
      if needle = "" then throw (.ofValue "empty separator")
      else makeList ((Text.splitOnText needle.toList limit text).map textValue)
  | some value => throw (.ofType ("must be str or None, not " ++ (← get).typeName value))

def joinParts (separator : String) (source : Value) : Eval Value := do
  let world ← get
  match world.parts? source with
  | none => throw (.ofType "can only join an iterable")
  | some parts =>
      let texts ← parts.zipIdx.mapM fun (part, index) => match part with
        | .text text => pure text
        | _ => throw (.ofType ("sequence item " ++ toString index ++
            ": expected str instance, " ++ world.typeName part ++ " found"))
      pure (.text (Text.joinWith separator texts))

def stripText (text : List Char) (marks : Option Value) : Eval Value := do
  match marks with
  | none | some .nothing => pure (textValue (Text.stripChars text))
  | some (.text marks) =>
      let isMark := fun c => marks.toList.contains c
      let start := text.dropWhile isMark
      pure (textValue ((start.reverse.dropWhile isMark).reverse))
  | some _ => throw (.ofType "strip arg must be None or str")

def boundedText (text : List Char) (start stop : Option Value) :
    Eval (Option (Nat × List Char)) := do
  let start ← boundOf start
  let stop ← boundOf stop
  let (first, last) := sliceBounds text.length start stop 1
  let beyond := start.any fun bound => (text.length : Int) < bound
  if beyond || last < first then pure none
  else pure (some (first.toNat, (text.take last.toNat).drop first.toNat))

def testPart (test : List Char → List Char → Bool) (part : Option (Nat × List Char))
    (needle : List Char) : Bool :=
  part.any fun (_, text) => test text needle

def noArguments (name : String) : Arity :=
  let say := fun (given : Nat) =>
    "str." ++ name ++ "() takes no arguments (" ++ toString given ++ " given)"
  ⟨0, 0, say, say⟩

def callText (text : String) (name : String) (arguments : List Value) : Eval Value := do
  let chars := text.toList
  let first := arguments.headD .nothing
  let count := arguments.length
  match name with
  | "upper" => do
      (noArguments name).check count
      pure (.text (Text.upper text))
  | "lower" => do
      (noArguments name).check count
      pure (.text (Text.lower text))
  | "strip" => do
      (Arity.upToOne name).check count
      stripText chars arguments.head?
  | "split" => do
      (Arity.takes name 0 2).check count
      splitText chars arguments.head? arguments[1]?
  | "join" => do
      (Arity.one "str.join").check count
      joinParts text first
  | "startswith" => do
      (Arity.takes name 1 3).check count
      matchesEnd name (testPart startsWith (← boundedText chars arguments[1]? arguments[2]?)) first
  | "endswith" => do
      (Arity.takes name 1 3).check count
      matchesEnd name (testPart endsWith (← boundedText chars arguments[1]? arguments[2]?)) first
  | "replace" => do
      (Arity.between name 2 3).check count
      match first, arguments.getD 1 .nothing with
      | .text needle, .text replacement => do
          let limit ← limitOf chars arguments[2]?
          pure (textValue (replaceIn needle.toList replacement.toList limit chars))
      | .text _, other => throw (.ofType ("replace() argument 2 must be str, not " ++
          (← get).refusedType other))
      | other, _ => throw (.ofType ("replace() argument 1 must be str, not " ++
          (← get).refusedType other))
  | "find" => do
      (Arity.takes name 1 3).check count
      let part ← boundedText chars arguments[1]? arguments[2]?
      let needle ← textArgument first
      match part with
      | none => pure (.int (-1))
      | some (start, part) =>
          match findPlace? needle start part with
          | some place => pure (.int place)
          | none => pure (.int (-1))
  | _ => do
      (Arity.takes name 1 3).check count
      let part ← boundedText chars arguments[1]? arguments[2]?
      let needle ← textArgument first
      match part with
      | none => pure (.int 0)
      | some (_, part) => pure (.int (countOf needle part))

def callMethod (receiver : Value) (name : String) (arguments : List Value)
    (named : List (String × Value)) : Eval Value := do
  match receiver with
  | .text text =>
      if name = "split" && !named.isEmpty then
        let separator := (arguments.head?).or (named.lookup "sep")
        let limit := (arguments[1]?).or (named.lookup "maxsplit")
        callText text name ((separator.getD .nothing) :: limit.toList)
      else do
        refuseNamed ("str." ++ name) named
        callText text name arguments
  | .object address => do
      refuseNamed ("list." ++ name) named
      (Arity.one ("list." ++ name)).check arguments.length
      let world ← get
      match world.object address with
      | .list items =>
          set (world.store address (.list (items ++ [arguments.headD .nothing])))
          pure .nothing
      | _ => pure .nothing
  | _ => pure .nothing

end ExScript.Expr
