/-!
Commands of the shell as trees. Texts are sequences of bytes, each held by the character of its
number.
-/

namespace ExScript.Shell

inductive Redirection where
  | write
  | append
  | read
  | copy
  deriving DecidableEq, Repr

/-- What is done about a variable that has no value. An `alternative` stands for one that has. -/
inductive Substitute where
  | default
  | assigned
  | demanded
  | alternative
  deriving DecidableEq, Repr

structure Cut where
  atFront : Bool
  longest : Bool
  deriving DecidableEq, Repr

mutual

/-- A part of a word: bytes as they are, bytes that may break into words or match as a pattern, the
value of a variable in one form or another, a sum, or what a command prints. -/
inductive Part where
  | text (bytes : List Char)
  | loose (bytes : List Char)
  | value (name : String) (quoted : Bool)
  | length (name : String)
  | choice (name : String) (substitute : Substitute) (emptyToo : Bool) (inside : List Part)
      (quoted : Bool)
  | trimmed (name : String) (cut : Cut) (pattern : List Part) (quoted : Bool)
  | sum (expression : List Part) (quoted : Bool)
  | output (body : Command) (quoted : Bool)

/-- A word keeps its place even if nothing is left of it, once anything in it was quoted. -/
inductive Word where
  | mk (parts : List Part) (quoted : Bool)

inductive Command where
  | simple (assignments : List (String × Word)) (words : List Word)
  | pipe (left right : Command)
  | both (left right : Command)
  | either (left right : Command)
  | then_ (left right : Command)
  | negate (body : Command)
  | subshell (body : Command)
  | group (body : Command)
  | branch (condition whenTrue whenFalse : Command)
  | loop (wanted : Bool) (condition body : Command)
  | forEach (name : String) (words : List Word) (body : Command)
  | select (subject : Word) (arms : List (List Word × Command))
  | define (name : String) (body : Command)
  | redirect (body : Command) (stream : Nat) (kind : Redirection) (target : Word)
  | nothing

end

def Part.whole : Part → Part
  | .text bytes | .loose bytes => .text bytes
  | .value name _ => .value name true
  | .length name => .length name
  | .choice name substitute emptyToo inside _ => .choice name substitute emptyToo inside true
  | .trimmed name cut pattern _ => .trimmed name cut pattern true
  | .sum expression _ => .sum expression true
  | .output body _ => .output body true

def Part.isFree : Part → Bool
  | .text _ => false
  | .value _ quoted | .choice _ _ _ _ quoted | .trimmed _ _ _ quoted | .sum _ quoted
  | .output _ quoted => !quoted
  | .loose _ | .length _ => true

def Word.plain? : Word → Option (List Char)
  | .mk parts _ =>
      parts.foldr (fun part text => match part, text with
        | .loose bytes, some text => some (bytes ++ text)
        | _, _ => none) (some [])

instance : Inhabited Command := ⟨.nothing⟩
instance : Inhabited Word := ⟨.mk [] false⟩

end ExScript.Shell
