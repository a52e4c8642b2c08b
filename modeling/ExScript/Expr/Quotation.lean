import ExScript.Expr.Numeral

/-!
Text literals of the expression language: where a quotation ends, and what its escapes stand for.
-/

namespace ExScript.Expr.Quotation

/-- What the opening quotation marks enclose, and what stands behind the closing ones. A single mark
has to close on its own line; a backslash keeps the next character from closing or ending it. The
fault is the number of lines from the opening mark to where the quotation went wrong. -/
def cut (mark : Char) (triple : Bool) (newlines : Nat) :
    List Char → Except Nat (List Char × List Char)
  | [] => .error (newlines - 1)
  | c :: rest =>
      if c = '\\' then
        match rest with
        | [] => .error (newlines - 1)
        | next :: behind =>
            (cut mark triple (if next = '\n' then newlines + 1 else newlines) behind).map
              fun (body, after) => (c :: next :: body, after)
      else if c = mark && !triple then .ok ([], rest)
      else if c = mark && [mark, mark].isPrefixOf rest then .ok ([], rest.drop 2)
      else if c = '\n' && !triple then .error newlines
      else
        (cut mark triple (if c = '\n' then newlines + 1 else newlines) rest).map
          fun (body, after) => (c :: body, after)

def plainEscapes : List (Char × Char) :=
  [('\\', '\\'), ('\'', '\''), ('"', '"'), ('a', '\x07'), ('b', '\x08'), ('f', '\x0c'),
    ('n', '\n'), ('r', '\r'), ('t', '\t'), ('v', '\x0b')]

def isOctal (c : Char) : Bool :=
  '0' ≤ c && c ≤ '7'

/-- Escapes by number: their letter, how many digits follow, and what one cut short is called. -/
def numberedEscape? (letter : Char) : Option (Nat × String) :=
  if letter = 'x' then some (2, "truncated \\xXX escape")
  else if letter = 'u' then some (4, "truncated \\uXXXX escape")
  else if letter = 'U' then some (8, "truncated \\UXXXXXXXX escape")
  else none

def escapeFault (start stop : Nat) (reason : String) : String :=
  "(unicode error) 'unicodeescape' codec can't decode bytes in position " ++ toString start ++
    "-" ++ toString stop ++ ": " ++ reason

/-- How far a character moves the position in a fault: one outside ASCII counts as its escape. -/
def width (c : Char) : Nat :=
  if c.toNat < 128 then 1 else 10

def unescapeFrom : (fuel : Nat) → (position : Nat) → List Char → Except String (List Char)
  | 0, _, _ => .ok []
  | _ + 1, _, [] => .ok []
  | fuel + 1, position, '\\' :: c :: rest =>
      if c = '\n' then unescapeFrom fuel (position + 2) rest
      else match plainEscapes.lookup c with
        | some plain => (unescapeFrom fuel (position + 2) rest).map (plain :: ·)
        | none =>
            if isOctal c then
              let digits := (c :: rest).take 3 |>.takeWhile isOctal
              (unescapeFrom fuel (position + 1 + digits.length)
                ((c :: rest).drop digits.length)).map
                (Char.ofNat (Numeral.valueIn 8 digits) :: ·)
            else match numberedEscape? c with
              | some (count, truncated) =>
                  let digits := (rest.take count).takeWhile Numeral.isHexadecimal
                  let last := position + 1 + digits.length
                  let value := Numeral.valueIn 16 digits
                  if digits.length < count then .error (escapeFault position last truncated)
                  else if 0x110000 ≤ value then
                    .error (escapeFault position last "illegal Unicode character")
                  else
                    (unescapeFrom fuel (last + 1) (rest.drop count)).map (Char.ofNat value :: ·)
              | none =>
                  (unescapeFrom fuel (position + 1 + width c) rest).map ('\\' :: c :: ·)
  | fuel + 1, position, c :: rest =>
      (unescapeFrom fuel (position + width c) rest).map (c :: ·)

def unescape (body : List Char) : Except String (List Char) :=
  unescapeFrom (body.length + 1) 0 body

end ExScript.Expr.Quotation
