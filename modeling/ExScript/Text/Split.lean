/-!
Texts cut: at every occurrence of a mark, to a width, or by the blanks at their ends. Blanks are the
white space of every script together with the four information separators.
-/

namespace ExScript.Text

/-- The pieces between the marks; one more piece than there are marks. -/
def splitOnChar (mark : Char) : List Char → List (List Char)
  | [] => [[]]
  | c :: rest =>
      if c = mark then [] :: splitOnChar mark rest
      else match splitOnChar mark rest with
        | piece :: pieces => (c :: piece) :: pieces
        | [] => [[c]]

def cutAt? (needle : List Char) : List Char → Option (List Char × List Char)
  | [] => if needle.isEmpty then some ([], []) else none
  | c :: rest =>
      if needle.isPrefixOf (c :: rest) then some ([], (c :: rest).drop needle.length)
      else (cutAt? needle rest).map fun (before, behind) => (c :: before, behind)

/-- The pieces between the occurrences of a non-empty needle, at most `limit` cuts being made. -/
def splitOnText (needle : List Char) : (limit : Nat) → List Char → List (List Char)
  | 0, chars => [chars]
  | limit + 1, chars =>
      match cutAt? needle chars with
      | none => [chars]
      | some (before, behind) => before :: splitOnText needle limit behind

def joinWith (separator : String) (texts : List String) : String :=
  separator.intercalate texts

def replaceText (needle replacement text : String) : String :=
  joinWith replacement
    ((splitOnText needle.toList text.length text.toList).map String.ofList)

/-- The text itself if it fits; otherwise its start and the placeholder, together as wide as asked
for, or the placeholder alone where nothing else fits. -/
def shorten (text : String) (width : Int := 30) (placeholder : String := "...") : String :=
  if text.length ≤ width then text
  else
    let available := width - placeholder.length
    if available ≤ 0 then placeholder
    else String.ofList (text.toList.take available.toNat) ++ placeholder

def isBlank (c : Char) : Bool :=
  let code := c.toNat
  (0x09 ≤ code && code ≤ 0x0D) || (0x1C ≤ code && code ≤ 0x20) || code == 0x85 || code == 0xA0 ||
    code == 0x1680 || (0x2000 ≤ code && code ≤ 0x200A) || code == 0x2028 || code == 0x2029 ||
    code == 0x202F || code == 0x205F || code == 0x3000

def stripStart (chars : List Char) : List Char :=
  chars.dropWhile isBlank

def stripEnd (chars : List Char) : List Char :=
  (chars.reverse.dropWhile isBlank).reverse

def stripChars (chars : List Char) : List Char :=
  stripEnd (stripStart chars)

def strip (text : String) : String :=
  String.ofList (stripChars text.toList)

end ExScript.Text
