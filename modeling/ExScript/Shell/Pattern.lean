import ExScript.Shell.Command

/-!
Patterns over bytes: any run, any one byte, one of a set, or the byte itself. A byte that was quoted
stands for itself.
-/

namespace ExScript.Shell

inductive Sign where
  | byte (c : Char)
  | anyOne
  | anyRun
  | oneOf (wanted : Bool) (ranges : List (Char × Char))
  deriving DecidableEq, Repr

abbrev PatternByte := Char × Bool

namespace Sign

/-- The ranges up to the bracket that closes a set, and what follows it. A closing bracket in first
place belongs to the set. -/
def rangesOf : (first : Bool) → List PatternByte → Option (List (Char × Char) × List PatternByte)
  | _, [] => none
  | first, (low, free) :: rest =>
      if low = ']' && free && !first then some ([], rest)
      else
        let alone : Option (List (Char × Char) × List PatternByte) :=
          (rangesOf false rest).map fun (ranges, rest) => ((low, low) :: ranges, rest)
        match rest with
        | ('-', true) :: (high, highFree) :: rest =>
            if high = ']' && highFree then alone
            else (rangesOf false rest).map fun (ranges, rest) => ((low, high) :: ranges, rest)
        | _ => alone

def set? (bytes : List PatternByte) : Option (Sign × List PatternByte) :=
  let (wanted, bytes) := match bytes with
    | ('!', true) :: rest => (false, rest)
    | _ => (true, bytes)
  (rangesOf true bytes).map fun (ranges, rest) => (.oneOf wanted ranges, rest)

def read : (fuel : Nat) → List PatternByte → List Sign
  | 0, _ => []
  | _, [] => []
  | fuel + 1, ('*', true) :: rest => .anyRun :: read fuel rest
  | fuel + 1, ('?', true) :: rest => .anyOne :: read fuel rest
  | fuel + 1, ('[', true) :: rest =>
      match set? rest with
      | some (sign, rest) => sign :: read fuel rest
      | none => .byte '[' :: read fuel rest
  | fuel + 1, (c, _) :: rest => .byte c :: read fuel rest

def ofBytes (bytes : List PatternByte) : List Sign :=
  read bytes.length bytes

def fits (sign : Sign) (c : Char) : Bool :=
  match sign with
  | .byte other => c = other
  | .anyOne | .anyRun => true
  | .oneOf wanted ranges => ranges.any (fun (low, high) => low ≤ c && c ≤ high) = wanted

end Sign

def matchesAll : List Sign → List Char → Bool
  | [], text => text.isEmpty
  | .anyRun :: signs, [] => matchesAll signs []
  | .anyRun :: signs, c :: text =>
      matchesAll signs (c :: text) || matchesAll (.anyRun :: signs) text
  | _ :: _, [] => false
  | sign :: signs, c :: text => sign.fits c && matchesAll signs text
termination_by signs text => signs.length + text.length

def Cut.apply (cut : Cut) (signs : List Sign) (text : List Char) : List Char :=
  let lengths := List.range (text.length + 1)
  let lengths := if cut.longest then lengths.reverse else lengths
  if cut.atFront then
    match lengths.find? fun length => matchesAll signs (text.take length) with
    | some length => text.drop length
    | none => text
  else
    match lengths.find? fun length => matchesAll signs (text.drop (text.length - length)) with
    | some length => text.take (text.length - length)
    | none => text

end ExScript.Shell
