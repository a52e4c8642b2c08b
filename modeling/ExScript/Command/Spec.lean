import ExScript.Text.Split

/-!
Name specifications. `fini[sh]` stands for every word from `fini` up to `finish`; without brackets
a specification stands for itself alone.
-/

namespace ExScript

structure Spec where
  short : String
  full : String
  deriving DecidableEq, Repr, Inhabited

namespace Spec

def isBracket (c : Char) : Bool :=
  c = '[' || c = ']'

/-- The part outside of the brackets and the part inside; a newline behind them is let pass. -/
def parseChars? (chars : List Char) : Option (List Char × List Char) :=
  let short := chars.takeWhile (!isBracket ·)
  if short.isEmpty then none
  else match chars.dropWhile (!isBracket ·) with
    | [] => some (short, [])
    | '[' :: rest =>
        let optional := rest.takeWhile (!isBracket ·)
        if optional.isEmpty then none
        else match rest.dropWhile (!isBracket ·) with
          | [']'] => some (short, optional)
          | [']', '\n'] => some (short, optional)
          | _ => none
    | _ => none

def parse? (text : String) : Option Spec :=
  (parseChars? text.toList).map fun (short, optional) =>
    ⟨String.ofList short, String.ofList (short ++ optional)⟩

def accepts (spec : Spec) (name : String) : Bool :=
  spec.short.toList.isPrefixOf name.toList && name.toList.isPrefixOf spec.full.toList

def label (spec : Spec) : String :=
  if spec.full = spec.short then spec.full
  else spec.short ++ "[" ++ String.ofList (spec.full.toList.drop spec.short.length) ++ "]"

end Spec

end ExScript
