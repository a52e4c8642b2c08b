/-!
The message channel: everything shown to the user, in order, and the console it is printed on.
-/

namespace ExScript

inductive MessageKind where
  | echo
  | info
  | error
  deriving DecidableEq, Repr

structure Message where
  kind : MessageKind
  text : String
  deriving DecidableEq, Repr

structure Channel where
  history : Array Message := #[]
  quiet : Bool := false
  console : String := ""
  deriving Inhabited

namespace Channel

def errorEnd : String := "[/bold red]"

/-- The backslashes in front of the markup that ends an error message: two of them stand for one,
and one that is left over makes plain text of the markup. -/
def printedEnd (backslashes : Nat) : String :=
  String.ofList (List.replicate (backslashes / 2) '\\') ++
    (if backslashes % 2 = 1 then errorEnd else "")

/-- A message as it is printed. A single backslash at its end is doubled, so that it does not escape
the markup behind it; there is such markup behind errors only. -/
def printed (message : Message) : String :=
  let reversed := message.text.toList.reverse
  let backslashes := (reversed.takeWhile (· = '\\')).length
  let doubled := if backslashes = 1 then 2 else backslashes
  let before := String.ofList (reversed.drop backslashes).reverse
  match message.kind with
  | .error => before ++ printedEnd doubled
  | _ => before ++ String.ofList (List.replicate doubled '\\')

def write (channel : Channel) (text : String) : Channel :=
  { channel with console := channel.console ++ text }

def emit (channel : Channel) (message : Message) : Channel :=
  let recorded := { channel with history := channel.history.push message }
  if channel.quiet then recorded else recorded.write (printed message ++ "\n")

def errors (channel : Channel) : List String :=
  (channel.history.toList.filter fun message => message.kind = .error).map (·.text)

def clear (channel : Channel) : Channel :=
  { channel with history := #[] }

end Channel

end ExScript
