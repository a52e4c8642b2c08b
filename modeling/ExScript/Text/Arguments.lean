/-!
A line cut into arguments the way a shell cuts a command: blanks separate, single quotes keep
everything, double quotes keep everything but escaped quotes and backslashes, and a backslash
keeps the next character.
-/

namespace ExScript.Text

inductive ArgumentsFault where
  | openQuotation
  | openEscape
  deriving DecidableEq, Repr

def ArgumentsFault.text : ArgumentsFault → String
  | .openQuotation => "No closing quotation"
  | .openEscape => "No escaped character"

inductive ArgumentState where
  | between
  | inside (begun : List Char)
  | quoted (mark : Char) (begun : List Char)
  | escaped (begun : List Char)
  | escapedQuoted (mark : Char) (begun : List Char)

def isSeparator (c : Char) : Bool :=
  c = ' ' || c = '\t' || c = '\r' || c = '\n'

def isQuotation (c : Char) : Bool :=
  c = '\'' || c = '"'

def cutArguments : ArgumentState → List Char → Except ArgumentsFault (List (List Char))
  | .between, [] => .ok []
  | .inside begun, [] => .ok [begun.reverse]
  | .quoted _ _, [] => .error .openQuotation
  | .escaped _, [] => .error .openEscape
  | .escapedQuoted _ _, [] => .error .openEscape
  | .between, c :: rest =>
      if isSeparator c then cutArguments .between rest
      else if isQuotation c then cutArguments (.quoted c []) rest
      else if c = '\\' then cutArguments (.escaped []) rest
      else cutArguments (.inside [c]) rest
  | .inside begun, c :: rest =>
      if isSeparator c then (cutArguments .between rest).map (begun.reverse :: ·)
      else if isQuotation c then cutArguments (.quoted c begun) rest
      else if c = '\\' then cutArguments (.escaped begun) rest
      else cutArguments (.inside (c :: begun)) rest
  | .quoted mark begun, c :: rest =>
      if c = mark then cutArguments (.inside begun) rest
      else if c = '\\' && mark = '"' then cutArguments (.escapedQuoted mark begun) rest
      else cutArguments (.quoted mark (c :: begun)) rest
  | .escaped begun, c :: rest => cutArguments (.inside (c :: begun)) rest
  | .escapedQuoted mark begun, c :: rest =>
      if c = '\\' || c = mark then cutArguments (.quoted mark (c :: begun)) rest
      else cutArguments (.quoted mark (c :: '\\' :: begun)) rest

def arguments (line : String) : Except ArgumentsFault (List String) :=
  (cutArguments .between line.toList).map (·.map String.ofList)

end ExScript.Text
