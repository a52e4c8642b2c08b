import ExScript.Text.Arguments
import ExScript.Text.Encoding
import ExScript.Text.Split

/-!
What can go wrong while scripts run. Script errors carry a message of their own and the place in a
script they are attributed to; all other faults have a fixed text.
-/

namespace ExScript

inductive ScriptErrorKind where
  | plain
  | unknownCommand
  | expression
  | conditional (code : String)
  deriving DecidableEq, Repr

structure ScriptError where
  kind : ScriptErrorKind
  message : String
  path : Option String := none
  line : Option Int := none
  deriving DecidableEq, Repr

namespace ScriptError

/-- The parts of the place that say something: an empty path and line zero do not. -/
def location (error : ScriptError) : String :=
  let path := (error.path.filter (· ≠ "")).toList
  let line := (error.line.filter (· ≠ 0)).toList.map toString
  Text.joinWith ":" (path ++ line)

def text (error : ScriptError) : String :=
  let location := error.location
  if location = "" then error.message else location ++ ": " ++ error.message

def plain (message : String) : ScriptError :=
  { kind := .plain, message }

def unknownCommand (line : String) : ScriptError :=
  { kind := .unknownCommand, message := "E492: Not an editor command: " ++ line }

def expression (message : String) : ScriptError :=
  { kind := .expression, message }

end ScriptError

inductive Fault where
  | script (error : ScriptError)
  | oversizedCount (digits : Nat)
  | unknownName (name : String)
  | noNames
  | invalidSpec (spec : String)
  | arguments (fault : Text.ArgumentsFault)
  | decoding (fault : Text.DecodeFault)
  | unknownEncoding (name : String)
  | unknownHome
  | missingFile (path : String)
  | directory (path : String)
  | nameTooLong (path : String)
  | forbidden (path : String)
  | nullByte
  | configuration
  | unfinished
  | foreign (kind text : String)
  deriving DecidableEq, Repr

namespace Fault

def text : Fault → String
  | .script error => error.text
  | .oversizedCount digits =>
      "Exceeds the limit (4300 digits) for integer string conversion: value has " ++
        toString digits ++ " digits; use sys.set_int_max_str_digits() to increase the limit"
  | .unknownName name => Text.quote name
  | .noNames => "A command needs at least one name"
  | .invalidSpec spec => "Invalid command name specification: " ++ Text.quote spec
  | .arguments fault => fault.text
  | .decoding fault => fault.text
  | .unknownEncoding name => "unknown encoding: " ++ name
  | .unknownHome => "Could not determine home directory."
  | .missingFile path => "[Errno 2] No such file or directory: " ++ Text.quote path
  | .directory path => "[Errno 21] Is a directory: " ++ Text.quote path
  | .nameTooLong path => "[Errno 36] File name too long: " ++ Text.quote path
  | .forbidden path => "[Errno 13] Permission denied: " ++ Text.quote path
  | .nullByte => "embedded null byte"
  | .configuration | .unfinished => ""
  | .foreign _ text => text

def kindName : Fault → String
  | .script error =>
      match error.kind with
      | .plain => "ScriptError"
      | .unknownCommand => "UnknownCommandError"
      | .expression => "ExpressionError"
      | .conditional _ => "ConditionalError"
  | .oversizedCount _ | .noNames | .invalidSpec _ | .arguments _ | .nullByte => "ValueError"
  | .unknownName _ => "KeyError"
  | .decoding _ => "UnicodeDecodeError"
  | .unknownEncoding _ => "LookupError"
  | .unknownHome => "RuntimeError"
  | .missingFile _ => "FileNotFoundError"
  | .directory _ => "IsADirectoryError"
  | .nameTooLong _ => "OSError"
  | .forbidden _ => "PermissionError"
  | .configuration => "ConfigurationError"
  | .unfinished => "NotImplementedError"
  | .foreign kind _ => kind

def report (fault : Fault) : String :=
  match fault with
  | .script error => error.message
  | _ => if fault.text = "" then fault.kindName else fault.text

end Fault

def conditionalMessages : List (String × String) :=
  [("E15", "Invalid expression"), ("E171", "Missing :endif"), ("E580", ":endif without :if"),
    ("E581", ":else without :if"), ("E582", ":elseif without :if"), ("E583", "multiple :else"),
    ("E584", ":elseif after :else")]

/-- An error of block structure; a code without a message of its own has to be a known one. -/
def Fault.conditional (code : String) (message : String := "") (path : Option String := none)
    (line : Option Int := none) : Fault :=
  if message ≠ "" then .script { kind := .conditional code, message, path, line }
  else match conditionalMessages.lookup code with
    | some fixed =>
        .script { kind := .conditional code, message := code ++ ": " ++ fixed, path, line }
    | none => .unknownName code

/-- A condition that could not be evaluated is an error of its block, at the line of the condition
where that is known. -/
def Fault.ofCondition (error : ScriptError) (line : Option Int) : Fault :=
  .conditional "E15" error.message error.path
    (match line with
      | some number => if number = 0 then error.line else some number
      | none => error.line)

end ExScript
