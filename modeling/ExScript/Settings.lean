import ExScript.Files
import ExScript.Text.Lines
import ExScript.Text.Split

/-!
The settings of a session. A setting is given outright, by the environment, by a file of the working
directory, or not at all, in this order; then it has to be of the right kind.
-/

namespace ExScript

structure Settings where
  runtimePath : String := "~/.exrc.d"
  rcFile : Option Path := none
  encoding : String := "utf-8"
  maxLines : Int := 16
  prompt : String := "  "
  shell : String := "/bin/sh"
  logLevel : String := "INFO"
  interactiveLogLevel : String := "WARNING"
  deriving Inhabited

namespace Settings

def runtimeDirectories (settings : Settings) (home : String) : Except Fault (List Path) :=
  let items := (Text.splitOnChar ',' settings.runtimePath.toList).map Text.stripChars
  (items.filter (!·.isEmpty)).mapM fun item =>
    match (Path.ofString (String.ofList item)).expandHome? home with
    | some path => .ok path
    | none => .error .unknownHome

end Settings

inductive SettingValue where
  | text (value : String)
  | whole (value : Int)
  | truth (value : Bool)
  | absent
  | other
  deriving DecidableEq, Repr

namespace SettingValue

def text? : SettingValue → Option String
  | .text value => some value
  | _ => none

def digits? : (afterDigit : Bool) → List Char → Option (List Char)
  | afterDigit, [] => if afterDigit then some [] else none
  | afterDigit, c :: rest =>
      if c.isDigit then (digits? true rest).map (c :: ·)
      else if c = '_' && afterDigit then digits? false rest
      else none

def parseWhole? (text : String) : Option Int :=
  let chars := Text.stripChars text.toList
  let (negative, chars) := match chars with
    | '-' :: rest => (true, rest)
    | '+' :: rest => (false, rest)
    | _ => (false, chars)
  let whole := chars.takeWhile (· ≠ '.')
  let fraction := (chars.dropWhile (· ≠ '.')).drop 1
  if fraction.any (· ≠ '0') then none
  else (digits? false whole).map fun digits =>
    let value : Int := digits.foldl (fun value c => 10 * value + (c.toNat - 0x30)) 0
    if negative then -value else value

def whole? : SettingValue → Option Int
  | .whole value => some value
  | .truth value => some (if value then 1 else 0)
  | .text value => parseWhole? value
  | _ => none

def rcFile? : SettingValue → Option (Option Path)
  | .text value => some (some (Path.ofString value))
  | .absent => some none
  | _ => none

end SettingValue

namespace Settings

/-- Gives one setting its value; there is no answer for a value of the wrong kind. A setting nobody
knows is passed over. -/
def set? (settings : Settings) (name : String) (value : SettingValue) : Option Settings :=
  match name with
  | "runtime_path" => value.text?.map fun text => { settings with runtimePath := text }
  | "rc_file" => value.rcFile?.map fun rcFile => { settings with rcFile }
  | "encoding" => value.text?.map fun text => { settings with encoding := text }
  | "interactive_max_lines" =>
      (value.whole?.filter (1 ≤ ·)).map fun maxLines => { settings with maxLines }
  | "interactive_prompt" => value.text?.map fun text => { settings with prompt := text }
  | "shell" => value.text?.map fun text => { settings with shell := text }
  | "log_level" => value.text?.map fun text => { settings with logLevel := Text.upper text }
  | "interactive_log_level" =>
      value.text?.map fun text => { settings with interactiveLogLevel := Text.upper text }
  | _ => some settings

def names : List String :=
  ["runtime_path", "rc_file", "encoding", "interactive_max_lines", "interactive_prompt", "shell",
    "log_level", "interactive_log_level"]

def assignedValue (chars : List Char) : String :=
  let chars := Text.stripChars chars
  match chars with
  | mark :: rest =>
      if (mark = '"' || mark = '\'') && rest.contains mark then
        String.ofList (rest.takeWhile (· ≠ mark))
      else
        let value := match Text.cutAt? [' ', '#'] chars with
          | some (before, _) => before
          | none => chars
        String.ofList (Text.stripEnd value)
  | [] => ""

/-- The name and value that a line of the settings file assigns. Lines that start with `#` do not
count. -/
def assignment? (line : List Char) : Option (String × String) :=
  let chars := Text.stripChars line
  let chars := if "export ".toList.isPrefixOf chars then Text.stripStart (chars.drop 7) else chars
  match chars with
  | '#' :: _ => none
  | _ =>
      match Text.cutAt? ['='] chars with
      | some (name, value) =>
          some (String.ofList (Text.stripEnd name), assignedValue value)
      | none => none

/-- The assignments of the settings file, if there is one; then it has to be a text that can be
read. -/
def fileAssignments (files : FileTree) : Except Fault (List (String × String)) :=
  let path := Path.ofString ".env"
  if files.isFile path then
    (files.readText path "utf-8").map fun text =>
      (Text.splitOnChar '\n' text.toList).filterMap assignment?
  else .ok []

def named? (name : String) (pairs : List (String × String)) : Option SettingValue :=
  (pairs.reverse.find? fun (other, _) => Text.lower other = "exrc_" ++ name).map fun (_, value) =>
    .text value

def load (overrides : List (String × SettingValue)) (environment : List (String × String))
    (files : FileTree) : Except Fault Settings := do
  let assigned ← fileAssignments files
  names.foldlM (fun (settings : Settings) name =>
    let given := (overrides.lookup name).or
      ((named? name environment).or (named? name assigned))
    match given with
    | none => .ok settings
    | some value =>
        match settings.set? name value with
        | some settings => .ok settings
        | none => .error .configuration) {}

end Settings

end ExScript
