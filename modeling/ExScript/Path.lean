import ExScript.Text.Case
import ExScript.Text.Split

/-!
Paths as written: a root, which may be missing, and the names under it. Single dots, doubled and
trailing slashes carry no meaning and are gone; a double dot is kept, because what it leads to
depends on the files.
-/

namespace ExScript

structure Path where
  root : String
  names : List String
  deriving DecidableEq, Repr, Inhabited

namespace Path

def rootOf : List Char → String
  | '/' :: '/' :: '/' :: _ => "/"
  | '/' :: '/' :: _ => "//"
  | '/' :: _ => "/"
  | _ => ""

def ofString (text : String) : Path where
  root := rootOf text.toList
  names := ((Text.splitOnChar '/' text.toList).map String.ofList).filter
    fun name => name != "" && name != "."

def text (path : Path) : String :=
  if path.root = "" && path.names.isEmpty then "."
  else path.root ++ Text.joinWith "/" path.names

def join (path behind : Path) : Path :=
  if behind.root = "" then { path with names := path.names ++ behind.names } else behind

def name (path : Path) : String :=
  path.names.getLast?.getD ""

/-- The part of the last name from its last dot on, unless that dot opens or ends the name. -/
def suffix (path : Path) : String :=
  let reversed := path.name.toList.reverse
  let extension := reversed.takeWhile (· ≠ '.')
  let stem := reversed.drop (extension.length + 1)
  if extension.isEmpty || stem.isEmpty then "" else String.ofList ('.' :: extension.reverse)

def accountHomes : List (String × String) :=
  [("root", "/root"), ("daemon", "/usr/sbin"), ("bin", "/bin"), ("sys", "/dev"),
    ("sync", "/bin"), ("mail", "/var/mail"), ("nobody", "/nonexistent")]

/-- A leading `~` stands for the home directory given, `~name` for that of an account. There is no
answer for an unknown account. -/
def expandHome? (home : String) (path : Path) : Option Path :=
  match path.root, path.names with
  | "", first :: rest =>
      match first.toList with
      | '~' :: account =>
          let directory :=
            if account.isEmpty then some (ofString (if home = "" then "/" else home))
            else (accountHomes.lookup (String.ofList account)).map ofString
          directory.map fun base => { base with names := base.names ++ rest }
      | _ => some path
  | _, _ => some path

end Path

end ExScript
