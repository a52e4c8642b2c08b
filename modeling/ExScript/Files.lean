import ExScript.Fault
import ExScript.Path
import ExScript.Text.Lines

/-!
The files a session can see: those under the working directory, by the names that lead to them, and
some known ones elsewhere, by their rooted paths. Not all of them need be open to the user; the
working directory itself is.
-/

namespace ExScript

structure Access where
  reading : Bool := true
  changing : Bool := true
  passing : Bool := true
  deriving DecidableEq, Repr

inductive Node where
  | file (bytes : List UInt8) (access : Access := {})
  | directory (access : Access := {})
  deriving DecidableEq, Repr

namespace Node

def access : Node → Access
  | .file _ access => access
  | .directory access => access

def isDirectory : Node → Bool
  | .directory _ => true
  | .file .. => false

def isFile : Node → Bool
  | .file .. => true
  | .directory _ => false

end Node

structure FileTree where
  inside : List (List String × Node) := []
  elsewhere : List (String × Node) := []
  deriving Inhabited

inductive Finding where
  | node (node : Node)
  | nothing
  | tooLong
  | forbidden
  deriving DecidableEq, Repr

namespace Finding

def ofNode : Option Node → Finding
  | some found => .node found
  | none => .nothing

def node? : Finding → Option Node
  | .node found => some found
  | _ => none

/-- What looking for more names comes to at something that cannot be gone through. -/
def barrier? : Option Node → Option Finding
  | some (.directory access) => if access.passing then none else some .forbidden
  | _ => some .nothing

def refusal? (path : String) : Finding → Option Fault
  | .tooLong => some (.nameTooLong path)
  | .forbidden => some (.forbidden path)
  | _ => none

end Finding

def maxNameBytes : Nat := 255

def maxPathBytes : Nat := 4095

def isLongName (name : String) : Bool :=
  name.utf8ByteSize > maxNameBytes

namespace FileTree

def under? (tree : FileTree) (names : List String) : Option Node :=
  if names.isEmpty then some .directory else tree.inside.lookup names

/-- Follows names from a place within the working directory, or a number of directories above it.
Only directories can be gone through, those that the user may, and no directory has a name that is
too long. -/
def walk (tree : FileTree) : (place : List String) → (above : Nat) → List String → Finding
  | place, 0, [] => .ofNode (tree.under? place)
  | _, _ + 1, [] => .node .directory
  | place, above, name :: rest =>
      match if above = 0 then Finding.barrier? (tree.under? place) else none with
      | some barrier => barrier
      | none =>
          if isLongName name then .tooLong
          else if name = ".." then
            match place with
            | [] => walk tree [] (above + 1) rest
            | _ => walk tree place.dropLast above rest
          else if above = 0 then walk tree (place ++ [name]) 0 rest
          else .nothing

def isBarred (tree : FileTree) (path : Path) : Bool :=
  (List.range path.names.length).any fun count =>
    (tree.elsewhere.lookup { path with names := path.names.take count }.text).any fun node =>
      node.isDirectory && !node.access.passing

def lookUp (tree : FileTree) (path : Path) : Finding :=
  match path.names.dropWhile (!isLongName ·) with
  | [] => if tree.isBarred path then .forbidden else .ofNode (tree.elsewhere.lookup path.text)
  | long :: _ =>
      let names := path.names.takeWhile (!isLongName ·)
      if tree.isBarred { path with names := names ++ [long] } then .forbidden
      else if (tree.elsewhere.lookup { path with names }.text).any Node.isDirectory then .tooLong
      else .nothing

/-- What is at a path. A path that holds a NUL leads nowhere. -/
def find (tree : FileTree) (path : Path) : Finding :=
  if path.text.toList.contains '\x00' then .nothing
  else if path.text.utf8ByteSize > maxPathBytes then .tooLong
  else if path.root = "" then tree.walk [] 0 path.names
  else tree.lookUp path

def refusal? (tree : FileTree) (path : Path) : Option Fault :=
  (tree.find path).refusal? path.text

theorem refusal?_cases {tree : FileTree} {path : Path} {fault : Fault}
    (refused : tree.refusal? path = some fault) :
    fault = .nameTooLong path.text ∨ fault = .forbidden path.text := by
  unfold refusal? at refused
  cases found : tree.find path <;> rw [found] at refused <;> cases refused
  · exact .inl rfl
  · exact .inr rfl

def check (tree : FileTree) (path : Path) : Except Fault Unit :=
  match tree.refusal? path with
  | some fault => .error fault
  | none => .ok ()

def contains (tree : FileTree) (path : Path) : Bool :=
  (tree.find path).node?.isSome

def isDirectory (tree : FileTree) (path : Path) : Bool :=
  (tree.find path).node?.any Node.isDirectory

def isFile (tree : FileTree) (path : Path) : Bool :=
  (tree.find path).node?.any Node.isFile

def isReadable (tree : FileTree) (path : Path) : Bool :=
  (tree.find path).node?.any (·.access.reading)

/-- The bytes of a file; what is asked for is named as it was written. -/
def read (tree : FileTree) (path : Path) : Except Fault (List UInt8) :=
  if path.text.toList.contains '\x00' then .error .nullByte
  else match tree.find path with
    | .node (.file bytes access) =>
        if access.reading then .ok bytes else .error (.forbidden path.text)
    | .node (.directory access) =>
        .error (if access.reading then .directory path.text else .forbidden path.text)
    | .nothing => .error (.missingFile path.text)
    | .tooLong => .error (.nameTooLong path.text)
    | .forbidden => .error (.forbidden path.text)

/-- The text of a file, in which every line terminator is a newline. That the file is there comes
before that the encoding is known. -/
def readText (tree : FileTree) (path : Path) (encoding : String) : Except Fault String := do
  let bytes ← tree.read path
  match Text.Encoding.named? encoding with
  | none => .error (.unknownEncoding encoding)
  | some encoding =>
      match encoding.decode bytes with
      | .error fault => .error (.decoding fault)
      | .ok chars => .ok (String.ofList (Text.unifyNewlines chars))

def enter (names : List String) (node : Node) (entries : List (List String × Node)) :
    List (List String × Node) :=
  (names, node) :: entries.filter fun (other, _) => other != names

def withParents (names : List String) (entries : List (List String × Node)) :
    List (List String × Node) :=
  (List.range names.length).foldl (fun entries count =>
    let parent := names.take count
    if parent.isEmpty || (entries.lookup parent).isSome then entries
    else enter parent .directory entries) entries

def put (tree : FileTree) (names : List String) (node : Node) : FileTree :=
  { tree with inside := enter names node (withParents names tree.inside) }

def placeOf? (path : Path) : Option (List String) :=
  if path.root ≠ "" then none
  else path.names.foldl (fun place name => place.bind fun names =>
    if name = ".." then (if names.isEmpty then none else some names.dropLast)
    else some (names ++ [name])) (some [])

end FileTree

end ExScript
