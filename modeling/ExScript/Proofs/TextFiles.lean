import ExScript.Proofs.Completion

/-!
The same script in a file and as a text. A file is read with one terminator for all, a text is not;
its lines are the same. What is left of the difference is that a file which was run to its end is a
script name from then on, and that the log says so.
-/

namespace ExScript

def Engine.endedText (text : String) : String :=
  if Engine.endsLine text then text else text ++ "\n"

/-- The file at a path reads as these characters, before its terminators are made one. -/
def FileTree.Holds (files : FileTree) (path : Path) (encoding : String) (chars : List Char) :
    Prop :=
  ∃ bytes known, files.read path = .ok bytes ∧ Text.Encoding.named? encoding = some known ∧
    known.decode bytes = .ok chars

theorem FileTree.Holds.ofFile {files : FileTree} {path : Path} {encoding : String}
    {chars : List Char} (holds : files.Holds path encoding chars) :
    LineSource.ofFile files path encoding =
      .ok (LineSource.ofText (String.ofList chars) (some path.text)) := by
  obtain ⟨bytes, known, read, named, decodes⟩ := holds
  have text : files.readText path encoding =
      .ok (String.ofList (Text.unifyNewlines chars)) := by
    unfold FileTree.readText
    rw [read]
    dsimp only [bind, Except.bind]
    rw [named]
    dsimp only
    rw [decodes]
  unfold LineSource.ofFile LineSource.ofText
  rw [text, ← Text.terminatedLines_unifyNewlines chars]
  rfl

theorem FileTree.Holds.readable {files : FileTree} {path : Path} {encoding : String}
    {chars : List Char} (holds : files.Holds path encoding chars) :
    Engine.unreadable? files path = none := by
  obtain ⟨bytes, known, read, named, decodes⟩ := holds
  unfold FileTree.read at read
  split at read
  · cases read
  · split at read
    next content access found =>
      split at read
      next reading =>
        simp [Engine.unreadable?, FileTree.contains, FileTree.isDirectory, FileTree.isReadable,
          Finding.node?, Node.isDirectory, Node.access, found, reading]
      · cases read
    all_goals cases read

namespace Engine

variable {N : Type}

theorem asScript_congr {name : String} {first second : Run N Unit} {state : State N}
    (alike : first.run (state.scripted name) = second.run (state.scripted name)) :
    (asScript name first).run state = (asScript name second).run state := by
  unfold State.scripted at alike
  unfold asScript
  rw [EStateM.run_bind, EStateM.run_bind, run_attempt, run_attempt, run_withScript,
    run_withScript, alike]

/-- A file without a delegate that reads as a text with its last line ended is run as that text is,
from every state and to the same end: the same answer, the same failures, and the same state but for
the name of the script. -/
theorem source_eq_sourceString (dispatch : Dispatch N) {state : State N} {path : Path}
    {text : String} (plain : state.delegates.get? (Text.lower path.suffix) = none)
    (holds : state.files.Holds path state.sourcing.encoding (endedText text).toList)
    (written : String) (silent : Bool) :
    (source dispatch path written silent).run state =
      listed path.text ((sourceString dispatch text path.text).run state) := by
  have file : LineSource.ofFile state.files path state.sourcing.encoding =
      .ok (LineSource.ofText (endedText text) (some path.text)) := by
    rw [holds.ofFile, String.ofList_toList]
  have alike : (runFile dispatch path).run (state.scripted path.text) =
      (runSource dispatch path.text (LineSource.ofText (endedText text) (some path.text))).run
        (state.scripted path.text) :=
    run_runFile plain file
  rw [run_source holds.readable, asScript_congr alike]
  rfl

def mixedText : String :=
  "if 1\r\necho 1\relseif 2\r\r\n\necho 2\n\rendif\necho 3"

def mixedBytes : List UInt8 :=
  (endedText mixedText).toList.map fun c => UInt8.ofNat c.toNat

def mixedPath : Path :=
  ⟨"", ["mixed"]⟩

def mixedState : State Unit :=
  { builtinState with files := { inside := [(["mixed"], .file mixedBytes)] } }

theorem source_eq_sourceString_mixed :
    (source dispatch mixedPath "mixed" false).run mixedState =
      listed "mixed" ((sourceString dispatch mixedText "mixed").run mixedState) := by
  have plain : mixedState.delegates.get? (Text.lower mixedPath.suffix) = none := rfl
  have decodes : Text.Encoding.utf8.decode mixedBytes = .ok (endedText mixedText).toList := by rfl
  exact source_eq_sourceString dispatch plain ⟨mixedBytes, .utf8, rfl, by decide +kernel, decodes⟩
    "mixed" false

end Engine

end ExScript
