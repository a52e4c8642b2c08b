import ExScript.Files
import ExScript.Session

/-!
Sources of numbered lines. A source has some lines at hand, those of a text or of a file, and may
ask for more at the prompt, up to a limit. Closing a source ends every pass over it; a refused
request closes it.
-/

namespace ExScript

structure RawLine where
  number : Nat
  text : String
  deriving DecidableEq, Repr

structure Prompting where
  limit : Int := 16
  prompt : String := "  "
  completions : List String := []
  deriving DecidableEq, Repr

def Prompting.request (prompting : Prompting) : PromptRequest :=
  ⟨prompting.prompt, prompting.completions⟩

def Prompting.limitReached (prompting : Prompting) (session : Session) : Session :=
  session.note .warning ("prompt.line_limit max_lines=" ++ toString prompting.limit)

structure LineSource where
  path : String
  atHand : List String
  prompting : Option Prompting := none
  isOpen : Bool := true

namespace LineSource

/-- A source without a name of its own is called a string. -/
def named (path : Option String) (lines : List String) : LineSource :=
  { path := (path.filter (· ≠ "")).getD "<string>", atHand := lines }

def ofText (text : String) (path : Option String := none) : LineSource :=
  named path (Text.terminatedLines text)

def ofFile (files : FileTree) (path : Path) (encoding : String := "utf-8") :
    Except Fault LineSource :=
  (files.readText path encoding).map fun text => ofText text (some path.text)

def ofPrompt (prompting : Prompting) (initial : List String := []) : LineSource :=
  { path := "<prompt>", atHand := initial, prompting }

/-- Lines that are all there, with nothing to ask for behind them. -/
structure Given (source : LineSource) : Prop where
  isOpen : source.isOpen = true
  prompting : source.prompting = none

theorem named_given (path : Option String) (lines : List String) : Given (named path lines) :=
  ⟨rfl, rfl⟩

def close (source : LineSource) : LineSource :=
  { source with isOpen := false }

def closeAt (source : LineSource) (limit : Option Nat) (produced : Nat) : LineSource :=
  if limit = some produced then source.close else source

def askOn (prompting : Prompting) (limit : Option Nat) : (left : Nat) → (number : Nat) →
    LineSource → Session → List RawLine × LineSource × Session
  | 0, _, source, session =>
      ([], source, if source.isOpen then prompting.limitReached session else session)
  | left + 1, number, source, session =>
      if source.isOpen then
        match session.ask prompting.request with
        | (none, session) => ([], source.close, session)
        | (some text, session) =>
            let (lines, source, session) :=
              askOn prompting limit left (number + 1) (source.closeAt limit number) session
            (⟨number, text⟩ :: lines, source, session)
      else ([], source, session)

def readOn (limit : Option Nat) : (atHand : List String) → (number : Nat) →
    LineSource → Session → List RawLine × LineSource × Session
  | [], number, source, session =>
      match source.prompting with
      | none => ([], source, session)
      | some prompting => askOn prompting limit prompting.limit.toNat number source session
  | text :: rest, number, source, session =>
      if source.isOpen then
        let (lines, source, session) :=
          readOn limit rest (number + 1) (source.closeAt limit number) session
        (⟨number, text⟩ :: lines, source, session)
      else ([], source, session)

/-- One pass over the source, which is closed after `closeAfter` lines if that is given. -/
def pass (source : LineSource) (closeAfter : Option Nat) (session : Session) :
    List RawLine × LineSource × Session :=
  readOn closeAfter source.atHand 1 (source.closeAt closeAfter 0) session

end LineSource

end ExScript
