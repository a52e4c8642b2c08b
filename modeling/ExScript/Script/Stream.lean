import ExScript.Script.Assembly
import ExScript.Script.LineSource

/-!
Streams of directives. A stream is a cursor that all its readers share: every pull reads just the
lines that the next directive needs, with the commands registered at that moment. A closed stream
and one that has ended give nothing more.
-/

namespace ExScript

variable {C : Type}

structure Stream (C : Type) where
  path : String
  /-- Directives assembled beforehand, handed out first. -/
  assembled : List (Directive C) := []
  atHand : List String := []
  /-- What to ask at the prompt once they are used up, and how many requests are left. -/
  prompting : Option (Prompting × Nat) := none
  number : Nat := 1
  pending : Option (OpenHeredoc C) := none
  tracked : Bool := false
  reports : Bool := true
  ended : Bool := false
  closed : Bool := false

namespace Stream

def ofSource (source : LineSource) (tracked : Bool) (reports : Bool := true) : Stream C :=
  if source.isOpen then
    { path := source.path, atHand := source.atHand, tracked, reports
      prompting := source.prompting.map fun prompting => (prompting, prompting.limit.toNat) }
  else { path := source.path, tracked, reports }

theorem ofSource_given {source : LineSource} (given : source.Given) (tracked reports : Bool) :
    (ofSource source tracked reports : Stream C) =
      { path := source.path, atHand := source.atHand, tracked, reports } := by
  unfold ofSource
  rw [given.isOpen, given.prompting]
  rfl

def ofDirectives (directives : List (Directive C)) : Stream C :=
  { path := "<string>", assembled := directives }

def close (stream : Stream C) : Stream C :=
  { stream with closed := true }

/-- Pulls give at most as many directives as this. -/
def remaining (stream : Stream C) : Nat :=
  stream.assembled.length + stream.atHand.length +
    (match stream.prompting with
      | none => 0
      | some (_, left) => left) +
    (if stream.pending.isSome then 1 else 0) + 1

structure Pulled (C : Type) where
  result : Except Fault (Option (Directive C))
  stream : Stream C
  session : Session

def reportUnknown (stream : Stream C) (number : Nat) (line : String) (session : Session) :
    Session :=
  let noted := session.note .warning ("directive.unknown path=" ++ stream.path ++ " line=" ++
    toString number ++ " text=" ++ Text.quote line)
  if stream.reports then
    let placed := if stream.tracked then noted.locate stream.path number else noted
    placed.complain (ScriptError.unknownCommand line).message
  else noted

/-- Reads one line. The result is the directive it completes, if it completes one. -/
def takeLine (registry : Registry C) (stream : Stream C) (text : String) (session : Session) :
    Pulled C :=
  let number := stream.number
  let session := if stream.tracked then session.atLine number else session
  let stream := { stream with number := number + 1 }
  match Assembly.roleOf registry stream.pending number text with
  | .error fault => ⟨.error fault, { stream with ended := true }, session⟩
  | .ok .ignored => ⟨.ok none, stream, session⟩
  | .ok .unknown =>
      ⟨.ok none, stream,
        stream.reportUnknown number (Assembly.dropCarriageReturn text) session⟩
  | .ok (.whole directive) => ⟨.ok (some directive), stream, session⟩
  | .ok (.opens heredoc) => ⟨.ok none, { stream with pending := some heredoc }, session⟩
  | .ok (.body heredoc) => ⟨.ok none, { stream with pending := some heredoc }, session⟩
  | .ok (.closes directive) => ⟨.ok (some directive), { stream with pending := none }, session⟩

/-- There are no more lines. A heredoc left open still gives its directive. -/
def finish (stream : Stream C) (session : Session) : Pulled C :=
  match stream.pending with
  | none => ⟨.ok none, { stream with ended := true }, session⟩
  | some heredoc =>
      ⟨.ok (some heredoc.header), { stream with pending := none },
        session.note .warning ("heredoc.unterminated path=" ++ stream.path ++ " terminator=" ++
          heredoc.terminator)⟩

def pullAsked (registry : Registry C) (prompting : Prompting) :
    (left : Nat) → Stream C → Session → Pulled C
  | 0, stream, session =>
      finish { stream with prompting := none } (prompting.limitReached session)
  | left + 1, stream, session =>
      match session.ask prompting.request with
      | (none, session) => finish { stream with prompting := none } session
      | (some text, session) =>
          match takeLine registry { stream with prompting := some (prompting, left) } text
            session with
          | ⟨.ok none, stream, session⟩ => pullAsked registry prompting left stream session
          | pulled => pulled

def pullLines (registry : Registry C) :
    (atHand : List String) → Stream C → Session → Pulled C
  | [], stream, session =>
      match stream.prompting with
      | none => finish stream session
      | some (prompting, left) => pullAsked registry prompting left stream session
  | text :: rest, stream, session =>
      match takeLine registry { stream with atHand := rest } text session with
      | ⟨.ok none, stream, session⟩ => pullLines registry rest stream session
      | pulled => pulled

def pull (registry : Registry C) (stream : Stream C) (session : Session) : Pulled C :=
  if stream.closed || stream.ended then ⟨.ok none, stream, session⟩
  else match stream.assembled with
    | directive :: rest => ⟨.ok (some directive), { stream with assembled := rest }, session⟩
    | [] => pullLines registry stream.atHand stream session

end Stream

end ExScript
