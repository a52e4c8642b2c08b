import ExScript.Message

/-!
What a running script shares with its surroundings: the message channel, the log, the person at the
prompt, and the script being read with the line it is at.
-/

namespace ExScript

inductive Level where
  | debug
  | info
  | warning
  | error
  deriving DecidableEq, Repr

def Level.rank : Level → Nat
  | .debug => 0
  | .info => 1
  | .warning => 2
  | .error => 3

def Level.name : Level → String
  | .debug => "DEBUG"
  | .info => "INFO"
  | .warning => "WARNING"
  | .error => "ERROR"

/-- The level of a name; a name of none is above all but errors. -/
def Level.ofName (name : String) : Level :=
  ([debug, info, warning].find? fun level => level.name = name).getD error

structure LogRow where
  level : Level
  script : String
  text : String
  deriving DecidableEq, Repr

structure Frame where
  path : String
  line : Nat
  deriving DecidableEq, Repr

structure PromptRequest where
  prompt : String
  completions : List String
  deriving DecidableEq, Repr

structure Session where
  channel : Channel := {}
  log : Array LogRow := #[]
  answers : List (Option String) := []
  asked : Array PromptRequest := #[]
  /-- The script being read, as the log names it. -/
  script : Option Frame := none
  /-- The script being read, as those who read it know it. -/
  sourcing : Option Frame := none
  deriving Inhabited

namespace Session

def currentScript (session : Session) : String :=
  match session.script with
  | none => "-"
  | some frame => frame.path ++ ":" ++ toString frame.line

def note (session : Session) (level : Level) (text : String) : Session :=
  { session with log := session.log.push ⟨level, session.currentScript, text⟩ }

def emit (session : Session) (kind : MessageKind) (text : String) : Session :=
  { session with channel := session.channel.emit ⟨kind, text⟩ }

def echo (session : Session) (text : String) : Session :=
  session.emit .echo text

def inform (session : Session) (text : String) : Session :=
  (session.note .info ("message " ++ text)).emit .info text

def complain (session : Session) (text : String) : Session :=
  (session.note .error ("message.error " ++ text)).emit .error text

def say (session : Session) : MessageKind → String → Session
  | .echo, text => session.echo text
  | .info, text => session.inform text
  | .error, text => session.complain text

/-- Asks for one line; there is none when the answers have run out or the next one is a refusal. -/
def ask (session : Session) (request : PromptRequest) : Option String × Session :=
  let asked := { session with asked := session.asked.push request }
  match session.answers with
  | [] => (none, asked)
  | answer :: rest => (answer, { asked with answers := rest })

def atLine (session : Session) (line : Nat) : Session :=
  { session with
    script := session.script.map fun frame => { frame with line }
    sourcing := session.sourcing.map fun frame => { frame with line } }

def enter (session : Session) (path : String) : Session :=
  { session with script := some ⟨path, 0⟩, sourcing := some ⟨path, 0⟩ }

def resume (session earlier : Session) : Session :=
  { session with script := earlier.script, sourcing := earlier.sourcing }

def locate (session : Session) (path : String) (line : Nat) : Session :=
  (session.complain ("Error detected while processing: " ++ path)).echo
    ("line " ++ toString line ++ ":")

end Session

end ExScript
