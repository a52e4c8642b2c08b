import ExScript.Settings

/-!
Where log rows go. A profile has a sink of its own, a format and a level; configuring again with
what is in force changes nothing.
-/

namespace ExScript

inductive Profile where
  | standard
  | interactive
  deriving DecidableEq, Repr

namespace Profile

def name : Profile → String
  | .standard => "default"
  | .interactive => "interactive"

def sink : Profile → String
  | .standard => "stderr"
  | .interactive => "RichHandler"

def format : Profile → String
  | .standard => "\x7btime:YYYY-MM-DD HH:mm:ss.SSS\x7d | \x7blevel:<7\x7d | " ++
      "\x7bname\x7d:\x7bfunction\x7d:\x7bline\x7d | \x7bextra[script]\x7d | \x7bmessage\x7d"
  | .interactive => "\x7bmessage\x7d"

def level (profile : Profile) (settings : Settings) : String :=
  match profile with
  | .standard => settings.logLevel
  | .interactive => settings.interactiveLogLevel

end Profile

inductive LogChange where
  | remove
  | add (sink level format : String)
  | label
  deriving DecidableEq, Repr

structure Sink where
  name : String
  level : String
  format : String
  deriving DecidableEq, Repr

/-- The sinks in force, and the profile and level remembered from the last configuration that was
carried through. -/
structure Logging where
  sinks : List Sink := []
  remembered : Option (Profile × String) := none
  deriving DecidableEq, Repr

namespace Logging

/-- Configures the log; `accepts` are the levels that a sink can have. The sinks in force are gone
before the new one is refused. -/
def configure (accepts : String → Bool) (logging : Logging) (settings : Settings)
    (profile : Profile) : Except String (List LogChange) × Logging :=
  let level := profile.level settings
  if logging.remembered = some (profile, level) then (.ok [], logging)
  else if accepts level then
    (.ok [.remove, .add profile.sink level profile.format, .label],
      { sinks := [⟨profile.sink, level, profile.format⟩], remembered := some (profile, level) })
  else (.error level, { logging with sinks := [] })

end Logging

end ExScript
