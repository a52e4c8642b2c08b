import ExScript.Engine.Builtins

/-!
Plugins. Loading runs all of them, the newest first, so that what the oldest registers is what
stays; a plugin that comes later is run on its own at once.
-/

namespace ExScript.Engine

variable {N : Type}

def registerCommand (registration : Registration (Handler N)) : Run N Unit := do
  let state ← get
  match state.registry.add registration with
  | .error fault => raise fault
  | .ok (registry, _, replaced) => do
      set { state with registry }
      for name in replaced do
        note .warning ("command.replaced name=" ++ name ++ " source=" ++ registration.source)

def registerCommands (plugin : Plugin N) : Run N Unit :=
  plugin.commands.forM registerCommand

def defineSymbols (plugin : Plugin N) : Run N Unit :=
  plugin.symbols.forM fun (name, value) => define name value

def builtinPlugin : Plugin N :=
  { name := "builtin", commands := builtinCommands, symbols := builtinSymbols, isBuiltin := true }

def alreadyRegistered (name : String) : Fault :=
  .foreign "ValueError" ("Plugin name already registered: " ++ name)

def enterPlugin (plugin : Plugin N) : Run N Unit := do
  let state ← get
  if state.plugins.any (·.name = plugin.name) then raise (alreadyRegistered plugin.name)
  else set { state with plugins := state.plugins ++ [plugin] }

/-- Registers one more plugin and runs it. A plugin that fails stays registered. -/
def registerPlugin (plugin : Plugin N) : Run N Unit := do
  enterPlugin plugin
  registerCommands plugin
  defineSymbols plugin

def loadPlugins (discover : Bool) : Run N Unit := do
  if !(← get).plugins.any (·.isBuiltin) then enterPlugin builtinPlugin
  if discover then note .debug "plugins.entry_points loaded=0"
  let newestFirst := (← get).plugins.reverse
  newestFirst.forM registerCommands
  newestFirst.forM defineSymbols
  note .info ("plugins.loaded commands=" ++ toString (← get).registry.descriptors.length)

def hookReport (state : State N) : List (String × List String) :=
  let names := state.plugins.map (·.name)
  if names.isEmpty then []
  else [("register_commands", names), ("provide_symbols", names)]

end ExScript.Engine
