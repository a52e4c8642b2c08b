import ExScript.Engine.Plugins
import ExScript.Proofs.Running

/-!
What plugins write. Loading them, all at once or one at a time, comes down to names that are entered
one after the other, commands in the registry and symbols in the table of the user, up to the first
attempt that fails.
-/

namespace ExScript

theorem Registration.describe_serial {C : Type} (registration : Registration C) (serial : Nat) :
    registration.describe serial =
      (registration.describe 0).map fun command => { command with serial } := by
  unfold describe
  cases parseSpecs registration.specs with
  | error fault => rfl
  | ok specs => cases specs <;> rfl

def Descriptor.unnumbered {C : Type} (command : Descriptor C) : Descriptor C :=
  { command with serial := 0 }

theorem Registry.claim_eq {C : Type} (command : Descriptor C) (names : List String)
    (owners : Table (Descriptor C)) :
    (claim command names owners).1 = owners.insertAll (names.map fun name => (name, command)) := by
  induction names generalizing owners with
  | nil => rfl
  | cons name rest ih => exact ih (owners.insert name command)

namespace Engine

variable {N : Type}

inductive Write (N : Type) where
  | command (name : String) (owner : Descriptor (Handler N))
  | symbol (name : String) (value : Expr.Value)

def Write.command? : Write N → Option (String × Descriptor (Handler N))
  | .command name owner => some (name, owner)
  | .symbol _ _ => none

def Write.symbol? : Write N → Option (String × Expr.Value)
  | .command _ _ => none
  | .symbol name value => some (name, value)

def commandsOf (writes : List (Write N)) : List (String × Descriptor (Handler N)) :=
  writes.filterMap Write.command?

def symbolsOf (writes : List (Write N)) : List (String × Expr.Value) :=
  writes.filterMap Write.symbol?

/-- Attempts to write, made in a row. One that fails writes nothing. -/
abbrev Attempts (N : Type) := List (Option (List (Write N)))

def written : Attempts N → List (Write N)
  | [] => []
  | none :: _ => []
  | some writes :: rest => writes ++ written rest

def succeeds (attempts : Attempts N) : Bool :=
  attempts.all (·.isSome)

theorem written_append (before behind : Attempts N) :
    written (before ++ behind) =
      written before ++ if succeeds before then written behind else [] := by
  induction before with
  | nil => rfl
  | cons first rest ih =>
      cases first with
      | none => rfl
      | some writes =>
          have same : succeeds (some writes :: rest) = succeeds rest := rfl
          rw [List.cons_append, written, written, ih, same, List.append_assoc]

theorem succeeds_append (before behind : Attempts N) :
    succeeds (before ++ behind) = (succeeds before && succeeds behind) :=
  List.all_append

/-- Of things tried one after the other, those that are reached write what they write alone. -/
theorem written_flatMap {α : Type} (attempts : α → Attempts N) (items : List α) :
    ∃ reached, reached <+: items ∧
      written (items.flatMap attempts) = reached.flatMap fun item => written (attempts item) := by
  induction items with
  | nil => exact ⟨[], List.prefix_rfl, rfl⟩
  | cons item rest ih =>
      obtain ⟨reached, initial, same⟩ := ih
      rw [List.flatMap_cons, written_append]
      by_cases all : succeeds (attempts item) = true
      · refine ⟨item :: reached, (List.prefix_cons_inj item).mpr initial, ?_⟩
        rw [if_pos all, same, List.flatMap_cons]
      · refine ⟨[item], ⟨rest, rfl⟩, ?_⟩
        rw [if_neg all, List.flatMap_singleton, List.append_nil]

def registering (registration : Registration (Handler N)) : Option (List (Write N)) :=
  match registration.describe 0 with
  | .error _ => none
  | .ok command => some (command.names.map fun name => .command name command.unnumbered)

def defining : String × Expr.Value → Option (List (Write N))
  | (name, value) => if Text.isIdentifier name then some [.symbol name value] else none

theorem commandsOf_names (names : List String) (command : Descriptor (Handler N)) :
    commandsOf (names.map fun name => Write.command name command) =
      names.map fun name => (name, command) := by
  induction names with
  | nil => rfl
  | cons name rest ih => exact congrArg (List.cons (name, command)) ih

theorem symbolsOf_names (names : List String) (command : Descriptor (Handler N)) :
    symbolsOf (names.map fun name => Write.command name command) = [] := by
  induction names with
  | nil => rfl
  | cons name rest ih => exact ih

namespace Plugin

def registers (plugin : Plugin N) : Attempts N :=
  plugin.commands.map registering

def defines (plugin : Plugin N) : Attempts N :=
  plugin.symbols.map defining

def attempts (plugin : Plugin N) : Attempts N :=
  plugin.registers ++ plugin.defines

end Plugin

def inTurn (plugins : List (Plugin N)) : List (Write N) :=
  plugins.flatMap fun plugin => written plugin.attempts

/-- What is written by plugins that are loaded together, the newest first: all the commands and then
all the symbols. Without the plugin of the engine's own none of them is run. -/
def atOnce (plugins : List (Plugin N)) : List (Write N) :=
  if plugins.any (·.isBuiltin) then
    written (plugins.reverse.flatMap Plugin.registers ++ plugins.reverse.flatMap Plugin.defines)
  else []

/-- One state comes from another by these writes, as far as commands and symbols go. -/
structure Wrote (before last : State N) (writes : List (Write N)) : Prop where
  owners : last.registry.owners.map Descriptor.unnumbered =
    (before.registry.owners.map Descriptor.unnumbered).insertAll (commandsOf writes)
  user : last.world.user = before.world.user.insertAll (symbolsOf writes)

theorem Wrote.trans {before between last : State N} {writes more : List (Write N)}
    (first : Wrote before between writes) (second : Wrote between last more) :
    Wrote before last (writes ++ more) where
  owners := by
    rw [second.owners, first.owners, ← Table.insertAll_append]
    unfold commandsOf
    rw [List.filterMap_append]
  user := by
    rw [second.user, first.user, ← Table.insertAll_append]
    unfold symbolsOf
    rw [List.filterMap_append]

inductive Made (attempts : Attempts N) (state : State N) : Ended N Unit → Prop where
  | fine {last} (wrote : Wrote state last (written attempts))
      (plugins : last.plugins = state.plugins) (all : succeeds attempts = true) :
      Made attempts state (.ok ⟨⟩ last)
  | failed {fault last} (wrote : Wrote state last (written attempts))
      (plugins : last.plugins = state.plugins) (some : succeeds attempts = false) :
      Made attempts state (.error (.fault fault) last)

def Makes (action : Run N Unit) (attempts : Attempts N) : Prop :=
  ∀ state, Made attempts state (action.run state)

theorem Made.after {action : Run N Unit} {attempts : Attempts N} {state : State N}
    (made : Made attempts state (action.run state)) :
    Wrote state (after action state) (written attempts) ∧
      (after action state).plugins = state.plugins := by
  unfold Engine.after
  generalize action.run state = result at made
  cases made with
  | fine wrote plugins => exact ⟨wrote, plugins⟩
  | failed wrote plugins => exact ⟨wrote, plugins⟩

namespace Makes

theorem nothing {action : Run N Unit} (apart : ∀ state, ∃ last, action.run state = .ok ⟨⟩ last ∧
    last.registry = state.registry ∧ last.world = state.world ∧ last.plugins = state.plugins) :
    Makes action [] := by
  intro state
  obtain ⟨last, ran, registry, world, plugins⟩ := apart state
  rw [ran]
  refine .fine ⟨?_, ?_⟩ plugins rfl
  · rw [registry]
    rfl
  · rw [world]
    rfl

theorem bind {first second : Run N Unit} {attempts more : Attempts N}
    (one : Makes first attempts) (other : Makes second more) :
    Makes (first >>= fun _ => second) (attempts ++ more) := by
  intro state
  have made := one state
  rw [EStateM.run_bind]
  generalize first.run state = result at made
  cases made with
  | failed wrote plugins some =>
      refine .failed ?_ plugins (by rw [succeeds_append, some, Bool.false_and])
      rw [written_append, some, if_neg Bool.false_ne_true, List.append_nil]
      exact wrote
  | @fine between wrote plugins all =>
      have behind := other between
      have writes : written (attempts ++ more) = written attempts ++ written more := by
        rw [written_append, if_pos all]
      dsimp only
      generalize second.run between = result at behind
      cases behind with
      | fine further kept every =>
          refine .fine ?_ (kept.trans plugins) (by rw [succeeds_append, all, every, Bool.and_self])
          rw [writes]
          exact wrote.trans further
      | failed further kept some =>
          refine .failed ?_ (kept.trans plugins) (by rw [succeeds_append, all, some, Bool.true_and])
          rw [writes]
          exact wrote.trans further

theorem pure : Makes (Pure.pure ⟨⟩ : Run N Unit) [] :=
  nothing fun state => ⟨state, rfl, rfl, rfl, rfl⟩

theorem forM {α : Type} {action : α → Run N Unit} {attempts : α → Attempts N}
    (each : ∀ item, Makes (action item) (attempts item)) (items : List α) :
    Makes (items.forM action) (items.flatMap attempts) := by
  induction items with
  | nil => exact pure
  | cons item rest ih =>
      exact (each item).bind ih

theorem note (level : Level) (text : String) : Makes (note level text : Run N Unit) [] :=
  nothing fun state => ⟨state.noted level text, rfl, rfl, rfl, rfl⟩

end Makes

theorem run_forIn_note (names : List String) (level : Level) (text : String → String)
    (state : State N) :
    ∃ session, (forIn names PUnit.unit fun name _ => do
        note level (text name)
        pure (ForInStep.yield PUnit.unit) : Run N PUnit).run state =
      .ok ⟨⟩ { state with session } := by
  induction names generalizing state with
  | nil => exact ⟨state.session, rfl⟩
  | cons name rest ih =>
      obtain ⟨session, ran⟩ := ih (state.noted level (text name))
      rw [List.forIn_cons]
      exact ⟨session, ran⟩

theorem run_registerCommand {registration : Registration (Handler N)}
    {command : Descriptor (Handler N)} (plain : registration.describe 0 = .ok command)
    (state : State N) :
    ∃ session, (registerCommand registration).run state =
      .ok ⟨⟩ { state with
        registry := (state.registry.register { command with serial := state.registry.created }).1
        session } := by
  have described := registration.describe_serial state.registry.created
  rw [plain] at described
  let owner : Descriptor (Handler N) := { command with serial := state.registry.created }
  obtain ⟨session, ran⟩ := run_forIn_note (state.registry.register owner).2 .warning
    (fun name => "command.replaced name=" ++ name ++ " source=" ++ registration.source)
    { state with registry := (state.registry.register owner).1 }
  refine ⟨session, ?_⟩
  unfold registerCommand Registry.add
  rw [run_get_bind]
  dsimp only
  rw [described]
  dsimp only [Except.map]
  rw [EStateM.run_bind, EStateM.run_set]
  exact run_bind_ok ran

theorem registerCommand_makes (registration : Registration (Handler N)) :
    Makes (registerCommand registration) [registering registration] := by
  intro state
  unfold registering
  cases plain : registration.describe 0 with
  | error fault =>
      have described := registration.describe_serial state.registry.created
      rw [plain] at described
      unfold registerCommand Registry.add
      rw [run_get_bind]
      dsimp only
      rw [described]
      exact .failed ⟨rfl, rfl⟩ rfl rfl
  | ok command =>
      obtain ⟨session, ran⟩ := run_registerCommand plain state
      rw [ran]
      refine .fine ⟨?_, ?_⟩ rfl rfl
      · have owners : (state.registry.register
            { command with serial := state.registry.created }).1.owners = _ :=
          Registry.claim_eq _ command.names state.registry.owners
        dsimp only
        rw [owners, Table.map_insertAll, written, written, List.append_nil, commandsOf_names,
          List.map_map]
        rfl
      · rw [written, written, List.append_nil, symbolsOf_names]
        rfl

theorem define_makes (symbol : String × Expr.Value) :
    Makes (define symbol.1 symbol.2 : Run N Unit) [defining symbol] := by
  intro state
  unfold define defining
  rw [run_get_bind]
  dsimp only
  unfold Expr.World.define
  by_cases identifier : Text.isIdentifier symbol.1 = true
  · rw [if_pos identifier, if_pos identifier]
    exact .fine ⟨rfl, rfl⟩ rfl rfl
  · rw [if_neg identifier, if_neg identifier]
    exact .failed ⟨rfl, rfl⟩ rfl rfl

theorem registerCommands_makes (plugin : Plugin N) :
    Makes (registerCommands plugin) plugin.registers := by
  have makes := Makes.forM registerCommand_makes plugin.commands
  rwa [← List.map_eq_flatMap] at makes

theorem defineSymbols_makes (plugin : Plugin N) :
    Makes (defineSymbols plugin) plugin.defines := by
  have makes : Makes (plugin.symbols.forM fun symbol => define symbol.1 symbol.2 : Run N Unit) _ :=
    Makes.forM define_makes plugin.symbols
  rwa [← List.map_eq_flatMap] at makes

def newcomers (plugins : List (Plugin N)) : List (Plugin N) → List (Plugin N)
  | [] => []
  | plugin :: rest =>
      if plugins.any (·.name = plugin.name) then newcomers plugins rest
      else plugin :: newcomers (plugins ++ [plugin]) rest

def addPlugins (plugins : List (Plugin N)) : Run N Unit :=
  plugins.forM fun plugin => do
    let _ ← attempt (registerPlugin plugin)

theorem enterPlugin_taken {plugin : Plugin N} {state : State N}
    (taken : state.plugins.any (·.name = plugin.name) = true) :
    (enterPlugin plugin).run state = .error (.fault (alreadyRegistered plugin.name)) state := by
  unfold enterPlugin
  rw [run_get_bind]
  rw [if_pos taken]
  rfl

theorem registerPlugin_taken {plugin : Plugin N} {state : State N}
    (taken : state.plugins.any (·.name = plugin.name) = true) :
    (registerPlugin plugin).run state = .error (.fault (alreadyRegistered plugin.name)) state :=
  run_bind_error (enterPlugin_taken taken)

def State.joinedBy (state : State N) (plugin : Plugin N) : State N :=
  { state with plugins := state.plugins ++ [plugin] }

theorem enterPlugin_free {plugin : Plugin N} {state : State N}
    (free : state.plugins.any (·.name = plugin.name) = false) :
    (enterPlugin plugin).run state = .ok ⟨⟩ (state.joinedBy plugin) := by
  unfold enterPlugin
  rw [run_get_bind]
  rw [free, if_neg Bool.false_ne_true]
  rfl

theorem registerPlugin_free {plugin : Plugin N} {state : State N}
    (free : state.plugins.any (·.name = plugin.name) = false) :
    (registerPlugin plugin).run state =
      (registerCommands plugin >>= fun _ => defineSymbols plugin).run (state.joinedBy plugin) :=
  run_bind_ok (enterPlugin_free free)

theorem attempts_makes (plugin : Plugin N) :
    Makes (registerCommands plugin >>= fun _ => defineSymbols plugin) plugin.attempts :=
  (registerCommands_makes plugin).bind (defineSymbols_makes plugin)

theorem Makes.after_joinedBy {action : Run N Unit} {attempts : Attempts N}
    (makes : Makes action attempts) (plugin : Plugin N) (state : State N) :
    Wrote state (after action (state.joinedBy plugin)) (written attempts) ∧
      (after action (state.joinedBy plugin)).plugins = state.plugins ++ [plugin] := by
  obtain ⟨wrote, plugins⟩ := (makes (state.joinedBy plugin)).after
  exact ⟨⟨wrote.owners, wrote.user⟩, plugins⟩

theorem registerPlugin_new {plugin : Plugin N} {state : State N}
    (free : state.plugins.any (·.name = plugin.name) = false) :
    Wrote state (after (registerPlugin plugin) state) (written plugin.attempts) ∧
      (after (registerPlugin plugin) state).plugins = state.plugins ++ [plugin] := by
  have same : after (registerPlugin plugin) state =
      after (registerCommands plugin >>= fun _ => defineSymbols plugin)
        (state.joinedBy plugin) := by
    unfold after
    rw [registerPlugin_free free]
  rw [same]
  exact (attempts_makes plugin).after_joinedBy plugin state

theorem run_attempt_registerPlugin (plugin : Plugin N) (state : State N) :
    ∃ result, (attempt (registerPlugin plugin)).run state =
      .ok result (after (registerPlugin plugin) state) := by
  rw [run_attempt]
  unfold after
  cases free : state.plugins.any (·.name = plugin.name) with
  | true =>
      rw [registerPlugin_taken free]
      exact ⟨_, rfl⟩
  | false =>
      have made := attempts_makes plugin (state.joinedBy plugin)
      rw [registerPlugin_free free]
      generalize (registerCommands plugin >>= fun _ => defineSymbols plugin).run
        (state.joinedBy plugin) = result at made
      cases made with
      | fine => exact ⟨_, rfl⟩
      | failed => exact ⟨_, rfl⟩

theorem after_addPlugins_cons (plugin : Plugin N) (rest : List (Plugin N)) (state : State N) :
    after (addPlugins (plugin :: rest)) state =
      after (addPlugins rest) (after (registerPlugin plugin) state) := by
  obtain ⟨result, ran⟩ := run_attempt_registerPlugin plugin state
  have first : (do let _ ← attempt (registerPlugin plugin) : Run N Unit).run state =
      .ok ⟨⟩ (after (registerPlugin plugin) state) := by
    rw [run_bind_ok ran]
    rfl
  have all : (addPlugins (plugin :: rest)).run state =
      (addPlugins rest).run (after (registerPlugin plugin) state) := run_bind_ok first
  conv => lhs; unfold after
  rw [all]
  rfl

theorem addPlugins_wrote (more : List (Plugin N)) (state : State N) :
    Wrote state (after (addPlugins more) state) (inTurn (newcomers state.plugins more)) ∧
      (after (addPlugins more) state).plugins = state.plugins ++ newcomers state.plugins more := by
  induction more generalizing state with
  | nil => exact ⟨⟨rfl, rfl⟩, (List.append_nil _).symm⟩
  | cons plugin rest ih =>
      obtain ⟨wrote, plugins⟩ := ih (after (registerPlugin plugin) state)
      rw [after_addPlugins_cons]
      cases free : state.plugins.any (·.name = plugin.name) with
      | true =>
          have same : after (registerPlugin plugin) state = state := by
            unfold after
            rw [registerPlugin_taken free]
          rw [same] at wrote plugins ⊢
          unfold newcomers
          rw [if_pos free]
          exact ⟨wrote, plugins⟩
      | false =>
          obtain ⟨first, entered⟩ := registerPlugin_new free
          rw [entered] at wrote plugins
          unfold newcomers
          rw [free, if_neg Bool.false_ne_true]
          refine ⟨first.trans wrote, plugins.trans ?_⟩
          rw [List.append_assoc]
          rfl

def ready (plugins : List (Plugin N)) : List (Plugin N) :=
  if plugins.any (·.isBuiltin) || plugins.any (·.name = "builtin") then plugins
  else plugins ++ [builtinPlugin]

def runAll (discover : Bool) (plugins : List (Plugin N)) : Run N Unit := do
  if discover then note .debug "plugins.entry_points loaded=0"
  plugins.reverse.forM registerCommands
  plugins.reverse.forM defineSymbols
  note .info ("plugins.loaded commands=" ++ toString (← get).registry.descriptors.length)

theorem runAll_makes (discover : Bool) (plugins : List (Plugin N)) :
    Makes (runAll discover plugins)
      (plugins.reverse.flatMap Plugin.registers ++ plugins.reverse.flatMap Plugin.defines) := by
  have counts : Makes (do
      note .info ("plugins.loaded commands=" ++ toString (← get).registry.descriptors.length) :
        Run N Unit) [] := .nothing fun state => ⟨_, rfl, rfl, rfl, rfl⟩
  have runs := (Makes.forM registerCommands_makes plugins.reverse).bind
    ((Makes.forM defineSymbols_makes plugins.reverse).bind counts)
  rw [List.append_nil] at runs
  cases discover with
  | false => exact runs
  | true => exact (Makes.note _ _).bind runs

theorem run_loadPlugins (discover : Bool) (state : State N) :
    (loadPlugins discover).run state =
      if state.plugins.any (·.isBuiltin) then (runAll discover state.plugins).run state
      else if state.plugins.any (·.name = "builtin") then
        .error (.fault (alreadyRegistered "builtin")) state
      else (runAll discover (state.plugins ++ [builtinPlugin])).run
        (state.joinedBy builtinPlugin) := by
  unfold loadPlugins
  rw [run_get_bind]
  dsimp only
  cases state.plugins.any (·.isBuiltin) with
  | true => cases discover <;> rfl
  | false =>
      rw [Bool.not_false, if_pos rfl, if_neg Bool.false_ne_true]
      cases taken : state.plugins.any (·.name = "builtin") with
      | true => exact run_bind_error (enterPlugin_taken taken)
      | false =>
          rw [run_bind_ok (enterPlugin_free taken)]
          cases discover <;> rfl

theorem atOnce_of_builtin {plugins : List (Plugin N)}
    (builtin : plugins.any (·.isBuiltin) = true) :
    atOnce plugins = written
      (plugins.reverse.flatMap Plugin.registers ++ plugins.reverse.flatMap Plugin.defines) := by
  unfold atOnce
  rw [if_pos builtin]

theorem loadPlugins_wrote (discover : Bool) (state : State N) :
    Wrote state (after (loadPlugins discover) state) (atOnce (ready state.plugins)) ∧
      (after (loadPlugins discover) state).plugins = ready state.plugins := by
  have ran := run_loadPlugins discover state
  unfold ready
  cases builtin : state.plugins.any (·.isBuiltin) with
  | true =>
      rw [builtin, if_pos rfl] at ran
      have made := (runAll_makes discover state.plugins state).after
      rw [Bool.true_or, if_pos rfl, atOnce_of_builtin builtin]
      unfold after at *
      rw [ran]
      exact made
  | false =>
      rw [builtin, if_neg Bool.false_ne_true] at ran
      rw [Bool.false_or]
      cases taken : state.plugins.any (·.name = "builtin") with
      | true =>
          rw [taken, if_pos rfl] at ran
          rw [if_pos rfl]
          unfold after atOnce
          rw [ran, builtin]
          exact ⟨⟨rfl, rfl⟩, rfl⟩
      | false =>
          rw [taken, if_neg Bool.false_ne_true] at ran
          have here : (state.plugins ++ [builtinPlugin]).any (·.isBuiltin) = true := by
            simp [builtinPlugin]
          have wrote := (runAll_makes discover (state.plugins ++ [builtinPlugin])).after_joinedBy
            builtinPlugin state
          rw [if_neg Bool.false_ne_true, atOnce_of_builtin here]
          unfold after at *
          rw [ran]
          exact wrote

end Engine

end ExScript
