import ExScript.Proofs.Ownership
import ExScript.Proofs.PluginLoading

/-!
Loading plugins again. Plugins that were added one at a time are then run once more, together with
those that were there before and the newest first, so that a name stays with the plugin it belongs
to just if the first plugin with that name gives it the same command or value as the last.
-/

namespace ExScript

namespace Table

variable {α : Type}

def Agree (one other : List (String × α)) : Prop :=
  ∀ name first second, last? one name = some first → last? other name = some second →
    first = second

/-- What is entered again changes nothing exactly if it agrees with what was added, provided that
the rest of it was entered before that. -/
theorem get?_insertAll_again (table : Table α) {first added again : List (String × α)}
    (earlier : ∀ name value, last? again name = some value → last? added name = none →
      last? first name = some value) :
    (∀ name, (((table.insertAll first).insertAll added).insertAll again).get? name =
        ((table.insertAll first).insertAll added).get? name) ↔ Agree added again := by
  simp only [get?_insertAll]
  constructor
  · intro same name one other owned repeated
    have value := same name
    rw [owned, repeated] at value
    exact (Option.some.inj value).symm
  · intro agree name
    cases repeated : last? again name with
    | none => rfl
    | some value =>
        cases owned : last? added name with
        | none =>
            rw [earlier name value repeated owned]
            rfl
        | some other =>
            rw [agree name other value owned repeated]
            rfl

end Table

theorem Registration.parseSpecs_mem {texts : List String} {specs : List Spec}
    (parsed : parseSpecs texts = .ok specs) :
    ∀ spec ∈ specs, ∃ text, Spec.parse? text = some spec := by
  induction texts generalizing specs with
  | nil =>
      cases parsed
      exact fun spec member => nomatch member
  | cons text rest ih =>
      unfold parseSpecs at parsed
      cases first : Spec.parse? text with
      | none =>
          rw [first] at parsed
          cases parsed
      | some spec =>
          rw [first] at parsed
          cases behind : parseSpecs rest with
          | error fault =>
              rw [behind] at parsed
              cases parsed
          | ok others =>
              rw [behind] at parsed
              cases parsed
              exact List.forall_mem_cons.mpr ⟨⟨text, first⟩, ih behind⟩

theorem Registration.describe_names {C : Type} {registration : Registration C} {serial : Nat}
    {command : Descriptor C} (described : registration.describe serial = .ok command) :
    ∀ name ∈ command.names, name ≠ "" := by
  unfold describe at described
  cases parsed : parseSpecs registration.specs with
  | error fault =>
      rw [parsed] at described
      cases described
  | ok specs =>
      rw [parsed] at described
      cases specs with
      | nil => cases described
      | cons first others =>
          cases described
          intro name member
          obtain ⟨spec, among, rfl⟩ := List.mem_map.mp member
          obtain ⟨text, written⟩ := parseSpecs_mem parsed spec among
          exact (Spec.parse?_full written).2

theorem Registry.resolve_unnumbered {C : Type} (registry : Registry C) (name : String) :
    (registry.resolve name).map Descriptor.unnumbered =
      (⟨registry.owners.map Descriptor.unnumbered, 0⟩ : Registry C).resolve name := by
  unfold resolve
  split
  · rfl
  · rw [Table.get?_map]
    cases registry.owners.get? name with
    | some owner => rfl
    | none =>
        dsimp only [Option.map]
        rw [Table.values_map, List.find?_map]
        rfl

namespace Engine

variable {N α : Type}

section Columns

variable {column : Write N → Option (String × α)} {attempts : Plugin N → Attempts N}
  {plugins added : List (Plugin N)} {name : String} {value : α}

theorem exists_written
    (last : Table.last? ((written (plugins.flatMap attempts)).filterMap column) name =
      some value) :
    ∃ plugin ∈ plugins,
      Table.last? ((written (attempts plugin)).filterMap column) name = some value := by
  obtain ⟨reached, initial, same⟩ := written_flatMap attempts plugins
  rw [same, List.filterMap_flatMap] at last
  obtain ⟨plugin, member, found⟩ := Table.exists_last?_flatMap last
  exact ⟨plugin, initial.subset member, found⟩

theorem written_again
    (last : Table.last?
      ((written ((plugins ++ added).reverse.flatMap attempts)).filterMap column) name = some value)
    (apart : ∀ plugin ∈ added,
      Table.last? ((written (attempts plugin)).filterMap column) name = none) :
    Table.last? ((written (plugins.reverse.flatMap attempts)).filterMap column) name =
      some value := by
  have nothing :
      Table.last? ((written (added.reverse.flatMap attempts)).filterMap column) name = none := by
    cases found : Table.last?
        ((written (added.reverse.flatMap attempts)).filterMap column) name with
    | none => rfl
    | some other =>
        obtain ⟨plugin, member, also⟩ := exists_written found
        rw [apart plugin (List.mem_reverse.mp member)] at also
        cases also
  rw [List.reverse_append, List.flatMap_append, written_append, List.filterMap_append,
    Table.last?_append, nothing, Option.or_none] at last
  split at last
  · exact last
  · cases last

variable {before behind : Attempts N}

theorem filterMap_written_before (nothing : (written behind).filterMap column = []) :
    (written (before ++ behind)).filterMap column = (written before).filterMap column := by
  rw [written_append, List.filterMap_append]
  split
  · rw [nothing, List.append_nil]
  · exact List.append_nil _

theorem filterMap_written_behind (nothing : (written before).filterMap column = []) :
    (written (before ++ behind)).filterMap column =
      if succeeds before then (written behind).filterMap column else [] := by
  rw [written_append, List.filterMap_append, nothing, List.nil_append]
  split <;> rfl

end Columns

theorem mem_written {attempts : Attempts N} {write : Write N} (member : write ∈ written attempts) :
    ∃ writes, some writes ∈ attempts ∧ write ∈ writes := by
  fun_induction written attempts with
  | case1 | case2 => cases member
  | case3 writes rest ih =>
      rcases List.mem_append.mp member with here | behind
      · exact ⟨writes, List.mem_cons_self, here⟩
      · obtain ⟨others, among, there⟩ := ih behind
        exact ⟨others, List.mem_cons_of_mem _ among, there⟩

theorem filterMap_written {column : Write N → Option (String × α)} {attempts : Attempts N}
    (apart : ∀ writes, some writes ∈ attempts → ∀ write ∈ writes, column write = none) :
    (written attempts).filterMap column = [] := by
  refine List.filterMap_eq_nil_iff.mpr fun write member => ?_
  obtain ⟨writes, attempted, among⟩ := mem_written member
  exact apart writes attempted write among

theorem command?_of_defines {plugin : Plugin N} {writes : List (Write N)}
    (made : some writes ∈ plugin.defines) : ∀ write ∈ writes, write.command? = none := by
  obtain ⟨⟨name, value⟩, -, defined⟩ := List.mem_map.mp made
  by_cases identifier : Text.isIdentifier name = true
  · rw [defining, if_pos identifier] at defined
    cases defined
    exact List.forall_mem_singleton.mpr rfl
  · rw [defining, if_neg identifier] at defined
    cases defined

theorem registers_cases {plugin : Plugin N} {writes : List (Write N)}
    (made : some writes ∈ plugin.registers) :
    ∀ write ∈ writes, ∃ name owner, write = .command name owner ∧ name ≠ "" := by
  obtain ⟨registration, -, registered⟩ := List.mem_map.mp made
  unfold registering at registered
  cases described : registration.describe 0 with
  | error fault =>
      rw [described] at registered
      cases registered
  | ok command =>
      rw [described] at registered
      cases registered
      intro write member
      obtain ⟨name, among, rfl⟩ := List.mem_map.mp member
      exact ⟨name, _, rfl, registration.describe_names described name among⟩

theorem symbol?_of_registers {plugin : Plugin N} {writes : List (Write N)}
    (made : some writes ∈ plugin.registers) : ∀ write ∈ writes, write.symbol? = none := by
  intro write member
  obtain ⟨name, owner, rfl, -⟩ := registers_cases made write member
  rfl

theorem commandsOf_attempts (plugin : Plugin N) :
    commandsOf (written plugin.attempts) = commandsOf (written plugin.registers) :=
  filterMap_written_before (filterMap_written fun _ => command?_of_defines)

theorem symbolsOf_attempts (plugin : Plugin N) :
    symbolsOf (written plugin.attempts) =
      if succeeds plugin.registers then symbolsOf (written plugin.defines) else [] :=
  filterMap_written_behind (filterMap_written fun _ => symbol?_of_registers)

theorem commandsOf_inTurn (plugins : List (Plugin N)) :
    commandsOf (inTurn plugins) =
      plugins.flatMap fun plugin => commandsOf (written plugin.attempts) :=
  List.filterMap_flatMap

theorem symbolsOf_inTurn (plugins : List (Plugin N)) :
    symbolsOf (inTurn plugins) =
      plugins.flatMap fun plugin => symbolsOf (written plugin.attempts) :=
  List.filterMap_flatMap

theorem commandsOf_atOnce (plugins : List (Plugin N)) :
    commandsOf (atOnce plugins) =
      if plugins.any (·.isBuiltin) then
        commandsOf (written (plugins.reverse.flatMap Plugin.registers))
      else [] := by
  unfold atOnce
  split
  · refine filterMap_written_before (filterMap_written fun writes attempted => ?_)
    obtain ⟨plugin, -, made⟩ := List.mem_flatMap.mp attempted
    exact command?_of_defines made
  · rfl

theorem symbolsOf_atOnce (plugins : List (Plugin N)) :
    symbolsOf (atOnce plugins) =
      if plugins.any (·.isBuiltin) && succeeds (plugins.reverse.flatMap Plugin.registers) then
        symbolsOf (written (plugins.reverse.flatMap Plugin.defines))
      else [] := by
  unfold atOnce
  cases plugins.any (·.isBuiltin) with
  | false => rfl
  | true =>
      refine filterMap_written_behind (filterMap_written fun writes attempted => ?_)
      obtain ⟨plugin, -, made⟩ := List.mem_flatMap.mp attempted
      exact symbol?_of_registers made

theorem succeeds_of_mem {plugins : List (Plugin N)} {attempts : Plugin N → Attempts N}
    (all : succeeds (plugins.flatMap attempts) = true) {plugin : Plugin N}
    (member : plugin ∈ plugins) : succeeds (attempts plugin) = true := by
  unfold succeeds at all
  rw [List.all_flatMap] at all
  exact List.all_eq_true.mp all plugin member

section Again

variable {plugins added : List (Plugin N)} {name : String}

theorem any_builtin (own : ∀ plugin ∈ added, plugin.isBuiltin = false) :
    (plugins ++ added).any (·.isBuiltin) = plugins.any (·.isBuiltin) := by
  have none : added.any (·.isBuiltin) = false := List.any_eq_false.mpr (by simpa using own)
  rw [List.any_append, none, Bool.or_false]

theorem commands_again (own : ∀ plugin ∈ added, plugin.isBuiltin = false)
    {command : Descriptor (Handler N)}
    (last : Table.last? (commandsOf (atOnce (plugins ++ added))) name = some command)
    (apart : Table.last? (commandsOf (inTurn added)) name = none) :
    Table.last? (commandsOf (atOnce plugins)) name = some command := by
  rw [commandsOf_atOnce, any_builtin own] at last
  rw [commandsOf_atOnce]
  split at last
  next builtin =>
    rw [if_pos builtin]
    refine written_again last fun plugin member => ?_
    rw [commandsOf_inTurn] at apart
    have nothing := Table.last?_flatMap_eq_none apart plugin member
    rwa [commandsOf_attempts] at nothing
  next => cases last

theorem symbols_again (own : ∀ plugin ∈ added, plugin.isBuiltin = false) {value : Expr.Value}
    (last : Table.last? (symbolsOf (atOnce (plugins ++ added))) name = some value)
    (apart : Table.last? (symbolsOf (inTurn added)) name = none) :
    Table.last? (symbolsOf (atOnce plugins)) name = some value := by
  rw [symbolsOf_atOnce, any_builtin own, List.reverse_append, List.flatMap_append,
    succeeds_append, ← List.reverse_append] at last
  rw [symbolsOf_atOnce]
  split at last
  next runs =>
    simp only [Bool.and_eq_true] at runs
    obtain ⟨builtin, newer, older⟩ := runs
    rw [builtin, older, Bool.and_self, if_pos rfl]
    refine written_again last fun plugin member => ?_
    rw [symbolsOf_inTurn] at apart
    have nothing := Table.last?_flatMap_eq_none apart plugin member
    have fine := succeeds_of_mem newer (List.mem_reverse.mpr member)
    rwa [symbolsOf_attempts, if_pos fine] at nothing
  next => cases last

end Again

structure LeavesNames (before last : State N) : Prop where
  commands : ∀ name, (last.registry.resolve name).map Descriptor.unnumbered =
    (before.registry.resolve name).map Descriptor.unnumbered
  symbols : ∀ name, last.world.user.get? name = before.world.user.get? name

/-- What plugins gave their names when they were added is what they get when all are loaded. -/
structure Undisputed (plugins added : List (Plugin N)) : Prop where
  commands : Table.Agree (commandsOf (inTurn added)) (commandsOf (atOnce (plugins ++ added)))
  symbols : Table.Agree (symbolsOf (inTurn added)) (symbolsOf (atOnce (plugins ++ added)))

structure Plugin.Apart (plugin other : Plugin N) : Prop where
  commands : ∀ name ∈ (commandsOf (written plugin.attempts)).map (·.1),
    name ∉ (commandsOf (written other.attempts)).map (·.1)
  symbols : ∀ name ∈ (symbolsOf (written plugin.attempts)).map (·.1),
    name ∉ (symbolsOf (written other.attempts)).map (·.1)

theorem eq_of_apart {all added : List (Plugin N)} {entries : Plugin N → List (String × α)}
    {name : String} {first second : α}
    (apart : ∀ plugin ∈ added, ∀ other ∈ all, other ≠ plugin →
      ∀ name ∈ (entries plugin).map (·.1), name ∉ (entries other).map (·.1))
    (owned : Table.last? (added.flatMap entries) name = some first)
    (repeated : ∃ other ∈ all, Table.last? (entries other) name = some second) :
    first = second := by
  obtain ⟨plugin, member, one⟩ := Table.exists_last?_flatMap owned
  obtain ⟨other, among, two⟩ := repeated
  have named {plugin : Plugin N} {value : α}
      (last : Table.last? (entries plugin) name = some value) :
      name ∈ (entries plugin).map (·.1) := List.mem_map.mpr ⟨_, Table.mem_of_last? last, rfl⟩
  by_cases same : other = plugin
  · rw [same, one] at two
    exact Option.some.inj two
  · exact absurd (named two) (apart plugin member other among same name (named one))

theorem undisputed_of_apart {plugins added : List (Plugin N)}
    (apart : ∀ plugin ∈ added, ∀ other ∈ plugins ++ added, other ≠ plugin → plugin.Apart other) :
    Undisputed plugins added where
  commands := by
    intro name first second owned repeated
    rw [commandsOf_inTurn] at owned
    refine eq_of_apart (fun plugin member other among different =>
      (apart plugin member other among different).commands) owned ?_
    rw [commandsOf_atOnce] at repeated
    split at repeated
    · obtain ⟨other, among, last⟩ := exists_written repeated
      rw [← commandsOf, ← commandsOf_attempts] at last
      exact ⟨other, List.mem_reverse.mp among, last⟩
    · cases repeated
  symbols := by
    intro name first second owned repeated
    rw [symbolsOf_inTurn] at owned
    refine eq_of_apart (fun plugin member other among different =>
      (apart plugin member other among different).symbols) owned ?_
    rw [symbolsOf_atOnce] at repeated
    split at repeated
    next runs =>
      obtain ⟨other, among, last⟩ := exists_written repeated
      have fine := succeeds_of_mem (Bool.and_eq_true_iff.mp runs).2 among
      refine ⟨other, List.mem_reverse.mp among, ?_⟩
      rw [symbolsOf_attempts, if_pos fine]
      exact last
    next => cases repeated

theorem mem_newcomers {plugins more : List (Plugin N)} {plugin : Plugin N}
    (member : plugin ∈ newcomers plugins more) : plugin ∈ more := by
  induction more generalizing plugins with
  | nil => cases member
  | cons first rest ih =>
      unfold newcomers at member
      split at member
      · exact List.mem_cons_of_mem _ (ih member)
      · rcases List.mem_cons.mp member with rfl | later
        · exact List.mem_cons_self
        · exact List.mem_cons_of_mem _ (ih later)

theorem ready_append (plugins more : List (Plugin N)) :
    ready (ready plugins ++ more) = ready plugins ++ more := by
  have settled : ((ready plugins).any (·.isBuiltin) ||
      (ready plugins).any (·.name = "builtin")) = true := by
    unfold ready
    split
    next there => exact there
    next => simp [builtinPlugin]
  refine if_pos ?_
  rw [List.any_append, List.any_append]
  rcases Bool.or_eq_true_iff.mp settled with builtin | named
  · rw [builtin, Bool.true_or, Bool.true_or]
  · rw [named, Bool.true_or, Bool.or_true]

theorem named_of_inTurn {plugins : List (Plugin N)} {name : String}
    {command : Descriptor (Handler N)}
    (last : Table.last? (commandsOf (inTurn plugins)) name = some command) : name ≠ "" := by
  rw [commandsOf_inTurn] at last
  obtain ⟨plugin, -, found⟩ := Table.exists_last?_flatMap last
  rw [commandsOf_attempts] at found
  obtain ⟨write, member, entry⟩ := List.mem_filterMap.mp (Table.mem_of_last? found)
  obtain ⟨writes, attempted, among⟩ := mem_written member
  obtain ⟨other, owner, rfl, proper⟩ := registers_cases attempted write among
  cases entry
  exact proper

theorem resolve_of_get? {registry : Registry (Handler N)} {name : String} (proper : name ≠ "")
    {owner : Descriptor (Handler N)}
    (found : (registry.owners.map Descriptor.unnumbered).get? name = some owner) :
    (registry.resolve name).map Descriptor.unnumbered = some owner := by
  rw [Registry.resolve_unnumbered]
  unfold Registry.resolve
  rw [if_neg proper, found]

section Again

variable {state loaded grown reloaded : State N} {plugins added : List (Plugin N)}
  (own : ∀ plugin ∈ added, plugin.isBuiltin = false)
  (first : Wrote state loaded (atOnce plugins)) (second : Wrote loaded grown (inTurn added))
  (third : Wrote grown reloaded (atOnce (plugins ++ added)))

include own first second third

theorem owners_again_iff :
    (∀ name, (reloaded.registry.owners.map Descriptor.unnumbered).get? name =
        (grown.registry.owners.map Descriptor.unnumbered).get? name) ↔
      Table.Agree (commandsOf (inTurn added)) (commandsOf (atOnce (plugins ++ added))) := by
  rw [third.owners, second.owners, first.owners]
  exact Table.get?_insertAll_again _ fun _ _ => commands_again own

theorem user_again_iff :
    (∀ name, reloaded.world.user.get? name = grown.world.user.get? name) ↔
      Table.Agree (symbolsOf (inTurn added)) (symbolsOf (atOnce (plugins ++ added))) := by
  rw [third.user, second.user, first.user]
  exact Table.get?_insertAll_again _ fun _ _ => symbols_again own

/-- Where nothing is disputed, the very table of the commands is as it was, but for their numbers. -/
theorem owners_again (distinct : state.registry.owners.keys.Nodup)
    (undisputed : Undisputed plugins added) :
    reloaded.registry.owners.map Descriptor.unnumbered =
      grown.registry.owners.map Descriptor.unnumbered := by
  have nodup : (grown.registry.owners.map Descriptor.unnumbered).keys.Nodup := by
    rw [second.owners, first.owners]
    refine Table.keys_insertAll_nodup (Table.keys_insertAll_nodup ?_ _) _
    rwa [Table.keys_map]
  have found := (owners_again_iff own first second third).mpr undisputed.commands
  -- To write what is there already keeps the order of the entries, too.
  rw [third.owners] at found ⊢
  exact Table.insertAll_eq_self nodup found

theorem kept_iff (distinct : state.registry.owners.keys.Nodup) :
    LeavesNames grown reloaded ↔ Undisputed plugins added := by
  have sameUser := user_again_iff own first second third
  constructor
  · intro kept
    refine ⟨?_, sameUser.mp kept.symbols⟩
    intro name one other owned repeated
    have proper := named_of_inTurn owned
    have earlier : (grown.registry.owners.map Descriptor.unnumbered).get? name = some one := by
      rw [second.owners, Table.get?_insertAll, owned]
      rfl
    have later : (reloaded.registry.owners.map Descriptor.unnumbered).get? name = some other := by
      rw [third.owners, Table.get?_insertAll, repeated]
      rfl
    have same := kept.commands name
    rw [resolve_of_get? proper earlier, resolve_of_get? proper later] at same
    exact (Option.some.inj same).symm
  · intro undisputed
    refine ⟨fun name => ?_, sameUser.mpr undisputed.symbols⟩
    rw [Registry.resolve_unnumbered, Registry.resolve_unnumbered,
      owners_again own first second third distinct undisputed]

end Again

/-- Loading plugins again leaves all names as they are exactly if each plugin that was added in the
meantime gave its names what they are given by the oldest plugin with such a name. -/
theorem loadPlugins_again {state : State N} (distinct : state.registry.owners.keys.Nodup)
    {more : List (Plugin N)} (own : ∀ plugin ∈ more, plugin.isBuiltin = false)
    (discover again : Bool) :
    let loaded := after (loadPlugins discover) state
    let added := newcomers loaded.plugins more
    let grown := after (addPlugins more) loaded
    let reloaded := after (loadPlugins again) grown
    grown.plugins = loaded.plugins ++ added ∧
      (LeavesNames grown reloaded ↔ Undisputed loaded.plugins added) ∧
      ((∀ plugin ∈ added, ∀ other ∈ grown.plugins, other ≠ plugin → plugin.Apart other) →
        LeavesNames grown reloaded) := by
  intro loaded added grown reloaded
  obtain ⟨first, here⟩ := loadPlugins_wrote discover state
  obtain ⟨second, plugins⟩ := addPlugins_wrote more loaded
  obtain ⟨third, -⟩ := loadPlugins_wrote again grown
  have settled : ready grown.plugins = grown.plugins := by
    have ended : grown.plugins = ready state.plugins ++ added := plugins.trans (by rw [← here])
    rw [ended, ready_append]
  have others : ∀ plugin ∈ added, plugin.isBuiltin = false := fun plugin member =>
    own plugin (mem_newcomers member)
  rw [← here] at first
  rw [settled, plugins] at third
  have kept : LeavesNames grown reloaded ↔ Undisputed loaded.plugins added :=
    kept_iff others first second third distinct
  refine ⟨plugins, kept, fun apart => kept.mpr (undisputed_of_apart ?_)⟩
  rw [plugins] at apart
  exact apart

def greeter : Plugin Unit where
  name := "greeter"
  commands := [{ specs := ["gr[eet]", "hello"], handler := .host fun _ => .done .nothing }]
  symbols := [("greeting", .int 1)]

theorem loadPlugins_again_greeter :
    LeavesNames (after (addPlugins [greeter]) (after (loadPlugins true) {}))
      (after (loadPlugins false) (after (addPlugins [greeter]) (after (loadPlugins true) {}))) := by
  have distinct : ({} : State Unit).registry.owners.keys.Nodup := List.nodup_nil
  have own : ∀ plugin ∈ [greeter], plugin.isBuiltin = false := List.forall_mem_singleton.mpr rfl
  obtain ⟨plugins, -, kept⟩ := loadPlugins_again distinct own true false
  have loaded : (after (loadPlugins true) ({} : State Unit)).plugins = [builtinPlugin] :=
    (loadPlugins_wrote true {}).2
  rw [loaded] at plugins kept
  have added : newcomers [builtinPlugin] [greeter] = [greeter] := rfl
  rw [added] at plugins kept
  refine kept (List.forall_mem_singleton.mpr ?_)
  rw [plugins]
  have apart : greeter.Apart builtinPlugin := ⟨by decide +kernel, by decide +kernel⟩
  exact List.forall_mem_cons.mpr ⟨fun _ => apart, List.forall_mem_singleton.mpr fun other =>
    absurd rfl other⟩

def shadowing : Plugin Unit where
  name := "shadowing"
  commands := [{
    specs := ["ec[ho]"]
    source := "shadowing"
    handler := .host fun _ => .done .nothing }]
  symbols := []

theorem loadPlugins_reverts :
    ¬ LeavesNames (after (addPlugins [shadowing]) (after (loadPlugins false) {}))
      (after (loadPlugins false)
        (after (addPlugins [shadowing]) (after (loadPlugins false) {}))) := by
  intro kept
  have same := congrArg (Option.map (·.source)) (kept.commands "echo")
  have before : ((after (addPlugins [shadowing])
      (after (loadPlugins false) {})).registry.resolve "echo").map (·.source) =
        some "shadowing" := by decide +kernel
  have later : ((after (loadPlugins false) (after (addPlugins [shadowing])
      (after (loadPlugins false) {}))).registry.resolve "echo").map (·.source) =
        some "builtin" := by decide +kernel
  rw [Option.map_map, Option.map_map] at same
  have clash : some "builtin" = some "shadowing" := later.symm.trans (same.trans before)
  exact absurd clash (by decide)

end Engine

end ExScript
