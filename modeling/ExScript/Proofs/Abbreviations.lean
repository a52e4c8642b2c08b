import ExScript.Proofs.Occurrences
import ExScript.Proofs.Ownership

/-!
What the abbreviations of commands stand for. Full names keep the order in which they were first
registered, whoever owns them later, and an abbreviation stands for the owner of the first of them
whose owner accepts it. So a command with names of its own comes behind all others: it takes no
abbreviation away from them.
-/

namespace ExScript

theorem Spec.parse?_accepts_empty {text : String} {spec : Spec}
    (parsed : parse? text = some spec) : spec.accepts "" = false := by
  obtain ⟨⟨short, optional⟩, found, rfl⟩ := Option.map_eq_some_iff.mp parsed
  obtain ⟨char, rest, rfl⟩ := List.exists_cons_of_ne_nil (parseChars?_short found)
  simp [accepts]

namespace Table

theorem find?_values {α : Type} {table : Table α} (distinct : table.keys.Nodup)
    (accepts : α → Bool) :
    table.values.find? accepts =
      table.keys.findSome? fun name => (table.get? name).filter accepts := by
  unfold values keys
  rw [List.find?_eq_findSome?_guard, List.findSome?_map, List.findSome?_map,
    ← List.head?_filterMap, ← List.head?_filterMap]
  refine congrArg List.head? (List.filterMap_congr fun entry member => ?_)
  have found : table.get? entry.1 = some entry.2 := lookup_of_mem distinct member
  simp [found, Option.guard, Option.filter_some]

end Table

namespace Registry

variable {C : Type}

theorem keys_claim (command : Descriptor C) (names : List String)
    (owners : Table (Descriptor C)) :
    (claim command names owners).1.keys = names.foldl addNew owners.keys := by
  induction names generalizing owners with
  | nil => rfl
  | cons name rest ih =>
      have behind : (claim command (name :: rest) owners).1 =
          (claim command rest (owners.insert name command)).1 := rfl
      have entered : (owners.insert name command).keys = addNew owners.keys name := by
        refine (Table.keys_enter name command owners.entries).trans ?_
        simp only [addNew, Table.keys, List.contains_iff_mem]
      rw [behind, ih, entered, List.foldl_cons]

def firstNames (history : List (Descriptor C)) : List String :=
  (history.flatMap Descriptor.names).eraseDups

theorem keys_registered (history : List (Descriptor C)) :
    (registered history).owners.keys = firstNames history := by
  have entered : (registered history).owners.keys =
      (history.flatMap Descriptor.names).foldl addNew [] := by
    induction history using List.reverseRecOn with
    | nil => rfl
    | append_singleton history command ih =>
        rw [registered_snoc, keys_claim, ih, List.flatMap_append, List.flatMap_singleton,
          List.foldl_append]
  exact entered.trans (foldl_addNew List.nodup_nil _)

theorem mem_firstNames {history : List (Descriptor C)} {name : String} :
    name ∈ firstNames history ↔ latest? history name ≠ none := by
  unfold firstNames
  rw [List.mem_eraseDups, List.mem_flatMap, Option.ne_none_iff_exists']
  constructor
  · rintro ⟨command, member, named⟩
    exact latest?_isSome member named
  · rintro ⟨command, latest⟩
    exact ⟨command, latest?_mem latest⟩

/-- The present owner of the first name whose owner accepts the abbreviation. -/
def abbreviated? (history : List (Descriptor C)) (name : String) : Option (Descriptor C) :=
  (firstNames history).findSome? fun other => (latest? history other).filter (·.accepts name)

theorem find?_values_registered (history : List (Descriptor C)) (name : String) :
    (registered history).owners.values.find? (·.accepts name) = abbreviated? history name := by
  rw [Table.find?_values (keys_registered_nodup history), keys_registered]
  simp only [owner_latest]
  rfl

def Spelled (command : Descriptor C) : Prop :=
  ∀ spec ∈ command.specs, ∃ text, Spec.parse? text = some spec

/-- The empty name says something of commands only if their names could be written. -/
def Nameable (history : List (Descriptor C)) (name : String) : Prop :=
  name = "" → ∀ command ∈ history, Spelled command

theorem Nameable.of_ne {history : List (Descriptor C)} {name : String} (nonempty : name ≠ "") :
    Nameable history name :=
  fun empty => absurd empty nonempty

theorem latest?_empty {history : List (Descriptor C)}
    (spelled : ∀ command ∈ history, Spelled command) : latest? history "" = none := by
  refine Option.eq_none_iff_forall_ne_some.mpr fun command latest => ?_
  obtain ⟨member, named⟩ := latest?_mem latest
  obtain ⟨spec, among, empty⟩ := List.mem_map.mp named
  obtain ⟨text, parsed⟩ := spelled command member spec among
  exact (Spec.parse?_full parsed).2 empty

theorem accepts_empty {command : Descriptor C} (spelled : Spelled command) :
    command.accepts "" = false := by
  refine List.any_eq_false.mpr fun spec among => ?_
  obtain ⟨text, parsed⟩ := spelled spec among
  simp [Spec.parse?_accepts_empty parsed]

theorem resolve_registered {history : List (Descriptor C)} {name : String}
    (nameable : Nameable history name) :
    (registered history).resolve name =
      (latest? history name).or (abbreviated? history name) := by
  unfold resolve
  rw [owner_latest, find?_values_registered]
  by_cases empty : name = ""
  · subst empty
    have unknown : abbreviated? history "" = none := by
      refine List.findSome?_eq_none_iff.mpr fun other _ => ?_
      refine Option.filter_eq_none_iff.mpr fun owner latest accepts => ?_
      rw [accepts_empty (nameable rfl owner (latest?_mem latest).1)] at accepts
      cases accepts
    rw [if_pos rfl, latest?_empty (nameable rfl), unknown]
    rfl
  · rw [if_neg empty]
    cases latest? history name <;> rfl

def Fresh (history : List (Descriptor C)) (command : Descriptor C) : Prop :=
  ∀ name ∈ command.names, latest? history name = none

theorem firstNames_fresh {history : List (Descriptor C)} {command : Descriptor C}
    (fresh : Fresh history command) :
    firstNames (history ++ [command]) = firstNames history ++ command.names.eraseDups := by
  have others : command.names.removeAll (history.flatMap Descriptor.names) = command.names := by
    refine List.filter_eq_self.mpr fun name member => ?_
    have unnamed : name ∉ firstNames history := fun named =>
      mem_firstNames.mp named (fresh name member)
    simpa [firstNames] using unnamed
  unfold firstNames
  rw [List.flatMap_append, List.flatMap_singleton, List.eraseDups_append, others]

theorem abbreviated?_fresh {history : List (Descriptor C)} {command : Descriptor C}
    (fresh : Fresh history command) (name : String) :
    abbreviated? (history ++ [command]) name =
      (abbreviated? history name).or (if command.accepts name then some command else none) := by
  unfold abbreviated?
  rw [firstNames_fresh fresh, List.findSome?_append]
  congr 1
  -- no earlier name has changed hands, and all the later ones have one owner
  · rw [← List.head?_filterMap, ← List.head?_filterMap]
    refine congrArg List.head? (List.filterMap_congr fun other known => ?_)
    have foreign : other ∉ command.names := fun own => mem_firstNames.mp known (fresh other own)
    rw [latest?_snoc, if_neg foreign]
  · have own : ∀ other ∈ command.names.eraseDups,
        (latest? (history ++ [command]) other).filter (·.accepts name) =
          if command.accepts name then some command else none := by
      intro other member
      rw [latest?_snoc, if_pos (List.mem_eraseDups.mp member), Option.filter_some]
    have first : command.names.eraseDups =
        command.name :: ((command.others.map (·.full)).filter
          fun other => !other == command.name).eraseDups := List.eraseDups_cons
    by_cases accepts : command.accepts name
    · have here := own command.name (first ▸ List.mem_cons_self)
      rw [first, List.findSome?_cons, here, if_pos accepts]
    · rw [List.findSome?_eq_none_iff.mpr fun other member => ?_, if_neg accepts]
      rw [own other member, if_neg accepts]

theorem resolve_fresh {history : List (Descriptor C)} {command : Descriptor C} {name : String}
    (nameable : Nameable (history ++ [command]) name) (fresh : Fresh history command) :
    (registered (history ++ [command])).resolve name =
      if name ∈ command.names then some command
      else ((registered history).resolve name).or
        (if command.accepts name then some command else none) := by
  have before : Nameable history name := fun empty other member =>
    nameable empty other (List.mem_append_left _ member)
  rw [resolve_registered nameable, resolve_registered before, latest?_snoc,
    abbreviated?_fresh fresh, Option.or_assoc]
  by_cases own : name ∈ command.names
  · rw [if_pos own, if_pos own]
    rfl
  · rw [if_neg own, if_neg own]

/-- What a command changes for a word when it is registered after these. -/
structure Conservative (history : List (Descriptor C)) (command : Descriptor C) (name : String) :
    Prop where
  kept : ((registered history).register command).1.resolve name ≠
      (registered history).resolve name →
    name ∈ command.names ∨ (registered history).resolve name = none
  gained : name ∈ command.names ∨ (registered history).resolve name = none →
    ((registered history).register command).1.resolve name =
      if name ∈ command.names ∨ ∃ spec ∈ command.specs, spec.accepts name = true
      then some command else none

theorem register_conservative {history : List (Descriptor C)} {command : Descriptor C}
    {name : String} (nameable : Nameable (history ++ [command]) name)
    (fresh : Fresh history command) : Conservative history command name := by
  have extended : ((registered history).register command).1 =
      registered (history ++ [command]) := by
    unfold registered
    rw [List.foldl_append]
    rfl
  have matched : command.accepts name = true ↔ ∃ spec ∈ command.specs, spec.accepts name = true :=
    List.any_eq_true
  constructor
  · rw [extended, resolve_fresh nameable fresh]
    intro changed
    by_cases own : name ∈ command.names
    · exact .inl own
    · cases before : (registered history).resolve name with
      | none => exact .inr rfl
      | some owner => simp [own, before] at changed
  · rw [extended, resolve_fresh nameable fresh]
    rintro (own | unknown)
    · rw [if_pos own, if_pos (.inl own)]
    · by_cases own : name ∈ command.names <;> simp [own, unknown, ← matched]

/-- A word stands for the command registered last under it, and otherwise for the present owner of
the first registered name whose owner accepts it. A command that takes no name from another one
changes this for its own names only, and for words that nobody has accepted. -/
theorem resolve_conservative (history : List (Descriptor C)) (name : String)
    (nameable : Nameable history name) :
    (registered history).resolve name =
        (latest? history name).or (abbreviated? history name) ∧
      ∀ command, Nameable [command] name → Fresh history command →
        Conservative history command name := by
  refine ⟨resolve_registered nameable, fun command written fresh => ?_⟩
  refine register_conservative (fun empty other member => ?_) fresh
  rcases List.mem_append.mp member with earlier | last
  · exact nameable empty other earlier
  · exact written empty other last

def helmet : Descriptor Unit :=
  plainCommand 3 ⟨"hel", "helmet"⟩ []

theorem resolve_conservative_helmet :
    (registered replaced).resolve "hel" = some replacement ∧
      ((registered replaced).register helmet).1.resolve "hel" = some replacement ∧
      ((registered replaced).register helmet).1.resolve "helm" = some helmet := by
  have fresh : Fresh replaced helmet := by
    intro name member
    rw [List.mem_singleton.mp member]
    rfl
  have before := resolve_conservative replaced "hel" (.of_ne (by decide))
  have held : (registered replaced).resolve "hel" = some replacement := before.1.trans rfl
  have helm := resolve_conservative replaced "helm" (.of_ne (by decide))
  refine ⟨held, ?_, (helm.2 helmet (.of_ne (by decide)) fresh).gained (.inr rfl)⟩
  rw [← held]
  by_contra changed
  rcases (before.2 helmet (.of_ne (by decide)) fresh).kept changed with own | unknown
  · exact absurd own (by decide)
  · cases held.symm.trans unknown

end Registry

end ExScript
