import ExScript.Command.Registry
import Mathlib.Data.List.Induction
import Mathlib.Data.List.Nodup

/-!
Who owns the names of commands. Every name belongs to the command registered last under it. A
command that has lost none of its names is found under all of them, and its abbreviations stand for
names that are still its own; one that has lost some is still listed under its first name, and is
still found by abbreviations of those it has lost.
-/

namespace ExScript

namespace Spec

theorem parseChars?_short {chars short optional : List Char}
    (parsed : parseChars? chars = some (short, optional)) : short ≠ [] := by
  unfold parseChars? at parsed
  dsimp only at parsed
  split at parsed
  · cases parsed
  next some =>
    have nonempty : chars.takeWhile (!isBracket ·) ≠ [] := by simpa using some
    split at parsed
    · cases parsed
      exact nonempty
    · split at parsed
      · cases parsed
      · split at parsed <;> cases parsed <;> exact nonempty
    · cases parsed

theorem parse?_full {text : String} {spec : Spec} (parsed : parse? text = some spec) :
    spec.accepts spec.full = true ∧ spec.full ≠ "" := by
  obtain ⟨⟨short, optional⟩, found, rfl⟩ := Option.map_eq_some_iff.mp parsed
  have nonempty := parseChars?_short found
  constructor
  · simp [accepts]
  · intro empty
    have none : short ++ optional = [] := String.ofList_eq_empty_iff.mp empty
    exact nonempty (List.append_eq_nil_iff.mp none).1

end Spec

namespace Registry

variable {C : Type}

theorem get?_claim (command : Descriptor C) (names : List String) (owners : Table (Descriptor C))
    (name : String) :
    (claim command names owners).1.get? name =
      if name ∈ names then some command else owners.get? name := by
  induction names generalizing owners with
  | nil => rfl
  | cons first rest ih =>
      have behind : (claim command (first :: rest) owners).1 =
          (claim command rest (owners.insert first command)).1 := rfl
      rw [behind, ih]
      by_cases later : name ∈ rest
      · rw [if_pos later, if_pos (List.mem_cons_of_mem _ later)]
      · rw [if_neg later]
        by_cases same : name = first
        · rw [if_pos (List.mem_cons.mpr (.inl same)), same, Table.get?_insert_self]
        · rw [if_neg (by simp [same, later]), Table.get?_insert_ne _ same]

theorem keys_claim_nodup (command : Descriptor C) (names : List String)
    {owners : Table (Descriptor C)} (distinct : owners.keys.Nodup) :
    (claim command names owners).1.keys.Nodup := by
  induction names generalizing owners with
  | nil => exact distinct
  | cons first rest ih => exact ih (Table.keys_insert_nodup distinct first command)

def registered (history : List (Descriptor C)) : Registry C :=
  history.foldl (fun registry command => (registry.register command).1) empty

def latest? (history : List (Descriptor C)) (name : String) : Option (Descriptor C) :=
  history.reverse.find? fun command => command.names.contains name

theorem registered_snoc (history : List (Descriptor C)) (command : Descriptor C) :
    (registered (history ++ [command])).owners =
      (claim command command.names (registered history).owners).1 := by
  unfold registered
  rw [List.foldl_append]
  rfl

theorem latest?_snoc (history : List (Descriptor C)) (command : Descriptor C) (name : String) :
    latest? (history ++ [command]) name =
      if name ∈ command.names then some command else latest? history name := by
  unfold latest?
  rw [List.reverse_append, List.reverse_singleton, List.singleton_append, List.find?_cons]
  by_cases own : name ∈ command.names <;> simp [own]

theorem latest?_mem {history : List (Descriptor C)} {name : String} {command : Descriptor C}
    (latest : latest? history name = some command) :
    command ∈ history ∧ name ∈ command.names := by
  have member := List.mem_of_find?_eq_some latest
  have named := List.find?_some latest
  exact ⟨List.mem_reverse.mp member, by simpa using named⟩

theorem latest?_isSome {history : List (Descriptor C)} {name : String} {command : Descriptor C}
    (member : command ∈ history) (named : name ∈ command.names) :
    ∃ owner, latest? history name = some owner := by
  refine Option.isSome_iff_exists.mp (List.find?_isSome.mpr ⟨command, ?_, ?_⟩)
  · exact List.mem_reverse.mpr member
  · simpa using named

/-- Registering takes over names one at a time, so that the last one to register a name has it. -/
theorem owner_latest (history : List (Descriptor C)) (name : String) :
    (registered history).owners.get? name = latest? history name := by
  induction history using List.reverseRecOn with
  | nil => rfl
  | append_singleton history command ih => rw [registered_snoc, get?_claim, latest?_snoc, ih]

theorem keys_registered_nodup (history : List (Descriptor C)) :
    (registered history).owners.keys.Nodup := by
  induction history using List.reverseRecOn with
  | nil => exact List.nodup_nil
  | append_singleton history command ih =>
      rw [registered_snoc]
      exact keys_claim_nodup command command.names ih

theorem mem_values_registered {history : List (Descriptor C)} {command : Descriptor C} :
    command ∈ (registered history).owners.values ↔
      ∃ name, latest? history name = some command := by
  rw [Table.mem_values_iff (keys_registered_nodup history)]
  simp only [owner_latest]

structure Proper (history : List (Descriptor C)) : Prop where
  serial : ∀ first ∈ history, ∀ second ∈ history, first.serial = second.serial → first = second
  spelled : ∀ command ∈ history, ∀ spec ∈ command.specs, ∃ text, Spec.parse? text = some spec

theorem serial_of_mem_distinct {commands : List (Descriptor C)} {command : Descriptor C}
    (member : command ∈ distinct commands) : command ∈ commands := by
  induction commands with
  | nil => exact member
  | cons first rest ih =>
      rcases List.mem_cons.mp member with rfl | later
      · exact List.mem_cons_self
      · exact List.mem_cons_of_mem _ (ih (List.mem_filter.mp later).1)

theorem mem_distinct {commands : List (Descriptor C)}
    (serial : ∀ first ∈ commands, ∀ second ∈ commands, first.serial = second.serial →
      first = second)
    {command : Descriptor C} (member : command ∈ commands) : command ∈ distinct commands := by
  induction commands with
  | nil => exact member
  | cons first rest ih =>
      by_cases same : command = first
      · exact List.mem_cons.mpr (.inl same)
      · have later : command ∈ rest := (List.mem_cons.mp member).resolve_left same
        have other : command.serial ≠ first.serial := fun alike =>
          same (serial command member first List.mem_cons_self alike)
        refine List.mem_cons_of_mem _ (List.mem_filter.mpr ⟨?_, by simpa using other⟩)
        exact ih (fun one here two there => serial one (List.mem_cons_of_mem _ here) two
          (List.mem_cons_of_mem _ there)) later

theorem distinct_serials (commands : List (Descriptor C)) :
    (distinct commands).Pairwise fun first second => first.serial ≠ second.serial := by
  induction commands with
  | nil => exact List.Pairwise.nil
  | cons first rest ih =>
      refine List.pairwise_cons.mpr ⟨fun other member => ?_, ih.filter _⟩
      have kept := (List.mem_filter.mp member).2
      exact Ne.symm (by simpa using kept)

theorem mem_descriptors {history : List (Descriptor C)} (proper : Proper history)
    {command : Descriptor C} :
    command ∈ (registered history).descriptors ↔ ∃ name, latest? history name = some command := by
  have known {other : Descriptor C} (held : other ∈ (registered history).owners.values) :
      other ∈ history := by
    obtain ⟨name, latest⟩ := mem_values_registered.mp held
    exact (latest?_mem latest).1
  rw [← mem_values_registered]
  unfold descriptors
  rw [List.mem_mergeSort]
  exact ⟨serial_of_mem_distinct, mem_distinct fun one here two there =>
    proper.serial one (known here) two (known there)⟩

theorem descriptors_serials (registry : Registry C) :
    registry.descriptors.Pairwise fun first second => first.serial ≠ second.serial := by
  unfold descriptors
  exact (List.mergeSort_perm _ _).symm.pairwise (distinct_serials _) fun different => different.symm

/-- A command that nobody has taken a name from. -/
def Intact (history : List (Descriptor C)) (command : Descriptor C) : Prop :=
  ∀ name ∈ command.names, latest? history name = some command

theorem resolve_name {history : List (Descriptor C)} (proper : Proper history)
    {command : Descriptor C} (member : command ∈ history) :
    (registered history).resolve command.name = latest? history command.name := by
  obtain ⟨text, parsed⟩ := proper.spelled command member command.first List.mem_cons_self
  obtain ⟨owner, latest⟩ := latest?_isSome member
    (show command.name ∈ command.names from List.mem_cons_self)
  have nonempty : command.name ≠ "" := (Spec.parse?_full parsed).2
  unfold resolve
  rw [if_neg nonempty, owner_latest, latest]

theorem resolve_accepts {history : List (Descriptor C)} (proper : Proper history) {name : String}
    {command : Descriptor C} (resolves : (registered history).resolve name = some command) :
    ∃ spec ∈ command.specs, spec.accepts name = true := by
  unfold resolve at resolves
  split at resolves
  · cases resolves
  · rw [owner_latest] at resolves
    split at resolves
    next owner latest =>
      cases resolves
      obtain ⟨member, named⟩ := latest?_mem latest
      obtain ⟨spec, among, rfl⟩ := List.mem_map.mp named
      obtain ⟨text, parsed⟩ := proper.spelled command member spec among
      exact ⟨spec, among, (Spec.parse?_full parsed).1⟩
    next => simpa [Descriptor.accepts] using List.find?_some resolves

structure NamesOwned (history : List (Descriptor C)) : Prop where
  owner : ∀ name, (registered history).owners.get? name = latest? history name
  listed : ∀ command, command ∈ (registered history).descriptors ↔
    ∃ name, latest? history name = some command
  canonical : ∀ command ∈ (registered history).descriptors,
    ((registered history).resolve command.name = some command ↔
      latest? history command.name = some command)
  names : (∀ command ∈ (registered history).descriptors,
      latest? history command.name = some command) → (registered history).names.Nodup
  abbreviations : ∀ name command, (registered history).resolve name = some command →
    command ∈ (registered history).descriptors ∧
    (latest? history name = some command ∨
      latest? history name = none ∧ ∃ spec ∈ command.specs, spec.accepts name = true) ∧
    (Intact history command → ∃ spec ∈ command.specs, spec.accepts name = true ∧
      (registered history).owners.get? spec.full = some command)

/-- Whatever is registered in whatever order, a listed command is found under its canonical name
exactly if nobody has taken that name from it; if this goes for all of them, no name is listed
twice. An abbreviation of a command that has lost no name stands for a name that it owns. -/
theorem names_owned {history : List (Descriptor C)} (proper : Proper history) :
    NamesOwned history where
  owner := owner_latest history
  listed _ := mem_descriptors proper
  canonical command listed := by
    obtain ⟨name, latest⟩ := (mem_descriptors proper).mp listed
    rw [resolve_name proper (latest?_mem latest).1]
  names own := by
    refine List.pairwise_map.mpr ((descriptors_serials _).imp_of_mem ?_)
    intro first second here there different same
    have one := own first here
    rw [same, own second there] at one
    exact different (congrArg Descriptor.serial (Option.some.inj one)).symm
  abbreviations name command resolves := by
    obtain ⟨spec, among, accepts⟩ := resolve_accepts proper resolves
    refine ⟨?_, ?_, fun intact => ⟨spec, among, accepts, ?_⟩⟩
    · exact (mem_descriptors proper).mpr (mem_values_registered.mp (resolve_mem resolves))
    · unfold resolve at resolves
      split at resolves
      · cases resolves
      · rw [owner_latest] at resolves
        split at resolves
        next owner latest => exact .inl (latest.trans resolves)
        next none => exact .inr ⟨none, spec, among, accepts⟩
    · rw [owner_latest]
      exact intact spec.full (List.mem_map_of_mem among)

theorem proper_of_check {history : List (Descriptor C)}
    (serials : (history.map (·.serial)).Nodup)
    (spelled : history.all (fun command =>
      command.specs.all fun spec => Spec.parse? spec.label = some spec) = true) :
    Proper history where
  serial _ here _ there same := List.inj_on_of_nodup_map serials here there same
  spelled command member spec among := by
    have checked := List.all_eq_true.mp (List.all_eq_true.mp spelled command member) spec among
    exact ⟨spec.label, of_decide_eq_true checked⟩

def plainCommand (serial : Nat) (first : Spec) (others : List Spec) : Descriptor Unit :=
  { serial, first, others, description := "", hereDoc := false, bang := false, source := "builtin"
    handler := ⟨⟩ }

def replacement : Descriptor Unit :=
  plainCommand 1 ⟨"he", "hello"⟩ [⟨"bye", "bye"⟩]

def replaced : List (Descriptor Unit) :=
  [plainCommand 0 ⟨"h", "hello"⟩ [⟨"bye", "bye"⟩], replacement, plainCommand 2 ⟨"hel", "help"⟩ []]

theorem names_owned_replaced : ∃ spec ∈ replacement.specs, spec.accepts "hel" = true ∧
    (registered replaced).owners.get? spec.full = some replacement := by
  have proper : Proper replaced := proper_of_check (by decide +kernel) (by decide +kernel)
  have intact : Intact replaced replacement := by
    intro name member
    simp only [replacement, plainCommand, Descriptor.names, Descriptor.specs, List.map_cons,
      List.map_nil, List.mem_cons, List.not_mem_nil, or_false] at member
    rcases member with rfl | rfl <;> rfl
  exact ((names_owned proper).abbreviations "hel" replacement rfl).2.2 intact

def farewell : Descriptor Unit :=
  plainCommand 0 ⟨"he", "hello"⟩ [⟨"bye", "bye"⟩]

def shortened : List (Descriptor Unit) :=
  [farewell, plainCommand 1 ⟨"hello", "hello"⟩ []]

/-- A command that has lost its first name is listed under it all the same, next to the new owner,
and it is what the abbreviation of that name resolves to. -/
theorem names_lost : Proper shortened ∧ ¬ (registered shortened).names.Nodup ∧
    ¬ (∀ command ∈ (registered shortened).descriptors,
      (registered shortened).resolve command.name = some command) ∧
    ¬ (∀ name command, (registered shortened).resolve name = some command →
      ∃ spec ∈ command.specs, spec.accepts name = true ∧
        (registered shortened).owners.get? spec.full = some command) := by
  have proper : Proper shortened := proper_of_check (by decide +kernel) (by decide +kernel)
  have listed : farewell ∈ (registered shortened).descriptors :=
    (mem_descriptors proper).mpr ⟨"bye", rfl⟩
  have other : plainCommand 1 ⟨"hello", "hello"⟩ [] ∈ (registered shortened).descriptors :=
    (mem_descriptors proper).mpr ⟨"hello", rfl⟩
  refine ⟨proper, fun once => ?_, fun found => ?_, fun owned => ?_⟩
  · have same := List.inj_on_of_nodup_map once listed other rfl
    cases congrArg Descriptor.serial same
  · have resolves := congrArg (Option.map Descriptor.serial) (found farewell listed)
    have owner : ((registered shortened).resolve farewell.name).map (·.serial) = some 1 := by
      decide +kernel
    cases owner.symm.trans resolves
  · obtain ⟨spec, among, accepts, owner⟩ := owned "he" farewell rfl
    simp only [farewell, plainCommand, Descriptor.specs, List.mem_cons, List.not_mem_nil,
      or_false] at among
    rcases among with rfl | rfl
    · have owner := congrArg (Option.map Descriptor.serial) owner
      have newer : ((registered shortened).owners.get? "hello").map (·.serial) = some 1 := by
        decide +kernel
      cases newer.symm.trans owner
    · exact absurd accepts (by decide)

end Registry

end ExScript
