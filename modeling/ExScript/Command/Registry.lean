import ExScript.Command.Descriptor
import ExScript.Table

/-!
The registry of commands. Every full name has one owner, the command registered last under it. A
word stands for the owner of that name, and otherwise for the first owner in the order of names
that accepts it as an abbreviation.
-/

namespace ExScript

structure Registry (C : Type) where
  owners : Table (Descriptor C)
  created : Nat

namespace Registry

variable {C : Type}

def empty : Registry C := ⟨∅, 0⟩

instance : Inhabited (Registry C) := ⟨empty⟩

/-- Makes a command the owner of the names given, and lists those taken from other commands. -/
def claim (command : Descriptor C) : List String → Table (Descriptor C) →
    Table (Descriptor C) × List String
  | [], owners => (owners, [])
  | name :: rest, owners =>
      let taken := (owners.get? name).any fun owner => owner.serial != command.serial
      let (result, replaced) := claim command rest (owners.insert name command)
      (result, if taken then name :: replaced else replaced)

def register (registry : Registry C) (command : Descriptor C) : Registry C × List String :=
  let (owners, replaced) := claim command command.names registry.owners
  (⟨owners, max registry.created (command.serial + 1)⟩, replaced)

def add (registry : Registry C) (registration : Registration C) :
    Except Fault (Registry C × Descriptor C × List String) :=
  match registration.describe registry.created with
  | .error fault => .error fault
  | .ok command =>
      let (result, replaced) := registry.register command
      .ok (result, command, replaced)

def resolve (registry : Registry C) (name : String) : Option (Descriptor C) :=
  if name = "" then none
  else match registry.owners.get? name with
    | some owner => some owner
    | none => registry.owners.values.find? (·.accepts name)

theorem resolve_mem {registry : Registry C} {name : String} {command : Descriptor C}
    (found : registry.resolve name = some command) : command ∈ registry.owners.values := by
  unfold resolve at found
  split at found
  · cases found
  · split at found
    next owner owned =>
      cases found
      exact Table.get?_mem owned
    next => exact List.mem_of_find?_eq_some found

def has (registry : Registry C) (name : String) : Bool :=
  (registry.resolve name).isSome

def distinct : List (Descriptor C) → List (Descriptor C)
  | [] => []
  | command :: rest =>
      command :: (distinct rest).filter fun other => other.serial != command.serial

def descriptors (registry : Registry C) : List (Descriptor C) :=
  (distinct registry.owners.values).mergeSort fun left right => left.name ≤ right.name

def names (registry : Registry C) : List String :=
  registry.descriptors.map (·.name)

def rows (registry : Registry C) : List String :=
  registry.descriptors.map fun command =>
    Text.joinWith ", " command.labels ++ ": " ++ command.description

end Registry

end ExScript
