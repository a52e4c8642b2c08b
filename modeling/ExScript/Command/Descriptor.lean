import ExScript.Command.Spec
import ExScript.Fault
import ExScript.Text.Split

/-!
Commands as registered: their name specifications, what they accept, and the code that handles
them. Two commands are the same one exactly when their serial numbers agree.
-/

namespace ExScript

structure Descriptor (C : Type) where
  serial : Nat
  first : Spec
  others : List Spec
  description : String
  hereDoc : Bool
  bang : Bool
  source : String
  handler : C

namespace Descriptor

variable {C : Type}

def specs (command : Descriptor C) : List Spec :=
  command.first :: command.others

def name (command : Descriptor C) : String :=
  command.first.full

def names (command : Descriptor C) : List String :=
  command.specs.map (·.full)

def accepts (command : Descriptor C) (name : String) : Bool :=
  command.specs.any (·.accepts name)

def labels (command : Descriptor C) : List String :=
  command.specs.map (·.label)

end Descriptor

/-- A command to be registered, its name specifications as written, with what is documented of its
handler. -/
structure Registration (C : Type) where
  specs : List String
  description : String := ""
  doc : String := ""
  hereDoc : Bool := false
  bang : Bool := false
  source : String := "builtin"
  handler : C

namespace Registration

variable {C : Type}

def parseSpecs : List String → Except Fault (List Spec)
  | [] => .ok []
  | text :: rest =>
      match Spec.parse? text with
      | none => .error (.invalidSpec text)
      | some spec => (parseSpecs rest).map (spec :: ·)

def shownDescription (registration : Registration C) : String :=
  if registration.description = "" then Text.strip registration.doc
  else registration.description

def describe (registration : Registration C) (serial : Nat) : Except Fault (Descriptor C) :=
  match parseSpecs registration.specs with
  | .error fault => .error fault
  | .ok [] => .error .noNames
  | .ok (first :: others) =>
      .ok {
        serial, first, others
        description := registration.shownDescription
        hereDoc := registration.hereDoc
        bang := registration.bang
        source := registration.source
        handler := registration.handler }

end Registration

end ExScript
