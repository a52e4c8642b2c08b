import ExScript.Command.Line
import ExScript.Command.Registry

/-!
Directives, and the part that each line has in one. A line is ignored, unknown, a whole directive,
the header of a heredoc, a line of its body, or its end.
-/

namespace ExScript

variable {C : Type}

structure Directive (C : Type) where
  line : Nat
  command : Descriptor C
  count : Option Nat
  bang : Bool
  args : String

def Directive.name (directive : Directive C) : String :=
  directive.command.name

structure OpenHeredoc (C : Type) where
  header : Directive C
  terminator : String

def OpenHeredoc.addLine (heredoc : OpenHeredoc C) (line : String) : OpenHeredoc C :=
  { heredoc with
    header := { heredoc.header with args := heredoc.header.args ++ line ++ "\n" } }

inductive LineRole (C : Type) where
  | ignored
  | unknown
  | whole (directive : Directive C)
  | opens (heredoc : OpenHeredoc C)
  | body (heredoc : OpenHeredoc C)
  | closes (directive : Directive C)

namespace Assembly

def dropCarriageReturn (text : String) : String :=
  match text.toList.reverse with
  | '\r' :: rest => String.ofList rest.reverse
  | _ => text

def headerRole (registry : Registry C) (number : Nat) (line : String) :
    Except Fault (LineRole C) :=
  if CommandLine.isIgnored line then .ok .ignored
  else match CommandLine.parse line with
    | .error digits => .error (.oversizedCount digits)
    | .ok none => .ok .unknown
    | .ok (some parsed) =>
        match registry.resolve parsed.name with
        | none => .ok .unknown
        | some command =>
            let directive : Directive C :=
              { line := number, command, count := parsed.count, bang := parsed.bang,
                args := parsed.args }
            match if command.hereDoc then Heredoc.cut? parsed.args else none with
            | some (before, terminator) =>
                .ok (.opens ⟨{ directive with args := before }, terminator⟩)
            | none => .ok (.whole directive)

def bodyRole (heredoc : OpenHeredoc C) (line : String) : LineRole C :=
  if line = heredoc.terminator then .closes heredoc.header else .body (heredoc.addLine line)

/-- The part of a line, which loses one carriage return at its end. -/
def roleOf (registry : Registry C) (pending : Option (OpenHeredoc C)) (number : Nat)
    (text : String) : Except Fault (LineRole C) :=
  match pending with
  | some heredoc => .ok (bodyRole heredoc (dropCarriageReturn text))
  | none => headerRole registry number (dropCarriageReturn text)

variable (registry : Registry C) {heredoc : OpenHeredoc C} (number : Nat) {text : String}

theorem roleOf_closes (closes : dropCarriageReturn text = heredoc.terminator) :
    roleOf registry (some heredoc) number text = .ok (.closes heredoc.header) := by
  simp [roleOf, bodyRole, closes]

theorem roleOf_body (inside : dropCarriageReturn text ≠ heredoc.terminator) :
    roleOf registry (some heredoc) number text =
      .ok (.body (heredoc.addLine (dropCarriageReturn text))) := by
  simp [roleOf, bodyRole, inside]

end Assembly

end ExScript
