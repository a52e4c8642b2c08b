import ExScript.Proofs.Hereditary

/-!
Rows of calls in the log. A call is logged in front of all that its handler logs and behind it, with
a row for the failure of the handler if it fails. The rows of a run are put together by a grammar of
such calls. Where a run ends in a fault, the rows of the calls that it breaks off come last, the
innermost call first.
-/

namespace ExScript

/-- A fault but for the place that a script error is attributed to. -/
def Fault.withoutPlace : Fault → Fault
  | .script error => .script { error with path := none, line := none }
  | fault => fault

namespace Engine

variable {N α β : Type}

theorem eq_of_structural {fault : Fault} {error : ScriptError}
    (structural : structural? fault = some error) : fault = .script error := by
  unfold structural? at structural
  split at structural
  · split at structural
    · cases structural
      rfl
    · cases structural
  · cases structural

structure Execution (N : Type) where
  dispatch : Dispatch N
  context : Context
  command : Descriptor (Handler N)
  call : Call
  state : State N

namespace Execution

variable (execution : Execution N)

def action : Run N Outcome :=
  handle execution.dispatch execution.context execution.command execution.call

def begun : State N :=
  execution.state.noted .debug (startRow execution.command.name execution.call)

def ended : Ended N Outcome :=
  execution.action.run execution.begun

def last : State N :=
  after execution.action execution.begun

def opening : LogRow :=
  ⟨.debug, execution.state.session.currentScript, startRow execution.command.name execution.call⟩

def failing : LogRow :=
  ⟨.debug, execution.last.session.currentScript, errorRow execution.command.name⟩

def closing : LogRow :=
  ⟨.debug, execution.last.session.currentScript, endRow execution.command.name⟩

def Begins (log : List LogRow) : Prop :=
  execution.state.session.log.toList = log

def Raises (fault : Fault) : Prop :=
  ∃ raised last, execution.ended = .error (.fault raised) last ∧
    raised.withoutPlace = fault.withoutPlace

end Execution

/-- Who contains a fault. -/
inductive Catcher where
  | line
  | script
  | prompt

namespace Catcher

def words : Catcher → String
  | line => "directive.failed name="
  | script => "source.failed path="
  | prompt => "prompt.failed error="

def Catches : Catcher → Fault → Prop
  | line, fault => structural? fault = none
  | script, _ => True
  | prompt, fault => structural? fault ≠ none

end Catcher

/-- The rows that a run logs behind others, and the fault that it ends in. Each execution has one
row in front of what its handler logs and one behind it, and one for its failure if it fails. A
fault ends at a row that tells of it. -/
inductive Nesting (N : Type) : List LogRow → List LogRow → Option Fault → Prop where
  | nothing {log} : Nesting N log [] none
  | raised {log} (fault) : Nesting N log [] (some fault)
  | row {log row rows ends} (noCall : Text.Diverges "command.call." row.text)
      (behind : Nesting N (log ++ [row]) rows ends) : Nesting N log (row :: rows) ends
  | returned {log inside rows ends outcome last} {execution : Execution N}
      (begins : execution.Begins log) (ended : execution.ended = .ok outcome last)
      (within : Nesting N (log ++ [execution.opening]) inside none)
      (behind : Nesting N (log ++ execution.opening :: inside ++ [execution.closing]) rows ends) :
      Nesting N log (execution.opening :: inside ++ execution.closing :: rows) ends
  | failed {log inside fault last} {execution : Execution N} (begins : execution.Begins log)
      (ended : execution.ended = .error (.fault fault) last)
      (within : Nesting N (log ++ [execution.opening]) inside (some fault)) :
      Nesting N log (execution.opening :: inside ++ [execution.failing, execution.closing])
        (some fault)
  | placed {log rows fault error} (path line) (structural : structural? fault = some error)
      (within : Nesting N log rows (some fault)) :
      Nesting N log rows (some (.script (attributed path line error)))
  | contained {log inside row rows fault ends} (catcher : Catcher)
      (catches : catcher.Catches fault) (within : Nesting N log inside (some fault))
      (told : catcher.words.toList <+: row.text.toList)
      (behind : Nesting N (log ++ inside ++ [row]) rows ends) :
      Nesting N log (inside ++ row :: rows) ends

/-- The rows logged so far where executions have begun within each other, the outermost one first,
and none of them has ended. -/
inductive Open (N : Type) : List LogRow → List (Execution N) → List LogRow → Prop where
  | none {log rows} (behind : Nesting N log rows none) : Open N log [] rows
  | begun {log front opened rows} {execution : Execution N} (before : Nesting N log front none)
      (begins : execution.Begins (log ++ front))
      (within : Open N (log ++ front ++ [execution.opening]) opened rows) :
      Open N log (execution :: opened) (front ++ execution.opening :: rows)

def unwinding (opened : List (Execution N)) : List LogRow :=
  opened.reverse.flatMap fun execution => [execution.failing, execution.closing]

namespace Nesting

variable {log rows others : List LogRow} {ends : Option Fault}

theorem append (first : Nesting N log rows none) (second : Nesting N (log ++ rows) others ends) :
    Nesting N log (rows ++ others) ends := by
  generalize returns : (none : Option Fault) = early at first
  induction first with
  | nothing =>
      rw [List.append_nil] at second
      exact second
  | raised | failed | placed => cases returns
  | row noCall behind ih =>
      refine .row noCall (ih ?_ returns)
      rw [List.append_assoc]
      exact second
  | returned begins ended within behind ihWithin ih =>
      rw [List.append_assoc]
      refine .returned begins ended within (ih ?_ returns)
      simpa using second
  | contained catcher catches within told behind ihWithin ih =>
      rw [List.append_assoc]
      refine .contained catcher catches within told (ih ?_ returns)
      simpa using second

theorem of_noCall (noCall : ∀ row ∈ rows, Text.Diverges "command.call." row.text) :
    Nesting N log rows none := by
  induction rows generalizing log with
  | nil => exact .nothing
  | cons row rows ih =>
      obtain ⟨here, behind⟩ := List.forall_mem_cons.mp noCall
      exact .row here (ih behind)

theorem raising (quiet : Nesting N log rows none) (fault : Fault) :
    Nesting N log rows (some fault) := by
  simpa using quiet.append (.raised fault)

theorem opened (before : Nesting N log rows none) {opened : List (Execution N)}
    (behind : Open N (log ++ rows) opened others) : Open N log opened (rows ++ others) := by
  cases behind with
  | none behind => exact .none (before.append behind)
  | begun front begins within =>
      rw [← List.append_assoc]
      refine .begun (before.append front) ?_ ?_
      · rw [← List.append_assoc]
        exact begins
      · rw [← List.append_assoc]
        exact within

theorem unwinds {fault : Fault} (nesting : Nesting N log rows (some fault)) :
    ∃ opened front, Open N log opened front ∧ rows = front ++ unwinding opened ∧
      ∀ execution ∈ opened, execution.Raises fault := by
  generalize raises : some fault = ends at nesting
  induction nesting generalizing fault with
  | nothing => cases raises
  | raised => exact ⟨[], [], .none .nothing, rfl, List.forall_mem_nil _⟩
  | @row log row rows ends noCall behind ih =>
      obtain ⟨opened, front, still, rfl, raised⟩ := ih raises
      exact ⟨opened, row :: front, (Nesting.row noCall .nothing).opened still, rfl, raised⟩
  | returned begins ended within behind ihWithin ih =>
      obtain ⟨opened, front, still, rfl, raised⟩ := ih raises
      have before := Nesting.returned begins ended within .nothing
      refine ⟨opened, _, before.opened (by simpa using still), ?_, raised⟩
      simp
  | contained catcher catches within told behind ihWithin ih =>
      obtain ⟨opened, front, still, rfl, raised⟩ := ih raises
      have before := Nesting.contained catcher catches within told .nothing
      refine ⟨opened, _, before.opened (by simpa using still), ?_, raised⟩
      simp
  | @failed log inside fault last execution begins ended within ih =>
      cases raises
      obtain ⟨opened, front, still, rfl, raised⟩ := ih rfl
      refine ⟨execution :: opened, [] ++ execution.opening :: front,
        .begun .nothing (by simpa using begins) (by simpa using still), ?_, ?_⟩
      · simp [unwinding]
      · exact List.forall_mem_cons.mpr ⟨⟨fault, last, ended, rfl⟩, raised⟩
  | placed path line structural within ih =>
      cases raises
      obtain ⟨opened, front, still, rfl, raised⟩ := ih rfl
      refine ⟨opened, front, still, rfl, fun execution member => ?_⟩
      obtain ⟨first, last, ended, same⟩ := raised execution member
      refine ⟨first, last, ended, ?_⟩
      rw [same, eq_of_structural structural]
      rfl

end Nesting

end Engine

end ExScript
