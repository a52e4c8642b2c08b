import ExScript.Proofs.SharedCursor

/-!
Streams of scripts: lines that are all there and can all be read. Whatever is done to such a stream
leaves one, and a pull from it never fails.
-/

namespace ExScript

variable {C : Type}

theorem Assembly.Layout.resolves {registry : Registry C} {number : Nat} {parts : List (Part C)}
    (layout : Assembly.Layout registry number parts) {part : Part C} {directive : Directive C}
    (member : part ∈ parts) (given : part.directive? = some directive) :
    ∃ name, registry.resolve name = some directive.command := by
  induction layout with
  | nil => simp at member
  | cons fits last behind ih =>
      rcases List.mem_cons.mp member with rfl | member
      · exact fits.resolves given
      · exact ih member

namespace Stream

structure Scripted (stream : Stream C) : Prop where
  assembled : stream.assembled = []
  prompting : stream.prompting = none
  pending : stream.pending = none
  number : 1 ≤ stream.number
  lines : ∀ line ∈ stream.atHand, Assembly.Readable line

variable {stream start next : Stream C} {registry : Registry C} {session : Session}

theorem ofSource_scripted {source : LineSource} (given : source.Given)
    (readable : ∀ line ∈ source.atHand, Assembly.Readable line) (tracked reports : Bool) :
    (ofSource source tracked reports : Stream C).Scripted := by
  rw [ofSource_given given]
  exact ⟨rfl, rfl, rfl, Nat.le_refl 1, readable⟩

structure Gives (registry : Registry C) (stream : Stream C) (directive : Directive C) : Prop where
  resolves : ∃ name, registry.resolve name = some directive.command
  line : stream.number ≤ directive.line

theorem Scripted.pull (scripted : stream.Scripted) (registry : Registry C) (session : Session) :
    ∃ given next final, stream.pull registry session = ⟨.ok given, next, final⟩ ∧ next.Scripted ∧
      ∀ directive ∈ given, stream.Gives registry directive := by
  by_cases past : stream.closed ∨ stream.ended
  · exact ⟨none, stream, session, pull_past past registry session, scripted, by simp⟩
  · simp only [not_or, Bool.not_eq_true] at past
    have supply := supply_given scripted.prompting session
    obtain ⟨parts, given, next, final, portion, pulled⟩ :=
      pull_portion registry scripted.assembled past.1 past.2 scripted.pending
        (by rw [supply]; exact scripted.lines)
    have place := portion.reads.place
    have assembled : next.assembled = [] := by rw [place]; exact scripted.assembled
    have number : next.number = stream.number + (parts.flatMap Part.lines).length := by rw [place]
    have hand : next.atHand = stream.atHand.drop (parts.flatMap Part.lines).length := by rw [place]
    have unasked := (portion.reads.unasked scripted.prompting).1
    have first := scripted.number
    refine ⟨given, _, final, pulled, ⟨assembled, unasked, portion.between, ?_, ?_⟩, ?_⟩
    · dsimp only
      omega
    · intro line member
      dsimp only at member
      rw [hand] at member
      exact scripted.lines line (List.mem_of_mem_drop member)
    · intro directive gives
      obtain ⟨part, last, complete⟩ := portion.last directive gives
      have member := List.mem_of_getLast? last
      have listed : directive ∈ parts.filterMap Part.directive? :=
        List.mem_filterMap.mpr ⟨part, member, complete⟩
      exact ⟨portion.layout.resolves member complete, portion.layout.directive_lines.1 _ listed⟩

theorem Uses.scripted {history : List (Use C)} (uses : Uses start history stream)
    (scripted : start.Scripted) : stream.Scripted := by
  induction uses with
  | nil => exact scripted
  | @pull history stream before registry session ih =>
      obtain ⟨given, next, final, pulled, behind, -⟩ := ih.pull registry session
      rw [pulled]
      exact behind
  | close before ih => exact ⟨ih.assembled, ih.prompting, ih.pending, ih.number, ih.lines⟩

end Stream

namespace Engine

variable {N α : Type}

/-- Commands whose block structure is that of their names, and that raise no error of it. -/
structure Tidy (command : Descriptor (Handler N)) : Prop where
  block : command.handler = .builtin .ifBlock ↔ command.name = "if"
  mild : ∀ program call, command.handler = .host program →
    (program call).Within .mild

structure InScript (state : State N) : Prop where
  only : state.registry.Only Tidy
  stream : ∃ stream, state.stream = some stream ∧ stream.Scripted

theorem InScript.after {action : Run N α} {state : State N} (script : InScript state)
    (shares : Shares action) (keeps : KeepsRegistry action) : InScript (after action state) := by
  obtain ⟨stream, current, scripted⟩ := script.stream
  obtain ⟨history, next, uses, left⟩ := shares state stream current
  refine ⟨?_, next, left, uses.scripted scripted⟩
  rw [keeps state]
  exact script.only

theorem InScript.ok {action : Run N α} {state last : State N} {value : α} (script : InScript state)
    (shares : Shares action) (keeps : KeepsRegistry action)
    (ended : action.run state = .ok value last) : InScript last := by
  have behind := script.after shares keeps
  rwa [after_ok ended] at behind

structure FromScript (directive : Directive (Handler N)) : Prop where
  tidy : Tidy directive.command
  line : 1 ≤ directive.line

theorem InScript.pull {state : State N} (script : InScript state) :
    ∃ given last, pull.run state = .ok given last ∧ InScript last ∧
      ∀ directive ∈ given, FromScript directive := by
  obtain ⟨stream, current, scripted⟩ := script.stream
  obtain ⟨given, next, final, pulled, behind, gives⟩ :=
    scripted.pull state.registry state.session
  have ran : Engine.pull.run state =
      .ok given { state with stream := some next, session := final } := by
    rw [run_pull current, pulled]
  refine ⟨given, _, ran, ⟨script.only, next, rfl, behind⟩, fun directive member => ?_⟩
  obtain ⟨⟨name, resolves⟩, line⟩ := gives directive member
  have first := scripted.number
  exact ⟨script.only name _ resolves, by omega⟩

theorem mark_opens_iff {C : Type} (directive : Directive C) :
    directive.mark = .opens ↔ directive.name = "if" := by
  unfold Directive.mark Mark.ofName
  split <;> simp_all

theorem FromScript.opens_iff {directive : Directive (Handler N)} (tidy : FromScript directive) :
    directive.mark = .opens ↔ directive.command.handler = .builtin .ifBlock :=
  (mark_opens_iff directive).trans tidy.tidy.block.symm

end Engine

end ExScript
