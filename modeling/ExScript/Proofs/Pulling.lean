import ExScript.Proofs.LineRoles
import ExScript.Script.Stream

/-!
Pulling directives off a stream that reads the lines of a text: each pull uses lines up, a failed
one ends the stream, and an end is reached only when no line is left.
-/

namespace ExScript

variable {C : Type}

def LineRole.Allowed (allowed : Descriptor C → Prop) : LineRole C → Prop
  | .ignored | .unknown => True
  | .whole directive | .closes directive => allowed directive.command
  | .opens heredoc | .body heredoc => allowed heredoc.header.command

def Registry.Only (registry : Registry C) (allowed : Descriptor C → Prop) : Prop :=
  ∀ name command, registry.resolve name = some command → allowed command

namespace Assembly

theorem headerRole_allowed {allowed : Descriptor C → Prop} {registry : Registry C}
    (only : registry.Only allowed) {number : Nat} {line : String} {role : LineRole C}
    (found : headerRole registry number line = .ok role) : role.Allowed allowed := by
  cases role with
  | ignored | unknown => trivial
  | whole directive =>
      obtain ⟨-, -, parsed, -, resolves, -⟩ := (headerRole_whole_iff.mp found).1
      exact only _ _ resolves
  | opens heredoc =>
      obtain ⟨args, ⟨-, -, parsed, -, resolves, -⟩, -⟩ := headerRole_opens_iff.mp found
      exact only _ _ resolves
  | body heredoc => exact absurd rfl ((headerRole_outside found).1 heredoc)
  | closes directive => exact absurd rfl ((headerRole_outside found).2 directive)

end Assembly

namespace Stream

/-- A stream of nothing but lines that it has at hand, with no other command than the allowed ones
waiting for the rest of a heredoc. -/
structure ReadsText (allowed : Descriptor C → Prop) (stream : Stream C) : Prop where
  assembled : stream.assembled = []
  prompting : stream.prompting = none
  closed : stream.closed = false
  pending : ∀ heredoc, stream.pending = some heredoc → allowed heredoc.header.command

variable {allowed : Descriptor C → Prop} {registry : Registry C} {stream : Stream C}

theorem remaining_eq (reads : stream.ReadsText allowed) :
    stream.remaining = stream.atHand.length + (if stream.pending.isSome then 1 else 0) + 1 := by
  simp [remaining, reads.assembled, reads.prompting]

inductive Gave (allowed : Descriptor C → Prop) (stream : Stream C) :
    Except Fault (Option (Directive C)) → Stream C → Prop where
  | directive {directive next} (reads : next.ReadsText allowed) (live : next.ended = false)
      (command : allowed directive.command) (fewer : next.remaining < stream.remaining) :
      Gave allowed stream (.ok (some directive)) next
  | nothing {next} (reads : next.ReadsText allowed) (ended : next.ended = true)
      (lines : next.atHand = []) (pending : next.pending = none)
      (fewer : next.remaining ≤ stream.remaining) : Gave allowed stream (.ok none) next
  | failure {next digits} (reads : next.ReadsText allowed) (ended : next.ended = true)
      (fewer : next.remaining ≤ stream.remaining) :
      Gave allowed stream (.error (.oversizedCount digits)) next

theorem Gave.weaken {shorter next : Stream C} {result : Except Fault (Option (Directive C))}
    (gave : Gave allowed shorter result next) (fewer : shorter.remaining ≤ stream.remaining) :
    Gave allowed stream result next := by
  cases gave with
  | directive reads live command less => exact .directive reads live command (by omega)
  | nothing reads ended lines pending less => exact .nothing reads ended lines pending (by omega)
  | failure reads ended less => exact .failure reads ended (by omega)

theorem finish_gave (reads : stream.ReadsText allowed) (live : stream.ended = false)
    (used : stream.atHand = []) (session : Session) :
    Gave allowed stream (stream.finish session).result (stream.finish session).stream := by
  obtain ⟨path, assembled, atHand, prompting, number, pending, tracked, reports, ended, closed⟩ :=
    stream
  obtain ⟨rfl, rfl, rfl, waiting⟩ := reads
  dsimp only at live used waiting
  subst live used
  cases pending with
  | none => exact .nothing ⟨rfl, rfl, rfl, nofun⟩ rfl rfl rfl (Nat.le_refl _)
  | some heredoc =>
      exact .directive ⟨rfl, rfl, rfl, nofun⟩ rfl (waiting heredoc rfl) Nat.one_lt_two

structure Used (allowed : Descriptor C → Prop) (stream : Stream C) (rest : List String)
    (next : Stream C) : Prop where
  reads : next.ReadsText allowed
  live : next.ended = false
  lines : next.atHand = rest
  fewer : next.remaining ≤ stream.remaining

theorem takeLine_gave (only : registry.Only allowed) (reads : stream.ReadsText allowed)
    (live : stream.ended = false) {text : String} {rest : List String}
    (lines : stream.atHand = text :: rest) (session : Session) :
    ((takeLine registry { stream with atHand := rest } text session).result = .ok none ∧
      Used allowed stream rest
        (takeLine registry { stream with atHand := rest } text session).stream) ∨
    ((takeLine registry { stream with atHand := rest } text session).result ≠ .ok none ∧
      Gave allowed stream (takeLine registry { stream with atHand := rest } text session).result
        (takeLine registry { stream with atHand := rest } text session).stream) := by
  have size := remaining_eq reads
  rw [lines, List.length_cons] at size
  obtain ⟨path, assembled, atHand, prompting, number, pending, tracked, reports, ended, closed⟩ :=
    stream
  obtain ⟨rfl, rfl, rfl, waiting⟩ := reads
  dsimp only at live lines waiting size
  subst live lines
  unfold takeLine
  dsimp only
  cases pending with
  | none =>
      dsimp only [Assembly.roleOf]
      cases found : Assembly.headerRole registry number (Assembly.dropCarriageReturn text) with
      | error fault =>
          obtain ⟨-, digits, -, rfl⟩ := Assembly.headerRole_error_iff.mp found
          exact .inr ⟨nofun, .failure ⟨rfl, rfl, rfl, nofun⟩ rfl (by simp [remaining])⟩
      | ok role =>
          have command := Assembly.headerRole_allowed only found
          have outside := Assembly.headerRole_outside found
          cases role with
          | ignored => exact .inl ⟨rfl, ⟨rfl, rfl, rfl, nofun⟩, rfl, rfl, by simp [remaining]⟩
          | unknown => exact .inl ⟨rfl, ⟨rfl, rfl, rfl, nofun⟩, rfl, rfl, by simp [remaining]⟩
          | whole directive =>
              exact .inr ⟨nofun, .directive ⟨rfl, rfl, rfl, nofun⟩ rfl command
                (by simp [remaining])⟩
          | opens heredoc =>
              refine .inl ⟨rfl, ⟨rfl, rfl, rfl, ?_⟩, rfl, rfl, by simp [remaining]⟩
              rintro _ ⟨⟩
              exact command
          | body heredoc => exact absurd rfl (outside.1 heredoc)
          | closes directive => exact absurd rfl (outside.2 directive)
  | some heredoc =>
      dsimp only [Assembly.roleOf, Assembly.bodyRole]
      have command := waiting heredoc rfl
      by_cases last : Assembly.dropCarriageReturn text = heredoc.terminator
      · simp only [last, ↓reduceIte]
        exact .inr ⟨nofun, .directive ⟨rfl, rfl, rfl, nofun⟩ rfl command (by simp [remaining])⟩
      · simp only [last, ↓reduceIte]
        refine .inl ⟨trivial, ⟨rfl, rfl, rfl, ?_⟩, rfl, rfl, by simp [remaining]⟩
        rintro _ ⟨⟩
        exact command

theorem pullLines_gave (only : registry.Only allowed) (reads : stream.ReadsText allowed)
    (live : stream.ended = false) {lines : List String} (here : stream.atHand = lines)
    (session : Session) :
    Gave allowed stream (pullLines registry lines stream session).result
      (pullLines registry lines stream session).stream := by
  induction lines generalizing stream session with
  | nil =>
      unfold pullLines
      rw [reads.prompting]
      exact finish_gave reads live here session
  | cons text rest ih =>
      have taken := takeLine_gave only reads live here session
      unfold pullLines
      generalize takeLine registry { stream with atHand := rest } text session = pulled at taken
      obtain ⟨result, next, following⟩ := pulled
      rcases taken with ⟨nothing, used⟩ | ⟨something, gave⟩
      · dsimp only at nothing used
        subst nothing
        exact (ih used.reads used.live used.lines following).weaken used.fewer
      · dsimp only at something gave
        cases gave with
        | directive further live command fewer => exact .directive further live command fewer
        | nothing further ended none pending fewer => exact absurd rfl something
        | failure further ended fewer => exact .failure further ended fewer

theorem pull_gave (only : registry.Only allowed) (reads : stream.ReadsText allowed)
    (live : stream.ended = false) (session : Session) :
    Gave allowed stream (stream.pull registry session).result
      (stream.pull registry session).stream := by
  unfold pull
  simp only [reads.closed, live, reads.assembled, Bool.or_self, Bool.false_eq_true, ↓reduceIte]
  exact pullLines_gave only reads live rfl session

theorem pull_past (past : stream.closed ∨ stream.ended) (registry : Registry C)
    (session : Session) : stream.pull registry session = ⟨.ok none, stream, session⟩ := by
  unfold pull
  rcases past with closed | ended
  · simp [closed]
  · simp [ended]

theorem pull_ended (ended : stream.ended = true) (session : Session) :
    stream.pull registry session = ⟨.ok none, stream, session⟩ :=
  pull_past (.inr ended) registry session

end Stream

end ExScript
