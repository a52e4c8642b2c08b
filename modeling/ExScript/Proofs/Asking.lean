import ExScript.Proofs.Pulling
import ExScript.Proofs.Supply

/-!
How often a stream asks for lines. It asks no more often than its limit says, and not again when
there was no answer, since both leave it with nothing to ask. How far this has come is an invariant
of every pull, so it does not matter who pulls, nor what for.
-/

namespace ExScript

variable {C : Type}

namespace Session

structure Inquired (start : Session) (request : PromptRequest) (count : Nat) (session : Session) :
    Prop where
  asked : session.asked.toList = start.asked.toList ++ List.replicate count request
  answers : session.answers = start.answers.drop count

theorem Inquired.of_same {start session later : Session} {request : PromptRequest} {count : Nat}
    (inquired : start.Inquired request count session) (asked : later.asked = session.asked)
    (answers : later.answers = session.answers) : start.Inquired request count later :=
  ⟨asked ▸ inquired.asked, answers ▸ inquired.answers⟩

theorem Inquired.ask {start session : Session} {request : PromptRequest} {count : Nat}
    (inquired : start.Inquired request count session) :
    start.Inquired request (count + 1) (session.ask request).2 := by
  have pushed : (session.ask request).2.asked = session.asked.push request := by
    unfold Session.ask
    split <;> rfl
  have taken : (session.ask request).2.answers = session.answers.drop 1 := by
    unfold Session.ask
    split
    next none => simp [none]
    next given => simp [given]
  constructor
  · rw [pushed, Array.toList_push, inquired.asked, List.append_assoc, ← List.replicate_succ']
  · rw [taken, inquired.answers, List.drop_drop]

end Session

theorem answered_length {answers rest : List (Option String)} {count : Nat} {text : String}
    (heard : count ≤ (answered answers).length) (next : answers.drop count = some text :: rest) :
    count + 1 ≤ (answered answers).length := by
  induction answers generalizing count with
  | nil => simp at next
  | cons answer answers ih =>
      cases answer with
      | none =>
          obtain rfl : count = 0 := Nat.le_zero.mp heard
          cases next
      | some line =>
          cases count with
          | zero => exact Nat.succ_le_succ (Nat.zero_le _)
          | succ count => exact Nat.succ_le_succ (ih (Nat.le_of_succ_le_succ heard) next)

/-- How far asking has come: there is something left of the limit and every request so far was
answered, or there is nothing to ask any more and at most the last request was not. -/
inductive Inquiry (prompting : Prompting) (start : Session) :
    Option (Prompting × Nat) → Session → Prop where
  | more {count left session} (inquired : start.Inquired prompting.request count session)
      (within : count + left = prompting.limit.toNat)
      (heard : count ≤ (answered start.answers).length) :
      Inquiry prompting start (some (prompting, left)) session
  | ended {count session} (inquired : start.Inquired prompting.request count session)
      (within : count ≤ prompting.limit.toNat)
      (heard : count ≤ (answered start.answers).length + 1) : Inquiry prompting start none session

namespace Inquiry

variable {prompting : Prompting} {start session later : Session}
  {asks : Option (Prompting × Nat)}

theorem initial (prompting : Prompting) (start : Session) :
    Inquiry prompting start (some (prompting, prompting.limit.toNat)) start :=
  .more ⟨by simp, rfl⟩ (Nat.zero_add _) (Nat.zero_le _)

theorem counted (inquiry : Inquiry prompting start asks session) :
    ∃ count, start.Inquired prompting.request count session ∧ count ≤ prompting.limit.toNat ∧
      count ≤ (answered start.answers).length + 1 := by
  cases inquiry with
  | more inquired within heard => exact ⟨_, inquired, by omega, by omega⟩
  | ended inquired within heard => exact ⟨_, inquired, within, heard⟩

theorem of_same (inquiry : Inquiry prompting start asks session)
    (asked : later.asked = session.asked) (answers : later.answers = session.answers) :
    Inquiry prompting start asks later := by
  cases inquiry with
  | more inquired within heard => exact .more (inquired.of_same asked answers) within heard
  | ended inquired within heard => exact .ended (inquired.of_same asked answers) within heard

theorem stop (inquiry : Inquiry prompting start asks session) :
    Inquiry prompting start none session := by
  cases inquiry with
  | more inquired within heard => exact .ended inquired (by omega) (by omega)
  | ended inquired within heard => exact .ended inquired within heard

theorem refused {other : Prompting} {left : Nat}
    (inquiry : Inquiry prompting start (some (other, left + 1)) session) :
    Inquiry prompting start none (session.ask other.request).2 := by
  cases inquiry with
  | more inquired within heard => exact .ended inquired.ask (by omega) (by omega)

theorem given {other : Prompting} {left : Nat} {text : String}
    (inquiry : Inquiry prompting start (some (other, left + 1)) session)
    (answer : (session.ask other.request).1 = some text) :
    Inquiry prompting start (some (other, left)) (session.ask other.request).2 := by
  cases inquiry with
  | @more count left session inquired within heard =>
      refine .more inquired.ask (by omega) ?_
      unfold Session.ask at answer
      split at answer
      · cases answer
      next answers =>
        cases answer
        exact answered_length heard (inquired.answers.symm.trans answers)

end Inquiry

theorem Assembly.roleOf_allowed {allowed : Descriptor C → Prop} {registry : Registry C}
    (only : registry.Only allowed) {pending : Option (OpenHeredoc C)}
    (waiting : ∀ heredoc, pending = some heredoc → allowed heredoc.header.command) {number : Nat}
    {text : String} {role : LineRole C} (found : roleOf registry pending number text = .ok role) :
    role.Allowed allowed := by
  cases pending with
  | none => exact headerRole_allowed only found
  | some heredoc =>
      have command := waiting heredoc rfl
      cases found
      unfold bodyRole
      split <;> exact command

namespace Stream

variable {allowed : Descriptor C → Prop} {registry : Registry C} {prompting : Prompting}
  {start session : Session} {stream : Stream C}

/-- A stream that asks within its limit, with no other command than the allowed ones waiting for
the rest of a heredoc. -/
structure Bounded (allowed : Descriptor C → Prop) (prompting : Prompting) (start : Session)
    (stream : Stream C) (session : Session) : Prop where
  assembled : stream.assembled = []
  pending : ∀ heredoc, stream.pending = some heredoc → allowed heredoc.header.command
  inquiry : Inquiry prompting start stream.prompting session

theorem Bounded.of_same {later : Session} (bounded : Bounded allowed prompting start stream session)
    (asked : later.asked = session.asked) (answers : later.answers = session.answers) :
    Bounded allowed prompting start stream later :=
  { bounded with inquiry := bounded.inquiry.of_same asked answers }

structure StaysBounded (allowed : Descriptor C → Prop) (prompting : Prompting) (start : Session)
    (pulled : Pulled C) : Prop where
  bounded : Bounded allowed prompting start pulled.stream pulled.session
  command : ∀ directive, pulled.result = .ok (some directive) → allowed directive.command

theorem finish_bounded (bounded : Bounded allowed prompting start stream session) :
    StaysBounded allowed prompting start (finish stream session) := by
  unfold finish
  cases pending : stream.pending with
  | none => exact ⟨⟨bounded.assembled, nofun, bounded.inquiry⟩, nofun⟩
  | some heredoc =>
      refine ⟨⟨bounded.assembled, nofun, bounded.inquiry.of_same rfl rfl⟩, ?_⟩
      rintro directive ⟨⟩
      exact bounded.pending heredoc pending

theorem takeLine_bounded (only : registry.Only allowed)
    (bounded : Bounded allowed prompting start stream session) (text : String) :
    StaysBounded allowed prompting start (takeLine registry stream text session) := by
  cases found : Assembly.roleOf registry stream.pending stream.number text with
  | error fault =>
      unfold takeLine
      dsimp only
      rw [found]
      refine ⟨⟨bounded.assembled, bounded.pending, bounded.inquiry.of_same ?_ ?_⟩, nofun⟩ <;>
        (dsimp only; split <;> rfl)
  | ok role =>
      have command := Assembly.roleOf_allowed only bounded.pending found
      obtain ⟨-, answers, asked⟩ := role.met_kept stream.reporting stream.number text session
      rw [takeLine_role found]
      refine ⟨⟨bounded.assembled, ?_, bounded.inquiry.of_same asked answers⟩, ?_⟩
      · intro heredoc waiting
        cases role with
        | ignored | unknown | whole directive => exact bounded.pending heredoc waiting
        | closes directive => cases waiting
        | opens opened | body opened =>
            cases waiting
            exact command
      · intro directive given
        cases role with
        | ignored | unknown | opens heredoc | body heredoc => cases given
        | whole directive | closes directive =>
            cases given
            exact command

theorem StaysBounded.line (only : registry.Only allowed)
    (bounded : Bounded allowed prompting start stream session) (text : String)
    {next : Stream C → Session → Pulled C}
    (behind : ∀ last final, Bounded allowed prompting start last final →
      last.prompting = stream.prompting → StaysBounded allowed prompting start (next last final)) :
    StaysBounded allowed prompting start
      (match takeLine registry stream text session with
        | ⟨.ok none, last, final⟩ => next last final
        | pulled => pulled) := by
  have stays := takeLine_bounded only bounded text
  obtain ⟨-, same⟩ := takeLine_kept registry stream text session
  generalize takeLine registry stream text session = pulled at stays same
  obtain ⟨result, last, final⟩ := pulled
  cases result with
  | error fault => exact stays
  | ok directive =>
      cases directive with
      | none => exact behind last final stays.bounded same
      | some directive => exact stays

theorem pullAsked_bounded (only : registry.Only allowed) {asks : Prompting} {left : Nat}
    (bounded : Bounded allowed prompting start { stream with prompting := some (asks, left) }
      session) :
    StaysBounded allowed prompting start (pullAsked registry asks left stream session) := by
  induction left generalizing stream session with
  | zero =>
      have stopped := bounded.inquiry.stop
      exact finish_bounded ⟨bounded.assembled, bounded.pending, stopped.of_same rfl rfl⟩
  | succ left ih =>
      unfold pullAsked
      have refused := bounded.inquiry.refused
      have given (text : String) (answer : (session.ask asks.request).1 = some text) :
          Inquiry prompting start (some (asks, left)) (session.ask asks.request).2 :=
        bounded.inquiry.given answer
      generalize session.ask asks.request = answer at refused given ⊢
      obtain ⟨text, following⟩ := answer
      cases text with
      | none => exact finish_bounded ⟨bounded.assembled, bounded.pending, refused⟩
      | some text =>
          have onward : Bounded allowed prompting start
              { stream with prompting := some (asks, left) } following :=
            ⟨bounded.assembled, bounded.pending, given text rfl⟩
          refine StaysBounded.line only onward text fun last final later same => ih ?_
          obtain ⟨path, assembled, atHand, prompting, number, pending, tracked, reports, ended,
            closed⟩ := last
          cases same
          exact later

theorem pullLines_bounded (only : registry.Only allowed)
    (bounded : Bounded allowed prompting start stream session) (lines : List String) :
    StaysBounded allowed prompting start (pullLines registry lines stream session) := by
  induction lines generalizing stream session with
  | nil =>
      unfold pullLines
      split
      · exact finish_bounded bounded
      next asks left prompts =>
        refine pullAsked_bounded only ⟨bounded.assembled, bounded.pending, ?_⟩
        rw [← prompts]
        exact bounded.inquiry
  | cons text rest ih =>
      have shorter : Bounded allowed prompting start { stream with atHand := rest } session :=
        ⟨bounded.assembled, bounded.pending, bounded.inquiry⟩
      exact StaysBounded.line only shorter text fun last final later _ => ih later

theorem pull_bounded (only : registry.Only allowed)
    (bounded : Bounded allowed prompting start stream session) :
    StaysBounded allowed prompting start (stream.pull registry session) := by
  unfold pull
  rw [bounded.assembled]
  split
  · exact ⟨bounded, nofun⟩
  · exact pullLines_bounded only bounded _

end Stream

end ExScript
