import ExScript.Proofs.Asking
import ExScript.Proofs.Indifference
import ExScript.Proofs.Ownership
import ExScript.Proofs.TypedConstructs

/-!
How often a typed line asks for more. All that a line sets off shares one stream, so the limit is
one for the whole line, however deep the blocks in it are nested.
-/

namespace ExScript

variable {C : Type}

/-- The part that a typed line begins, with what is answered to complete it. -/
structure FirstPart (registry : Registry C) (prompting : Prompting)
    (answers : List (Option String)) (line : String) (part : Part C) : Prop where
  fits : Assembly.Fits registry 1 part
  lines : ∃ rest, line :: answered (answers.take prompting.limit.toNat) = part.lines ++ rest ∧
    (part.Unclosed → rest = [])

namespace FirstPart

variable {registry : Registry C} {prompting : Prompting} {answers : List (Option String)}
  {line : String} {part : Part C}

theorem first (begins : FirstPart registry prompting answers line part) : part.first = line := by
  obtain ⟨rest, same, -⟩ := begins.lines
  rw [part.lines_eq] at same
  exact (List.cons_eq_cons.mp same).1.symm

theorem gives (begins : FirstPart registry prompting answers line part) {parsed : CommandLine}
    {command : Descriptor C} (parses : CommandLine.parse line = .ok (some parsed))
    (resolves : registry.resolve parsed.name = some command) :
    ∃ directive, part.directive? = some directive := by
  obtain ⟨args, parses⟩ := CommandLine.parse_dropCarriageReturn parses
  have heeded := CommandLine.heeded_of_parses parses
  have same := begins.first
  have fits := begins.fits
  cases part with
  | skipped text =>
      subst same
      exact absurd (heeded.symm.trans fits) Bool.false_ne_true
  | reported text =>
      subst same
      obtain ⟨-, nothing | ⟨other, also, unknown⟩⟩ := fits
      · cases parses.symm.trans nothing
      · cases parses.symm.trans also
        cases resolves.symm.trans unknown
  | command text directive => exact ⟨directive, rfl⟩
  | heredoc part => exact ⟨part.directive, rfl⟩

end FirstPart

namespace Stream

variable {registry : Registry C} {prompting : Prompting} {session : Session} {line : String}

theorem prompted_bounded (allowed : Descriptor C → Prop) (prompting : Prompting)
    (initial : List String) (session : Session) :
    (prompted prompting initial : Stream C).Bounded allowed prompting session session :=
  ⟨rfl, nofun, .initial prompting session⟩

theorem pull_firstPart {part : Part C} {directive : Directive C}
    (begins : FirstPart registry prompting session.answers line part)
    (gives : part.directive? = some directive) :
    ∃ next final, (prompted prompting [line]).pull registry session =
        ⟨.ok (some directive), next, final⟩ ∧
      (¬ part.Unclosed → final.asked.size = session.asked.size + (part.lines.length - 1)) := by
  obtain ⟨rest, lines, last⟩ := begins.lines
  have between : (prompted prompting [line] : Stream C).pending = none := rfl
  obtain ⟨next, final, reads, -, -, still, pulled⟩ :=
    pullLines_part between lines begins.fits last
  rw [gives] at pulled
  refine ⟨next, final, pulled, fun closed => ?_⟩
  have open_ : next.prompting.isSome = true := still closed
  exact (reads.asked open_).2

theorem pull_whole (prompting : Prompting) (session : Session) {directive : Directive C}
    (fits : Assembly.Fits registry 1 (.command line directive)) :
    ∃ next final, (prompted prompting [line]).pull registry session =
        ⟨.ok (some directive), next, final⟩ ∧
      final.asked = session.asked ∧ final.answers = session.answers := by
  have begins : FirstPart registry prompting session.answers line (.command line directive) :=
    ⟨fits, _, rfl, False.elim⟩
  obtain ⟨next, final, pulled, asked⟩ := pull_firstPart begins rfl
  have any : registry.Only fun _ => True := fun _ _ _ => trivial
  have bounded := pull_bounded any (prompted_bounded _ prompting [line] session)
  rw [pulled] at bounded
  obtain ⟨count, inquired, -, -⟩ := bounded.bounded.inquiry.counted
  have size : final.asked.size = session.asked.size + count := by
    rw [← Array.length_toList, inquired.asked, List.length_append, List.length_replicate,
      Array.length_toList]
  obtain rfl : count = 0 := Nat.add_left_cancel (size.symm.trans (asked id))
  refine ⟨next, final, pulled, ?_, inquired.answers⟩
  rw [← Array.toList_inj, inquired.asked]
  exact List.append_nil _

end Stream

namespace Engine

variable {N α β : Type}

/-- The commands in force, but for blocks, turn neither to the stream nor to the person at the
prompt. What they need for that of the rest of the state is left open. -/
structure Discreet (registry : Registry (Handler N)) (calm : State N → Prop) : Prop where
  moved : ∀ state stream session world, calm state → calm { state with stream, session, world }
  handles : ∀ depth context command call state, command ∈ registry.owners.values →
    command.handler ≠ .builtin .ifBlock → state.registry = registry → calm state →
      let last := after (executeBy (dispatchTo depth) context command call) state
      calm last ∧ Unprompted state last

def Lasting (about : Option (Stream (Handler N)) → Session → Prop) : Prop :=
  ∀ stream session later, later.asked = session.asked → later.answers = session.answers →
    about stream session → about stream later

variable {registry : Registry (Handler N)} {calm : State N → Prop}
  {about : Option (Stream (Handler N)) → Session → Prop}

/-- A state in which certain commands are in force, with what they rely on, and in which something
holds of the stream and the session. -/
structure Under (registry : Registry (Handler N)) (calm : State N → Prop)
    (about : Option (Stream (Handler N)) → Session → Prop) (state : State N) : Prop where
  inForce : state.registry = registry
  calm : calm state
  holds : about state.stream state.session

def Sustains (registry : Registry (Handler N)) (calm : State N → Prop)
    (about : Option (Stream (Handler N)) → Session → Prop) (action : Run N α) : Prop :=
  ∀ state, Under registry calm about state → Under registry calm about (after action state)

namespace Sustains

theorem onSession (discreet : Discreet registry calm) (lasting : Lasting about)
    {change : Session → Session} (asked : ∀ session, (change session).asked = session.asked)
    (answers : ∀ session, (change session).answers = session.answers) :
    Sustains registry calm about (onSession change : Run N Unit) := by
  intro state under
  exact ⟨under.inForce, discreet.moved state state.stream _ state.world under.calm,
    lasting _ _ _ (asked _) (answers _) under.holds⟩

theorem catching (discreet : Discreet registry calm) (lasting : Lasting about) :
    Catching (Sustains registry calm about) where
  pure _ := fun _ under => under
  raise _ := fun _ under => under
  bind first second := fun state under =>
    after_bind (Under registry calm about) (first state under) fun value => second value
  attempt inside := fun state under => by
    rw [after_attempt]
    exact inside state under
  note _ _ _ := onSession discreet lasting (fun _ => rfl) fun _ => rfl
  say kind _ := by cases kind <;> exact onSession discreet lasting (fun _ => rfl) fun _ => rfl
  locate _ _ := onSession discreet lasting (fun _ => rfl) fun _ => rfl

theorem executeBy (discreet : Discreet registry calm) (lasting : Lasting about) (depth : Nat)
    (context : Context) {command : Descriptor (Handler N)}
    (known : command ∈ registry.owners.values) (noBlock : command.handler ≠ .builtin .ifBlock)
    (call : Call) :
    Sustains registry calm about (executeBy (dispatchTo depth) context command call) := by
  intro state under
  obtain ⟨still, unprompted⟩ :=
    discreet.handles depth context command call state known noBlock under.inForce under.calm
  have keeps := dispatchTo_keepsRegistry (N := N) depth
  have same := keepsRegistry_throughout.executeBy (keepsRegistry_throughout.sourcing
    (keepsRegistry_throughout.ownStreams keeps) KeepsRegistry.recordScript) keeps context command
    call state
  -- A command that opens no block leaves the stream alone, and so what is asked on it.
  refine ⟨same.trans under.inForce, still, ?_⟩
  rw [unprompted.stream]
  exact lasting _ _ _ unprompted.asked unprompted.answers under.holds

end Sustains

section Bounds

variable {prompting : Prompting} {start : Session}

end Bounds

theorem Takes.known {state taken : State N} {line : String} {directive : Directive (Handler N)}
    (takes : Takes state line directive taken) :
    directive.command ∈ state.registry.owners.values := by
  obtain ⟨parsed, -, resolves, -⟩ := takes.named
  exact Registry.resolve_mem resolves

theorem Indifferent.unprompted {first second : Run N α} (indifferent : Indifferent first second)
    (state : State N) : Unprompted state (after first state) := by
  have alike := indifferent state state rfl
  unfold after
  generalize first.run state = ended at alike
  generalize second.run state = finished at alike
  cases alike with
  | ok counterpart first second => exact first
  | error counterpart first second => exact first

end Engine

end ExScript
