import ExScript.Proofs.Course
import ExScript.Proofs.Extent

/-!
Where a run stands in the blocks of its script, by what it has met, and which directive is to blame
when their structure breaks there.
-/

namespace ExScript.Engine

variable {N : Type} {events front behind : List (Event N)} {directive : Directive (Handler N)}
  {unclosed : List Bool} {fallbackSeen : Bool}

def Event.met? : Event N → Option (Directive (Handler N))
  | .met directive => some directive
  | _ => none

def metIn (events : List (Event N)) : List (Directive (Handler N)) :=
  events.filterMap Event.met?

@[simp] theorem metIn_append (front behind : List (Event N)) :
    metIn (front ++ behind) = metIn front ++ metIn behind :=
  List.filterMap_append

@[simp] theorem metIn_dispatched (directive : Directive (Handler N)) (events : List (Event N)) :
    metIn (.dispatched directive :: events) = metIn events := rfl

def Unbroken (events : List (Event N)) : Prop :=
  ∀ code shown, .broke code shown ∉ events

theorem unbroken_nil : Unbroken ([] : List (Event N)) :=
  fun _ _ member => nomatch member

theorem Unbroken.append (first : Unbroken front) (second : Unbroken behind) :
    Unbroken (front ++ behind) := by
  intro code shown member
  rcases List.mem_append.mp member with earlier | later
  · exact first code shown earlier
  · exact second code shown later

theorem Inside.of_append {C : Type} {first second : List (Directive C)}
    (inside : Inside (first ++ second)) : Inside first :=
  fun shorter start => inside shorter (start.trans (List.prefix_append first second))

/-- No block that was entered, which is one whose directive was dispatched, is open any more. -/
def NoneOpen (events : List (Event N)) : Prop :=
  ∀ front opener behind, events = front ++ .dispatched opener :: behind →
    opener.mark = .opens → ¬ Inside (metIn behind)

theorem NoneOpen.append (first : NoneOpen front) (second : NoneOpen behind) :
    NoneOpen (front ++ behind) := by
  intro before opener rest split opens inside
  rcases List.append_eq_append_iff.mp split with ⟨more, -, later⟩ | ⟨more, earlier, later⟩
  · exact second more opener rest later opens inside
  · cases more with
    | nil => exact second [] opener rest later.symm opens inside
    | cons next more =>
        rw [List.cons_append] at later
        obtain ⟨rfl, rfl⟩ := List.cons.inj later
        rw [metIn_append] at inside
        exact first before opener more earlier opens inside.of_append

theorem noneOpen_of_undispatched (none : ∀ opener, .dispatched opener ∉ events) :
    NoneOpen events := by
  intro front opener behind split
  exact absurd (by rw [split]; simp) (none opener)

theorem noneOpen_dispatched (other : directive.mark ≠ .opens) :
    NoneOpen [.dispatched directive] := by
  intro front opener behind split opens
  cases front with
  | nil =>
      obtain ⟨same, -⟩ := List.cons.inj split
      cases same
      exact absurd opens other
  | cons first front => simp at split

/-- Events behind the directive of a block lead to blocks that are open, the innermost first and
each with whether its fallback was seen. Without any, they lead out of the block. -/
structure Standing (events : List (Event N)) (unclosed : List Bool) : Prop where
  noneOpen : NoneOpen events
  scans : ∀ stem outer, unclosed ++ outer ≠ [] → Scanned stem (false :: outer) →
    Scanned (stem ++ metIn events) (unclosed ++ outer)

namespace Standing

theorem start : Standing ([] : List (Event N)) [false] where
  noneOpen := noneOpen_of_undispatched fun _ member => nomatch member
  scans stem outer _ scanned := by
    rw [metIn, List.filterMap_nil, List.append_nil]
    exact scanned

theorem scanned (standing : Standing events (fallbackSeen :: unclosed)) :
    Scanned (metIn events) (fallbackSeen :: unclosed) := by
  have scanned := standing.scans [] [] (by simp) .start
  rwa [List.nil_append, List.append_nil] at scanned

theorem step {left : List Bool} (standing : Standing events (fallbackSeen :: unclosed))
    (noneOpen : NoneOpen behind)
    (scans : ∀ stem outer, left ++ outer ≠ [] → Scanned stem (fallbackSeen :: unclosed ++ outer) →
      Scanned (stem ++ metIn behind) (left ++ outer)) :
    Standing (events ++ behind) left where
  noneOpen := standing.noneOpen.append noneOpen
  scans stem outer some scanned := by
    have here := standing.scans stem outer (by simp) scanned
    rw [metIn_append, ← List.append_assoc]
    exact scans _ _ some here

theorem noneOpen_met (directive : Directive (Handler N)) : NoneOpen [.met directive] :=
  noneOpen_of_undispatched fun _ member => by simp at member

theorem opens (standing : Standing events (fallbackSeen :: unclosed))
    (mark : directive.mark = .opens) :
    Standing (events ++ [.met directive]) (false :: fallbackSeen :: unclosed) :=
  standing.step (noneOpen_met directive) fun _ _ _ scanned => scanned.opens mark

theorem closes (standing : Standing events (fallbackSeen :: unclosed))
    (mark : directive.mark = .closes) : Standing (events ++ [.met directive]) unclosed := by
  refine standing.step (noneOpen_met directive) fun stem outer some scanned => ?_
  rw [List.cons_append] at scanned
  cases whole : unclosed ++ outer with
  | nil => exact absurd whole some
  | cons next rest =>
      rw [whole] at scanned
      exact scanned.closes mark

theorem fallback (standing : Standing events (false :: unclosed))
    (mark : directive.mark = .fallback) :
    Standing (events ++ [.met directive]) (true :: unclosed) :=
  standing.step (noneOpen_met directive) fun _ _ _ scanned => scanned.fallback mark

theorem elseif (standing : Standing events (false :: unclosed))
    (mark : directive.mark = .elseif) :
    Standing (events ++ [.met directive]) (false :: unclosed) := by
  refine standing.step (noneOpen_met directive) fun stem outer _ scanned => ?_
  refine scanned.within (by rw [mark]; rfl) (by simp [mark]) fun misplaced => ?_
  have seen := scanned.innermost.mpr misplaced.2
  cases seen

theorem plain (standing : Standing events (fallbackSeen :: unclosed))
    (mark : directive.mark = .plain ∨ directive.mark = .finish) :
    Standing (events ++ [.met directive]) (fallbackSeen :: unclosed) := by
  refine standing.step (noneOpen_met directive) fun stem outer _ scanned => ?_
  rcases mark with mark | mark <;>
    exact scanned.within (by rw [mark]; rfl) (by simp [mark]) (by simp [Misplaced, mark])

theorem unmet (standing : Standing events (fallbackSeen :: unclosed)) (noneOpen : NoneOpen behind)
    (nothing : metIn behind = []) : Standing (events ++ behind) (fallbackSeen :: unclosed) := by
  refine standing.step noneOpen fun stem outer _ scanned => ?_
  rw [nothing, List.append_nil]
  exact scanned

theorem not_inside (standing : Standing events []) (mark : directive.mark = .opens) :
    ¬ Inside (metIn events) := by
  intro inside
  have behind := standing.scans [directive] [false] (by simp) (Scanned.start.opens mark)
  have depth := behind.depth
  have least := inside.nesting
  rw [List.singleton_append, nesting, mark] at depth
  simp only [Mark.shift, List.nil_append, List.length_singleton] at depth
  omega

theorem noneOpen_block {inner : List (Event N)} (standing : Standing inner []) :
    NoneOpen (.dispatched directive :: inner) := by
  intro front opener behind split opens inside
  cases front with
  | nil =>
      obtain ⟨same, rfl⟩ := List.cons.inj split
      cases same
      exact standing.not_inside opens inside
  | cons first front =>
      obtain ⟨-, rest⟩ := List.cons.inj split
      exact standing.noneOpen front opener behind rest opens inside

theorem block {inner : List (Event N)} (standing : Standing events (fallbackSeen :: unclosed))
    (mark : directive.mark = .opens) (left : Standing inner []) :
    Standing (events ++ (.met directive :: .dispatched directive :: inner))
      (fallbackSeen :: unclosed) := by
  have noneOpen : NoneOpen (.met directive :: .dispatched directive :: inner) :=
    (noneOpen_met directive).append left.noneOpen_block
  refine standing.step noneOpen fun stem outer _ scanned => ?_
  have behind := left.scans _ _ (by simp) (scanned.opens mark)
  rwa [List.nil_append, List.append_assoc] at behind

end Standing

/-- The directive to blame when the structure breaks with an error behind certain events. -/
inductive Blames : List (Event N) → String → Directive (Handler N) → Prop where
  | stray {front culprit builtin code} (handler : culprit.command.handler = .builtin builtin)
      (stray : builtin.stray? = some code) : Blames (front ++ [.dispatched culprit]) code culprit
  | secondFallback {front culprit} (mark : culprit.mark = .fallback)
      (seen : FallbackSeen 0 (metIn front)) : Blames (front ++ [.met culprit]) "E583" culprit
  | lateArm {front culprit} (mark : culprit.mark = .elseif)
      (seen : FallbackSeen 0 (metIn front)) : Blames (front ++ [.met culprit]) "E584" culprit
  | condition {front culprit scope} (mark : culprit.mark = .opens) :
      Blames (front ++ [.dispatched culprit, .judged scope culprit.args]) "E15" culprit
  | armCondition {front culprit scope} (mark : culprit.mark = .elseif) :
      Blames (front ++ [.met culprit, .judged scope culprit.args]) "E15" culprit
  | unclosed {front culprit between} (mark : culprit.mark = .opens)
      (inside : Inside (metIn between)) (innermost : NoneOpen between) :
      Blames (front ++ .dispatched culprit :: (between ++ [.ended])) "E171" culprit

namespace Blames

variable {code : String} {culprit other : Directive (Handler N)}

theorem prepend (blames : Blames events code culprit) (front : List (Event N)) :
    Blames (front ++ events) code culprit := by
  have longer {stem : List (Event N)} (seen : FallbackSeen 0 (metIn stem)) :
      FallbackSeen 0 (metIn (front ++ stem)) := by
    obtain ⟨earlier, fallback, between, split, rest⟩ := seen
    exact ⟨metIn front ++ earlier, fallback, between, by simp [split], rest⟩
  cases blames with
  | stray handler stray =>
      rw [← List.append_assoc]
      exact .stray handler stray
  | secondFallback mark seen =>
      rw [← List.append_assoc]
      exact .secondFallback mark (longer seen)
  | lateArm mark seen =>
      rw [← List.append_assoc]
      exact .lateArm mark (longer seen)
  | condition mark =>
      rw [← List.append_assoc]
      exact .condition mark
  | armCondition mark =>
      rw [← List.append_assoc]
      exact .armCondition mark
  | unclosed mark inside innermost =>
      rw [← List.append_assoc]
      exact .unclosed mark inside innermost

def atEnd? (events : List (Event N)) : Option (Directive (Handler N)) :=
  match events.reverse with
  | .dispatched directive :: _ => some directive
  | .met directive :: _ => some directive
  | .judged _ _ :: .dispatched directive :: _ => some directive
  | .judged _ _ :: .met directive :: _ => some directive
  | _ => none

theorem stray?_ne (builtin : Builtin) : builtin.stray? ≠ some "E171" := by
  cases builtin <;> simp [Builtin.stray?]

theorem atEnd (blames : Blames events code culprit) (other : code ≠ "E171") :
    atEnd? events = some culprit := by
  cases blames with
  | unclosed mark inside innermost => exact absurd rfl other
  | stray handler stray | secondFallback mark seen | lateArm mark seen | condition mark
  | armCondition mark =>
      unfold atEnd?
      rw [List.reverse_append]
      rfl

theorem exists_unclosed (blames : Blames events code culprit) (missing : code = "E171") :
    ∃ front between, events = front ++ .dispatched culprit :: (between ++ [.ended]) ∧
      culprit.mark = .opens ∧ Inside (metIn between) ∧ NoneOpen between := by
  cases blames with
  | unclosed mark inside innermost => exact ⟨_, _, rfl, mark, inside, innermost⟩
  | stray handler stray => exact absurd (missing ▸ stray) (stray?_ne _)
  | secondFallback mark seen | lateArm mark seen | condition mark | armCondition mark =>
      exact absurd missing (by decide)

theorem innermost_unique {first second before between : List (Event N)}
    (split : first ++ .dispatched culprit :: before = second ++ .dispatched other :: between)
    (innermost : NoneOpen before) (mark : other.mark = .opens) (inside : Inside (metIn between))
    (shorter : first.length ≤ second.length) : culprit = other := by
  obtain ⟨more, rfl⟩ := List.prefix_of_prefix_length_le (List.prefix_append first _)
    (split ▸ List.prefix_append second _) shorter
  rw [List.append_assoc] at split
  have rest := List.append_cancel_left split
  cases more with
  | nil =>
      obtain ⟨same, -⟩ := List.cons.inj rest
      cases same
      rfl
  | cons next more =>
      obtain ⟨-, later⟩ := List.cons.inj rest
      exact absurd inside (innermost more other between later mark)

theorem unique (blames : Blames events code culprit) (also : Blames events code other) :
    culprit = other := by
  by_cases missing : code = "E171"
  · obtain ⟨first, before, rfl, mark, inside, innermost⟩ := blames.exists_unclosed missing
    obtain ⟨second, between, split, mark', inside', innermost'⟩ := also.exists_unclosed missing
    simp only [← List.cons_append, ← List.append_assoc] at split
    have split := List.append_cancel_right split
    rcases Nat.le_total first.length second.length with shorter | longer
    · exact innermost_unique split innermost mark' inside' shorter
    · exact (innermost_unique split.symm innermost' mark inside longer).symm
  · exact Option.some.inj ((blames.atEnd missing).symm.trans (also.atEnd missing))

end Blames

end ExScript.Engine
