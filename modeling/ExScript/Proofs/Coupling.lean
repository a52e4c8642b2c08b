import ExScript.Proofs.Course
import ExScript.Proofs.Indifference
import ExScript.Proofs.Supplied
import ExScript.Proofs.Throughout

/-!
Two runs side by side that have the same directives ahead, wherever their lines come from. What the
one calls and judges is told of the other as well, and they end in the same way.
-/

namespace ExScript.Engine

variable {N α β : Type}

inductive Doing (N : Type) where
  | called (command : Descriptor (Handler N)) (call : Call)
  | judged (scope : Expr.Scope) (condition : String)

def Event.doing? : Event N → Option (Doing N)
  | .dispatched directive => some (.called directive.command directive.call)
  | .judged scope condition => some (.judged scope condition)
  | _ => none

def doings (events : List (Event N)) : List (Doing N) :=
  events.filterMap Event.doing?

theorem doings_append (front behind : List (Event N)) :
    doings (front ++ behind) = doings front ++ doings behind :=
  List.filterMap_append

def Structural (fault : Fault) : Prop :=
  ∃ error, structural? fault = some error

theorem structural_of_breaks {fault : Fault} {code : String} (breaks : Breaks code (.fault fault)) :
    Structural fault := by
  obtain ⟨error, same, -, structural⟩ := structural_breaks breaks
  cases same
  exact ⟨error, structural⟩

/-- Two courses with the same doings that end in the same way. Errors of block structure may differ
in the place that they name. -/
inductive Coupled (post : α → State N → State N → Prop) :
    List (Event N) × Ended N α → List (Event N) × Ended N α → Prop where
  | ok {events others value last other} (same : doings events = doings others)
      (good : post value last other) :
      Coupled post (events, .ok value last) (others, .ok value other)
  | broke {events others fault another last other} (same : doings events = doings others)
      (first : Structural fault) (second : Structural another)
      (counterpart : Counterpart last other) :
      Coupled post (events, .error (.fault fault) last) (others, .error (.fault another) other)
  | exhausted {events others last other} (same : doings events = doings others)
      (counterpart : Counterpart last other) :
      Coupled post (events, .error .exhausted last) (others, .error .exhausted other)

variable {post : α → State N → State N → Prop}

theorem Coupled.mono {other : α → State N → State N → Prop}
    {first second : List (Event N) × Ended N α} (coupled : Coupled post first second)
    (weaker : ∀ value last final, first.2 = .ok value last → post value last final →
      other value last final) : Coupled other first second := by
  cases coupled with
  | ok same good => exact .ok same (weaker _ _ _ rfl good)
  | broke same first second counterpart => exact .broke same first second counterpart
  | exhausted same counterpart => exact .exhausted same counterpart

theorem Coupled.told {first second : List (Event N) × Ended N α}
    (coupled : Coupled post ([], first.2) ([], second.2))
    (same : doings first.1 = doings second.1) : Coupled post first second := by
  obtain ⟨events, ended⟩ := first
  obtain ⟨others, finished⟩ := second
  dsimp only at coupled same
  cases coupled with
  | ok _ good => exact .ok same good
  | broke _ first second counterpart => exact .broke same first second counterpart
  | exhausted _ counterpart => exact .exhausted same counterpart

theorem Coupled.behind {events others : List (Event N)} {first second : List (Event N) × Ended N α}
    (same : doings events = doings others) (coupled : Coupled post first second) :
    Coupled post (events ++ first.1, first.2) (others ++ second.1, second.2) := by
  have joined {more further : List (Event N)} (equal : doings more = doings further) :
      doings (events ++ more) = doings (others ++ further) := by
    rw [doings_append, doings_append, same, equal]
  cases coupled with
  | ok equal good => exact .ok (joined equal) good
  | broke equal first second counterpart => exact .broke (joined equal) first second counterpart
  | exhausted equal counterpart => exact .exhausted (joined equal) counterpart

theorem Coupled.sameDoings {first second : List (Event N) × Ended N α}
    (coupled : Coupled post first second) : doings first.1 = doings second.1 := by
  cases coupled with
  | ok same good => exact same
  | broke same first second counterpart => exact same
  | exhausted same counterpart => exact same

theorem Coupled.counterparts {first second : List (Event N) × Ended N α}
    (coupled : Coupled post first second)
    (counterparts : ∀ value last final, post value last final → Counterpart last final)
    {action other : Run N α} {state twin : State N} (left : first.2 = action.run state)
    (right : second.2 = other.run twin) : Counterpart (after action state) (after other twin) := by
  unfold after
  rw [← left, ← right]
  cases coupled with
  | ok same good => exact counterparts _ _ _ good
  | broke same first second counterpart => exact counterpart
  | exhausted same counterpart => exact counterpart

def Couples (pre : State N → State N → Prop) (post : α → State N → State N → Prop)
    (first second : Course N α) : Prop :=
  ∀ state other, pre state other → Coupled post (first state) (second other)

namespace Couples

variable {pre : State N → State N → Prop}

theorem pure {value : α} (ready : ∀ state other, pre state other → post value state other) :
    Couples pre post (pure value) (pure value) :=
  fun state other before => .ok rfl (ready state other before)

theorem bind {middle : α → State N → State N → Prop} {post : β → State N → State N → Prop}
    {first second : Course N α} {next following : α → Course N β}
    (couples : Couples pre middle first second)
    (each : ∀ value, Couples (middle value) post (next value) (following value)) :
    Couples pre post (first >>= next) (second >>= following) := by
  intro state other before
  have coupled := couples state other before
  have left : (first >>= next) state = Course.onward (first state).1 next (first state).2 := rfl
  have right : (second >>= following) other =
      Course.onward (second other).1 following (second other).2 := rfl
  rw [left, right]
  generalize first state = result at coupled
  generalize second other = outcome at coupled
  cases coupled with
  | @ok events others value last final same good =>
      exact .behind same (each value last final good)
  | broke same first second counterpart => exact .broke same first second counterpart
  | exhausted same counterpart => exact .exhausted same counterpart

theorem mono {other : α → State N → State N → Prop} {first second : Course N α}
    (couples : Couples pre post first second)
    (weaker : ∀ value last final, post value last final → other value last final) :
    Couples pre other first second :=
  fun state twin before =>
    (couples state twin before).mono fun value last final _ => weaker value last final

theorem raises {fault : Fault} (structural : Structural fault) (code : String)
    (counterpart : ∀ state other, pre state other → Counterpart state other) :
    Couples pre post (Course.breaking code (raise fault)) (Course.breaking code (raise fault)) :=
  fun state other before => .broke rfl structural structural (counterpart state other before)

theorem exhausts (counterpart : ∀ state other, pre state other → Counterpart state other) :
    Couples pre post (Course.silent (throw .exhausted)) (Course.silent (throw .exhausted)) :=
  fun state other before => .exhausted rfl (counterpart state other before)

end Couples

/-- Two states with the same directives ahead of them. The first may have to ask for their lines, so
that there are `total` requests behind the last; the other has nothing else to read. -/
structure Facing (registry : Registry (Handler N)) (extra : List String) (total : Nat)
    (rest : List (Directive (Handler N))) (state other : State N) : Prop where
  counterpart : Counterpart state other
  inForce : state.registry = registry
  streams : ∃ parts first second, parts.filterMap Part.directive? = rest ∧
    Part.Concluded parts ∧ state.stream = some first ∧ other.stream = some second ∧
    first.Supplies registry parts extra state.session ∧
    second.Supplies registry parts [] other.session ∧
    Stream.Counted parts total first state.session

variable {registry : Registry (Handler N)} {extra : List String} {total : Nat}
  {directive : Directive (Handler N)} {rest : List (Directive (Handler N))}

namespace Facing

theorem kept {state other last final : State N}
    (facing : Facing registry extra total rest state other)
    (counterpart : Counterpart last final) (same : last.registry = state.registry)
    (left : Unprompted state last) (right : Unprompted other final) :
    Facing registry extra total rest last final := by
  obtain ⟨-, inForce, parts, first, second, gives, concluded, current, present, supplies, supplied,
    counted⟩ := facing
  exact ⟨counterpart, same.trans inForce, parts, first, second, gives, concluded,
    left.stream.trans current, right.stream.trans present, supplies.answers left.answers,
    supplied.answers right.answers, counted.asked left.asked⟩

theorem noted {state other : State N} (facing : Facing registry extra total rest state other)
    (level : Level) (text : String) :
    Facing registry extra total rest (state.noted level text) (other.noted level text) :=
  facing.kept (facing.counterpart.noted level text) rfl (.noted state level text)
    (.noted other level text)

theorem present {state other : State N} (facing : Facing registry extra total rest state other) :
    state.stream.isSome = true ∧ other.stream.isSome = true := by
  obtain ⟨-, -, parts, first, second, -, -, current, present, -⟩ := facing
  rw [current, present]
  exact ⟨rfl, rfl⟩

end Facing

namespace Course

variable {state last : State N}

theorem bind_ok {course : Course N α} {next : α → Course N β} {events : List (Event N)} {value : α}
    (told : course state = (events, .ok value last)) :
    (course >>= next) state = (events ++ (next value last).1, (next value last).2) := by
  have step : (course >>= next) state = onward (course state).1 next (course state).2 := rfl
  rw [step, told]
  rfl

theorem bind_pure (course : Course N α) : course >>= Pure.pure = course := by
  funext state
  have step : (course >>= Pure.pure) state =
      onward (course state).1 Pure.pure (course state).2 := rfl
  rw [step]
  obtain ⟨events, ended⟩ := course state
  cases ended with
  | ok value last => exact Prod.ext (List.append_nil events) rfl
  | error stop last => rfl

theorem map_events (course : Course N α) (change : α → β) (state : State N) :
    ((course >>= fun value => Pure.pure (change value)) state).1 = (course state).1 := by
  have step : (course >>= fun value => Pure.pure (change value)) state =
      onward (course state).1 (fun value => Pure.pure (change value)) (course state).2 := rfl
  rw [step]
  obtain ⟨events, ended⟩ := course state
  cases ended with
  | ok value last => exact List.append_nil events
  | error stop last => rfl

theorem silent_ok {action : Run N α} {value : α} (ran : action.run state = .ok value last) :
    silent action state = ([], .ok value last) :=
  congrArg (Prod.mk []) ran

theorem pull_some (pulled : Engine.pull.run state = .ok (some directive) last) :
    Course.pull state = ([.met directive], .ok (some directive) last) := by
  unfold Course.pull
  rw [bind_ok (silent_ok pulled)]
  rfl

theorem pull_none (pulled : Engine.pull.run state = .ok none last) :
    Course.pull state = ([.ended], .ok none last) := by
  unfold Course.pull
  rw [bind_ok (silent_ok pulled)]
  rfl

theorem turns_bind {stream : Stream (Handler N)} (current : state.stream = some stream)
    (next : Nat → Course N β) :
    (silent Engine.turns >>= next) state = next (stream.remaining + 1) state := by
  rw [bind_ok (silent_ok (run_turns_some current))]
  rfl

theorem finished_eq {stream : Stream (Handler N)} (current : state.stream = some stream) :
    Course.finished state = ([], .ok .finish { state with stream := some stream.close }) :=
  silent_ok (run_finished current)

end Course

namespace Couples

variable {post : β → State N → State N → Prop}

theorem pull {next following : Option (Directive (Handler N)) → Course N β}
    (each : Couples (Facing registry extra total rest) post (next (some directive))
      (following (some directive))) :
    Couples (Facing registry extra total (directive :: rest)) post (Course.pull >>= next)
      (Course.pull >>= following) := by
  have pulls : Couples (Facing registry extra total (directive :: rest))
      (fun found state other => found = some directive ∧
        Facing registry extra total rest state other) Course.pull Course.pull := by
    intro state other facing
    obtain ⟨counterpart, inForce, parts, first, second, gives, concluded, current, present,
      supplies, supplied, counted⟩ := facing
    obtain ⟨left, leftover, pulled, fetched⟩ := supplies.pull gives
    obtain ⟨right, remains, given, fetches⟩ := supplied.pull gives
    have ran := run_pull current
    have runs := run_pull present
    rw [← inForce] at pulled
    rw [← counterpart.registry.trans inForce] at given
    rw [pulled] at ran
    rw [given] at runs
    rw [Course.pull_some ran, Course.pull_some runs]
    exact .ok rfl ⟨rfl, counterpart.moved _ _ _ _, inForce, _, left, right,
      Part.filterMap_behindFirst gives, concluded.behindFirst, rfl, rfl, fetched.supplies,
      fetches.supplies, fetched.counted counted⟩
  refine pulls.bind fun found => ?_
  rintro state other ⟨rfl, facing⟩
  exact each state other facing

theorem turns {next following : Nat → Course N β}
    (each : ∀ budget allowance, rest.length < budget → rest.length < allowance →
      Couples (Facing registry extra total rest) post (next budget) (following allowance)) :
    Couples (Facing registry extra total rest) post (Course.silent Engine.turns >>= next)
      (Course.silent Engine.turns >>= following) := by
  intro state other facing
  obtain ⟨-, -, parts, first, second, gives, -, current, present, supplies, supplied, -⟩ :=
    id facing
  rw [Course.turns_bind current, Course.turns_bind present]
  exact each _ _ (supplies.enough gives) (supplied.enough gives) state other facing

theorem holds (scope : Expr.Scope) (condition : String) (line : Option Int) :
    Couples (Facing registry extra total rest)
      (fun _ => Facing registry extra total rest) (Course.holds scope condition line)
      (Course.holds scope condition line) := by
  intro state other facing
  have told (state : State N) : Course.holds scope condition line state =
      (.judged scope condition ::
          (Course.breaking "E15" (Engine.holds scope condition line) state).1,
        (Course.breaking "E15" (Engine.holds scope condition line) state).2) := rfl
  have alike := Indifferent.holds scope condition line state other facing.counterpart
  have same := keepsRegistry_throughout.holds scope condition line state
  have ran := run_holds scope condition line state
  unfold after at same
  rw [told, told]
  unfold Course.breaking
  generalize (Engine.holds scope condition line).run state = ended at alike same ran
  generalize (Engine.holds scope condition line).run other = finished at alike
  cases alike with
  | ok counterpart first second => exact .ok rfl (facing.kept counterpart same first second)
  | @error stop last final counterpart first second =>
      cases stop with
      | exhausted => exact .exhausted rfl counterpart
      | fault fault =>
          rcases ran with ⟨value, last, ended, -⟩ | ⟨stop, last, ended, breaks⟩
          · cases ended
          · cases ended
            have structural := structural_of_breaks breaks
            exact .broke rfl structural structural counterpart

theorem silent {first second : Run N α} (indifferent : Indifferent first second)
    (keeps : KeepsRegistry first) (fine : ∀ state, ∃ value last, first.run state = .ok value last) :
    Couples (Facing registry extra total rest) (fun _ => Facing registry extra total rest)
      (Course.silent first) (Course.silent second) := by
  intro state other facing
  have alike := indifferent state other facing.counterpart
  have same := keeps state
  obtain ⟨value, last, ended⟩ := fine state
  rw [after_ok ended] at same
  unfold Course.silent
  rw [ended] at alike ⊢
  generalize second.run other = finished at alike
  cases alike with
  | ok counterpart left right => exact .ok rfl (facing.kept counterpart same left right)

end Couples

end ExScript.Engine
