import ExScript.Proofs.Aside

/-!
The cursor of a stream whose directives were assembled beforehand.
-/

namespace ExScript.Engine

variable {N : Type}

def State.before (state : State N) (rest : List (Directive (Handler N))) : State N :=
  state.on (some (Stream.ofDirectives rest))

def State.drained (state : State N) : State N :=
  state.on (some { Stream.ofDirectives [] with ended := true })

theorem State.eq_before {state : State N} {rest : List (Directive (Handler N))}
    (current : state.stream = some (Stream.ofDirectives rest)) : state = state.before rest := by
  unfold State.before
  rw [← current, State.on_self]

@[simp] theorem State.before_stream (state : State N) (rest : List (Directive (Handler N))) :
    (state.before rest).stream = some (Stream.ofDirectives rest) := rfl

@[simp] theorem State.drained_stream (state : State N) :
    state.drained.stream = some { Stream.ofDirectives [] with ended := true } := rfl

/-- What keeps aside of the stream can be run in front of any directives. -/
theorem Aside.run_before {α : Type} {action : Run N α} (aside : Aside action) (state : State N)
    (rest : List (Directive (Handler N))) :
    action.run (state.before rest) =
      endedOn (some (Stream.ofDirectives rest)) (action.run (state.before [])) :=
  aside (state.before []) (some (Stream.ofDirectives rest)) rfl

theorem run_pull_cons (state : State N) (directive : Directive (Handler N))
    (rest : List (Directive (Handler N))) :
    pull.run (state.before (directive :: rest)) = .ok (some directive) (state.before rest) := rfl

theorem run_pull_nil (state : State N) : pull.run (state.before []) = .ok none state.drained := rfl

theorem run_turns_before (state : State N) (rest : List (Directive (Handler N))) :
    turns.run (state.before rest) = .ok (rest.length + 2) (state.before rest) := rfl

end ExScript.Engine
