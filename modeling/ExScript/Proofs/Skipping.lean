import ExScript.Proofs.Cursor
import ExScript.Proofs.Extent

/-!
The walk over a block that is skipped. It goes exactly as far as the block reaches, and it changes
nothing but the cursor.
-/

namespace ExScript.Engine

variable {N α : Type}

def misplacedCode (culprit : Directive (Handler N)) : String :=
  if culprit.mark = .fallback then "E583" else "E584"

def Extent.ended (extent : Extent (Handler N)) (value : α) (state : State N) : Ended N α :=
  match extent with
  | .closed rest => .ok value (state.before rest)
  | .misplaced culprit rest =>
      .error (.fault (malformed (misplacedCode culprit) culprit.line)) (state.before rest)
  | .unclosed => .error (.fault missingEnd) state.drained

theorem run_skipBlocks (state : State N) {turns : Nat} {rest : List (Directive (Handler N))}
    (enough : rest.length < turns) (unclosed : List Bool) :
    (skipBlocks turns unclosed : Run N Unit).run (state.before rest) =
      (extentFrom unclosed rest).ended ⟨⟩ state := by
  induction rest generalizing turns unclosed with
  | nil =>
      obtain ⟨turns, rfl⟩ : ∃ fewer, turns = fewer + 1 := ⟨turns - 1, by omega⟩
      cases unclosed with
      | nil => rfl
      | cons fallbackSeen outer =>
          unfold skipBlocks
          dsimp only [Telling.pull, Telling.missingEnd, Telling.malformed]
          rw [run_bind_ok (run_pull_nil state)]
          rfl
  | cons directive rest ih =>
      obtain ⟨turns, rfl⟩ : ∃ fewer, turns = fewer + 1 := ⟨turns - 1, by simp at enough; omega⟩
      have fewer : rest.length < turns := by simpa using enough
      cases unclosed with
      | nil => rfl
      | cons fallbackSeen outer =>
          unfold skipBlocks extentFrom
          dsimp only [Telling.pull, Telling.missingEnd, Telling.malformed]
          rw [run_bind_ok (run_pull_cons state directive rest)]
          dsimp only
          cases mark : directive.mark with
          | opens => exact ih fewer _
          | closes => exact ih fewer _
          | finish => exact ih fewer _
          | plain => exact ih fewer _
          | «elseif» =>
              cases fallbackSeen with
              | true => simp [Extent.ended, misplacedCode, mark]
              | false => exact ih fewer _
          | fallback =>
              cases fallbackSeen with
              | true => simp [Extent.ended, misplacedCode, mark]
              | false => exact ih fewer _

theorem run_skipBlock (state : State N) (rest : List (Directive (Handler N)))
    (fallbackSeen : Bool) :
    (skipBlock fallbackSeen : Run N Unit).run (state.before rest) =
      (extentFrom [fallbackSeen] rest).ended ⟨⟩ state := by
  unfold skipBlock
  dsimp only [Telling.act]
  rw [run_bind_ok (run_turns_before state rest)]
  exact run_skipBlocks state (by omega) [fallbackSeen]

theorem run_skipRest (state : State N) (rest : List (Directive (Handler N))) (fallbackSeen : Bool) :
    (do skipBlock fallbackSeen; pure .goOn : Run N Flow).run (state.before rest) =
      (extentFrom [fallbackSeen] rest).ended .goOn state := by
  rw [EStateM.run_bind, run_skipBlock]
  cases extentFrom [fallbackSeen] rest <;> rfl

theorem run_runBlock_skip (dispatch : Dispatch N) {context : Context} (skip : context.skip = true)
    (condition : String) (state : State N) (rest : List (Directive (Handler N))) :
    (runBlock dispatch context condition).run (state.before rest) =
      (extentFrom [false] rest).ended .goOn state := by
  unfold runBlock
  dsimp only [Telling.act, Telling.holds]
  rw [if_pos skip]
  exact run_skipRest state rest false

end ExScript.Engine
