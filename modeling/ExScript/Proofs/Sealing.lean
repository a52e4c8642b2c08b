import ExScript.Proofs.Completion
import ExScript.Proofs.Unaware

/-!
Scripts that finish on their last line. Whatever is written behind that line, the script runs in the
same way to the same end, and none of it is read.
-/

namespace ExScript

variable {C : Type}

theorem Assembly.Layout.whole_of_last {registry : Registry C} {number : Nat} {parts : List (Part C)}
    (layout : Layout registry number parts) (last : ∀ part ∈ parts.getLast?, ¬ part.Unclosed) :
    ∀ part ∈ parts, ¬ part.Unclosed := by
  induction layout with
  | nil => exact List.forall_mem_nil _
  | @cons number part rest fits alone behind ih =>
      intro other member
      rcases List.mem_cons.mp member with rfl | later
      · intro unclosed
        rw [alone unclosed] at last
        exact last other rfl unclosed
      · cases rest with
        | nil => cases later
        | cons next rest =>
            rw [List.getLast?_cons_cons] at last
            exact ih last other later

namespace Engine

variable {N : Type}

/-- The last line of the text completes a directive. When the script finishes, its lines are used
up, and nothing has looked behind them. -/
structure FinishesOnLastLine (depth : Nat) (state : State N) (name text : String) : Prop where
  terminated : text.toList.getLast? = some '\n'
  completed : ∃ parts part, Assembly.Layout state.registry 1 parts ∧
    parts.flatMap Part.lines = Text.terminatedLines text ∧ parts.getLast? = some part ∧
      part.directive?.isSome ∧ ¬ part.Unclosed
  finished : ∃ last stream,
    (turns >>= runStream (dispatchTo depth) { path := some name }).run
        (state.reading name (.ofText text (some name))) = .ok .finish last ∧
      last.stream = some stream ∧ stream.atHand = [] ∧ stream.ended = false

section

variable {depth : Nat} {state : State N} {name text : String}

theorem ofText_given (text name : String) : (LineSource.ofText text (some name)).Given :=
  LineSource.named_given _ _

theorem reading_settled {parts : List (Part (Handler N))} {part : Part (Handler N)}
    (layout : Assembly.Layout state.registry 1 parts)
    (lines : parts.flatMap Part.lines = Text.terminatedLines text)
    (last : parts.getLast? = some part) (closed : ¬ part.Unclosed) :
    Settled (state.reading name (.ofText text (some name))) := by
  unfold State.reading
  rw [Stream.ofSource_given (ofText_given text name)]
  refine ⟨_, rfl, rfl, rfl, rfl, rfl, parts, layout, lines, layout.whole_of_last ?_⟩
  intro other found
  cases last.symm.trans found
  exact closed

theorem reading_append (whole : Text.Whole text.toList) (rest : String) :
    state.reading name (.ofText (text ++ rest) (some name)) =
      (state.reading name (.ofText text (some name))).followed (Text.terminatedLines rest) := by
  have lines := Text.terminatedLines_append whole rest
  unfold State.reading State.followed
  rw [Stream.ofSource_given (ofText_given (text ++ rest) name),
    Stream.ofSource_given (ofText_given text name)]
  simp only [LineSource.ofText, LineSource.named, lines]
  rfl

theorem run_reading_append (finishes : FinishesOnLastLine depth state name text) :
    ∃ (last : State N) (stream : Stream (Handler N)), stream.atHand = [] ∧ ∀ rest,
      (turns >>= runStream (dispatchTo depth) { path := some name }).run
          (state.reading name (.ofText (text ++ rest) (some name))) =
        .ok .finish (last.on (some (stream.followed (Text.terminatedLines rest)))) := by
  obtain ⟨terminated, ⟨parts, part, layout, lines, final, -, closed⟩, last, stream, ran, current,
    used, unmet⟩ := finishes
  refine ⟨last, stream, used, fun rest => ?_⟩
  have whole : Text.Whole text.toList := by
    intro c found
    exact (Option.some.inj (terminated.symm.trans found)).symm
  have unaware : Unaware (Text.terminatedLines rest)
      (turns >>= runStream (dispatchTo depth) { path := some name } : Run N Flow)
      (turns >>= runStream (dispatchTo depth) { path := some name }) :=
    Unaware.turns fun _ _ enough => Unaware.runStream (Unaware.dispatchTo depth) _ enough
  have settled : Settled (state.reading name (.ofText text (some name))) :=
    reading_settled layout lines final closed
  have alike := unaware.alike _ settled
  rw [ran, ← reading_append whole] at alike
  generalize (turns >>= runStream (dispatchTo depth) { path := some name } : Run N Flow).run
    (state.reading name (.ofText (text ++ rest) (some name))) = result at alike ⊢
  cases alike with
  | ok settled =>
      unfold State.followed
      rw [current]
      rfl
  | past past =>
      obtain ⟨other, same, met⟩ := past
      rw [current] at same
      cases same
      rw [unmet] at met
      cases met

def State.resumed (state last : State N) (path : String) : State N :=
  let noted := (last.on state.stream).noted .info ("source.finish path=" ++ path ++ " line=" ++
    toString ((last.session.script.map (·.line)).getD 0))
  { noted with session := noted.session.resume state.session }

theorem State.resumed_on (state last : State N) (stream : Option (Stream (Handler N)))
    (path : String) : state.resumed (last.on stream) path = state.resumed last path := by
  unfold State.resumed
  rw [State.on_on]
  rfl

theorem run_script_finish {dispatch : Dispatch N} {path : String} {source : LineSource}
    {last : State N}
    (ran : (turns >>= runStream dispatch { path := some path }).run (state.reading path source) =
      .ok .finish last) :
    (asScript path (runSource dispatch path source)).run state =
      .ok true (state.resumed last path) := by
  have streamed := run_withStream (Stream.ofSource source true)
    (turns >>= runStream dispatch { path := some path }) (state.scripted path)
  change (turns >>= runStream dispatch { path := some path }).run
    { state.scripted path with stream := some (Stream.ofSource source true) } = _ at ran
  rw [ran] at streamed
  have inside : (runSource dispatch path source).run (state.scripted path) = .ok ⟨⟩
      ((last.on state.stream).noted .info ("source.finish path=" ++ path ++ " line=" ++
        toString ((last.session.script.map (·.line)).getD 0))) := by
    unfold runSource
    rw [run_bind_ok streamed]
    rfl
  have attempted : (attempt (withScript path (runSource dispatch path source))).run state =
      .ok (.ok ⟨⟩) (state.resumed last path) := by
    rw [run_attempt, run_withScript]
    change (runSource dispatch path source).run
      { state with session := state.session.enter path } = _ at inside
    rw [inside]
    rfl
  unfold asScript
  rw [run_bind_ok attempted]
  rfl

/-- What follows an executed `finish` is irrelevant. Whatever the text goes on with, the script runs
to the same end with the same effects, and the lines behind are left unread. -/
theorem finish_seals (finishes : FinishesOnLastLine depth state name text) :
    ∃ (last final : State N) (stream : Stream (Handler N)), stream.atHand = [] ∧
      (∀ rest, (turns >>= runStream (dispatchTo depth) { path := some name }).run
          (state.reading name (.ofText (text ++ rest) (some name))) =
        .ok .finish (last.on (some (stream.followed (Text.terminatedLines rest))))) ∧
      ∀ rest, (sourceString (dispatchTo depth) (text ++ rest) name).run state = .ok true final := by
  obtain ⟨last, stream, used, ran⟩ := run_reading_append finishes
  refine ⟨last, state.resumed last name, stream, used, ran, fun rest => ?_⟩
  obtain ⟨ended, same⟩ : ∃ ended, (if endsLine (text ++ rest) then text ++ rest
      else text ++ rest ++ "\n") = text ++ ended := by
    split
    · exact ⟨rest, rfl⟩
    · exact ⟨rest ++ "\n", String.append_assoc⟩
  unfold sourceString
  rw [same]
  rw [run_script_finish (ran ended), State.resumed_on]

end

def allWhole (registry : Registry (Handler N)) : Nat → List String → Bool
  | _, [] => true
  | number, line :: rest =>
      (match Assembly.headerRole registry number (Assembly.dropCarriageReturn line) with
        | .ok (.whole _) => true
        | _ => false) && allWhole registry (number + 1) rest

theorem exists_layout_whole {registry : Registry (Handler N)} {number : Nat} {lines : List String}
    (whole : allWhole registry number lines = true) :
    ∃ parts, Assembly.Layout registry number parts ∧ parts.flatMap Part.lines = lines ∧
      ∀ part ∈ parts, part.directive?.isSome ∧ ¬ part.Unclosed := by
  induction lines generalizing number with
  | nil => exact ⟨[], .nil, rfl, List.forall_mem_nil _⟩
  | cons line rest ih =>
      rw [allWhole, Bool.and_eq_true] at whole
      obtain ⟨first, others⟩ := whole
      obtain ⟨parts, layout, same, each⟩ := ih others
      split at first
      next directive found =>
        refine ⟨.command line directive :: parts,
          .cons (Assembly.headerRole_whole_iff.mp found) nofun layout, ?_, ?_⟩
        · rw [List.flatMap_cons, same]
          rfl
        · intro part member
          rcases List.mem_cons.mp member with rfl | later
          · exact ⟨rfl, id⟩
          · exact each part later
      next => cases first

def stopsThere (result : Ended N Flow) : Bool :=
  match result with
  | .ok .finish last =>
      match last.stream with
      | some stream => stream.atHand.isEmpty && !stream.ended
      | none => false
  | _ => false

def nestedFinish : String :=
  "if 0\nelse\nif 1\nfinish\n"

theorem of_stopsThere {result : Ended N Flow} (stops : stopsThere result = true) :
    ∃ last stream, result = .ok .finish last ∧ last.stream = some stream ∧ stream.atHand = [] ∧
      stream.ended = false := by
  unfold stopsThere at stops
  split at stops
  next last =>
    split at stops
    next stream current =>
      rw [Bool.and_eq_true] at stops
      exact ⟨last, stream, rfl, current, List.isEmpty_iff.mp stops.1, by simpa using stops.2⟩
    next => cases stops
  next => cases stops

theorem nestedFinish_finishes : FinishesOnLastLine 4 builtinState "script" nestedFinish := by
  have whole : allWhole builtinRegistry 1 (Text.terminatedLines nestedFinish) = true := by
    decide +kernel
  obtain ⟨parts, layout, lines, each⟩ := exists_layout_whole whole
  have nonempty : parts ≠ [] := by
    rintro rfl
    have none : Text.terminatedLines nestedFinish ≠ [] := by decide +kernel
    exact none lines.symm
  have stops : stopsThere ((turns >>= runStream (dispatchTo 4) { path := some "script" }).run
      (builtinState.reading "script" (.ofText nestedFinish (some "script")))) = true := by
    decide +kernel
  have finished := of_stopsThere stops
  exact ⟨by decide, ⟨parts, parts.getLast nonempty, layout, lines,
    List.getLast?_eq_some_getLast nonempty, each _ (List.getLast_mem nonempty)⟩, finished⟩

theorem finish_seals_nested : ∃ final : State Unit, ∀ rest,
    (sourceString (dispatchTo 4) (nestedFinish ++ rest) "script").run builtinState =
      .ok true final := by
  obtain ⟨last, final, stream, -, -, same⟩ := finish_seals nestedFinish_finishes
  exact ⟨final, same⟩

end Engine

end ExScript
