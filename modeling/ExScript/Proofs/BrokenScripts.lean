import ExScript.Proofs.Blame

/-!
What becomes of a script whose block structure breaks: it ends there, and the one message about it
names the directive to blame.
-/

namespace ExScript

theorem toString_nat_ne (number : Nat) : toString number ≠ "" := by
  intro same
  have digits : (toString number).toList = Nat.toDigits 10 number := by simp
  rw [same] at digits
  exact Nat.toDigits_ne_nil digits.symm

def shownPlace (path : String) (line : Nat) : String :=
  if path = "" then toString line else path ++ ":" ++ toString line

theorem ScriptError.text_placed {error : ScriptError} {path : String} {line : Nat}
    (known : error.path = some path) (number : error.line = some (Int.ofNat line))
    (first : 1 ≤ line) : error.text = shownPlace path line ++ ": " ++ error.message := by
  have other : Int.ofNat line ≠ 0 := by
    intro zero
    have none : line = 0 := by simpa using zero
    omega
  have shown : error.location = shownPlace path line := by
    have numbered : (some (Int.ofNat line)).filter (· ≠ 0) = some (Int.ofNat line) := by
      rw [Option.filter_some, if_pos (decide_eq_true other)]
    unfold ScriptError.location shownPlace
    dsimp only
    rw [known, number, numbered, Option.filter_some]
    by_cases empty : path = ""
    · rw [if_neg (by simp [empty]), if_pos empty]
      rfl
    · rw [if_pos (decide_eq_true empty), if_neg empty]
      rfl
  have some : shownPlace path line ≠ "" := by
    unfold shownPlace
    split
    · exact toString_nat_ne line
    next nonempty =>
      intro same
      simp [nonempty] at same
  unfold ScriptError.text
  dsimp only
  rw [shown, if_neg some]

namespace Engine

variable {N : Type} {path : String} {state : State N}

def readScript (depth : Nat) (path : String) : Run N Flow := do
  runStream (dispatchTo depth) { path := some path } (← turns)

theorem asScript_failing {name : String} {action : Run N Unit} {fault : Fault} {last : State N}
    (failed : action.run (state.scripted name) = .error (.fault fault) last) :
    ∃ final, (asScript name action).run state = .ok false final ∧
      final.session.channel.history.toList = last.session.channel.history.toList ++
        [⟨.error, "Sourcing file failed: " ++ failureText name fault⟩] := by
  unfold asScript
  rw [EStateM.run_bind, run_attempt, run_withScript]
  unfold State.scripted at failed
  rw [failed]
  refine ⟨_, rfl, ?_⟩
  have emitted : (after (reportFailure name fault : Run N Unit) { last with
        session := last.session.resume state.session }).session.channel =
      last.session.channel.emit ⟨.error, "Sourcing file failed: " ++ failureText name fault⟩ := rfl
  have shown : (after (reportFailure name fault : Run N Unit) { last with
      session := last.session.resume state.session }).session.channel.history.toList = _ :=
    congrArg (·.history.toList) emitted
  rw [Reporting.history_emit, Array.toList_push] at shown
  exact shown

theorem runSource_failing {depth : Nat} {source : LineSource} {fault : Fault} {last : State N}
    (failed : (readScript depth path).run (state.on (some (Stream.ofSource source true))) =
      .error (.fault fault) last) :
    (runSource (dispatchTo depth) path source).run state =
      .error (.fault fault) (last.on state.stream) := by
  unfold State.on readScript at failed
  unfold runSource
  dsimp only
  rw [EStateM.run_bind, run_withStream, failed]
  rfl

theorem Sources.failing {depth : Nat} {action : Run N Bool} {source : LineSource}
    (sources : Sources depth state action path source) {fault : Fault} {last : State N}
    (failed : (readScript (depth + 1) path).run (state.reading path source) =
      .error (.fault fault) last) :
    ∃ final, action.run state = .ok false final ∧
      final.session.channel.history.toList = last.session.channel.history.toList ++
        [⟨.error, "Sourcing file failed: " ++ failureText path fault⟩] := by
  have ran : (runSource (dispatchTo (depth + 1)) path source).run (state.scripted path) =
      .error (.fault fault) (last.on (state.scripted path).stream) :=
    runSource_failing failed
  cases sources with
  | text text name =>
      obtain ⟨final, ended, shown⟩ := asScript_failing ran
      exact ⟨final, ended, shown⟩
  | @file file source written silent readable plain held =>
      have same : (runFile (dispatchTo (depth + 1)) file).run (state.scripted file.text) =
          (runSource (dispatchTo (depth + 1)) file.text source).run (state.scripted file.text) :=
        run_runFile plain held
      obtain ⟨final, ended, shown⟩ := asScript_failing (same.trans ran)
      refine ⟨final, ?_, shown⟩
      rw [run_source readable, ended]
      rfl

def Course.script (depth : Nat) (path : String) : Course N Flow := do
  runStream (dispatchTo depth) { path := some path } (← silent turns)

theorem script_tells (depth : Nat) (path : String) :
    Course.Tells (Course.script depth path : Course N Flow) (readScript depth path) :=
  (Course.Tells.silent turns).bind fun _ =>
    .runStream (fun context directive => .dispatchTo depth context directive) _ _

theorem script_goes (depth : Nat) (script : InScript state) :
    Goes path none [] (fun _ _ => True) (Course.script depth path state) :=
  (Goes.turns script).bind fun _ budget _ behind _ => runStream_goes depth budget behind

theorem reading_inScript (tidy : state.registry.Only Tidy) (path : String) {source : LineSource}
    (given : source.Given) (readable : ∀ line ∈ source.atHand, Assembly.Readable line) :
    InScript (state.reading path source) :=
  ⟨tidy, _, rfl, Stream.ofSource_scripted given readable true true⟩

/-- A script has come to its end by an error of block structure. Nothing more is met, the error
stays as it is where it passes other directives, and what was shown is followed by one message. -/
structure BrokenOff (action : Run N Bool) (state : State N) (path : String)
    (before : List (Event N)) (code : String) (shown : List Message) (error : ScriptError)
    (culprit : Directive (Handler N)) : Prop where
  unbroken : Unbroken before
  blames : ∀ directive, Blames before code directive ↔ directive = culprit
  kind : error.kind = .conditional code
  placed : error.path = some path ∧ error.line = some (Int.ofNat culprit.line)
  kept : ∀ outer line, attributed outer line error = error
  reported : ∃ final, action.run state = .ok false final ∧
    final.session.channel.history.toList = shown ++ [⟨.error,
      "Sourcing file failed: " ++ shownPlace path culprit.line ++ ": " ++ error.message⟩]

inductive Concluded (action : Run N Bool) (state : State N) (path : String) :
    List (Event N) → Ended N Flow → Prop where
  | whole {events flow last} (unbroken : Unbroken events) :
      Concluded action state path events (.ok flow last)
  | exhausted {events last} (unbroken : Unbroken events) :
      Concluded action state path events (.error .exhausted last)
  | broken {before code shown error culprit last}
      (brokenOff : BrokenOff action state path before code shown error culprit) :
      Concluded action state path (before ++ [.broke code shown])
        (.error (.fault (.script error)) last)

theorem Goes.concludes {depth : Nat} {action : Run N Bool} {source : LineSource}
    {result : List (Event N) × Ended N Flow}
    (goes : Goes path none [] (fun _ _ => True) result)
    (sources : Sources depth state action path source)
    (tells : result.2 = (readScript (depth + 1) path).run (state.reading path source)) :
    Concluded action state path result.1 result.2 := by
  cases goes with
  | ok script unbroken good => exact .whole unbroken
  | exhausted unbroken => exact .exhausted unbroken
  | @broke before code culprit error last unbroken broken =>
      have placed : error.path = some path ∧ error.line = some (Int.ofNat culprit.line) :=
        ⟨(Option.or_none ..).symm.trans broken.path, (Option.or_none ..).symm.trans broken.line⟩
      have text : failureText path (.script error) =
          shownPlace path culprit.line ++ ": " ++ error.message := by
        unfold failureText
        dsimp only
        rw [placed.1]
        exact ScriptError.text_placed rfl placed.2 broken.fromScript.line
      obtain ⟨final, ended, shown⟩ := sources.failing tells.symm
      rw [text, ← String.append_assoc, ← String.append_assoc] at shown
      refine .broken ⟨unbroken, ?_, broken.kind, placed, ?_, final, ended, shown⟩
      · intro directive
        constructor
        · exact fun also => also.unique broken.blames
        · rintro rfl
          exact broken.blames
      · intro outer line
        obtain ⟨kind, message, place, number⟩ := error
        obtain ⟨rfl, rfl⟩ := placed
        rfl

/-- Errors of block structure end their script, whichever blocks they come out of. The script is
answered for as failed, with one message that names its path and the line of the directive to blame:
the part of a block that stands outside of blocks, the second fallback, the arm behind a fallback,
the directive whose condition failed, or the innermost one whose block was entered and is still open
at the end. -/
theorem brokenScripts_blamed (depth : Nat) {action : Run N Bool} {source : LineSource}
    (tidy : state.registry.Only Tidy) (sources : Sources depth state action path source)
    (readable : ∀ line ∈ source.atHand, Assembly.Readable line) :
    (Course.script (depth + 1) path (state.reading path source)).2 =
        (readScript (depth + 1) path).run (state.reading path source) ∧
      Concluded action state path (Course.script (depth + 1) path (state.reading path source)).1
        (Course.script (depth + 1) path (state.reading path source)).2 := by
  have tells := script_tells (depth + 1) path (state.reading path source)
  have script := reading_inScript tidy path sources.given readable
  exact ⟨tells, (script_goes (depth + 1) script).concludes sources tells⟩

def Handler.opensBlock : Handler N → Bool
  | .builtin command => command = .ifBlock
  | .host _ => false

theorem builtinState_tidy : builtinState.registry.Only Tidy := by
  intro name command found
  have member := Registry.resolve_mem found
  have builtins : builtinRegistry.owners.values.all (·.handler.isBuiltin) = true := by
    decide +kernel
  have blocks : builtinRegistry.owners.values.all
      (fun command => command.handler.opensBlock = decide (command.name = "if")) = true := by
    decide +kernel
  have builtin := List.all_eq_true.mp builtins command member
  have block := of_decide_eq_true (List.all_eq_true.mp blocks command member)
  cases known : command.handler with
  | host program =>
      rw [known] at builtin
      cases builtin
  | builtin command =>
      rw [known] at block
      refine ⟨?_, fun program call other => ?_⟩
      · have same : (decide (_ = Builtin.ifBlock)) = decide (_ = "if") := block
        rw [known, ← decide_eq_decide.mp same]
        simp
      · rw [known] at other
        cases other

def brokenAt? : Ended N Flow → Option (ScriptErrorKind × Option Int)
  | .error (.fault (.script error)) _ => some (error.kind, error.line)
  | _ => none

def openText : String :=
  "if 1\nif 1\nif 0\nif 1\nendif\n"

theorem brokenScripts_blamed_openText :
    ∃ before shown error culprit, BrokenOff (sourceString (dispatchTo 4) openText "outer")
      builtinState "outer" before "E171" shown error culprit ∧ culprit.line = 3 := by
  have ends : endsLine openText = true := by decide +kernel
  have sources : Sources 3 builtinState (sourceString (dispatchTo 4) openText "outer") "outer" _ :=
    .text openText "outer"
  rw [if_pos ends] at sources
  have lines : (LineSource.ofText openText (some "outer")).atHand.all
      (fun line => (CommandLine.parse (Assembly.dropCarriageReturn line)).isOk) = true := by
    decide +kernel
  have breaks : brokenAt? ((readScript 4 "outer").run (builtinState.reading "outer"
      (LineSource.ofText openText (some "outer")))) = some (.conditional "E171", some 3) := by
    decide +kernel
  obtain ⟨tells, concluded⟩ := brokenScripts_blamed 3 builtinState_tidy sources
    fun line member => Assembly.readable_of_isOk (List.all_eq_true.mp lines line member)
  rw [← tells] at breaks
  generalize Course.script 4 "outer" _ = result at concluded breaks
  obtain ⟨events, ended⟩ := result
  cases concluded with
  | whole unbroken => cases breaks
  | exhausted unbroken => cases breaks
  | @broken before code shown error culprit last brokenOff =>
      have known := Option.some.inj breaks
      have kind := congrArg Prod.fst known
      have line := congrArg Prod.snd known
      dsimp only at kind line
      rw [brokenOff.kind] at kind
      rw [brokenOff.placed.2] at line
      cases kind
      exact ⟨before, shown, error, culprit, brokenOff, Int.ofNat_inj.mp (Option.some.inj line)⟩

end Engine

end ExScript
