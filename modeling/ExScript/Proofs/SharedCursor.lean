import ExScript.Proofs.Aside
import ExScript.Proofs.Completion
import ExScript.Proofs.StreamUses
import ExScript.Proofs.Throughout

/-!
The one cursor of a stream whose directives are executed. A script, the commands in it and the
blocks that they open do nothing to their stream but pull and close.
-/

namespace ExScript

namespace Engine

variable {N α β : Type}

/-- What an action does to the current stream is nothing but pulls and closes. -/
def Shares (action : Run N α) : Prop :=
  ∀ (state : State N) (stream : Stream (Handler N)), state.stream = some stream →
    ∃ history next, Stream.Uses stream history next ∧ (after action state).stream = some next

namespace Shares

theorem of_kept {action : Run N α} (kept : ∀ state, (after action state).stream = state.stream) :
    Shares action :=
  fun state stream current => ⟨[], stream, .nil, (kept state).trans current⟩

theorem of_aside {action : Run N α} (aside : Aside action) : Shares action :=
  of_kept aside.after_stream

theorem bind {action : Run N α} {next : α → Run N β} (first : Shares action)
    (second : ∀ value, Shares (next value)) : Shares (action >>= next) := by
  intro state stream current
  refine after_bind (fun last => ∃ history next, Stream.Uses stream history next ∧
    last.stream = some next) (first state stream current) ?_
  rintro value last ⟨history, between, uses, left⟩
  obtain ⟨more, final, behind, still⟩ := second value last between left
  exact ⟨history ++ more, final, uses.append behind, still⟩

theorem attempt {action : Run N α} (shares : Shares action) : Shares (attempt action) := by
  intro state stream current
  rw [after_attempt]
  exact shares state stream current

theorem withScript (path : String) {action : Run N α} (shares : Shares action) :
    Shares (withScript path action) := by
  intro state stream current
  obtain ⟨history, next, uses, left⟩ :=
    shares { state with session := state.session.enter path } stream current
  refine ⟨history, next, uses, ?_⟩
  unfold after at left ⊢
  rw [run_withScript]
  cases ended : action.run
      { state with session := state.session.enter path } with
  | ok value last | error stop last =>
      rw [ended] at left
      exact left

theorem pull : Shares (pull : Run N (Option (Directive (Handler N)))) := by
  intro state stream current
  refine ⟨_, _, Stream.Uses.nil.pull state.registry state.session, ?_⟩
  exact congrArg State.stream (after_pull current)

theorem closeStream : Shares (closeStream : Run N Unit) := by
  intro state stream current
  refine ⟨_, _, Stream.Uses.nil.close, ?_⟩
  exact congrArg State.stream (after_ok (run_closeStream current))

end Shares

theorem Shares.recordScript (path : Path) : Shares (recordScript path : Run N Unit) :=
  .of_aside (Aside.recordScript path)

theorem shares_catching : Catching (N := N) Shares where
  pure value := .of_aside (aside_catching.pure value)
  raise fault := .of_aside (aside_catching.raise fault)
  bind := Shares.bind
  attempt := Shares.attempt
  note level text uncompleted := .of_aside (aside_catching.note level text uncompleted)
  say kind text := .of_aside (aside_catching.say kind text)
  locate path line := .of_aside (aside_catching.locate path line)

theorem shares_throughout : Throughout (N := N) Shares where
  toFallible := shares_catching.fallible
  fails fault mild := .of_aside (aside_pervasive.fails fault mild)
  reading _ each := Shares.bind (.of_kept fun _ => rfl) each
  whereabouts context := .of_aside (aside_pervasive.whereabouts context)
  record entry := .of_aside (aside_pervasive.record entry)
  evaluate source := .of_aside (aside_pervasive.evaluate source)
  execute source := .of_aside (aside_pervasive.execute source)
  define name value := .of_aside (aside_pervasive.define name value)
  runShell args bang := .of_aside (aside_pervasive.runShell args bang)
  withScript := Shares.withScript
  addStylesheet path := .of_aside (aside_pervasive.addStylesheet path)
  exhausted := .of_kept fun _ => rfl
  watching _ each := Shares.bind (.of_kept fun _ => rfl) each
  pull := Shares.pull
  closeStream := Shares.closeStream
  newScope := .of_aside Aside.newScope
  condition _ _ := .of_aside (Aside.onWorld _)
  typed _ _ _ _ := .of_aside (Aside.withStream _ _)
  withStream stream := fun _ => .of_aside (Aside.withStream stream _)
  withoutStream := fun _ => .of_aside (Aside.withoutStream _)

/-- Streams have one cursor for all their readers. Whatever was done to a stream, each line was read
once and with the commands of that moment, the directives handed out are those of the lines read,
and the next pull reads up to the end of its directive. Scripts and the blocks in them, however
deep, do nothing else to their stream. -/
theorem readers_shareCursor (source : LineSource) (tracked reports : Bool)
    (lines : ∀ line ∈ source.atHand, Assembly.Readable line)
    {history : List (Stream.Use (Handler N))} {stream : Stream (Handler N)}
    (uses : Stream.Uses (.ofSource source tracked reports) history stream)
    (answers : ∀ use ∈ history, ∀ line ∈ use.asking, Assembly.Readable line) :
    (∃ inForce, ∀ use ∈ history, use.Agrees inForce) ∧
    (∀ inForce, (∀ use ∈ history, use.Agrees inForce) → ∃ parts,
      Stream.Accounts (.ofSource source tracked reports) inForce history stream parts ∧
      ∀ session, (∀ line ∈ stream.asking session, Assembly.Readable line) →
        ∃ behind, ∀ whole, Assembly.Laid inForce 1 whole ∧
          whole.flatMap Part.lines = history.flatMap Stream.Use.lines ++ stream.supply session ↔
            whole = parts ++ behind) ∧
    (history.filterMap Stream.Use.handed?).Pairwise
      (fun earlier later => earlier.line < later.line) ∧
    (∀ registry, source.Given → (∀ use ∈ history, use.Under registry) →
      ∀ session directives final,
        (Stream.ofSource source tracked reports).Passes registry session directives final →
          history.filterMap Stream.Use.handed? <+: directives) ∧
    ((∃ use ∈ history, use.Ends) → stream.closed ∨ stream.ended) ∧
    (∀ registry session, (∀ line ∈ stream.asking session, Assembly.Readable line) →
      (stream.closed ∨ stream.ended) ∧
        stream.pull registry session = ⟨.ok none, stream, session⟩ ∨
      ∃ more directive next final,
        Stream.Portion registry stream session more directive next final ∧
        stream.pull registry session =
          ⟨.ok directive, { next with ended := directive.isNone }, final⟩ ∧
        (directive.isSome → final.script =
          Reporting.lineAt ⟨source.path, tracked, reports⟩
            (history.flatMap Stream.Use.lines ++ more.flatMap Part.lines).length
            session.script)) ∧
    ∀ depth context (state : State N), state.stream = some stream →
      (∀ directive, ∃ further next,
        Stream.Uses (.ofSource source tracked reports) (history ++ further) next ∧
          (after (dispatchTo depth context directive) state).stream = some next) ∧
      ∀ budget, ∃ further next,
        Stream.Uses (.ofSource source tracked reports) (history ++ further) next ∧
          (after (runStream (dispatchTo depth) context budget) state).stream = some next := by
  let start : Stream (Handler N) := .ofSource source tracked reports
  have fresh : start.Fresh := Stream.ofSource_fresh source tracked reports
  have number : start.number = 1 := Stream.ofSource_number source tracked reports
  have reporting : start.reporting = ⟨source.path, tracked, reports⟩ :=
    Stream.ofSource_reporting source tracked reports
  have readable (line : String) (member : line ∈ start.atHand) : Assembly.Readable line :=
    lines line (Stream.ofSource_atHand source tracked reports member)
  have legible : start.Legible history := ⟨fresh, readable, answers⟩
  obtain ⟨inForce, agrees⟩ := uses.exists_inForce legible
  have agrees := agrees inForce fun _ _ => rfl
  obtain ⟨parts, accounts⟩ := uses.accounts legible agrees
  have onward {α : Type} {action : Run N α} (shares : Shares action) {state : State N}
      (current : state.stream = some stream) :
      ∃ further next, Stream.Uses start (history ++ further) next ∧
        (after action state).stream = some next := by
    obtain ⟨further, next, behind, left⟩ := shares state stream current
    exact ⟨further, next, uses.append behind, left⟩
  refine ⟨⟨inForce, agrees⟩, ?_, ?_, ?_, uses.past legible, ?_, ?_⟩
  · intro inForce agrees
    obtain ⟨parts, accounts⟩ := uses.accounts legible agrees
    refine ⟨parts, accounts, fun session more => ?_⟩
    rw [← number]
    exact accounts.all_laid session ((uses.between legible).readable readable more)
  · rw [← accounts.handed]
    exact accounts.laid.directive_lines.2
  · intro registry given under session directives final passes
    exact uses.isPrefix_passes legible given under passes
  · intro registry session more
    by_cases past : stream.closed ∨ stream.ended
    · exact .inl ⟨past, Stream.pull_past past registry session⟩
    · obtain ⟨more, directive, next, final, portion, pulled⟩ :=
        (uses.between legible).pull readable more registry past
      refine .inr ⟨more, directive, next, final, portion, pulled, fun handed => ?_⟩
      obtain ⟨given, rfl⟩ := Option.isSome_iff_exists.mp handed
      have script := accounts.script portion
      rw [number, Nat.add_sub_cancel_left, reporting] at script
      exact script
  · intro depth context state current
    have dispatched := shares_throughout.dispatchTo (N := N) Shares.recordScript depth
    exact ⟨fun directive => onward (dispatched context directive) current,
      fun budget => onward (shares_throughout.runStream dispatched context budget) current⟩

def promptedEcho : Stream (Handler Unit) :=
  .ofSource (.ofPrompt { limit := 2 } ["echo 1"]) true

def echoUses : List (Stream.Use (Handler Unit)) :=
  [.pulled promptedEcho builtinRegistry {},
    .pulled (promptedEcho.pull builtinRegistry {}).stream Registry.empty
      { answers := [some "echo 2"] },
    .closed]

theorem readers_shareCursor_echoes :
    ∃ last inForce parts, Stream.Uses promptedEcho echoUses last ∧ last.closed ∧
      Stream.Accounts promptedEcho inForce echoUses last parts ∧
      parts.flatMap Part.lines = ["echo 1", "echo 2"] ∧
      (parts.filterMap Part.directive?).map Directive.line = [1] := by
  have uses : Stream.Uses promptedEcho echoUses _ := ((Stream.Uses.nil.pull builtinRegistry {}).pull
    Registry.empty { answers := [some "echo 2"] }).close
  have readable (line : String) (member : line ∈ ["echo 1", "echo 2"]) :
      Assembly.Readable line := by
    have parses : (["echo 1", "echo 2"].all fun line =>
        (CommandLine.parse (Assembly.dropCarriageReturn line)).isOk) = true := by decide +kernel
    exact Assembly.readable_of_isOk (List.all_eq_true.mp parses line member)
  have asked : echoUses.flatMap Stream.Use.asking = ["echo 2"] := by decide +kernel
  obtain ⟨⟨inForce, agrees⟩, each, -⟩ := readers_shareCursor (.ofPrompt { limit := 2 } ["echo 1"])
    true true (fun line member => readable line (List.mem_append_left ["echo 2"] member)) uses
    fun use member line brought => readable line (List.mem_cons_of_mem _
      (asked ▸ List.mem_flatMap.mpr ⟨use, member, brought⟩))
  obtain ⟨parts, accounts, -⟩ := each inForce agrees
  refine ⟨_, inForce, parts, uses, rfl, accounts, ?_, ?_⟩
  · rw [accounts.lines]
    decide +kernel
  · rw [accounts.handed]
    decide +kernel

end Engine

end ExScript
