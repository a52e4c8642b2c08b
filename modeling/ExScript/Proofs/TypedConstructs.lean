import ExScript.Proofs.BrokenScripts
import ExScript.Proofs.Constructs
import ExScript.Proofs.ScriptTreeRun

/-!
Constructs typed at the prompt. Typing the first line, and the others where they are asked for,
comes to the same as sourcing them all.
-/

namespace ExScript.Engine

variable {C N : Type}

theorem runFirst_tells (depth : Nat) :
    Course.Tells (runFirst (Course.dispatchTo depth) : Course N Flow)
      (runFirst (dispatchTo depth)) := by
  refine Course.Tells.pull.bind fun pulled => ?_
  cases pulled with
  | none => exact .pure _
  | some directive => exact .dispatchTo depth {} directive

variable {registry : Registry (Handler N)} {extra : List String} {total : Nat}
  {name : String}

theorem Couples.runStream_dry (told : Context → Directive (Handler N) → Course N Flow)
    (context : Context) (budget : Nat) :
    Couples (Facing registry extra total [])
      (fun _ last final => Counterpart last final ∧ last.session.asked.size = total)
      (Pure.pure .goOn) (runStream told context (budget + 1)) := by
  intro state other facing
  obtain ⟨counterpart, inForce, parts, first, second, gives, concluded, -, present, -, supplied,
    counted⟩ := facing
  rw [concluded.eq_nil gives] at supplied counted
  obtain ⟨next, final, pulled⟩ := supplied.pull_dry
  have ran := run_pull present
  rw [← counterpart.registry.trans inForce] at pulled
  rw [pulled] at ran
  unfold runStream
  dsimp only [Telling.pull]
  rw [Course.bind_ok (Course.pull_none ran)]
  exact .ok rfl ⟨counterpart.moved _ _ _ _, counted.total⟩

def ReadWhole (total : Nat) (flow : Flow) (state other : State N) : Prop :=
  Counterpart state other ∧ (flow = .goOn → state.session.asked.size = total)

theorem runFirst_script (depth : Nat) {directives : List (Directive (Handler N))}
    (complete : Complete directives) (placeless : AllPlaceless name directives) :
    Couples (Facing registry extra total directives) (ReadWhole total)
      (runFirst (Course.dispatchTo depth)) (Course.script depth name) := by
  obtain ⟨directive, rest, rfl, noFinish, ends, whole⟩ := complete.reach
  have named : directive.name ≠ "finish" :=
    fun named => noFinish ((mark_finish_iff directive).mpr named)
  -- The script needs one more turn, in which it finds that there is nothing left.
  have reads (budget : Nat) : Couples (Facing registry extra total (directive :: rest))
      (ReadWhole total) (runFirst (Course.dispatchTo depth))
      (runStream (Course.dispatchTo depth) { path := some name } (budget + 2)) := by
    unfold runFirst runStream
    refine .pull ?_
    dsimp only
    rw [if_neg named, ← Course.bind_pure (Course.dispatchTo depth {} directive)]
    refine (dispatchTo_alike name registry extra total depth directive rest placeless noFinish
      ends).bind fun flow => ?_
    cases flow with
    | goOn =>
        rintro state other ⟨behind, closed, facing⟩
        rw [whole behind closed] at facing
        exact (Couples.runStream_dry _ _ budget state other facing).mono
          fun flow last final _ dry => ⟨dry.1, fun _ => dry.2⟩
    | finish =>
        rintro state other ⟨counterpart, -, alive⟩
        obtain ⟨stream, current⟩ := Option.isSome_iff_exists.mp alive
        have finished :
            Coupled (ReadWhole total) ([], .ok .finish state) (Course.finished other) := by
          rw [Course.finished_eq current]
          exact .ok rfl ⟨counterpart.moved _ _ _ _, Flow.noConfusion⟩
        exact finished
  intro state other facing
  obtain ⟨-, -, parts, first, second, gives, -, -, present, -, supplied, -⟩ := id facing
  have enough := supplied.enough gives
  rw [List.length_cons] at enough
  obtain ⟨budget, counted⟩ : ∃ budget, second.remaining + 1 = budget + 2 :=
    ⟨second.remaining - 1, by omega⟩
  unfold Course.script
  rw [Course.turns_bind present, counted]
  exact reads budget state other facing

/-- Of what a line did that was typed, everything is left but the stream, and what is said about an
error of block structure comes on top. -/
theorem after_executeLine (depth : Nat) {state : State N} {line : String} {parsed : CommandLine}
    {command : Descriptor (Handler N)} (parses : CommandLine.parse line = .ok (some parsed))
    (resolves : state.registry.resolve parsed.name = some command) :
    ∃ session, after (executeLine (dispatchTo depth) line) state =
        { after (runFirst (dispatchTo depth)) (state.typing line) with
          stream := state.stream, session } ∧
      ∀ last, (runFirst (dispatchTo depth)).run (state.typing line) = .ok .goOn last →
        session = last.session := by
  obtain ⟨directive, taken, takes⟩ := exists_takes state parses resolves
  have first := runFirst_pulled takes.pulled (dispatchTo depth)
  unfold after
  rw [run_executeLine (dispatchTo_halting depth) takes, first]
  generalize (dispatchTo depth {} directive).run taken = ended
  cases ended with
  | ok flow last =>
      refine ⟨last.session, rfl, ?_⟩
      rintro final same
      cases same
      rfl
  | error stop last =>
      cases stop with
      | exhausted => exact ⟨last.session, rfl, fun final same => by cases same⟩
      | fault fault =>
          dsimp only [concluded]
          cases structural? fault with
          | none => exact ⟨last.session, rfl, fun final same => by cases same⟩
          | some error => exact ⟨_, rfl, fun final same => by cases same⟩

theorem after_runSource (depth : Nat) (path : String) (source : LineSource) (state : State N) :
    ∃ session, after (runSource (dispatchTo depth) path source) state =
      { after (readScript depth path) (state.on (some (Stream.ofSource source true))) with
        stream := state.stream, session } := by
  have ran := run_withStream (Stream.ofSource source true) (readScript depth path) state
  unfold readScript at ran
  unfold after runSource readScript State.on
  dsimp only
  rw [EStateM.run_bind, ran]
  cases (turns >>= runStream (dispatchTo depth) { path := some path }).run
      { state with stream := some (Stream.ofSource source true) } with
  | ok flow last => cases flow <;> exact ⟨_, rfl⟩
  | error stop last => exact ⟨_, rfl⟩

theorem after_asScript (name : String) (action : Run N Unit) (state : State N) :
    ∃ session, after (asScript name action) state =
      { after action (state.scripted name) with session } := by
  unfold after asScript State.scripted
  rw [EStateM.run_bind, run_attempt, run_withScript]
  cases action.run { state with session := state.session.enter name } with
  | ok value last => exact ⟨_, rfl⟩
  | error stop last => cases stop <;> exact ⟨_, rfl⟩

theorem after_sourceString (depth : Nat) (lines : List String) (name : String) (state : State N) :
    ∃ session, after (sourceString (dispatchTo depth) (Text.joinWith "\n" lines) name) state =
      { after (readScript depth name) (state.reading name (joinedSource lines name)) with
        stream := state.stream, session } := by
  obtain ⟨session, scripted⟩ := after_asScript name
    (runSource (dispatchTo depth) name (joinedSource lines name)) state
  obtain ⟨inner, read⟩ := after_runSource depth name (joinedSource lines name) (state.scripted name)
  have same : sourceString (dispatchTo depth) (Text.joinWith "\n" lines) name =
      asScript name (runSource (N := N) (dispatchTo depth) name (joinedSource lines name)) := rfl
  have reading : (state.scripted name).on (some (Stream.ofSource (joinedSource lines name) true)) =
      state.reading name (joinedSource lines name) := rfl
  refine ⟨session, ?_⟩
  rw [same, scripted, read, reading]
  generalize after (readScript depth name) (state.reading name (joinedSource lines name)) = last
  rfl

structure TypedAsSourced (depth : Nat) (name : String) (state : State N) (first : String)
    (later : List String) : Prop where
  typed : (runFirst (Course.dispatchTo depth) (state.typing first)).2 =
    (runFirst (dispatchTo depth)).run (state.typing first)
  sourced : (Course.script depth name (state.reading name (joinedSource (first :: later) name))).2 =
    (readScript depth name).run (state.reading name (joinedSource (first :: later) name))
  doings : doings (runFirst (Course.dispatchTo depth) (state.typing first)).1 =
    doings (Course.script depth name
      (state.reading name (joinedSource (first :: later) name))).1
  left : ∃ session,
    after (sourceString (dispatchTo depth) (Text.joinWith "\n" (first :: later)) name) state =
      { after (executeLine (dispatchTo depth) first) state with session }
  asked : ∀ last, (runFirst (Course.dispatchTo depth) (state.typing first)).2 = .ok .goOn last →
    (after (executeLine (dispatchTo depth) first) state).session.asked.size =
      state.session.asked.size + later.length

/-- A construct that is typed at the prompt, line by line as they are asked for, does the same as a
script of its lines: the same commands are called and the same conditions judged in the same order,
and everything but the session is left the same. Unless it is finished or broken off early, each
line behind the first is asked for, and no other. -/
theorem typedConstruct_sourced (depth : Nat) (name : String) {state : State N} {first : String}
    {later : List String} {directives : List (Directive (Handler N))}
    {parts : List (Part (Handler N))} {more : List (Option String)}
    (construct : Construct state.registry (first :: later) directives parts)
    (unbroken : ∀ line ∈ first :: later, Text.Unbroken line.toList)
    (allowed : (later.length : Int) ≤ state.settings.maxLines)
    (answers : state.session.answers = later.map some ++ more)
    (placeless : AllPlaceless name directives) :
    TypedAsSourced depth name state first later := by
  obtain ⟨extra, facing⟩ := construct.facing rfl unbroken allowed answers name
  obtain ⟨-, parsed, command, parses, resolves⟩ :=
    construct.named (unbroken first List.mem_cons_self)
  have coupled := runFirst_script depth construct.complete placeless _ _ facing
  have typed := runFirst_tells depth (state.typing first)
  have sourced := script_tells depth name (state.reading name (joinedSource (first :: later) name))
  obtain ⟨session, left, kept⟩ := after_executeLine depth parses resolves
  obtain ⟨final, right⟩ := after_sourceString depth (first :: later) name state
  have counterpart := coupled.counterparts (fun _ _ _ whole => whole.1) typed sourced
  refine ⟨typed, sourced, coupled.sameDoings, ⟨final, ?_⟩, ?_⟩
  · rw [left, right, counterpart]
  · intro last ended
    rw [left, kept last (typed.symm.trans ended)]
    generalize runFirst (Course.dispatchTo depth) (state.typing first) = course at coupled ended
    generalize Course.script depth name _ = twin at coupled
    cases coupled with
    | ok same whole =>
        cases ended
        exact whole.2 rfl
    | broke => cases ended
    | exhausted => cases ended

theorem builtin_placeless {directive : Directive (Handler N)} {builtin : Builtin}
    (handler : directive.command.handler = .builtin builtin) (alone : builtin.runsLines = false)
    (noBlock : directive.mark ≠ .opens) : Placeless name directive where
  block := by
    constructor
    · exact fun opens => absurd opens noBlock
    · intro block
      cases handler.symm.trans block
      cases alone
  indifferent _ _ depth := by
    unfold executeBy
    rw [handler]
    exact (Indifferent.runBuiltin _ _ _ _ alone).logged _ _

theorem block_placeless {directive : Directive (Handler N)} (opens : directive.mark = .opens)
    (handler : directive.command.handler = .builtin .ifBlock) : Placeless name directive :=
  ⟨⟨fun _ => handler, fun _ => opens⟩, fun noBlock => absurd opens noBlock⟩

theorem inside_of_level {directives : List (Directive C)}
    (level : ∀ directive ∈ directives, directive.mark.shift = 0) :
    Inside directives ∧ nesting directives = 0 := by
  have flat (front : List (Directive C)) (level : ∀ directive ∈ front, directive.mark.shift = 0) :
      nesting front = 0 := by
    induction front with
    | nil => rfl
    | cons directive rest ih =>
        rw [nesting, level directive List.mem_cons_self,
          ih fun other member => level other (List.mem_cons_of_mem _ member)]
        rfl
  refine ⟨fun front start => ?_, flat directives level⟩
  exact Int.le_of_eq (flat front fun directive member => level directive (start.subset member)).symm

def callsFor (registry : Registry (Handler N)) (line name args : String) (builtin : Builtin) :
    Bool :=
  match CommandLine.parse line with
  | .ok (some parsed) =>
      !CommandLine.isIgnored line && parsed.args = args &&
        match registry.resolve parsed.name with
        | some command => command.name = name &&
            match command.handler with
            | .builtin served => served = builtin
            | .host _ => false
        | none => false
  | _ => false

theorem exists_heads {line name args : String} {builtin : Builtin}
    (calls : callsFor registry line name args builtin = true) (number : Nat) :
    ∃ directive, Assembly.Heads registry number line directive ∧ directive.name = name ∧
      directive.args = args ∧ directive.command.handler = .builtin builtin := by
  unfold callsFor at calls
  split at calls
  next parsed parses =>
    simp only [Bool.and_eq_true, Bool.not_eq_true', decide_eq_true_eq] at calls
    obtain ⟨⟨heeded, given⟩, calls⟩ := calls
    split at calls
    next command resolves =>
      simp only [Bool.and_eq_true, decide_eq_true_eq] at calls
      obtain ⟨named, served⟩ := calls
      split at served
      next other handler =>
        cases of_decide_eq_true served
        exact ⟨Assembly.calledFor number command parsed,
          ⟨heeded, rfl, parsed, parses, resolves, rfl, rfl, rfl⟩, named, given, handler⟩
      next => cases served
    next => cases calls
  next => cases calls

def blockLines : List String :=
  ["nonsense", "else", "python << E", "x = 1", "E", "echo x", "endif"]

def askedState : State Unit :=
  { builtinState with session := { answers := blockLines.map some ++ [some "echo 2"] } }

theorem command_fits {number : Nat} {line : String} {directive : Directive C}
    {registry : Registry C}
    (heads : Assembly.Heads registry number line directive)
    (kept : Assembly.dropCarriageReturn line = line)
    (plain : Heredoc.cut? directive.args = none) :
    Assembly.Fits registry number (.command line directive) := by
  rw [← kept] at heads
  exact ⟨heads, fun _ => Assembly.cut?_eq_none_iff.mp plain⟩

theorem heredoc_fits {number : Nat} {line closing before terminator : String} {body : List String}
    {directive : Directive C} {registry : Registry C}
    (heads : Assembly.Heads registry number line directive)
    (kept : Assembly.dropCarriageReturn line = line) (takes : directive.command.hereDoc = true)
    (marked : Heredoc.cut? directive.args = some (before, terminator))
    (inside : ∀ line ∈ body, Assembly.dropCarriageReturn line ≠ terminator)
    (closes : Assembly.dropCarriageReturn closing = terminator) :
    Assembly.Fits registry number (.heredoc ⟨line,
      { directive with args := before ++ Assembly.bodyText body }, terminator, body,
      some closing⟩) := by
  rw [← kept] at heads
  refine ⟨⟨directive.args, before, heads, takes, Assembly.cut?_eq_some_iff.mp marked, rfl⟩, inside,
    ?_⟩
  rintro _ ⟨⟩
  exact closes

theorem blockLines_construct : ∃ directives parts,
    Construct builtinRegistry ("if 0" :: blockLines) directives parts ∧
      AllPlaceless "<string>" directives := by
  have opens : callsFor builtinRegistry "if 0" "if" "0" .ifBlock = true := by decide +kernel
  have falls : callsFor builtinRegistry "else" "else" "" .elseArm = true := by decide +kernel
  have takes : callsFor builtinRegistry "python << E" "python" "<< E" .statements = true := by
    decide +kernel
  have shows : callsFor builtinRegistry "echo x" "echo" "x" (.echo .echo) = true := by
    decide +kernel
  have closes : callsFor builtinRegistry "endif" "endif" "" .endif = true := by decide +kernel
  obtain ⟨opening, heads, opensName, opensArgs, opensHandler⟩ := exists_heads opens 1
  obtain ⟨fallback, arm, armName, armArgs, armHandler⟩ := exists_heads falls 3
  obtain ⟨python, body, pythonName, pythonArgs, pythonHandler⟩ := exists_heads takes 4
  obtain ⟨echo, text, echoName, echoArgs, echoHandler⟩ := exists_heads shows 7
  obtain ⟨closing, ends, closingName, closingArgs, closingHandler⟩ := exists_heads closes 8
  have nonsense : Assembly.Unknown builtinRegistry (Assembly.dropCarriageReturn "nonsense") := by
    refine ⟨by decide +kernel, .inr ⟨⟨none, "nonsense", false, ""⟩, by decide +kernel, ?_⟩⟩
    exact Option.isNone_iff_eq_none.mp (by decide +kernel)
  have takesLines : python.command.hereDoc = true := by
    have known : CommandLine.parse "python << E" = .ok (some ⟨none, "python", false, "<< E"⟩) := by
      decide +kernel
    have every : (builtinRegistry.resolve "python").all (·.hereDoc) = true := by decide +kernel
    obtain ⟨parsed, parses, resolves, -⟩ := body.said
    cases known.symm.trans parses
    rw [resolves] at every
    exact every
  let script : Directive (Handler Unit) :=
    { python with args := "" ++ Assembly.bodyText ["x = 1"] }
  let heredoc : Part (Handler Unit) := .heredoc ⟨"python << E", script, "E", ["x = 1"], some "E"⟩
  have fits : Assembly.Fits builtinRegistry 4 heredoc :=
    heredoc_fits body rfl takesLines (by rw [pythonArgs]; decide +kernel) (by decide +kernel) rfl
  have opensMark : opening.mark = .opens := congrArg Mark.ofName opensName
  have armMark : fallback.mark = .fallback := congrArg Mark.ofName armName
  have pythonMark : script.mark = .plain := congrArg Mark.ofName pythonName
  have echoMark : echo.mark = .plain := congrArg Mark.ofName echoName
  have closingMark : closing.mark = .closes := congrArg Mark.ofName closingName
  obtain ⟨inside, level⟩ := @inside_of_level _ [fallback, script, echo]
    (by simp [armMark, pythonMark, echoMark, Mark.shift])
  refine ⟨opening :: ([fallback, script, echo] ++ [closing]),
    [.command "if 0" opening, .reported "nonsense", .command "else" fallback, heredoc,
      .command "echo x" echo, .command "endif" closing],
    ⟨?_, ?_, rfl, rfl, ?_, ?_, .block opensMark inside level closingMark⟩, ?_⟩
  · have closed : heredoc.Unclosed → False := Option.some_ne_none "E"
    exact .cons (command_fits heads rfl (by rw [opensArgs]; decide +kernel)) False.elim <|
      .cons nonsense False.elim <|
      .cons (command_fits arm rfl (by rw [armArgs]; decide +kernel)) False.elim <|
      .cons fits (fun unclosed => (closed unclosed).elim) <|
      .cons (command_fits text rfl (by rw [echoArgs]; decide +kernel)) False.elim <|
      .cons (command_fits ends rfl (by rw [closingArgs]; decide +kernel)) False.elim .nil
  · simp [Part.Unclosed, heredoc]
  · rintro _ ⟨⟩
    rfl
  · rintro _ ⟨⟩
    rfl
  · refine List.forall_mem_cons.mpr ⟨block_placeless opensMark opensHandler, ?_⟩
    refine List.forall_mem_cons.mpr ⟨builtin_placeless armHandler rfl (by simp [armMark]), ?_⟩
    refine List.forall_mem_cons.mpr ⟨builtin_placeless pythonHandler rfl (by simp [pythonMark]), ?_⟩
    refine List.forall_mem_cons.mpr ⟨builtin_placeless echoHandler rfl (by simp [echoMark]), ?_⟩
    exact List.forall_mem_singleton.mpr
      (builtin_placeless closingHandler rfl (by simp [closingMark]))

theorem typedConstruct_sourced_block :
    TypedAsSourced 3 "<string>" askedState "if 0" blockLines ∧
      (after (executeLine (dispatchTo 3) "if 0") askedState).session.asked.size = 7 := by
  obtain ⟨directives, parts, construct, placeless⟩ := blockLines_construct
  have unbroken : ∀ line ∈ "if 0" :: blockLines, Text.Unbroken line.toList := by
    intro line member
    have all : ("if 0" :: blockLines).all
        (fun line => line.toList.all fun c => c != '\r' && c != '\n') = true := by decide +kernel
    exact Text.unbroken_of_all (List.all_eq_true.mp all line member)
  have same : TypedAsSourced 3 "<string>" askedState "if 0" blockLines :=
    typedConstruct_sourced 3 "<string>" construct unbroken (by decide) rfl placeless
  exact ⟨same, by decide +kernel⟩

end ExScript.Engine
