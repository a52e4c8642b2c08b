import ExScript.Proofs.CommandGrammar
import ExScript.Proofs.Completion
import ExScript.Proofs.Halting

/-!
Lines typed at the prompt. Whatever a line sets off stays within it: its failures turn into messages
and its stream is closed, so that asking for lines goes on until there is no answer. The exception
is a line that cannot be parsed.
-/

namespace ExScript

variable {C : Type}

namespace CommandLine

theorem takeWhile_snoc {p : Char → Bool} {c : Char} (ends : p c = false) (chars : List Char) :
    (chars ++ [c]).takeWhile p = chars.takeWhile p := by
  rw [List.takeWhile_append]
  split
  next whole =>
    have all : chars.takeWhile p = chars := (List.takeWhile_prefix p).eq_of_length whole
    simp [ends, all]
  next => rfl

theorem dropWhile_snoc {p : Char → Bool} {c : Char} (ends : p c = false) (chars : List Char) :
    (chars ++ [c]).dropWhile p = chars.dropWhile p ++ [c] := by
  rw [List.dropWhile_append]
  split
  next none => simp [ends, List.isEmpty_iff.mp none]
  next => rfl

theorem word?_snoc (chars : List Char) :
    word? (chars ++ ['\r']) = (word? chars).map fun (word, rest) => (word, rest ++ ['\r']) := by
  have ends : isLetter '\r' = false := by decide
  by_cases mark : ∃ rest, chars = '!' :: rest
  · obtain ⟨rest, rfl⟩ := mark
    rfl
  · have other : ∀ rest, chars ++ ['\r'] = '!' :: rest → False := by
      intro rest same
      cases chars with
      | nil => cases same
      | cons first behind =>
          obtain ⟨rfl, -⟩ := List.cons_eq_cons.mp same
          exact mark ⟨behind, rfl⟩
    rw [word?.eq_2 _ other, word?.eq_2 _ fun rest same => mark ⟨rest, same⟩, takeWhile_snoc ends,
      dropWhile_snoc ends]
    split <;> rfl

theorem parseChars_snoc {chars : List Char} {parsed : CommandLine}
    (parses : parseChars (chars ++ ['\r']) = .ok (some parsed)) :
    ∃ args, parseChars chars = .ok (some { parsed with args }) := by
  have digit : Text.isDigit '\r' = false := by decide
  have leading : isLeading '\r' = true := by decide
  unfold parseChars at parses ⊢
  by_cases blank : (chars.dropWhile isLeading).isEmpty
  · have nothing : (chars ++ ['\r']).dropWhile isLeading = [] := by
      rw [List.dropWhile_append, if_pos blank]
      simp [leading]
    rw [nothing] at parses
    cases parses
  · have numbered :
        (chars ++ ['\r']).dropWhile isLeading = chars.dropWhile isLeading ++ ['\r'] := by
      rw [List.dropWhile_append, if_neg blank]
    simp only [numbered, takeWhile_snoc digit, dropWhile_snoc digit, word?_snoc] at parses
    cases found : word? ((chars.dropWhile isLeading).dropWhile Text.isDigit) with
    | none =>
        rw [found] at parses
        cases parses
    | some pair =>
        obtain ⟨word, rest⟩ := pair
        have head : (rest ++ ['\r']).head? = some '!' ↔ rest.head? = some '!' := by
          cases rest <;> simp
        rw [found] at parses
        simp only [Option.map_some, head] at parses ⊢
        split at parses
        · cases parses
        next few =>
          cases parses
          simp only [found, if_neg few]
          exact ⟨_, rfl⟩

theorem parse_dropCarriageReturn {line : String} {parsed : CommandLine}
    (parses : parse line = .ok (some parsed)) :
    ∃ args, parse (Assembly.dropCarriageReturn line) = .ok (some { parsed with args }) := by
  unfold Assembly.dropCarriageReturn
  split
  next rest ends =>
    have whole : line.toList = rest.reverse ++ ['\r'] := by
      rw [← List.reverse_reverse line.toList, ends, List.reverse_cons]
    unfold parse at parses ⊢
    rw [whole] at parses
    rw [String.toList_ofList]
    exact parseChars_snoc parses
  next => exact ⟨parsed.args, parses⟩

end CommandLine

namespace Stream

variable {registry : Registry C} {stream : Stream C}

theorem takeLine_pending (registry : Registry C) {heredoc : OpenHeredoc C}
    (pending : stream.pending = some heredoc) (text : String) (session : Session) :
    (takeLine registry stream text session).result = .ok (some heredoc.header) ∨
      ((takeLine registry stream text session).result = .ok none ∧
        (takeLine registry stream text session).stream.pending =
          some (heredoc.addLine (Assembly.dropCarriageReturn text))) := by
  by_cases closes : Assembly.dropCarriageReturn text = heredoc.terminator
  · left
    have role := Assembly.roleOf_closes registry stream.number closes
    rw [← pending] at role
    rw [takeLine_role role]
    rfl
  · right
    have role := Assembly.roleOf_body registry stream.number closes
    rw [← pending] at role
    rw [takeLine_role role]
    exact ⟨rfl, rfl⟩

theorem pullAsked_pending (prompting : Prompting) (left : Nat) {heredoc : OpenHeredoc C}
    (pending : stream.pending = some heredoc) (session : Session) :
    ∃ args, (pullAsked registry prompting left stream session).result =
      .ok (some { heredoc.header with args }) := by
  have finishes (session : Session) {stream : Stream C} {heredoc : OpenHeredoc C}
      (pending : stream.pending = some heredoc) :
      (finish { stream with prompting := none } session).result = .ok (some heredoc.header) := by
    unfold finish
    rw [pending]
  induction left generalizing stream heredoc session with
  | zero => exact ⟨heredoc.header.args, finishes _ pending⟩
  | succ left ih =>
      unfold pullAsked
      cases session.ask prompting.request with
      | mk answer asked =>
          cases answer with
          | none => exact ⟨heredoc.header.args, finishes _ pending⟩
          | some text =>
              have waits : ({ stream with prompting := some (prompting, left) } :
                Stream C).pending = some heredoc := pending
              have taken := takeLine_pending registry waits text asked
              dsimp only
              generalize takeLine registry { stream with prompting := some (prompting, left) } text
                asked = pulled at taken ⊢
              obtain ⟨result, next, following⟩ := pulled
              rcases taken with closes | ⟨goesOn, still⟩
              · dsimp only at closes
                subst closes
                exact ⟨heredoc.header.args, rfl⟩
              · dsimp only at goesOn
                subst goesOn
                exact ih still following

theorem pull_typed {line : String} {parsed : CommandLine} {command : Descriptor C}
    (parses : CommandLine.parse line = .ok (some parsed))
    (resolves : registry.resolve parsed.name = some command) (prompting : Prompting)
    (session : Session) :
    ∃ args, ((Stream.prompted prompting [line]).pull registry session).result =
      .ok (some { Assembly.calledFor 1 command parsed with args }) := by
  obtain ⟨args, parses⟩ := CommandLine.parse_dropCarriageReturn parses
  have heeded := CommandLine.heeded_of_parses parses
  let start : Stream C :=
    { path := "<prompt>", atHand := [line]
      prompting := some (prompting, prompting.limit.toNat) }
  have first : (Stream.prompted prompting [line]).pull registry session =
      pullLines registry [line] start session := rfl
  have role : Assembly.headerRole registry 1 (Assembly.dropCarriageReturn line) = _ :=
    Assembly.headerRole_calledFor heeded parses resolves
  rw [first, pullLines_cons]
  cases marked : (if command.hereDoc then Heredoc.cut? args else none) with
  | none =>
      rw [marked] at role
      have taken : takeLine registry { start with atHand := [] } line session = _ :=
        takeLine_role role
      refine ⟨args, ?_⟩
      rw [taken]
      rfl
  | some mark =>
      obtain ⟨before, terminator⟩ := mark
      rw [marked] at role
      have taken : takeLine registry { start with atHand := [] } line session = _ :=
        takeLine_role role
      let heredoc : OpenHeredoc C :=
        ⟨{ Assembly.calledFor 1 command { parsed with args } with args := before }, terminator⟩
      have pending : ({ start with
          atHand := [], number := 2, pending := some heredoc } : Stream C).pending =
        some heredoc := rfl
      rw [taken]
      exact pullAsked_pending prompting _ pending _

end Stream

namespace Engine

variable {N : Type} {deep : Prop} {dispatch : Dispatch N}

def Typable (line : String) : Prop :=
  CommandLine.isIgnored line = true ∨ ∃ parsed, CommandLine.parse line = .ok parsed

/-- The only failures that leave a dispatch are errors of block structure. -/
def Containing (dispatch : Dispatch N) : Prop :=
  ∀ context directive (state last : State N) fault,
    (dispatch context directive).run state = .error (.fault fault) last →
      ∃ error, fault = .script error ∧ structural? fault = some error

theorem dispatchBy_containing (execute : Execute N) : Containing (dispatchBy execute) := by
  intro context directive state last fault failed
  rw [run_dispatchBy] at failed
  split at failed
  · cases failed
  · cases failed
  next raised between ran =>
    split at failed
    next error structural =>
      cases failed
      exact ⟨_, rfl, structural_attributed structural _ _⟩
    next => cases failed

def State.prompting (state : State N) : Prompting where
  limit := state.settings.maxLines
  prompt := state.settings.prompt
  completions := state.registry.names

def State.opened (state : State N) (initial : List String) : Stream (Handler N) :=
  .prompted state.prompting initial

def State.typing (state : State N) (line : String) : State N :=
  state.on (some (state.opened [line]))

structure Takes (state : State N) (line : String) (directive : Directive (Handler N))
    (taken : State N) : Prop where
  named : ∃ parsed, CommandLine.parse line = .ok (some parsed) ∧
    state.registry.resolve parsed.name = some directive.command ∧
      directive.count = parsed.count ∧ directive.bang = parsed.bang
  pulled : pull.run (state.typing line) = .ok (some directive) taken

def reportPrompt (error : ScriptError) : Run N Unit := do
  note .warning ("prompt.failed error=" ++ error.message)
  say .error error.message

inductive Typed (dispatch : Dispatch N) (state : State N) (line : String) :
    Ended N Flow → Prop where
  | ignored (skipped : CommandLine.isIgnored line = true) :
      Typed dispatch state line (.ok .goOn state)
  | unknown {parsed} (heeded : CommandLine.isIgnored line = false)
      (parses : CommandLine.parse line = .ok parsed)
      (unknown : namesCommand state.registry parsed = false) :
      Typed dispatch state line (.ok .goOn
        (after (say .error (ScriptError.unknownCommand (Text.strip line)).message) state))
  | returned {directive taken flow last} (takes : Takes state line directive taken)
      (ran : (dispatch {} directive).run taken = .ok flow last) :
      Typed dispatch state line (.ok flow (last.on state.stream))
  | broken {directive taken error last} (takes : Takes state line directive taken)
      (ran : (dispatch {} directive).run taken = .error (.fault (.script error)) last)
      (structural : structural? (.script error) = some error) :
      Typed dispatch state line
        (.ok .goOn (after (reportPrompt error) (last.on state.stream)))
  | tooDeep {directive taken last} (takes : Takes state line directive taken)
      (ran : (dispatch {} directive).run taken = .error .exhausted last) :
      Typed dispatch state line (.error .exhausted (last.on state.stream))
  | oversized {digits} (heeded : CommandLine.isIgnored line = false)
      (parses : CommandLine.parse line = .error digits) :
      Typed dispatch state line (.error (.fault (.oversizedCount digits)) state)

theorem exists_takes (state : State N) {line : String} {parsed : CommandLine}
    {command : Descriptor (Handler N)} (parses : CommandLine.parse line = .ok (some parsed))
    (resolves : state.registry.resolve parsed.name = some command) :
    ∃ directive taken, Takes state line directive taken := by
  obtain ⟨args, gives⟩ := Stream.pull_typed parses resolves state.prompting state.session
  have pulled : pull.run (state.typing line) = _ := run_pull rfl
  have same : (state.opened [line]).pull (state.typing line).registry (state.typing line).session =
      (Stream.prompted state.prompting [line]).pull state.registry state.session := rfl
  rw [same] at pulled
  generalize (Stream.prompted state.prompting [line]).pull state.registry state.session = behind
    at gives pulled
  obtain ⟨result, next, session⟩ := behind
  dsimp only at gives
  subst gives
  exact ⟨_, _, ⟨parsed, parses, resolves, rfl, rfl⟩, pulled⟩

inductive Shut : Ended N Flow → Prop where
  | ok {flow last stream} (current : last.stream = some stream) (closed : stream.closed = true) :
      Shut (.ok flow last)
  | fault {fault last stream} (current : last.stream = some stream)
      (closed : stream.closed = true) : Shut (.error (.fault fault) last)
  | exhausted {last} : Shut (.error .exhausted last)

def closedBehind (result : Ended N Flow) : Ended N Flow :=
  match result with
  | .ok flow last => .ok flow (last.on (last.stream.map (·.close)))
  | .error (.fault fault) last => .error (.fault fault) (last.on (last.stream.map (·.close)))
  | .error .exhausted last => .error .exhausted last

theorem run_runTyped (halting : Halting deep dispatch) {state taken : State N}
    {directive : Directive (Handler N)} (pulled : pull.run state = .ok (some directive) taken)
    (present : taken.stream.isSome) :
    (runTyped dispatch).run state = closedBehind ((dispatch {} directive).run taken) := by
  have first := runFirst_pulled pulled dispatch
  have closes {last : State N} (leaves : Leaves taken last) :
      closeStream.run last = .ok ⟨⟩ (last.on (last.stream.map (·.close))) := by
    obtain ⟨stream, current⟩ := Option.isSome_iff_exists.mp (leaves.present.trans present)
    rw [run_closeStream current, current]
    rfl
  have halted := halting {} directive taken
  unfold runTyped
  rw [EStateM.run_bind, run_attempt, first]
  generalize (dispatch {} directive).run taken = result at halted
  cases halted with
  | ok leaves =>
      dsimp only
      rw [run_bind_ok (closes leaves)]
      rfl
  | fault leaves =>
      dsimp only
      rw [run_bind_ok (closes leaves)]
      rfl
  | exhausted tooDeep => rfl

theorem Takes.present {state taken : State N} {line : String} {directive : Directive (Handler N)}
    (takes : Takes state line directive taken) : taken.stream.isSome := by
  have pulled := takes.pulled
  rw [run_pull rfl] at pulled
  split at pulled
  · cases pulled
    rfl
  · cases pulled

theorem Takes.shut (halting : Halting deep dispatch) {state taken : State N} {line : String}
    {directive : Directive (Handler N)} (takes : Takes state line directive taken) :
    Shut ((runTyped dispatch).run (state.typing line)) := by
  have halted := halting {} directive taken
  rw [run_runTyped halting takes.pulled takes.present]
  generalize (dispatch {} directive).run taken = result at halted
  cases halted with
  | @ok flow last leaves =>
      obtain ⟨stream, current⟩ := Option.isSome_iff_exists.mp (leaves.present.trans takes.present)
      have closed : (last.on (last.stream.map (·.close))).stream = some stream.close := by
        rw [current]
        rfl
      exact .ok closed rfl
  | @fault fault last leaves =>
      obtain ⟨stream, current⟩ := Option.isSome_iff_exists.mp (leaves.present.trans takes.present)
      have closed : (last.on (last.stream.map (·.close))).stream = some stream.close := by
        rw [current]
        rfl
      exact .fault closed rfl
  | exhausted tooDeep => exact .exhausted

theorem run_runKnownLine (dispatch : Dispatch N) (line : String) (state : State N) :
    (runKnownLine dispatch line).run state =
      match (runTyped dispatch).run (state.typing line) with
      | .ok flow last => .ok flow (last.on state.stream)
      | .error .exhausted last => .error .exhausted (last.on state.stream)
      | .error (.fault fault) last =>
          match structural? fault with
          | none => .error (.fault fault) (last.on state.stream)
          | some error => .ok .goOn (after (reportPrompt error) (last.on state.stream)) := by
  have opens : (openPrompted [line]).run state = .ok (state.opened [line]) state := rfl
  have typing : (withStream (state.opened [line]) (runTyped dispatch)).run state =
      endedOn state.stream ((runTyped dispatch).run (state.typing line)) :=
    run_withStream _ _ state
  unfold runKnownLine
  rw [run_bind_ok opens, EStateM.run_bind, run_attempt, typing]
  cases (runTyped dispatch).run (state.typing line) with
  | ok flow last => rfl
  | error stop last =>
      cases stop with
      | exhausted => rfl
      | fault fault =>
          dsimp only [endedOn]
          cases structural? fault <;> rfl

def concluded (state : State N) : Ended N Flow → Ended N Flow
  | .ok flow last => .ok flow (last.on state.stream)
  | .error .exhausted last => .error .exhausted (last.on state.stream)
  | .error (.fault fault) last =>
      match structural? fault with
      | none => .error (.fault fault) (last.on state.stream)
      | some error => .ok .goOn (after (reportPrompt error) (last.on state.stream))

theorem run_executeLine (halting : Halting deep dispatch)
    {state taken : State N} {line : String} {directive : Directive (Handler N)}
    (takes : Takes state line directive taken) :
    (executeLine dispatch line).run state =
      concluded state ((dispatch {} directive).run taken) := by
  obtain ⟨parsed, parses, resolves, -⟩ := takes.named
  have known : namesCommand state.registry (some parsed) = true :=
    Option.isSome_iff_exists.mpr ⟨_, resolves⟩
  have ran : (executeLine dispatch line).run state = (runKnownLine dispatch line).run state := by
    unfold executeLine
    rw [CommandLine.heeded_of_parses parses, if_neg Bool.false_ne_true, parses]
    dsimp only
    rw [run_get_bind]
    rw [if_pos known]
  rw [ran, run_runKnownLine, run_runTyped halting takes.pulled takes.present]
  cases (dispatch {} directive).run taken with
  | ok flow last => rfl
  | error stop last => cases stop <;> rfl

theorem Takes.typed (halting : Halting deep dispatch) (containing : Containing dispatch)
    {state taken : State N} {line : String} {directive : Directive (Handler N)}
    (takes : Takes state line directive taken) :
    Typed dispatch state line ((executeLine dispatch line).run state) := by
  rw [run_executeLine halting takes]
  cases ends : (dispatch {} directive).run taken with
  | ok flow last => exact .returned takes ends
  | error stop last =>
      cases stop with
      | exhausted => exact .tooDeep takes ends
      | fault fault =>
          obtain ⟨error, rfl, structural⟩ := containing _ _ _ _ _ ends
          dsimp only [concluded]
          rw [structural]
          exact .broken takes ends structural

theorem executeLine_typed (halting : Halting deep dispatch) (containing : Containing dispatch)
    (line : String) (state : State N) :
    Typed dispatch state line ((executeLine dispatch line).run state) := by
  cases skipped : CommandLine.isIgnored line with
  | true =>
      unfold executeLine
      rw [if_pos skipped]
      exact .ignored skipped
  | false =>
      have heeded : ¬ CommandLine.isIgnored line = true := by simp [skipped]
      cases parses : CommandLine.parse line with
      | error digits =>
          unfold executeLine
          rw [if_neg heeded, parses]
          exact .oversized skipped parses
      | ok parsed =>
          cases known : namesCommand state.registry parsed with
          | false =>
              unfold executeLine
              rw [if_neg heeded, parses]
              dsimp only
              rw [run_get_bind]
              rw [known, if_neg Bool.false_ne_true]
              exact .unknown skipped parses known
          | true =>
              cases parsed with
              | none => cases known
              | some parsed =>
                  obtain ⟨command, resolves⟩ := Option.isSome_iff_exists.mp known
                  obtain ⟨directive, taken, takes⟩ := exists_takes state parses resolves
                  exact takes.typed halting containing

/-- What asking for lines does: each line that is given is run, until there is no answer. -/
inductive Conversation (dispatch : Dispatch N) (request : PromptRequest) :
    State N → List String → Ended N Unit → Prop where
  | done {state} (refused : (state.session.ask request).1 = none) :
      Conversation dispatch request state []
        (.ok ⟨⟩ { state with session := (state.session.ask request).2 })
  | line {state line flow between rest result}
      (answered : (state.session.ask request).1 = some line)
      (ran : (executeLine dispatch line).run
        { state with session := (state.session.ask request).2 } = .ok flow between)
      (behind : Conversation dispatch request between rest result) :
      Conversation dispatch request state (line :: rest) result
  | stopped {state line stop last} (answered : (state.session.ask request).1 = some line)
      (ran : (executeLine dispatch line).run
        { state with session := (state.session.ask request).2 } = .error stop last) :
      Conversation dispatch request state [line] (.error stop last)

theorem ask_answers {session : Session} {request : PromptRequest} {line : String}
    (answered : (session.ask request).1 = some line) :
    (session.ask request).2.answers.length < session.answers.length := by
  unfold Session.ask at answered ⊢
  cases given : session.answers with
  | nil =>
      rw [given] at answered
      cases answered
  | cons answer answers => simp

theorem executeLine_halts (halting : Halting deep dispatch) (line : String) :
    Halts deep (executeLine dispatch line) :=
  halts_pervasive.executeLine halting.streamed.line line

theorem converse_converses (halting : Halting deep dispatch) (completions : List String)
    (budget : Nat) {state : State N} (enough : state.session.answers.length < budget) :
    ∃ lines, Conversation dispatch ⟨promptMark, completions⟩ state lines
      ((converse dispatch completions budget).run state) := by
  induction budget generalizing state with
  | zero => cases enough
  | succ budget ih =>
      have asks : (ask ⟨promptMark, completions⟩).run state =
          .ok (state.session.ask ⟨promptMark, completions⟩).1
            { state with session := (state.session.ask ⟨promptMark, completions⟩).2 } := rfl
      unfold converse
      rw [run_bind_ok asks]
      cases answered : (state.session.ask ⟨promptMark, completions⟩).1 with
      | none => exact ⟨[], .done answered⟩
      | some line =>
          have fewer := ask_answers answered
          have halted := executeLine_halts halting line
            { state with session := (state.session.ask ⟨promptMark, completions⟩).2 }
          dsimp only
          rw [EStateM.run_bind]
          generalize ran : (executeLine dispatch line).run _ = result at halted
          cases halted with
          | @ok flow between leaves =>
              have least := leaves.answers.length_le
              dsimp only at least
              obtain ⟨rest, behind⟩ := @ih between (by omega)
              exact ⟨line :: rest, .line answered ran behind⟩
          | fault leaves => exact ⟨[line], .stopped answered ran⟩
          | exhausted tooDeep => exact ⟨[line], .stopped answered ran⟩

def Returned {α : Type} (deep : Prop) (result : Ended N α) : Prop :=
  (∃ value last, result = .ok value last) ∨ deep ∧ ∃ last, result = .error .exhausted last

theorem executeLine_returned (halting : Halting deep dispatch) (containing : Containing dispatch)
    {line : String} (typable : Typable line) (state : State N) :
    Returned deep ((executeLine dispatch line).run state) := by
  have typed := executeLine_typed halting containing line state
  have halted := executeLine_halts halting line state
  generalize (executeLine dispatch line).run state = result at typed halted
  cases typed with
  | ignored skipped => exact .inl ⟨_, _, rfl⟩
  | unknown heeded parses unknown => exact .inl ⟨_, _, rfl⟩
  | returned takes ran => exact .inl ⟨_, _, rfl⟩
  | broken takes ran structural => exact .inl ⟨_, _, rfl⟩
  | tooDeep takes ran =>
      cases halted with
      | exhausted tooDeep => exact .inr ⟨tooDeep, _, rfl⟩
  | oversized heeded parses =>
      rcases typable with skipped | ⟨parsed, also⟩
      · rw [skipped] at heeded
        cases heeded
      · rw [also] at parses
        cases parses

theorem Conversation.returned (halting : Halting deep dispatch) (containing : Containing dispatch)
    {request : PromptRequest} {state : State N} {lines : List String} {result : Ended N Unit}
    (conversation : Conversation dispatch request state lines result)
    (typable : ∀ line ∈ lines, Typable line) : Returned deep result := by
  induction conversation with
  | done refused => exact .inl ⟨_, _, rfl⟩
  | line answered ran behind ih =>
      exact ih fun line member => typable line (List.mem_cons_of_mem _ member)
  | @stopped state line stop last answered ran =>
      have returned := executeLine_returned halting containing (typable line List.mem_cons_self)
        { state with session := (state.session.ask request).2 }
      rw [ran] at returned
      rcases returned with ⟨flow, last, ended⟩ | ⟨tooDeep, last, ended⟩
      · cases ended
      · cases ended
        exact .inr ⟨tooDeep, _, rfl⟩

def located : Option String → Nat → List Message
  | none, _ => []
  | some path, line =>
      [⟨.error, "Error detected while processing: " ++ path⟩,
        ⟨.echo, "line " ++ toString line ++ ":"⟩]

theorem dispatchBy_failing {execute : Execute N} {context : Context}
    {directive : Directive (Handler N)} {state last : State N} {fault : Fault}
    (ran : (execute context directive.command directive.call).run state =
      .error (.fault fault) last)
    (mild : structural? fault = none) :
    ∃ final, (dispatchBy execute context directive).run state = .ok .goOn final ∧
      final = { last with session := final.session } ∧
      final.session.channel.history.toList = last.session.channel.history.toList ++
        (located context.path directive.line ++ [⟨.error, fault.report⟩]) := by
  rw [run_dispatchBy, ran]
  dsimp only
  rw [mild]
  refine ⟨_, rfl, ?_⟩
  cases context.path with
  | none =>
      refine ⟨rfl, ?_⟩
      have emitted : (after (report none directive fault) last).session.channel =
          last.session.channel.emit ⟨.error, fault.report⟩ := rfl
      rw [emitted, Reporting.history_emit, Array.toList_push]
      rfl
  | some path =>
      refine ⟨rfl, ?_⟩
      have emitted : (after (report (some path) directive fault) last).session.channel =
          ((last.session.channel.emit ⟨.error, "Error detected while processing: " ++ path⟩).emit
            ⟨.echo, "line " ++ toString directive.line ++ ":"⟩).emit ⟨.error, fault.report⟩ := rfl
      rw [emitted]
      simp only [Reporting.history_emit, Array.toList_push, List.append_assoc]
      rfl

/-- What a line at the prompt can do to whoever asks for lines. -/
structure ContainsLines (deep : Prop) (execute : Execute N) : Prop where
  typed : ∀ line (state : State N),
    Typed (dispatchBy execute) state line ((executeLine (dispatchBy execute) line).run state)
  failing : ∀ directive (state last : State N) fault,
    (execute {} directive.command directive.call).run state = .error (.fault fault) last →
      structural? fault = none →
        ∃ final, (dispatchBy execute {} directive).run state = .ok .goOn final ∧
          final.session.channel.history.toList =
            last.session.channel.history.toList ++ [⟨.error, fault.report⟩]
  returned : ∀ line (state : State N), Typable line →
    Returned deep ((executeLine (dispatchBy execute) line).run state)
  shut : ∀ line (state : State N) directive taken, Takes state line directive taken →
    Shut ((runTyped (dispatchBy execute)).run (state.typing line))
  converses : ∀ state : State N, ∃ lines,
    Conversation (dispatchBy execute) ⟨promptMark, state.registry.names⟩ state lines
      ((runPrompt (dispatchBy execute)).run state) ∧
    ((∀ line ∈ lines, Typable line) →
      Returned deep ((runPrompt (dispatchBy execute)).run state))

theorem containsLines {execute : Execute N} (halting : Halting deep (dispatchBy execute)) :
    ContainsLines deep execute where
  typed := executeLine_typed halting (dispatchBy_containing execute)
  failing _ _ _ _ ran mild := by
    obtain ⟨final, ended, -, told⟩ := dispatchBy_failing ran mild
    exact ⟨final, ended, told⟩
  returned _ state typable := executeLine_returned halting (dispatchBy_containing execute) typable
    state
  shut _ _ _ _ takes := takes.shut halting
  converses state := by
    have asks : (runPrompt (dispatchBy execute)).run state =
        (converse (dispatchBy execute) state.registry.names
          (state.session.answers.length + 1)).run state := rfl
    rw [asks]
    obtain ⟨lines, conversation⟩ :=
      converse_converses halting state.registry.names _ (Nat.lt_succ_self _)
    exact ⟨lines, conversation, conversation.returned halting (dispatchBy_containing execute)⟩

/-- Whatever is typed at the prompt, no failure gets out of it: every line ends with a flow and with
its stream closed, and lines are asked for until there is no answer. A line is only too much where
it has a count of too many digits, or sets off commands that are nested too deep. -/
theorem typedLines_contained :
    (∀ depth, ContainsLines (N := N) True (executeBy (dispatchTo depth))) ∧
      ∀ inner : Dispatch N, Halting False inner → ContainsLines False (executeBy inner) :=
  ⟨fun depth => containsLines (dispatchTo_halting (depth + 1)),
    fun _ halting => containsLines halting.deeper⟩

def idle : Dispatch Unit :=
  fun _ _ => pure .goOn

theorem typedLines_contained_endif :
    ∃ flow last, (executeLine (dispatchBy (executeBy idle)) "endif").run builtinState =
        .ok flow last ∧
      last.session.channel.history.toList = [⟨.error, "E580: :endif without :if"⟩] := by
  have typable : Typable "endif" := .inr ⟨some ⟨none, "endif", false, ""⟩, by decide⟩
  have contains := typedLines_contained.2 idle fun _ _ => Halts.pure _
  have said : (after (executeLine (dispatchBy (executeBy idle)) "endif")
      builtinState).session.channel.history.toList = [⟨.error, "E580: :endif without :if"⟩] := by
    decide +kernel
  rcases contains.returned "endif" builtinState typable with
    ⟨flow, last, ran⟩ | ⟨impossible, -⟩
  · rw [after_ok ran] at said
    exact ⟨flow, last, ran, said⟩
  · exact impossible.elim

def oversizedLine (count : Nat) : String :=
  String.ofList (List.replicate count '9' ++ ['x'])

theorem parse_oversizedLine {count : Nat} (long : CommandLine.maxDigits < count) :
    CommandLine.isIgnored (oversizedLine count) = false ∧
      CommandLine.parse (oversizedLine count) = .error count := by
  have kept : Assembly.dropCarriageReturn (oversizedLine count) = oversizedLine count := by
    simp [oversizedLine, Assembly.dropCarriageReturn]
  have failed : Assembly.headerRole (C := Unit) Registry.empty 1
      (Assembly.dropCarriageReturn (oversizedLine count)) = .error (.oversizedCount count) :=
    Assembly.roleOf_oversized Registry.empty 1 long
  obtain ⟨heeded, digits, parses, same⟩ := Assembly.headerRole_error_iff.mp failed
  rw [kept] at heeded parses
  cases same
  exact ⟨heeded, parses⟩

theorem executeLine_oversized (dispatch : Dispatch N) {line : String} {digits : Nat}
    (heeded : CommandLine.isIgnored line = false) (parses : CommandLine.parse line = .error digits)
    (state : State N) :
    (executeLine dispatch line).run state = .error (.fault (.oversizedCount digits)) state := by
  unfold executeLine
  rw [heeded, parses]
  rfl

theorem runPrompt_oversized (dispatch : Dispatch N) {line : String} {digits : Nat}
    (heeded : CommandLine.isIgnored line = false) (parses : CommandLine.parse line = .error digits)
    {state : State N} {answers : List (Option String)}
    (given : state.session.answers = some line :: answers) :
    ∃ last, (runPrompt dispatch).run state = .error (.fault (.oversizedCount digits)) last ∧
      last.session.answers = answers := by
  let request : PromptRequest := ⟨promptMark, state.registry.names⟩
  let asked : State N := { state with
    session := { state.session with answers, asked := state.session.asked.push request } }
  have asks : (ask request).run state = .ok (some line) asked := by
    have answer : state.session.ask request = (some line, asked.session) := by
      unfold Session.ask
      rw [given]
    unfold ask
    rw [run_get_bind]
    rw [answer]
    rfl
  have converses : (runPrompt dispatch).run state =
      (converse dispatch state.registry.names (state.session.answers.length + 1)).run state := rfl
  refine ⟨asked, ?_, rfl⟩
  rw [converses]
  unfold converse
  rw [run_bind_ok asks]
  exact run_bind_error (executeLine_oversized dispatch heeded parses asked)

/-- A line with a count of too many digits ends the asking for lines, with an answer left. -/
theorem typedLines_escape :
    (executeLine (Engine.dispatch : Dispatch Unit) (oversizedLine 4301)).run builtinState =
        .error (.fault (.oversizedCount 4301)) builtinState ∧
      ∃ last, (runPrompt (Engine.dispatch : Dispatch Unit)).run { builtinState with
          session := { answers := [some (oversizedLine 4301), some "echo 1"] } } =
        .error (.fault (.oversizedCount 4301)) last ∧ last.session.answers = [some "echo 1"] := by
  obtain ⟨heeded, parses⟩ := @parse_oversizedLine 4301 (by decide)
  exact ⟨executeLine_oversized _ heeded parses _, runPrompt_oversized _ heeded parses rfl⟩

end Engine

end ExScript
