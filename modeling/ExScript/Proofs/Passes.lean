import ExScript.Proofs.Layout
import ExScript.Script.Stream

/-!
Passes over the lines of a script. The pulls of one give the directives of the parts that the lines
can be laid out in, and leave the reports of the rest.
-/

namespace ExScript

variable {C : Type}

structure Reporting where
  path : String
  tracked : Bool
  reports : Bool

namespace Reporting

variable {registry : Registry C} (reporting : Reporting)

def stream (number : Nat) (lines : List String) : Stream C :=
  { path := reporting.path, atHand := lines, number, tracked := reporting.tracked
    reports := reporting.reports }

def reached (number : Nat) (session : Session) : Session :=
  if reporting.tracked then session.atLine number else session

def settled (number : Nat) (session : Session) (terminator : String) : Option String → Session
  | some _ => reporting.reached number session
  | none =>
      (reporting.reached number session).note .warning ("heredoc.unterminated path=" ++
        reporting.path ++ " terminator=" ++ terminator)

def told (number : Nat) (session : Session) : Part C → Session
  | .skipped _ | .command _ _ => reporting.reached number session
  | .reported line =>
      (reporting.stream number [] : Stream C).reportUnknown number
        (Assembly.dropCarriageReturn line) (reporting.reached number session)
  | .heredoc part =>
      reporting.settled (number + (part.body ++ part.closing.toList).length) session
        part.terminator part.closing

def toldAll : (number : Nat) → List (Part C) → Session → Session
  | _, [], session => session
  | number, part :: rest, session =>
      toldAll (number + part.lines.length) rest (reporting.told number session part)

theorem reached_reached (number other : Nat) (session : Session) :
    reporting.reached other (reporting.reached number session) =
      reporting.reached other session := by
  unfold reached
  cases reporting.tracked with
  | false => rfl
  | true => simp [Session.atLine, Function.comp_def]

end Reporting

namespace LineRole

def given? : LineRole C → Option (Directive C)
  | .whole directive | .closes directive => some directive
  | _ => none

def leaves (pending : Option (OpenHeredoc C)) : LineRole C → Option (OpenHeredoc C)
  | .opens heredoc | .body heredoc => some heredoc
  | .closes _ => none
  | _ => pending

def met (reporting : Reporting) (number : Nat) (text : String) (session : Session) :
    LineRole C → Session
  | .unknown => reporting.told number session (.reported text : Part C)
  | _ => reporting.reached number session

end LineRole

namespace Stream

def reporting (stream : Stream C) : Reporting :=
  ⟨stream.path, stream.tracked, stream.reports⟩

variable {registry : Registry C} {stream : Stream C} {session : Session}

theorem takeLine_role {text : String} {role : LineRole C}
    (found : Assembly.roleOf registry stream.pending stream.number text = .ok role) :
    takeLine registry stream text session =
      ⟨.ok role.given?, { stream with
          number := stream.number + 1, pending := role.leaves stream.pending },
        role.met stream.reporting stream.number text session⟩ := by
  unfold takeLine
  dsimp only
  rw [found]
  cases role <;> rfl

theorem takeLine_kept (registry : Registry C) (stream : Stream C) (text : String)
    (session : Session) :
    (takeLine registry stream text session).stream.atHand = stream.atHand ∧
      (takeLine registry stream text session).stream.prompting = stream.prompting := by
  unfold takeLine
  dsimp only
  split <;> exact ⟨rfl, rfl⟩

theorem pullLines_cons (registry : Registry C) (stream : Stream C) (text : String)
    (rest : List String) (session : Session) :
    pullLines registry (text :: rest) stream session =
      match takeLine registry { stream with atHand := rest } text session with
      | ⟨.ok none, last, final⟩ => pullLines registry last.atHand last final
      | pulled => pulled := by
  have kept := (takeLine_kept registry { stream with atHand := rest } text session).1
  conv => lhs; unfold pullLines
  generalize takeLine registry { stream with atHand := rest } text session = pulled at kept ⊢
  obtain ⟨result, last, final⟩ := pulled
  dsimp only at kept
  subst kept
  cases result with
  | error fault => rfl
  | ok directive => cases directive <;> rfl

end Stream

namespace Reporting

variable {registry : Registry C} (reporting : Reporting)

theorem pullLines_atHand {pending : Option (OpenHeredoc C)} {number : Nat} {line : String}
    {role : LineRole C} (found : Assembly.roleOf registry pending number line = .ok role)
    (lines rest : List String) (session : Session) :
    Stream.pullLines registry (line :: rest)
        { (reporting.stream number lines : Stream C) with pending } session =
      match role.given? with
      | some directive =>
          ⟨.ok (some directive), { reporting.stream (number + 1) rest with
            pending := role.leaves pending }, role.met reporting number line session⟩
      | none =>
          Stream.pullLines registry rest { (reporting.stream (number + 1) rest : Stream C) with
            pending := role.leaves pending } (role.met reporting number line session) := by
  have taken : Stream.takeLine registry
      { (reporting.stream number lines : Stream C) with pending, atHand := rest } line session =
        _ := Stream.takeLine_role found
  rw [Stream.pullLines_cons]
  dsimp only
  rw [taken]
  cases role <;> rfl

theorem pull_ignored {number : Nat} {line : String} {rest : List String} (session : Session)
    (role : Assembly.headerRole registry number (Assembly.dropCarriageReturn line) =
      .ok .ignored) :
    (reporting.stream number (line :: rest) : Stream C).pull registry session =
      (reporting.stream (number + 1) rest : Stream C).pull registry
        (reporting.reached number session) := by
  have found : Assembly.roleOf registry none number line = .ok .ignored := role
  exact reporting.pullLines_atHand found (line :: rest) rest session

theorem pull_unknown {number : Nat} {line : String} {rest : List String} (session : Session)
    (role : Assembly.headerRole registry number (Assembly.dropCarriageReturn line) =
      .ok .unknown) :
    (reporting.stream number (line :: rest) : Stream C).pull registry session =
      (reporting.stream (number + 1) rest : Stream C).pull registry
        (reporting.told number session (.reported line : Part C)) := by
  have found : Assembly.roleOf registry none number line = .ok .unknown := role
  exact reporting.pullLines_atHand found (line :: rest) rest session

theorem pull_command {number : Nat} {line : String} {rest : List String} (session : Session)
    {directive : Directive C}
    (role : Assembly.headerRole registry number (Assembly.dropCarriageReturn line) =
      .ok (.whole directive)) :
    (reporting.stream number (line :: rest) : Stream C).pull registry session =
      ⟨.ok (some directive), reporting.stream (number + 1) rest,
        reporting.reached number session⟩ := by
  have found : Assembly.roleOf registry none number line = .ok (.whole directive) := role
  exact reporting.pullLines_atHand found (line :: rest) rest session

def within (heredoc : OpenHeredoc C) (number : Nat) (lines : List String) : Stream C :=
  { (reporting.stream number lines : Stream C) with pending := some heredoc }

theorem pullLines_within {heredoc : OpenHeredoc C} {body rest : List String}
    {closing : Option String} (number : Nat) (session : Session)
    (inside : ∀ line ∈ body, Assembly.dropCarriageReturn line ≠ heredoc.terminator)
    (closes : ∀ line ∈ closing, Assembly.dropCarriageReturn line = heredoc.terminator)
    (last : closing = none → rest = []) :
    Stream.pullLines registry (body ++ (closing.toList ++ rest))
        (reporting.within heredoc (number + 1) (body ++ (closing.toList ++ rest)))
        (reporting.reached number session) =
      ⟨.ok (some { heredoc.header with
          args := heredoc.header.args ++ Assembly.bodyText body }),
        reporting.stream (number + 1 + (body ++ closing.toList).length) rest,
        reporting.settled (number + (body ++ closing.toList).length) session heredoc.terminator
          closing⟩ := by
  induction body generalizing number heredoc with
  | nil =>
      have same : heredoc.header.args ++ Assembly.bodyText [] = heredoc.header.args := by
        simp [Assembly.bodyText]
      rw [same]
      cases closing with
      | none =>
          rw [last rfl]
          rfl
      | some line =>
          have pulled := reporting.pullLines_atHand
            (Assembly.roleOf_closes registry (number + 1) (closes line rfl)) (line :: rest) rest
            (reporting.reached number session)
          simp only [LineRole.given?, LineRole.met, reached_reached] at pulled
          exact pulled
  | cons line body ih =>
      have behind : Stream.pullLines registry (body ++ (closing.toList ++ rest))
          (reporting.within (heredoc.addLine (Assembly.dropCarriageReturn line)) (number + 1 + 1)
            (body ++ (closing.toList ++ rest))) (reporting.reached (number + 1) session) = _ :=
        ih (number + 1) (fun line member => inside line (List.mem_cons_of_mem _ member)) closes
      have read := reporting.pullLines_atHand
        (Assembly.roleOf_body registry (number + 1) (inside line List.mem_cons_self))
        (line :: (body ++ (closing.toList ++ rest))) (body ++ (closing.toList ++ rest))
        (reporting.reached number session)
      simp only [LineRole.given?, LineRole.met, reached_reached] at read
      have count : (line :: body ++ closing.toList).length =
          (body ++ closing.toList).length + 1 := rfl
      have here : number + 1 + ((body ++ closing.toList).length + 1) =
          number + 1 + 1 + (body ++ closing.toList).length := by omega
      have there : number + ((body ++ closing.toList).length + 1) =
          number + 1 + (body ++ closing.toList).length := by omega
      rw [count, here, there, ← Assembly.addLine_bodyText]
      exact read.trans behind

theorem pull_heredoc {number : Nat} {part : HeredocLines C} {rest : List String}
    (session : Session) {opened : OpenHeredoc C}
    (role : Assembly.headerRole registry number (Assembly.dropCarriageReturn part.header) =
      .ok (.opens opened))
    (begins : Assembly.Begins (.heredoc part) (.opens opened))
    (fits : Assembly.HeredocFits registry number part) (last : part.closing = none → rest = []) :
    (reporting.stream number ((Part.heredoc part).lines ++ rest) : Stream C).pull registry session =
      ⟨.ok (some part.directive),
        reporting.stream (number + (Part.heredoc part).lines.length) rest,
        reporting.told number session (.heredoc part)⟩ := by
  cases begins with
  | heredoc _ _ terminator directive =>
      have inside := fits.body
      have closes := fits.closing
      rw [terminator] at inside closes
      have within : Stream.pullLines registry (part.body ++ (part.closing.toList ++ rest))
          (reporting.within opened (number + 1) (part.body ++ (part.closing.toList ++ rest)))
          (reporting.reached number session) = _ :=
        reporting.pullLines_within number session inside closes last
      have lines : (Part.heredoc part).lines ++ rest =
          part.header :: (part.body ++ (part.closing.toList ++ rest)) := by
        simp [Part.lines]
      have found : Assembly.roleOf registry none number part.header = .ok (.opens opened) := role
      have opens : (reporting.stream number ((Part.heredoc part).lines ++ rest)).pull
          registry session =
        Stream.pullLines registry (part.body ++ (part.closing.toList ++ rest))
          (reporting.within opened (number + 1) (part.body ++ (part.closing.toList ++ rest)))
          (reporting.reached number session) := by
        rw [lines]
        exact reporting.pullLines_atHand found _ _ session
      have count : number + (Part.heredoc part).lines.length =
          number + 1 + (part.body ++ part.closing.toList).length := by
        simp only [Part.lines, List.length_cons]
        omega
      rw [opens, within, ← directive, ← terminator, count]
      rfl

end Reporting

/-- What repeated pulls give until one gives nothing, and the session they leave. -/
inductive Stream.Passes (registry : Registry C) :
    Stream C → Session → List (Directive C) → Session → Prop where
  | ended {stream session last final}
      (pulled : stream.pull registry session = ⟨.ok none, last, final⟩) :
      Passes registry stream session [] final
  | more {stream session directive next following rest final}
      (pulled : stream.pull registry session = ⟨.ok (some directive), next, following⟩)
      (behind : Passes registry next following rest final) :
      Passes registry stream session (directive :: rest) final

namespace Stream.Passes

variable {registry : Registry C} {stream : Stream C} {session : Session}

theorem congr {other : Stream C} {following : Session}
    (same : stream.pull registry session = other.pull registry following)
    {directives : List (Directive C)} {final : Session}
    (passes : other.Passes registry following directives final) :
    stream.Passes registry session directives final := by
  cases passes with
  | ended pulled => exact .ended (same.trans pulled)
  | more pulled behind => exact .more (same.trans pulled) behind

theorem unique {directives others : List (Directive C)} {final last : Session}
    (passes : stream.Passes registry session directives final)
    (also : stream.Passes registry session others last) : directives = others ∧ final = last := by
  induction passes generalizing others with
  | ended pulled =>
      cases also with
      | ended again =>
          cases pulled.symm.trans again
          exact ⟨rfl, rfl⟩
      | more again => cases pulled.symm.trans again
  | more pulled behind ih =>
      cases also with
      | ended again => cases pulled.symm.trans again
      | more again following =>
          cases pulled.symm.trans again
          obtain ⟨rfl, rfl⟩ := ih following
          exact ⟨rfl, rfl⟩

end Stream.Passes

theorem Reporting.passes {registry : Registry C} (reporting : Reporting) {number : Nat}
    {parts : List (Part C)} (layout : Assembly.Layout registry number parts) (session : Session) :
    (reporting.stream number (parts.flatMap Part.lines)).Passes registry session
      (parts.filterMap Part.directive?) (reporting.toldAll number parts session) := by
  induction layout generalizing session with
  | nil => exact .ended rfl
  | @cons number part rest fits last behind ih =>
      have following := ih (reporting.told number session part)
      obtain ⟨role, begins, found⟩ := fits.begins
      cases begins with
      | skipped line => exact .congr (reporting.pull_ignored session found) following
      | reported line => exact .congr (reporting.pull_unknown session found) following
      | command line directive => exact .more (reporting.pull_command session found) following
      | heredoc part opened terminator directive =>
          have ends (unclosed : part.closing = none) : rest.flatMap Part.lines = [] := by
            rw [last unclosed]
            rfl
          exact .more (reporting.pull_heredoc session found
            (.heredoc part opened terminator directive) fits ends) following

namespace Reporting

variable (reporting : Reporting)

/-- What the user gets to see of a part: one error that names the line of an unknown command, and
its place before it. -/
def shown (number : Nat) : Part C → List Message
  | .skipped _ | .command _ _ | .heredoc _ => []
  | .reported line =>
      if reporting.reports then
        (if reporting.tracked then
          [⟨.error, "Error detected while processing: " ++ reporting.path⟩,
            ⟨.echo, "line " ++ toString number ++ ":"⟩]
        else []) ++
          [⟨.error, "E492: Not an editor command: " ++ Assembly.dropCarriageReturn line⟩]
      else []

def shownAll : (number : Nat) → List (Part C) → List Message
  | _, [] => []
  | number, part :: rest =>
      reporting.shown number part ++ shownAll (number + part.lines.length) rest

@[simp] theorem history_emit (channel : Channel) (message : Message) :
    (channel.emit message).history = channel.history.push message := by
  unfold Channel.emit
  cases channel.quiet <;> rfl

theorem history_reached (number : Nat) (session : Session) :
    (reporting.reached number session).channel = session.channel := by
  unfold reached
  cases reporting.tracked <;> rfl

theorem history_told (number : Nat) (session : Session) (part : Part C) :
    (reporting.told number session part).channel.history.toList =
      session.channel.history.toList ++ reporting.shown number part := by
  cases part with
  | skipped line | command line directive => simp [told, shown, history_reached]
  | heredoc part =>
      cases closing : part.closing <;>
        simp [told, shown, settled, closing, Session.note, history_reached]
  | reported line =>
      have reached := reporting.history_reached number session
      cases reports : reporting.reports <;> cases tracked : reporting.tracked <;>
        simp [told, shown, Stream.reportUnknown, stream, reports, tracked, Session.note,
          Session.locate, Session.complain, Session.echo, Session.emit, reached,
          ScriptError.unknownCommand]

theorem history_toldAll (number : Nat) (parts : List (Part C)) (session : Session) :
    (reporting.toldAll number parts session).channel.history.toList =
      session.channel.history.toList ++ reporting.shownAll number parts := by
  induction parts generalizing number session with
  | nil => simp [toldAll, shownAll]
  | cons part rest ih =>
      rw [toldAll, ih, history_told, shownAll, List.append_assoc]

end Reporting

/-- A pass over lines accounts for each of them exactly once. There is one way only to lay the lines
out in parts, the directives are those of the parts, in the order of their lines, and what the user
is shown are the reports of the unknown lines. -/
theorem passes_accountFor (registry : Registry C) {source : LineSource} (given : source.Given)
    (counts : ∀ line ∈ source.atHand, ∀ digits,
      CommandLine.parse (Assembly.dropCarriageReturn line) ≠ .error digits)
    (tracked reports : Bool) (session : Session) :
    ∃ parts : List (Part C),
      (∀ others, Assembly.Layout registry 1 others ∧
        others.flatMap Part.lines = source.atHand ↔ others = parts) ∧
      (∀ directives final,
        (Stream.ofSource source tracked reports).Passes registry session directives final ↔
          directives = parts.filterMap Part.directive? ∧
            final = Reporting.toldAll ⟨source.path, tracked, reports⟩ 1 parts session) ∧
      (parts.filterMap Part.directive?).Pairwise (fun earlier later => earlier.line < later.line) ∧
      (Reporting.toldAll ⟨source.path, tracked, reports⟩ 1 parts session).channel.history.toList =
        session.channel.history.toList ++
          Reporting.shownAll ⟨source.path, tracked, reports⟩ 1 parts := by
  obtain ⟨parts, layout, same⟩ := Assembly.exists_layout registry 1 source.atHand counts
  -- One pass is known now, and pulls leave no choice: every other pass is this one.
  have passes := Reporting.passes ⟨source.path, tracked, reports⟩ layout session
  have stream : (Stream.ofSource source tracked reports : Stream C) =
      Reporting.stream ⟨source.path, tracked, reports⟩ 1 source.atHand :=
    Stream.ofSource_given given tracked reports
  rw [same, ← stream] at passes
  refine ⟨parts, ?_, ?_, layout.directive_lines.2, Reporting.history_toldAll _ 1 parts session⟩
  · intro others
    constructor
    · rintro ⟨also, lines⟩
      exact also.unique layout (lines.trans same.symm)
    · rintro rfl
      exact ⟨layout, same⟩
  · intro directives final
    constructor
    · intro also
      exact also.unique passes
    · rintro ⟨rfl, rfl⟩
      exact passes

def putRegistry : Registry Unit :=
  ⟨⟨[("put", { serial := 0, first := ⟨"put", "put"⟩, others := [], description := ""
               hereDoc := true, bang := false, source := "builtin", handler := () })]⟩, 1⟩

def putSource : LineSource :=
  .named none ["put a <<E\r", "put <<F", "E", "nope", "put <<F", "E"]

theorem passes_accountFor_puts :
    ∃ parts : List (Part Unit),
      (∀ others, Assembly.Layout putRegistry 1 others ∧
        others.flatMap Part.lines = putSource.atHand ↔ others = parts) ∧
      ∀ directives final,
        (Stream.ofSource putSource true).Passes putRegistry {} directives final ↔
          directives = parts.filterMap Part.directive? ∧
            final = Reporting.toldAll ⟨"<string>", true, true⟩ 1 parts {} := by
  have counts : ∀ line ∈ putSource.atHand, ∀ digits,
      CommandLine.parse (Assembly.dropCarriageReturn line) ≠ .error digits := by
    have read : (putSource.atHand.all fun line =>
        (CommandLine.parse (Assembly.dropCarriageReturn line)).isOk) = true := by decide +kernel
    intro line member digits failed
    have fine := List.all_eq_true.mp read line member
    rw [failed] at fine
    cases fine
  obtain ⟨parts, layout, passes, -⟩ :=
    passes_accountFor putRegistry (LineSource.named_given none _) counts true true {}
  exact ⟨parts, layout, passes⟩

end ExScript
