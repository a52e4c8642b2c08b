import Mathlib.Data.List.Basic
import ExScript.Proofs.Passes

/-!
Pulls from any source of lines, be they at hand or asked for. A pull reads the lines of whole parts,
up to the part of the directive that it gives and no further.
-/

namespace ExScript

variable {C : Type}

def answered : List (Option String) → List String
  | some text :: rest => text :: answered rest
  | _ => []

def Assembly.Readable (line : String) : Prop :=
  ∀ digits, CommandLine.parse (dropCarriageReturn line) ≠ .error digits

theorem Assembly.readable_of_isOk {line : String}
    (parses : (CommandLine.parse (dropCarriageReturn line)).isOk = true) : Readable line := by
  intro digits failed
  rw [failed] at parses
  cases parses

def Reporting.lineAt (reporting : Reporting) (number : Nat) (script : Option Frame) :
    Option Frame :=
  if reporting.tracked then script.map fun frame => { frame with line := number } else script

theorem Reporting.lineAt_lineAt (reporting : Reporting) (number other : Nat)
    (script : Option Frame) :
    reporting.lineAt other (reporting.lineAt number script) = reporting.lineAt other script := by
  unfold lineAt
  cases reporting.tracked with
  | false => rfl
  | true => simp [Function.comp_def]

namespace LineRole

def shown (reporting : Reporting) (number : Nat) (text : String) : LineRole C → List Message
  | .unknown => reporting.shown number (.reported text : Part C)
  | _ => []

theorem met_history (role : LineRole C) (reporting : Reporting) (number : Nat) (text : String)
    (session : Session) :
    (role.met reporting number text session).channel.history.toList =
      session.channel.history.toList ++ role.shown reporting number text := by
  cases role with
  | unknown => exact reporting.history_told number session (.reported text : Part C)
  | ignored | whole | opens | body | closes =>
      exact reporting.history_told number session (.skipped text : Part C)

theorem met_kept (role : LineRole C) (reporting : Reporting) (number : Nat) (text : String)
    (session : Session) :
    (role.met reporting number text session).script = reporting.lineAt number session.script ∧
      (role.met reporting number text session).answers = session.answers ∧
        (role.met reporting number text session).asked = session.asked := by
  obtain ⟨path, tracked, reports⟩ := reporting
  cases tracked <;> cases reports <;> cases role <;> exact ⟨rfl, rfl, rfl⟩

end LineRole

namespace Stream

def asking (stream : Stream C) (session : Session) : List String :=
  match stream.prompting with
  | none => []
  | some (_, left) => answered (session.answers.take left)

def supply (stream : Stream C) (session : Session) : List String :=
  stream.atHand ++ stream.asking session

def Dry (stream : Stream C) : Prop :=
  stream.atHand = [] ∧ stream.prompting = none

variable {registry : Registry C} {stream next last : Stream C} {session middle final : Session}

theorem supply_given (given : stream.prompting = none) (session : Session) :
    stream.supply session = stream.atHand := by
  unfold supply asking
  rw [given, List.append_nil]

theorem Dry.supply (dry : stream.Dry) (session : Session) : stream.supply session = [] :=
  (supply_given dry.2 session).trans dry.1

/-- From one place in the lines to another: what was read in between, what the user was shown, and
how often they were asked. -/
structure Reads (stream : Stream C) (session : Session) (lines : List String)
    (shown : List Message) (next : Stream C) (final : Session) : Prop where
  place : next = { stream with
    atHand := stream.atHand.drop lines.length, prompting := next.prompting
    number := stream.number + lines.length, pending := next.pending }
  supply : stream.supply session = lines ++ next.supply final
  shown : final.channel.history.toList = session.channel.history.toList ++ shown
  line : final.script = if lines = [] then session.script
    else stream.reporting.lineAt (stream.number + lines.length - 1) session.script
  asked : next.prompting.isSome → stream.prompting.isSome ∧
    final.asked.size = session.asked.size + (lines.length - stream.atHand.length)
  unasked : stream.prompting = none → next.prompting = none ∧ final.asked = session.asked

theorem Reads.trans {lines behind : List String} {shown more : List Message}
    (first : Reads stream session lines shown next middle)
    (second : Reads next middle behind more last final) :
    Reads stream session (lines ++ behind) (shown ++ more) last final := by
  have place := first.place
  have hand : next.atHand = stream.atHand.drop lines.length := by rw [place]
  have number : next.number = stream.number + lines.length := by rw [place]
  have tracked : next.tracked = stream.tracked := by rw [place]
  refine ⟨?_, ?_, ?_, ?_, ?_, ?_⟩
  · rw [second.place, hand, number, List.drop_drop, List.length_append, Nat.add_assoc, place]
  · rw [first.supply, second.supply, List.append_assoc]
  · rw [second.shown, first.shown, List.append_assoc]
  · have same : next.reporting = stream.reporting := by
      rw [place]
      rfl
    -- The script is at the last line read: one of the second part, if that has read any.
    rw [second.line, first.line, same, number, List.length_append]
    by_cases none : lines = []
    · subst none
      simp
    · by_cases nothing : behind = []
      · subst nothing
        simp
      · have apart : lines ++ behind ≠ [] := List.append_ne_nil_of_left_ne_nil none behind
        rw [if_neg none, if_neg nothing, if_neg apart, Reporting.lineAt_lineAt, Nat.add_assoc]
  · intro still
    obtain ⟨between, later⟩ := second.asked still
    obtain ⟨before, earlier⟩ := first.asked between
    refine ⟨before, ?_⟩
    rw [later, earlier, hand, List.length_drop, List.length_append]
    omega
  · intro unasked
    obtain ⟨between, earlier⟩ := first.unasked unasked
    obtain ⟨none, later⟩ := second.unasked between
    exact ⟨none, later.trans earlier⟩

theorem pullLines_asking (registry : Registry C) {stream : Stream C} {prompting : Prompting}
    {left : Nat} {text : String} {answers : List (Option String)} {session : Session}
    (used : stream.atHand = []) (asks : stream.prompting = some (prompting, left + 1))
    (given : session.answers = some text :: answers) :
    pullLines registry [] stream session =
      match takeLine registry { stream with prompting := some (prompting, left) } text
          { session with answers, asked := session.asked.push prompting.request } with
      | ⟨.ok none, last, final⟩ => pullLines registry last.atHand last final
      | pulled => pulled := by
  have kept := takeLine_kept registry { stream with prompting := some (prompting, left) } text
    { session with answers, asked := session.asked.push prompting.request }
  have asked : session.ask prompting.request = (some text,
      { session with answers, asked := session.asked.push prompting.request }) := by
    simp [Session.ask, given]
  conv => lhs; unfold pullLines
  rw [asks]
  dsimp only
  unfold pullAsked
  rw [asked]
  dsimp only
  generalize takeLine registry { stream with prompting := some (prompting, left) } text
    { session with answers, asked := session.asked.push prompting.request } = pulled at kept ⊢
  obtain ⟨result, last, final⟩ := pulled
  obtain ⟨hand, still⟩ := kept
  dsimp only at hand still
  cases result with
  | error fault => rfl
  | ok directive =>
      cases directive with
      | some directive => rfl
      | none =>
          dsimp only
          rw [hand, used]
          unfold pullLines
          rw [still]

theorem pullLines_fetch {text : String} {rest : List String}
    (supplied : stream.supply session = text :: rest) :
    ∃ prompting answers asked,
      let next := { stream with atHand := stream.atHand.drop 1, prompting }
      let fetched := { session with answers, asked }
      next.supply fetched = rest ∧
      prompting.isSome = stream.prompting.isSome ∧
      (prompting.isSome → stream.prompting.isSome ∧
        asked.size = session.asked.size + (1 - stream.atHand.length)) ∧
      (stream.prompting = none → prompting = none ∧ asked = session.asked) ∧
      ∀ registry, pullLines registry stream.atHand stream session =
        match takeLine registry next text fetched with
        | ⟨.ok none, last, final⟩ => pullLines registry last.atHand last final
        | pulled => pulled := by
  -- What is at hand is read first, and only behind it are there lines to be asked for.
  cases hand : stream.atHand with
  | cons first atHand =>
      rw [supply, hand] at supplied
      obtain ⟨rfl, rfl⟩ := List.cons_eq_cons.mp supplied
      refine ⟨stream.prompting, session.answers, session.asked, rfl, rfl, ?_,
        fun none => ⟨none, rfl⟩, fun registry => pullLines_cons registry stream first atHand session⟩
      exact fun still => ⟨still, by simp⟩
  | nil =>
      rw [supply, hand, List.nil_append, asking] at supplied
      split at supplied
      · cases supplied
      next prompting left asks =>
        cases left with
        | zero => cases supplied
        | succ left =>
            cases given : session.answers with
            | nil => simp [given, answered] at supplied
            | cons answer answers =>
                cases answer with
                | none => simp [given, answered] at supplied
                | some answer =>
                    simp only [given, List.take_succ_cons, answered, List.cons.injEq] at supplied
                    obtain ⟨rfl, rfl⟩ := supplied
                    refine ⟨some (prompting, left), answers, session.asked.push prompting.request,
                      rfl, ?_, ?_, ?_, fun registry => ?_⟩
                    · rw [asks]
                      rfl
                    · exact fun _ => ⟨by rw [asks]; rfl, by simp⟩
                    · intro none
                      cases asks.symm.trans none
                    · have nothing : ([] : List String).drop 1 = stream.atHand := hand.symm
                      rw [nothing]
                      exact pullLines_asking registry hand asks given

theorem pullLines_line {text : String} {rest : List String}
    (supplied : stream.supply session = text :: rest) {role : LineRole C}
    (found : Assembly.roleOf registry stream.pending stream.number text = .ok role) :
    ∃ next final,
      Reads stream session [text] (role.shown stream.reporting stream.number text) next final ∧
      next.pending = role.leaves stream.pending ∧
      next.prompting.isSome = stream.prompting.isSome ∧
      pullLines registry stream.atHand stream session =
        match role.given? with
        | some directive => ⟨.ok (some directive), next, final⟩
        | none => pullLines registry next.atHand next final := by
  obtain ⟨prompting, answers, asked, remains, still, counted, unasked, fetched⟩ :=
    pullLines_fetch supplied
  have taken : takeLine registry { stream with atHand := stream.atHand.drop 1, prompting } text
      { session with answers, asked } = _ := takeLine_role found
  have history := role.met_history stream.reporting stream.number text { session with answers, asked }
  obtain ⟨script, same, kept⟩ :=
    role.met_kept stream.reporting stream.number text { session with answers, asked }
  let next : Stream C := { stream with
    atHand := stream.atHand.drop 1, prompting, number := stream.number + 1
    pending := role.leaves stream.pending }
  refine ⟨next, role.met stream.reporting stream.number text { session with answers, asked },
    ⟨rfl, ?_, history, ?_, ?_, ?_⟩, rfl, still, ?_⟩
  · rw [supplied, ← remains]
    unfold supply asking
    rw [same]
    rfl
  · rw [script, if_neg (List.cons_ne_nil _ _)]
    rfl
  · intro still
    rw [kept]
    exact counted still
  · intro none
    rw [kept]
    exact unasked none
  · rw [fetched registry, taken]
    cases role <;> rfl

theorem pullLines_dry (registry : Registry C) (dry : stream.supply session = []) :
    ∃ following, Reads stream session [] [] { stream with prompting := none } following ∧
      pullLines registry stream.atHand stream session =
        finish { stream with prompting := none } following := by
  obtain ⟨used, unanswered⟩ := List.append_eq_nil_iff.mp dry
  have stays (following : Session)
      (history : following.channel.history = session.channel.history)
      (script : following.script = session.script)
      (unasked : stream.prompting = none → following.asked = session.asked) :
      Reads stream session [] [] { stream with prompting := none } following := by
    refine ⟨rfl, ?_, by simp [history], script, nofun, fun none => ⟨rfl, unasked none⟩⟩
    rw [dry, supply, used]
    rfl
  obtain ⟨path, assembled, atHand, prompting, number, pending, tracked, reports, ended, closed⟩ :=
    stream
  dsimp only at used
  subst used
  cases prompting with
  | none => exact ⟨session, stays session rfl rfl fun _ => rfl, rfl⟩
  | some asking =>
      obtain ⟨prompting, left⟩ := asking
      cases left with
      | zero => exact ⟨prompting.limitReached session, stays _ rfl rfl nofun, rfl⟩
      | succ left =>
          have refused : session.ask prompting.request =
              (none, (session.ask prompting.request).2) := by
            unfold Session.ask
            cases given : session.answers with
            | nil => rfl
            | cons answer answers =>
                cases answer with
                | none => rfl
                | some text => simp [asking, given, answered] at unanswered
          refine ⟨(session.ask prompting.request).2, stays _ ?_ ?_ nofun, ?_⟩
          · unfold Session.ask
            split <;> rfl
          · unfold Session.ask
            split <;> rfl
          · conv => lhs; unfold pullLines
            dsimp only
            unfold pullAsked
            rw [refused]

theorem Reads.noted {lines : List String} {shown : List Message}
    (reads : Reads stream session lines shown next final) (pending : Option (OpenHeredoc C))
    (level : Level) (text : String) :
    Reads stream session lines shown { next with pending } (final.note level text) where
  place := by
    conv => lhs; rw [reads.place]
  supply := reads.supply
  shown := reads.shown
  line := reads.line
  asked := reads.asked
  unasked := reads.unasked

theorem finish_within (stream : Stream C) (session : Session) {heredoc : OpenHeredoc C}
    (within : stream.pending = some heredoc) :
    finish stream session =
      ⟨.ok (some heredoc.header), { stream with pending := none },
        session.note .warning ("heredoc.unterminated path=" ++ stream.path ++ " terminator=" ++
          heredoc.terminator)⟩ := by
  unfold finish
  rw [within]

theorem pullLines_within (registry : Registry C) {heredoc : OpenHeredoc C} {body rest : List String}
    {closing : Option String} (within : stream.pending = some heredoc)
    (supplied : stream.supply session = body ++ (closing.toList ++ rest))
    (inside : ∀ line ∈ body, Assembly.dropCarriageReturn line ≠ heredoc.terminator)
    (closes : ∀ line ∈ closing, Assembly.dropCarriageReturn line = heredoc.terminator)
    (last : closing = none → rest = []) :
    ∃ next final, Reads stream session (body ++ closing.toList) [] next final ∧
      next.pending = none ∧ (closing = none → next.Dry) ∧
      (closing.isSome → next.prompting.isSome = stream.prompting.isSome) ∧
      pullLines registry stream.atHand stream session =
        ⟨.ok (some { heredoc.header with
          args := heredoc.header.args ++ Assembly.bodyText body }), next, final⟩ := by
  induction body generalizing stream session heredoc with
  | nil =>
      have same : heredoc.header.args ++ Assembly.bodyText [] = heredoc.header.args := by
        simp [Assembly.bodyText]
      rw [same]
      cases closing with
      | none =>
          rw [last rfl] at supplied
          obtain ⟨following, reads, pulled⟩ := pullLines_dry registry supplied
          have finished := finish_within { stream with prompting := none } following within
          exact ⟨_, _, reads.noted none _ _, rfl,
            fun _ => ⟨(List.append_eq_nil_iff.mp supplied).1, rfl⟩,
            fun closed => absurd closed Bool.false_ne_true, pulled.trans finished⟩
      | some line =>
          have role : Assembly.roleOf registry stream.pending stream.number line =
              .ok (.closes heredoc.header) := within ▸ Assembly.roleOf_closes registry _ (closes line rfl)
          obtain ⟨next, final, reads, pending, still, pulled⟩ := pullLines_line supplied role
          exact ⟨next, final, reads, pending, fun unclosed => absurd unclosed (Option.some_ne_none line),
            fun _ => still, pulled⟩
  | cons line body ih =>
      have role : Assembly.roleOf registry stream.pending stream.number line =
          .ok (.body (heredoc.addLine (Assembly.dropCarriageReturn line))) :=
        within ▸ Assembly.roleOf_body registry _ (inside line List.mem_cons_self)
      obtain ⟨between, middle, first, pending, same, onward⟩ := pullLines_line supplied role
      have remains : between.supply middle = body ++ (closing.toList ++ rest) := by
        have supplied := first.supply.symm.trans supplied
        exact (List.cons_eq_cons.mp supplied).2
      obtain ⟨next, final, reads, done, dry, still, pulled⟩ := ih pending remains
        (fun line member => inside line (List.mem_cons_of_mem _ member)) closes
      refine ⟨next, final, first.trans reads, done, dry,
        fun closed => (still closed).trans same, onward.trans (pulled.trans ?_)⟩
      rw [← Assembly.addLine_bodyText]
      rfl

theorem pullLines_part {part : Part C} {rest : List String} (between : stream.pending = none)
    (supplied : stream.supply session = part.lines ++ rest)
    (fits : Assembly.Fits registry stream.number part) (last : part.Unclosed → rest = []) :
    ∃ next final,
      Reads stream session part.lines (stream.reporting.shown stream.number part) next final ∧
      next.pending = none ∧ (part.Unclosed → next.Dry) ∧
      (¬ part.Unclosed → next.prompting.isSome = stream.prompting.isSome) ∧
      pullLines registry stream.atHand stream session =
        match part.directive? with
        | some directive => ⟨.ok (some directive), next, final⟩
        | none => pullLines registry next.atHand next final := by
  obtain ⟨role, begins, found⟩ := fits.begins
  have here : Assembly.roleOf registry stream.pending stream.number part.first = .ok role := by
    rw [between]
    exact found
  rw [part.lines_eq] at supplied
  obtain ⟨next, final, reads, pending, still, pulled⟩ := pullLines_line supplied here
  cases begins with
  | skipped line | reported line | command line directive =>
      exact ⟨next, final, reads, pending.trans between, False.elim, fun _ => still, pulled⟩
  | heredoc part opened terminator directive =>
      have inside := fits.body
      have closes := fits.closing
      rw [terminator] at inside closes
      have remains : next.supply final = part.body ++ (part.closing.toList ++ rest) := by
        have supplied := reads.supply.symm.trans supplied
        rw [← List.append_assoc]
        exact (List.cons_eq_cons.mp supplied).2
      obtain ⟨behind, last, more, done, dry, same, given⟩ :=
        pullLines_within registry pending remains inside closes last
      refine ⟨behind, last, reads.trans more, done, dry, fun closed => ?_, pulled.trans ?_⟩
      · exact (same (Option.isSome_iff_ne_none.mpr closed)).trans still
      dsimp only [Part.directive?]
      rw [directive]
      exact given

/-- What a pull reads is made up of whole parts, and of none behind that of the directive that it
gives. Where it gives none, there was none left. -/
structure Portion (registry : Registry C) (stream : Stream C) (session : Session)
    (parts : List (Part C)) (directive : Option (Directive C)) (next : Stream C)
    (final : Session) : Prop where
  layout : Assembly.Layout registry stream.number parts
  reads : Reads stream session (parts.flatMap Part.lines)
    (stream.reporting.shownAll stream.number parts) next final
  between : next.pending = none
  directives : parts.filterMap Part.directive? = directive.toList
  last : ∀ given ∈ directive, ∃ part ∈ parts.getLast?, part.directive? = some given
  dry : directive = none ∨ (∃ part ∈ parts, part.Unclosed) → next.Dry

theorem Portion.single {part : Part C} {directive : Directive C}
    (fits : Assembly.Fits registry stream.number part)
    (reads : Reads stream session part.lines (stream.reporting.shown stream.number part) next final)
    (between : next.pending = none) (dry : part.Unclosed → next.Dry)
    (gives : part.directive? = some directive) :
    Portion registry stream session [part] (some directive) next final where
  layout := .cons fits (fun _ => rfl) .nil
  reads := by
    have lines : [part].flatMap Part.lines = part.lines := List.append_nil _
    have shown : stream.reporting.shownAll stream.number [part] =
        stream.reporting.shown stream.number part := List.append_nil _
    rw [lines, shown]
    exact reads
  between := between
  directives := by simp [gives]
  last := by
    rintro _ ⟨⟩
    exact ⟨part, rfl, gives⟩
  dry := by
    rintro (none | ⟨other, member, unclosed⟩)
    · cases none
    · rw [List.mem_singleton.mp member] at unclosed
      exact dry unclosed

theorem Portion.cons {part : Part C} {parts : List (Part C)} {directive : Option (Directive C)}
    (fits : Assembly.Fits registry stream.number part)
    (reads : Reads stream session part.lines (stream.reporting.shown stream.number part) next
      middle)
    (gives : part.directive? = none)
    (behind : Portion registry next middle parts directive last final) :
    Portion registry stream session (part :: parts) directive last final := by
  have closed : ¬ part.Unclosed := by
    cases part with
    | skipped line | reported line | command line given => exact id
    | heredoc part => cases gives
  have place := reads.place
  have number : next.number = stream.number + part.lines.length := by rw [place]
  have same : next.reporting = stream.reporting := by
    rw [place]
    rfl
  obtain ⟨layout, more, between, directives, final, dry⟩ := behind
  rw [number] at layout more
  rw [same] at more
  refine ⟨.cons fits (fun unclosed => absurd unclosed closed) layout, reads.trans more, between,
    ?_, ?_, ?_⟩
  · rw [List.filterMap_cons_none gives, directives]
  · intro given member
    obtain ⟨other, ends, complete⟩ := final given member
    exact ⟨other, List.mem_getLast?_cons ends, complete⟩
  · rintro (none | ⟨other, member, unclosed⟩)
    · exact dry (.inl none)
    · rcases List.mem_cons.mp member with rfl | member
      · exact absurd unclosed closed
      · exact dry (.inr ⟨other, member, unclosed⟩)

theorem pullLines_portion {number : Nat} {supplied : List (Part C)}
    (layout : Assembly.Layout registry number supplied) (here : stream.number = number)
    (live : stream.ended = false) (between : stream.pending = none)
    (same : stream.supply session = supplied.flatMap Part.lines) :
    ∃ parts directive next final, Portion registry stream session parts directive next final ∧
      pullLines registry stream.atHand stream session =
        ⟨.ok directive, { next with ended := directive.isNone }, final⟩ := by
  induction layout generalizing stream session with
  | nil =>
      obtain ⟨following, reads, pulled⟩ := pullLines_dry registry same
      have used := (List.append_eq_nil_iff.mp same).1
      refine ⟨[], none, _, following,
        ⟨.nil, reads, between, rfl, nofun, fun _ => ⟨used, rfl⟩⟩, pulled.trans ?_⟩
      unfold finish
      rw [between]
      rfl
  | @cons number part rest fits last behind ih =>
      subst here
      have ends (unclosed : part.Unclosed) : rest.flatMap Part.lines = [] := by
        rw [last unclosed]
        rfl
      obtain ⟨next, middle, reads, pending, dry, -, pulled⟩ := pullLines_part between same fits ends
      have place := reads.place
      have number : next.number = stream.number + part.lines.length := by rw [place]
      have still : next.ended = false := by rw [place, live]
      -- A part without a directive is left behind; the first with one ends the pull.
      cases gives : part.directive? with
      | none =>
          rw [gives] at pulled
          have remains : next.supply middle = rest.flatMap Part.lines :=
            List.append_cancel_left (reads.supply.symm.trans same)
          obtain ⟨parts, directive, later, final, portion, given⟩ :=
            ih number still pending remains
          exact ⟨part :: parts, directive, later, final, .cons fits reads gives portion,
            pulled.trans given⟩
      | some directive =>
          rw [gives] at pulled
          refine ⟨[part], some directive, next, middle, .single fits reads pending dry gives,
            pulled.trans ?_⟩
          rw [Option.isNone_some, ← still]

theorem pull_portion (registry : Registry C) (lines : stream.assembled = [])
    (open_ : stream.closed = false) (live : stream.ended = false) (between : stream.pending = none)
    (readable : ∀ line ∈ stream.supply session, Assembly.Readable line) :
    ∃ parts directive next final, Portion registry stream session parts directive next final ∧
      stream.pull registry session =
        ⟨.ok directive, { next with ended := directive.isNone }, final⟩ := by
  obtain ⟨supplied, layout, same⟩ :=
    Assembly.exists_layout registry stream.number (stream.supply session) readable
  have pulled : stream.pull registry session =
      pullLines registry stream.atHand stream session := by
    unfold pull
    simp [lines, open_, live]
  rw [pulled]
  exact pullLines_portion layout rfl live between same.symm

end Stream

end ExScript
