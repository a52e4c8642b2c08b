import ExScript.Proofs.Pulling
import ExScript.Proofs.Supply

/-!
The cursor of a stream in the hands of several readers. Whoever pulls and whoever closes, in
whatever order, the directives that they get are those of the lines read so far.
-/

namespace ExScript

variable {C : Type}

namespace Stream

inductive Use (C : Type) where
  | pulled (stream : Stream C) (registry : Registry C) (session : Session)
  | closed

namespace Use

def handed? : Use C → Option (Directive C)
  | pulled stream registry session =>
      match (stream.pull registry session).result with
      | .ok directive => directive
      | .error _ => none
  | closed => none

def lines : Use C → List String
  | pulled stream registry session =>
      let left := stream.pull registry session
      (stream.supply session).take
        ((stream.supply session).length - (left.stream.supply left.session).length)
  | closed => []

def asking : Use C → List String
  | pulled stream _ session => stream.asking session
  | closed => []

def Agrees (inForce : Nat → Registry C) : Use C → Prop
  | pulled stream registry session =>
      ∀ line, stream.number ≤ line → line < (stream.pull registry session).stream.number →
        inForce line = registry
  | closed => True

def Under (registry : Registry C) : Use C → Prop
  | pulled _ other _ => other = registry
  | closed => True

theorem Under.agrees {registry : Registry C} {use : Use C} (under : use.Under registry) :
    use.Agrees fun _ => registry := by
  cases use with
  | pulled stream other session => exact fun _ _ _ => under.symm
  | closed => trivial

end Use

/-- The uses that lead from one state of a stream to another. The commands and the session may have
changed from one pull to the next. -/
inductive Uses (start : Stream C) : List (Use C) → Stream C → Prop where
  | nil : Uses start [] start
  | pull {history stream} (before : Uses start history stream) (registry session) :
      Uses start (history ++ [.pulled stream registry session])
        (stream.pull registry session).stream
  | close {history stream} (before : Uses start history stream) :
      Uses start (history ++ [.closed]) stream.close

theorem Uses.append {start stream last : Stream C} {history more : List (Use C)}
    (uses : Uses start history stream) (behind : Uses stream more last) :
    Uses start (history ++ more) last := by
  induction behind with
  | nil =>
      rw [List.append_nil]
      exact uses
  | pull before registry session ih =>
      rw [← List.append_assoc]
      exact ih.pull registry session
  | close before ih =>
      rw [← List.append_assoc]
      exact ih.close

/-- What the uses of a stream come to: the lines read, the parts that they make up, and the
directives handed out. -/
structure Accounts (start : Stream C) (inForce : Nat → Registry C) (history : List (Use C))
    (stream : Stream C) (parts : List (Part C)) : Prop where
  laid : Assembly.Laid inForce start.number parts
  lines : parts.flatMap Part.lines = history.flatMap Use.lines
  handed : parts.filterMap Part.directive? = history.filterMap Use.handed?
  place : stream = { start with
    atHand := start.atHand.drop (history.flatMap Use.lines).length
    prompting := stream.prompting
    number := start.number + (history.flatMap Use.lines).length
    ended := stream.ended, closed := stream.closed }
  first : start.atHand <+: history.flatMap Use.lines ++ stream.atHand
  given : start.prompting = none →
    stream.prompting = none ∧ start.atHand = history.flatMap Use.lines ++ stream.atHand
  spent : stream.ended ∨ (∃ part ∈ parts, part.Unclosed) → stream.Dry

variable {start stream next : Stream C} {registry : Registry C} {session final : Session}
  {history : List (Use C)} {parts : List (Part C)} {inForce : Nat → Registry C}

theorem Reads.atHand {lines : List String} {shown : List Message}
    (reads : Reads stream session lines shown next final) :
    stream.atHand <+: lines ++ next.atHand := by
  have same := reads.supply
  rw [reads.place]
  unfold Stream.supply at same
  dsimp only
  rcases List.append_eq_append_iff.mp same with ⟨more, split, -⟩ | ⟨left, split, -⟩
  · rw [split, List.append_assoc]
    exact List.prefix_append _ _
  · simp [split]

theorem Reads.given {lines : List String} {shown : List Message}
    (reads : Reads stream session lines shown next final) (given : stream.prompting = none) :
    next.prompting = none ∧ stream.atHand = lines ++ next.atHand := by
  have after := (reads.unasked given).1
  refine ⟨after, ?_⟩
  rw [← supply_given given session, reads.supply, supply_given after]

theorem Use.lines_past (past : stream.closed ∨ stream.ended) (registry : Registry C)
    (session : Session) : (Use.pulled stream registry session).lines = [] := by
  unfold lines
  dsimp only
  rw [pull_past past]
  simp

theorem Use.lines_portion {directive : Option (Directive C)} {ended : Bool}
    (portion : Portion registry stream session parts directive next final)
    (pulled : stream.pull registry session = ⟨.ok directive, { next with ended }, final⟩) :
    (Use.pulled stream registry session).lines = parts.flatMap Part.lines := by
  have left : ({ next with ended } : Stream C).supply final = next.supply final := rfl
  unfold lines
  dsimp only
  rw [pulled]
  dsimp only
  rw [left, portion.reads.supply]
  simp

namespace Accounts

theorem nil (live : start.ended = false) :
    Accounts start inForce [] start ([] : List (Part C)) where
  laid := .nil
  lines := rfl
  handed := rfl
  place := rfl
  first := List.prefix_refl _
  given none := ⟨none, rfl⟩
  spent := by
    rintro (ended | ⟨part, member, -⟩)
    · cases live.symm.trans ended
    · cases member

theorem extend {use : Use C} {more : List (Part C)}
    (accounts : Accounts start inForce history stream parts)
    (laid : Assembly.Laid inForce stream.number more)
    (behind : (∃ part ∈ parts, part.Unclosed) → more = [])
    (lines : more.flatMap Part.lines = use.lines)
    (handed : more.filterMap Part.directive? = use.handed?.toList)
    (place : next = { stream with
      atHand := stream.atHand.drop use.lines.length, prompting := next.prompting
      number := stream.number + use.lines.length, ended := next.ended, closed := next.closed })
    (first : stream.atHand <+: use.lines ++ next.atHand)
    (given : stream.prompting = none →
      next.prompting = none ∧ stream.atHand = use.lines ++ next.atHand)
    (spent : next.ended ∨ (∃ part ∈ parts ++ more, part.Unclosed) → next.Dry) :
    Accounts start inForce (history ++ [use]) next (parts ++ more) := by
  have read : (history ++ [use]).flatMap Use.lines = history.flatMap Use.lines ++ use.lines := by
    rw [List.flatMap_append, List.flatMap_singleton]
  have earlier := accounts.place
  have number : stream.number = start.number + (parts.flatMap Part.lines).length := by
    rw [earlier, accounts.lines]
  refine ⟨accounts.laid.append (number ▸ laid) behind, ?_, ?_, ?_, ?_, ?_, spent⟩
  · rw [List.flatMap_append, accounts.lines, lines, read]
  · rw [List.filterMap_append, List.filterMap_append, accounts.handed, handed]
    cases gives : use.handed? <;> simp [gives]
  · rw [read, List.length_append, ← List.drop_drop, ← Nat.add_assoc, place, earlier]
  · rw [read, List.append_assoc]
    exact accounts.first.trans ((List.prefix_append_right_inj _).mpr first)
  · intro none
    obtain ⟨still, before⟩ := accounts.given none
    obtain ⟨last, after⟩ := given still
    exact ⟨last, by rw [before, after, read, List.append_assoc]⟩

theorem close (accounts : Accounts start inForce history stream parts) :
    Accounts start inForce (history ++ [.closed]) stream.close parts := by
  have closed : Accounts start inForce (history ++ [.closed]) stream.close (parts ++ []) :=
    accounts.extend .nil (fun _ => rfl) rfl rfl rfl (List.prefix_refl _)
      (fun none => ⟨none, rfl⟩) (by rw [List.append_nil]; exact accounts.spent)
  rwa [List.append_nil] at closed

theorem past (accounts : Accounts start inForce history stream parts)
    (past : stream.closed ∨ stream.ended) (registry : Registry C) (session : Session) :
    Accounts start inForce (history ++ [.pulled stream registry session]) stream parts := by
  have nothing := Use.lines_past past registry session
  have none : (Use.pulled stream registry session).handed? = none := by
    unfold Use.handed?
    dsimp only
    rw [pull_past past]
  have same : Accounts start inForce (history ++ [.pulled stream registry session]) stream
      (parts ++ []) := by
    refine accounts.extend .nil (fun _ => rfl) ?_ ?_ ?_ ?_ ?_ ?_
    · rw [nothing]
      rfl
    · rw [none]
      rfl
    · rw [nothing]
      rfl
    · rw [nothing]
      exact List.prefix_refl _
    · intro given
      rw [nothing]
      exact ⟨given, rfl⟩
    · rw [List.append_nil]
      exact accounts.spent
  rwa [List.append_nil] at same

theorem pull {more : List (Part C)} {directive : Option (Directive C)}
    (accounts : Accounts start inForce history stream parts) (between : stream.pending = none)
    (portion : Portion registry stream session more directive next final)
    (pulled : stream.pull registry session =
      ⟨.ok directive, { next with ended := directive.isNone }, final⟩)
    (agrees : (Use.pulled stream registry session).Agrees inForce) :
    Accounts start inForce (history ++ [.pulled stream registry session])
      { next with ended := directive.isNone } (parts ++ more) := by
  have lines := Use.lines_portion portion pulled
  have reads := portion.reads
  have place := reads.place
  have number : next.number = stream.number + (more.flatMap Part.lines).length := by rw [place]
  -- Only the end of all lines leaves a heredoc open, so there are no parts behind one.
  have nothing (unclosed : ∃ part ∈ parts, part.Unclosed) : more = [] := by
    have dry := (accounts.spent (.inr unclosed)).supply session
    exact Part.eq_nil_of_lines (List.append_eq_nil_iff.mp (reads.supply.symm.trans dry)).1
  refine accounts.extend ?_ nothing lines.symm ?_ ?_ ?_ ?_ ?_
  · refine portion.layout.laid fun line after before => agrees line after ?_
    rw [pulled]
    exact Nat.lt_of_lt_of_eq before number.symm
  · rw [portion.directives]
    unfold Use.handed?
    dsimp only
    rw [pulled]
  · rw [lines, place, portion.between, between]
  · rw [lines]
    exact reads.atHand
  · intro given
    rw [lines]
    exact reads.given given
  · rintro (ended | ⟨part, member, unclosed⟩)
    · exact portion.dry (.inl (Option.isNone_iff_eq_none.mp ended))
    · rcases List.mem_append.mp member with member | member
      · have none : directive.toList = [] := by
          rw [← portion.directives, nothing ⟨part, member, unclosed⟩]
          rfl
        exact portion.dry (.inl (Option.toList_eq_nil_iff.mp none))
      · exact portion.dry (.inr ⟨part, member, unclosed⟩)

end Accounts

structure Fresh (stream : Stream C) : Prop where
  assembled : stream.assembled = []
  pending : stream.pending = none
  ended : stream.ended = false

theorem ofSource_fresh (source : LineSource) (tracked reports : Bool) :
    Fresh (ofSource source tracked reports : Stream C) := by
  unfold ofSource
  split <;> exact ⟨rfl, rfl, rfl⟩

theorem ofSource_number (source : LineSource) (tracked reports : Bool) :
    (ofSource source tracked reports : Stream C).number = 1 := by
  unfold ofSource
  split <;> rfl

theorem ofSource_reporting (source : LineSource) (tracked reports : Bool) :
    (ofSource source tracked reports : Stream C).reporting = ⟨source.path, tracked, reports⟩ := by
  unfold ofSource
  split <;> rfl

theorem ofSource_atHand (source : LineSource) (tracked reports : Bool) :
    (ofSource source tracked reports : Stream C).atHand ⊆ source.atHand := by
  unfold ofSource
  split
  · exact List.Subset.refl _
  · exact List.nil_subset _

structure Legible (start : Stream C) (history : List (Use C)) : Prop where
  fresh : start.Fresh
  lines : ∀ line ∈ start.atHand, Assembly.Readable line
  answers : ∀ use ∈ history, ∀ line ∈ use.asking, Assembly.Readable line

theorem Legible.before {use : Use C} (legible : Legible start (history ++ [use])) :
    Legible start history :=
  ⟨legible.fresh, legible.lines, fun earlier member =>
    legible.answers earlier (List.mem_append_left _ member)⟩

structure Between (start stream : Stream C) : Prop where
  assembled : stream.assembled = []
  pending : stream.pending = none
  hand : stream.atHand <:+ start.atHand

theorem Between.readable (between : Between start stream)
    (lines : ∀ line ∈ start.atHand, Assembly.Readable line)
    (answers : ∀ line ∈ stream.asking session, Assembly.Readable line) :
    ∀ line ∈ stream.supply session, Assembly.Readable line := by
  intro line member
  rcases List.mem_append.mp member with member | member
  · exact lines line (between.hand.subset member)
  · exact answers line member

theorem Between.pull (between : Between start stream)
    (lines : ∀ line ∈ start.atHand, Assembly.Readable line)
    (answers : ∀ line ∈ stream.asking session, Assembly.Readable line) (registry : Registry C)
    (live : ¬ (stream.closed ∨ stream.ended)) :
    ∃ more directive next final, Portion registry stream session more directive next final ∧
      stream.pull registry session =
        ⟨.ok directive, { next with ended := directive.isNone }, final⟩ := by
  simp only [not_or, Bool.not_eq_true] at live
  exact pull_portion registry between.assembled live.1 live.2 between.pending
    (between.readable lines answers)

theorem Uses.between (uses : Uses start history stream) (legible : Legible start history) :
    Between start stream := by
  induction uses with
  | nil => exact ⟨legible.fresh.assembled, legible.fresh.pending, List.suffix_rfl⟩
  | @pull history stream before registry session ih =>
      have between := ih legible.before
      by_cases past : stream.closed ∨ stream.ended
      · rw [pull_past past]
        exact between
      · obtain ⟨more, directive, next, final, portion, pulled⟩ :=
          between.pull legible.lines (legible.answers _ List.mem_concat_self) registry past
        have place := portion.reads.place
        rw [pulled]
        refine ⟨?_, portion.between, ?_⟩
        · rw [place]
          exact between.assembled
        · rw [place]
          exact (List.drop_suffix _ _).trans between.hand
  | close before ih =>
      have between := ih legible.before
      exact ⟨between.assembled, between.pending, between.hand⟩

theorem Uses.pull_cases (uses : Uses start history stream)
    (legible : Legible start (history ++ [.pulled stream registry session])) :
    (stream.closed ∨ stream.ended) ∨
      ∃ more directive next final, Portion registry stream session more directive next final ∧
        stream.pull registry session =
          ⟨.ok directive, { next with ended := directive.isNone }, final⟩ := by
  by_cases past : stream.closed ∨ stream.ended
  · exact .inl past
  · exact .inr ((uses.between legible.before).pull legible.lines
      (legible.answers _ List.mem_concat_self) registry past)

theorem Uses.accounts (uses : Uses start history stream) (legible : Legible start history)
    (agrees : ∀ use ∈ history, use.Agrees inForce) :
    ∃ parts, Accounts start inForce history stream parts := by
  induction uses with
  | nil => exact ⟨[], .nil legible.fresh.ended⟩
  | @pull history stream before registry session ih =>
      rw [List.forall_mem_append, List.forall_mem_singleton] at agrees
      obtain ⟨parts, accounts⟩ := ih legible.before agrees.1
      rcases before.pull_cases legible with past | ⟨more, directive, next, final, portion, pulled⟩
      · rw [pull_past past]
        exact ⟨parts, accounts.past past registry session⟩
      · rw [pulled]
        exact ⟨parts ++ more,
          accounts.pull (before.between legible.before).pending portion pulled agrees.2⟩
  | close before ih =>
      rw [List.forall_mem_append] at agrees
      obtain ⟨parts, accounts⟩ := ih legible.before agrees.1
      exact ⟨parts, accounts.close⟩

theorem Uses.number_le (uses : Uses start history stream)
    (legible : Legible start (history ++ [.pulled stream registry session])) :
    stream.number ≤ (stream.pull registry session).stream.number := by
  rcases uses.pull_cases legible with past | ⟨more, directive, next, final, portion, pulled⟩
  · exact Nat.le_of_eq (by rw [pull_past past])
  · rw [pulled, portion.reads.place]
    exact Nat.le_add_right _ _

/-- No line is read twice, so that there is one registry for each of them. -/
theorem Uses.exists_inForce (uses : Uses start history stream) (legible : Legible start history) :
    ∃ inForce : Nat → Registry C, ∀ other, (∀ line < stream.number, other line = inForce line) →
      ∀ use ∈ history, use.Agrees other := by
  induction uses with
  | nil => exact ⟨fun _ => Registry.empty, fun _ _ => List.forall_mem_nil _⟩
  | @pull history stream before registry session ih =>
      obtain ⟨inForce, agrees⟩ := ih legible.before
      -- Lines from the place of this pull on are new, so the registry of those can be chosen.
      have later := before.number_le legible
      refine ⟨fun line => if line < stream.number then inForce line else registry, ?_⟩
      intro other same
      rw [List.forall_mem_append, List.forall_mem_singleton]
      constructor
      · refine agrees other fun line earlier => ?_
        exact (same line (Nat.lt_of_lt_of_le earlier later)).trans (if_pos earlier)
      · intro line reached before
        exact (same line before).trans (if_neg (Nat.not_lt_of_le reached))
  | close before ih =>
      obtain ⟨inForce, agrees⟩ := ih legible.before
      refine ⟨inForce, fun other same => ?_⟩
      rw [List.forall_mem_append, List.forall_mem_singleton]
      exact ⟨agrees other same, trivial⟩

def Use.Ends : Use C → Prop
  | pulled stream registry session => (stream.pull registry session).result = .ok none
  | closed => True

theorem Uses.past (uses : Uses start history stream) (legible : Legible start history)
    (ends : ∃ use ∈ history, use.Ends) : stream.closed ∨ stream.ended := by
  induction uses with
  | nil =>
      obtain ⟨use, member, -⟩ := ends
      cases member
  | @pull history stream before registry session ih =>
      rcases before.pull_cases legible with past | ⟨more, directive, next, final, portion, pulled⟩
      · rw [pull_past past]
        exact past
      · obtain ⟨use, member, last⟩ := ends
        rcases List.mem_append.mp member with member | member
        · have past := ih legible.before ⟨use, member, last⟩
          rw [pull_past past]
          exact past
        · cases List.mem_singleton.mp member
          have none : (stream.pull registry session).result = .ok none := last
          rw [pulled] at none ⊢
          cases none
          exact .inr rfl
  | close before ih => exact .inl rfl

theorem Accounts.all_laid (accounts : Accounts start inForce history stream parts)
    (session : Session) (readable : ∀ line ∈ stream.supply session, Assembly.Readable line) :
    ∃ behind, ∀ whole, Assembly.Laid inForce start.number whole ∧
      whole.flatMap Part.lines = history.flatMap Use.lines ++ stream.supply session ↔
        whole = parts ++ behind := by
  obtain ⟨behind, laid, left⟩ := Assembly.exists_laid inForce stream.number
    (stream.supply session) readable
  have number : stream.number = start.number + (parts.flatMap Part.lines).length := by
    rw [accounts.place, accounts.lines]
  rw [number] at laid
  have all := accounts.laid.append laid fun unclosed =>
    Part.eq_nil_of_lines (left.trans ((accounts.spent (.inr unclosed)).supply session))
  have same : (parts ++ behind).flatMap Part.lines =
      history.flatMap Use.lines ++ stream.supply session := by
    rw [List.flatMap_append, accounts.lines, left]
  refine ⟨behind, fun whole => ⟨fun ⟨also, lines⟩ => also.unique all (lines.trans same.symm), ?_⟩⟩
  rintro rfl
  exact ⟨all, same⟩

/-- With the same commands all along, what is handed out is the beginning of one pass. -/
theorem Uses.isPrefix_passes {source : LineSource} {tracked reports : Bool}
    (uses : Uses (ofSource source tracked reports) history stream)
    (legible : Legible (ofSource source tracked reports : Stream C) history) (given : source.Given)
    (under : ∀ use ∈ history, use.Under registry) {directives : List (Directive C)}
    (passes : (ofSource source tracked reports).Passes registry session directives final) :
    history.filterMap Use.handed? <+: directives := by
  have start : (ofSource source tracked reports : Stream C) =
      Reporting.stream ⟨source.path, tracked, reports⟩ 1 source.atHand :=
    ofSource_given given tracked reports
  have readable := legible.lines
  rw [start] at readable
  obtain ⟨whole, layout, same⟩ := Assembly.exists_layout registry 1 source.atHand readable
  have one := Reporting.passes ⟨source.path, tracked, reports⟩ layout session
  rw [same, ← start] at one
  obtain ⟨rfl, -⟩ := passes.unique one
  obtain ⟨parts, accounts⟩ := uses.accounts legible fun use member => (under use member).agrees
  obtain ⟨none, split⟩ := accounts.given (by rw [start]; rfl)
  have supply := supply_given none session
  obtain ⟨behind, all⟩ := accounts.all_laid session fun line member => by
    rw [supply] at member
    exact legible.lines line (split ▸ List.mem_append_right _ member)
  rw [start] at all split
  have laid : Assembly.Laid (fun _ => registry) 1 whole := layout.laid fun _ _ _ => rfl
  have begins : whole = parts ++ behind := by
    refine (all whole).mp ⟨laid, ?_⟩
    rw [same, supply]
    exact split
  rw [← accounts.handed, begins, List.filterMap_append]
  exact List.prefix_append _ _

theorem Accounts.script (accounts : Accounts start inForce history stream parts)
    {more : List (Part C)} {directive : Directive C}
    (portion : Portion registry stream session more (some directive) next final) :
    final.script = start.reporting.lineAt
      (start.number + (history.flatMap Use.lines ++ more.flatMap Part.lines).length - 1)
      session.script := by
  obtain ⟨part, last, -⟩ := portion.last directive rfl
  have some : more.flatMap Part.lines ≠ [] := by
    intro none
    rw [Part.eq_nil_of_lines none] at last
    cases last
  have place := accounts.place
  have same : stream.reporting = start.reporting := by
    rw [place]
    rfl
  have number : stream.number = start.number + (history.flatMap Use.lines).length := by rw [place]
  rw [portion.reads.line, if_neg some, same, number, List.length_append, Nat.add_assoc]

end Stream

end ExScript
