import ExScript.Proofs.Supply

/-!
Streams that supply certain parts. Wherever the lines of the parts are, at hand or with whoever is
asked for them, pulls give the directives of the parts one after the other, and each reads the lines
up to the end of its part.
-/

namespace ExScript

variable {C : Type} {registry : Registry C} {parts : List (Part C)} {directive : Directive C}
  {rest : List (Directive C)} {extra : List String}

namespace Part

def behindFirst : List (Part C) → List (Part C)
  | [] => []
  | part :: rest => if part.directive?.isSome then rest else behindFirst rest

theorem behindFirst_given {part : Part C} (given : part.directive? = some directive)
    (others : List (Part C)) : behindFirst (part :: others) = others := by
  rw [behindFirst, given]
  rfl

theorem behindFirst_silent {part : Part C} (given : part.directive? = none)
    (others : List (Part C)) : behindFirst (part :: others) = behindFirst others := by
  rw [behindFirst, given]
  rfl

def Concluded (parts : List (Part C)) : Prop :=
  ∀ part, parts.getLast? = some part → part.directive?.isSome = true

theorem filterMap_behindFirst (gives : parts.filterMap directive? = directive :: rest) :
    (behindFirst parts).filterMap directive? = rest := by
  induction parts with
  | nil => cases gives
  | cons part parts ih =>
      cases given : part.directive? with
      | none =>
          rw [List.filterMap_cons_none given] at gives
          rw [behindFirst_silent given]
          exact ih gives
      | some first =>
          rw [List.filterMap_cons_some given] at gives
          rw [behindFirst_given given]
          exact (List.cons_eq_cons.mp gives).2

theorem behindFirst_suffix (parts : List (Part C)) : behindFirst parts <:+ parts := by
  induction parts with
  | nil => exact List.suffix_rfl
  | cons part parts ih =>
      unfold behindFirst
      split
      · exact List.suffix_cons part parts
      · exact ih.trans (List.suffix_cons part parts)

theorem Concluded.behindFirst (concluded : Concluded parts) :
    Concluded (Part.behindFirst parts) := by
  obtain ⟨front, split⟩ := behindFirst_suffix parts
  intro part last
  refine concluded part ?_
  rw [← split, List.getLast?_append, last]
  rfl

theorem Concluded.eq_nil (concluded : Concluded parts) (none : parts.filterMap directive? = []) :
    parts = [] := by
  rcases List.eq_nil_or_concat parts with empty | ⟨front, part, rfl⟩
  · exact empty
  · have gives := concluded part (by simp)
    obtain ⟨directive, given⟩ := Option.isSome_iff_exists.mp gives
    simp [given] at none

end Part

namespace Stream

variable {stream next : Stream C} {session final : Session}

structure Supplies (registry : Registry C) (parts : List (Part C)) (extra : List String)
    (stream : Stream C) (session : Session) : Prop where
  assembled : stream.assembled = []
  closed : stream.closed = false
  ended : stream.ended = false
  between : stream.pending = none
  layout : Assembly.Layout registry stream.number parts
  whole : ∀ part ∈ parts, ¬ part.Unclosed
  supply : stream.supply session = parts.flatMap Part.lines ++ extra

theorem Supplies.answers (supplies : Supplies registry parts extra stream session)
    (same : final.answers = session.answers) : Supplies registry parts extra stream final := by
  have supply : stream.supply final = stream.supply session := by
    unfold Stream.supply asking
    rw [same]
  exact ⟨supplies.assembled, supplies.closed, supplies.ended, supplies.between, supplies.layout,
    supplies.whole, supply.trans supplies.supply⟩

theorem Reads.supplies {lines : List String} {shown : List Message} {behind : List (Part C)}
    (reads : Reads stream session lines shown next final)
    (supplies : Supplies registry parts extra stream session) (between : next.pending = none)
    (layout : Assembly.Layout registry (stream.number + lines.length) behind)
    (whole : ∀ part ∈ behind, ¬ part.Unclosed)
    (split : parts.flatMap Part.lines = lines ++ behind.flatMap Part.lines) :
    Supplies registry behind extra next final := by
  have place := reads.place
  have number : next.number = stream.number + lines.length := by rw [place]
  refine ⟨?_, ?_, ?_, between, ?_, whole, ?_⟩
  · rw [place]
    exact supplies.assembled
  · rw [place]
    exact supplies.closed
  · rw [place]
    exact supplies.ended
  · rw [number]
    exact layout
  · have supplied := reads.supply.symm.trans supplies.supply
    rw [split, List.append_assoc] at supplied
    exact List.append_cancel_left supplied

structure Fetched (registry : Registry C) (parts : List (Part C)) (extra : List String)
    (stream : Stream C) (session : Session) (next : Stream C) (final : Session) : Prop where
  supplies : Supplies registry (Part.behindFirst parts) extra next final
  still : next.prompting.isSome = stream.prompting.isSome
  reads : ∃ lines shown, Reads stream session lines shown next final ∧
    parts.flatMap Part.lines = lines ++ (Part.behindFirst parts).flatMap Part.lines

theorem Supplies.pull_eq (supplies : Supplies registry parts extra stream session) :
    stream.pull registry session = pullLines registry stream.atHand stream session := by
  unfold Stream.pull
  simp only [supplies.closed, supplies.ended, supplies.assembled, Bool.or_self,
    Bool.false_eq_true, ↓reduceIte]

theorem Supplies.fetches (supplies : Supplies registry parts extra stream session)
    (gives : parts.filterMap Part.directive? = directive :: rest) :
    ∃ next final, pullLines registry stream.atHand stream session =
        ⟨.ok (some directive), next, final⟩ ∧
      Fetched registry parts extra stream session next final := by
  induction parts generalizing stream session with
  | nil => cases gives
  | cons part parts ih =>
      have closed := supplies.whole part List.mem_cons_self
      have others : ∀ part ∈ parts, ¬ part.Unclosed :=
        fun other member => supplies.whole other (List.mem_cons_of_mem _ member)
      have supplied := supplies.supply
      rw [List.flatMap_cons, List.append_assoc] at supplied
      cases supplies.layout with
      | cons fits last behind =>
          obtain ⟨next, middle, reads, pending, -, still, pulled⟩ :=
            pullLines_part supplies.between supplied fits fun unclosed => absurd unclosed closed
          have onward := reads.supplies supplies pending behind others List.flatMap_cons
          cases given : part.directive? with
          | some first =>
              rw [List.filterMap_cons_some given] at gives
              obtain ⟨rfl, -⟩ := List.cons_eq_cons.mp gives
              have first := Part.behindFirst_given given parts
              rw [given] at pulled
              refine ⟨next, middle, pulled, ?_, still closed, part.lines, _, reads, ?_⟩
              · rw [first]
                exact onward
              · rw [first]
                rfl
          | none =>
              rw [List.filterMap_cons_none given] at gives
              have later := Part.behindFirst_silent given parts
              obtain ⟨after, final, found, ⟨supplying, same, lines, shown, more, split⟩⟩ :=
                ih onward gives
              rw [given] at pulled
              refine ⟨after, final, pulled.trans found, ?_, same.trans (still closed),
                part.lines ++ lines, _, reads.trans more, ?_⟩
              · rw [later]
                exact supplying
              · rw [later, List.flatMap_cons, split, List.append_assoc]

theorem Supplies.pull (supplies : Supplies registry parts extra stream session)
    (gives : parts.filterMap Part.directive? = directive :: rest) :
    ∃ next final, stream.pull registry session = ⟨.ok (some directive), next, final⟩ ∧
      Fetched registry parts extra stream session next final := by
  rw [supplies.pull_eq]
  exact supplies.fetches gives

theorem Supplies.pull_dry (supplies : Supplies registry [] [] stream session) :
    ∃ next final, stream.pull registry session = ⟨.ok none, next, final⟩ := by
  obtain ⟨following, -, pulled⟩ := pullLines_dry registry supplies.supply
  have finished : finish { stream with prompting := none } following =
      ⟨.ok none, { stream with prompting := none, ended := true }, following⟩ := by
    unfold finish
    dsimp only
    rw [supplies.between]
  exact ⟨_, _, supplies.pull_eq.trans (pulled.trans finished)⟩

theorem length_directives_le (parts : List (Part C)) :
    (parts.filterMap Part.directive?).length ≤ (parts.flatMap Part.lines).length := by
  induction parts with
  | nil => exact Nat.le_refl _
  | cons part parts ih =>
      have positive : 0 < part.lines.length := List.length_pos_iff.mpr part.lines_ne_nil
      rw [List.flatMap_cons, List.length_append]
      cases given : part.directive? with
      | none =>
          rw [List.filterMap_cons_none given]
          omega
      | some directive =>
          rw [List.filterMap_cons_some given, List.length_cons]
          omega

theorem length_answered_le (answers : List (Option String)) :
    (answered answers).length ≤ answers.length := by
  induction answers with
  | nil => exact Nat.le_refl _
  | cons answer answers ih =>
      cases answer with
      | none => exact Nat.zero_le _
      | some text => exact Nat.succ_le_succ ih

theorem supply_length_lt (stream : Stream C) (session : Session) :
    (stream.supply session).length < stream.remaining := by
  unfold supply asking remaining
  rw [List.length_append]
  cases stream.prompting with
  | none =>
      dsimp only [List.length_nil]
      omega
  | some prompting =>
      have fewer := length_answered_le (session.answers.take prompting.2)
      have taken := List.length_take_le prompting.2 session.answers
      dsimp only
      omega

theorem Supplies.enough (supplies : Supplies registry parts extra stream session)
    (gives : parts.filterMap Part.directive? = rest) : rest.length < stream.remaining + 1 := by
  have fewer := length_directives_le parts
  have bound := supply_length_lt stream session
  rw [supplies.supply, List.length_append] at bound
  rw [gives] at fewer
  omega

/-- Every line of the parts that is not at hand costs one request; together with those before, there
are as many as `total` when all parts are read. -/
structure Counted (parts : List (Part C)) (total : Nat) (stream : Stream C) (session : Session) :
    Prop where
  asks : stream.prompting.isSome = true
  hand : stream.atHand.length ≤ (parts.flatMap Part.lines).length
  count : session.asked.size + (parts.flatMap Part.lines).length = total + stream.atHand.length

theorem Counted.asked {total : Nat} (counted : Counted parts total stream session)
    (same : final.asked = session.asked) : Counted parts total stream final :=
  ⟨counted.asks, counted.hand, by rw [same]; exact counted.count⟩

theorem Fetched.counted {total : Nat}
    (fetched : Fetched registry parts extra stream session next final)
    (counted : Counted parts total stream session) :
    Counted (Part.behindFirst parts) total next final := by
  obtain ⟨-, still, lines, shown, reads, split⟩ := fetched
  have asks : next.prompting.isSome = true := still.trans counted.asks
  have asked := (reads.asked asks).2
  have hand : next.atHand.length = stream.atHand.length - lines.length := by
    rw [reads.place, List.length_drop]
  have length := congrArg List.length split
  have before := counted.hand
  have count := counted.count
  rw [List.length_append] at length
  refine ⟨asks, by omega, by omega⟩

theorem Counted.total {total : Nat} (counted : Counted ([] : List (Part C)) total stream session) :
    session.asked.size = total := by
  have hand := counted.hand
  have count := counted.count
  rw [List.flatMap_nil, List.length_nil] at hand count
  omega

end Stream

end ExScript
