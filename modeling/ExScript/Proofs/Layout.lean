import ExScript.Proofs.LineRoles

/-!
What a script is made up of. Every line is skipped, reported, a command of its own, or belongs to
one heredoc: as its header, in its body, or at its end.
-/

namespace ExScript

variable {C : Type}

structure HeredocLines (C : Type) where
  header : String
  directive : Directive C
  terminator : String
  body : List String
  closing : Option String

inductive Part (C : Type) where
  | skipped (line : String)
  | reported (line : String)
  | command (line : String) (directive : Directive C)
  | heredoc (part : HeredocLines C)

namespace Part

def lines : Part C → List String
  | skipped line | reported line | command line _ => [line]
  | heredoc part => part.header :: (part.body ++ part.closing.toList)

def directive? : Part C → Option (Directive C)
  | skipped _ | reported _ => none
  | command _ directive => some directive
  | heredoc part => some part.directive

def Unclosed : Part C → Prop
  | skipped _ | reported _ | command _ _ => False
  | heredoc part => part.closing = none

def first : Part C → String
  | skipped line | reported line | command line _ => line
  | heredoc part => part.header

theorem lines_eq (part : Part C) : part.lines = part.first :: part.lines.tail := by
  cases part <;> rfl

theorem lines_ne_nil (part : Part C) : part.lines ≠ [] := by
  cases part <;> exact List.cons_ne_nil _ _

theorem eq_nil_of_lines {parts : List (Part C)} (none : parts.flatMap lines = []) : parts = [] := by
  cases parts with
  | nil => rfl
  | cons part rest =>
      rw [List.flatMap_cons] at none
      exact absurd (List.append_eq_nil_iff.mp none).1 part.lines_ne_nil

end Part

namespace Assembly

def bodyText : List String → String
  | [] => ""
  | line :: rest => dropCarriageReturn line ++ "\n" ++ bodyText rest

theorem addLine_bodyText (heredoc : OpenHeredoc C) (line : String) (body : List String) :
    (heredoc.addLine (dropCarriageReturn line)).header.args ++ bodyText body =
      heredoc.header.args ++ bodyText (line :: body) := by
  simp [OpenHeredoc.addLine, bodyText, String.append_assoc]

structure HeredocFits (registry : Registry C) (number : Nat) (part : HeredocLines C) : Prop where
  opens : ∃ args before, Heads registry number (dropCarriageReturn part.header)
      { part.directive with args } ∧
    part.directive.command.hereDoc = true ∧ LastMarker args before part.terminator ∧
      part.directive.args = before ++ bodyText part.body
  body : ∀ line ∈ part.body, dropCarriageReturn line ≠ part.terminator
  closing : ∀ line ∈ part.closing, dropCarriageReturn line = part.terminator

def Fits (registry : Registry C) (number : Nat) : Part C → Prop
  | .skipped line => CommandLine.isIgnored (dropCarriageReturn line) = true
  | .reported line => Unknown registry (dropCarriageReturn line)
  | .command line directive =>
      Heads registry number (dropCarriageReturn line) directive ∧
        (directive.command.hereDoc = true → Unmarked directive.args)
  | .heredoc part => HeredocFits registry number part

theorem Fits.line {registry : Registry C} {number : Nat} {part : Part C} {directive : Directive C}
    (fits : Fits registry number part) (given : part.directive? = some directive) :
    directive.line = number := by
  cases part with
  | skipped line | reported line => cases given
  | command line directive =>
      cases given
      exact fits.1.number
  | heredoc part =>
      cases given
      obtain ⟨args, before, heads, -⟩ := fits.opens
      exact heads.number

theorem Fits.resolves {registry : Registry C} {number : Nat} {part : Part C}
    {directive : Directive C} (fits : Fits registry number part)
    (given : part.directive? = some directive) :
    ∃ name, registry.resolve name = some directive.command := by
  cases part with
  | skipped line | reported line => cases given
  | command line directive =>
      cases given
      obtain ⟨parsed, -, resolves, -⟩ := fits.1.said
      exact ⟨parsed.name, resolves⟩
  | heredoc part =>
      cases given
      obtain ⟨args, before, heads, -⟩ := fits.opens
      obtain ⟨parsed, -, resolves, -⟩ := heads.said
      exact ⟨parsed.name, resolves⟩

/-- Parts in a row, from the line of a number on. Only the last can be a heredoc left open. -/
inductive Layout (registry : Registry C) : Nat → List (Part C) → Prop where
  | nil {number} : Layout registry number []
  | cons {number part rest} (fits : Fits registry number part)
      (last : part.Unclosed → rest = [])
      (behind : Layout registry (number + part.lines.length) rest) :
      Layout registry number (part :: rest)

/-- Parts in a row, each by the commands that are in force at its first line. -/
inductive Laid (inForce : Nat → Registry C) : Nat → List (Part C) → Prop where
  | nil {number} : Laid inForce number []
  | cons {number part rest} (fits : Fits (inForce number) number part)
      (last : part.Unclosed → rest = [])
      (behind : Laid inForce (number + part.lines.length) rest) :
      Laid inForce number (part :: rest)

theorem Layout.laid {registry : Registry C} {inForce : Nat → Registry C} {number : Nat}
    {parts : List (Part C)} (layout : Layout registry number parts)
    (agrees : ∀ line, number ≤ line → line < number + (parts.flatMap Part.lines).length →
      inForce line = registry) : Laid inForce number parts := by
  induction layout with
  | nil => exact .nil
  | @cons number part rest fits last behind ih =>
      have positive : 0 < part.lines.length := List.length_pos_iff.mpr part.lines_ne_nil
      rw [List.flatMap_cons, List.length_append] at agrees
      rw [← agrees number (Nat.le_refl _) (by omega)] at fits
      exact .cons fits last (ih fun line after before => agrees line (by omega) (by omega))

theorem Laid.append {inForce : Nat → Registry C} {number : Nat} {parts more : List (Part C)}
    (laid : Laid inForce number parts)
    (behind : Laid inForce (number + (parts.flatMap Part.lines).length) more)
    (last : (∃ part ∈ parts, part.Unclosed) → more = []) :
    Laid inForce number (parts ++ more) := by
  induction laid with
  | nil => exact behind
  | @cons number part rest fits ends following ih =>
      rw [List.flatMap_cons, List.length_append, ← Nat.add_assoc] at behind
      refine .cons fits ?_ (ih behind ?_)
      · intro unclosed
        rw [ends unclosed, last ⟨part, List.mem_cons_self, unclosed⟩]
        rfl
      · rintro ⟨other, member, unclosed⟩
        exact last ⟨other, List.mem_cons_of_mem _ member, unclosed⟩

theorem exists_body (terminator : String) (lines : List String) :
    ∃ body closing rest, lines = body ++ (Option.toList closing ++ rest) ∧
      (∀ line ∈ body, dropCarriageReturn line ≠ terminator) ∧
        (∀ line ∈ closing, dropCarriageReturn line = terminator) ∧
          (closing = none → rest = []) := by
  induction lines with
  | nil => exact ⟨[], none, [], rfl, nofun, nofun, fun _ => rfl⟩
  | cons line lines ih =>
      by_cases closes : dropCarriageReturn line = terminator
      · refine ⟨[], some line, lines, rfl, nofun, ?_, nofun⟩
        rintro _ ⟨⟩
        exact closes
      · obtain ⟨body, closing, rest, rfl, inside, last, unclosed⟩ := ih
        refine ⟨line :: body, closing, rest, rfl, ?_, last, unclosed⟩
        intro other member
        rcases List.mem_cons.mp member with rfl | member
        · exact closes
        · exact inside other member

theorem body_cut {terminator : String} {body rest : List String} {closing : Option String}
    (inside : ∀ line ∈ body, dropCarriageReturn line ≠ terminator)
    (closes : ∀ line ∈ closing, dropCarriageReturn line = terminator)
    (last : closing = none → rest = []) :
    (body ++ (closing.toList ++ rest)).takeWhile (dropCarriageReturn · ≠ terminator) = body ∧
      (body ++ (closing.toList ++ rest)).dropWhile (dropCarriageReturn · ≠ terminator) =
        closing.toList ++ rest := by
  have within : ∀ line ∈ body, decide (dropCarriageReturn line ≠ terminator) = true :=
    fun line member => decide_eq_true (inside line member)
  rw [List.takeWhile_append_of_pos within, List.dropWhile_append_of_pos within]
  cases closing with
  | none => simp [last rfl]
  | some line => simp [closes line rfl]

theorem body_unique {terminator : String} {body other rest behind : List String}
    {closing another : Option String}
    (same : body ++ (closing.toList ++ rest) = other ++ (another.toList ++ behind))
    (inside : ∀ line ∈ body, dropCarriageReturn line ≠ terminator)
    (within : ∀ line ∈ other, dropCarriageReturn line ≠ terminator)
    (closes : ∀ line ∈ closing, dropCarriageReturn line = terminator)
    (ends : ∀ line ∈ another, dropCarriageReturn line = terminator)
    (last : closing = none → rest = []) (final : another = none → behind = []) :
    body = other ∧ closing = another ∧ rest = behind := by
  obtain ⟨taken, left⟩ := body_cut inside closes last
  obtain ⟨also, beyond⟩ := body_cut within ends final
  rw [same] at taken left
  refine ⟨taken.symm.trans also, ?_⟩
  have tails : closing.toList ++ rest = another.toList ++ behind := left.symm.trans beyond
  -- An end that is missing leaves nothing, so that it is missing on both sides or on neither.
  cases closing with
  | none =>
      cases another with
      | none => exact ⟨rfl, (last rfl).trans (final rfl).symm⟩
      | some line =>
          rw [last rfl] at tails
          cases tails
  | some line =>
      cases another with
      | none =>
          rw [final rfl] at tails
          cases tails
      | some other =>
          cases tails
          exact ⟨rfl, rfl⟩

theorem exists_part (registry : Registry C) (number : Nat) {line : String} (lines : List String)
    (counts : ∀ digits, CommandLine.parse (dropCarriageReturn line) ≠ .error digits) :
    ∃ part rest, Fits registry number part ∧ line :: lines = part.lines ++ rest ∧
      (part.Unclosed → rest = []) := by
  cases found : headerRole registry number (dropCarriageReturn line) with
  | error fault =>
      obtain ⟨-, digits, failed, -⟩ := headerRole_error_iff.mp found
      exact absurd failed (counts digits)
  | ok role =>
      cases role with
      | ignored => exact ⟨.skipped line, lines, headerRole_ignored_iff.mp found, rfl, False.elim⟩
      | unknown => exact ⟨.reported line, lines, headerRole_unknown_iff.mp found, rfl, False.elim⟩
      | whole directive =>
          exact ⟨.command line directive, lines, headerRole_whole_iff.mp found, rfl, False.elim⟩
      | opens heredoc =>
          obtain ⟨args, heads, takesLines, marker⟩ := headerRole_opens_iff.mp found
          -- The terminator is known from the header, so the body ends in just one place.
          obtain ⟨body, closing, rest, rfl, inside, closes, last⟩ :=
            exists_body heredoc.terminator lines
          let part : HeredocLines C :=
            { header := line, terminator := heredoc.terminator, body, closing
              directive := { heredoc.header with
                args := heredoc.header.args ++ bodyText body } }
          have fits : HeredocFits registry number part :=
            ⟨⟨args, heredoc.header.args, heads, takesLines, marker, rfl⟩, inside, closes⟩
          exact ⟨.heredoc part, rest, fits, by simp [Part.lines, part], last⟩
      | body heredoc => exact absurd rfl ((headerRole_outside found).1 heredoc)
      | closes directive => exact absurd rfl ((headerRole_outside found).2 directive)

theorem exists_laid (inForce : Nat → Registry C) (number : Nat) (lines : List String)
    (counts : ∀ line ∈ lines, ∀ digits,
      CommandLine.parse (dropCarriageReturn line) ≠ .error digits) :
    ∃ parts, Laid inForce number parts ∧ parts.flatMap Part.lines = lines := by
  induction size : lines.length using Nat.strongRecOn generalizing number lines with
  | ind total ih =>
      cases lines with
      | nil => exact ⟨[], .nil, rfl⟩
      | cons line lines =>
          obtain ⟨part, rest, fits, whole, last⟩ :=
            exists_part (inForce number) number lines (counts line List.mem_cons_self)
          rw [whole] at size counts
          have positive : 0 < part.lines.length := List.length_pos_iff.mpr part.lines_ne_nil
          have shorter : rest.length < total := by
            rw [← size, List.length_append]
            omega
          obtain ⟨parts, behind, same⟩ := ih rest.length shorter (number + part.lines.length) rest
            (fun line member => counts line (List.mem_append_right _ member)) rfl
          refine ⟨part :: parts, .cons fits (fun unclosed => ?_) behind, ?_⟩
          · rw [last unclosed] at same
            exact Part.eq_nil_of_lines same
          · rw [List.flatMap_cons, same, whole]

theorem Laid.layout {registry : Registry C} {number : Nat} {parts : List (Part C)}
    (laid : Laid (fun _ => registry) number parts) : Layout registry number parts := by
  induction laid with
  | nil => exact .nil
  | cons fits last behind ih => exact .cons fits last ih

theorem exists_layout (registry : Registry C) (number : Nat) (lines : List String)
    (counts : ∀ line ∈ lines, ∀ digits,
      CommandLine.parse (dropCarriageReturn line) ≠ .error digits) :
    ∃ parts, Layout registry number parts ∧ parts.flatMap Part.lines = lines := by
  obtain ⟨parts, laid, same⟩ := exists_laid (fun _ => registry) number lines counts
  exact ⟨parts, laid.layout, same⟩

inductive Begins : Part C → LineRole C → Prop where
  | skipped (line) : Begins (.skipped line) .ignored
  | reported (line) : Begins (.reported line) .unknown
  | command (line directive) : Begins (.command line directive) (.whole directive)
  | heredoc (part opened) (terminator : part.terminator = opened.terminator)
      (directive : part.directive =
        { opened.header with args := opened.header.args ++ bodyText part.body }) :
      Begins (.heredoc part) (.opens opened)

theorem Fits.begins {registry : Registry C} {number : Nat} {part : Part C}
    (fits : Fits registry number part) :
    ∃ role, Begins part role ∧
      headerRole registry number (dropCarriageReturn part.first) = .ok role := by
  cases part with
  | skipped line => exact ⟨_, .skipped line, headerRole_ignored_iff.mpr fits⟩
  | reported line => exact ⟨_, .reported line, headerRole_unknown_iff.mpr fits⟩
  | command line directive => exact ⟨_, .command line directive, headerRole_whole_iff.mpr fits⟩
  | heredoc part =>
      obtain ⟨⟨args, before, heads, takesLines, marker, extended⟩, -, -⟩ := fits
      refine ⟨.opens ⟨{ part.directive with args := before }, part.terminator⟩, ?_,
        headerRole_opens_iff.mpr ⟨args, heads, takesLines, marker⟩⟩
      refine .heredoc part _ rfl ?_
      rw [← extended]

theorem Fits.unique {registry : Registry C} {number : Nat} {part other : Part C}
    {rest behind : List String} (fits : Fits registry number part)
    (also : Fits registry number other) (same : part.lines ++ rest = other.lines ++ behind)
    (last : part.Unclosed → rest = []) (final : other.Unclosed → behind = []) :
    part = other ∧ rest = behind := by
  obtain ⟨role, begins, found⟩ := fits.begins
  obtain ⟨_, starts, again⟩ := also.begins
  have first : part.first = other.first := by
    rw [part.lines_eq, other.lines_eq] at same
    exact (List.cons_eq_cons.mp same).1
  rw [first, again] at found
  cases found
  cases begins with
  | skipped line | reported line =>
      cases starts
      cases same
      exact ⟨rfl, rfl⟩
  | command line directive =>
      cases starts
      cases same
      exact ⟨rfl, rfl⟩
  | heredoc part opened terminator directive =>
      cases starts with
      | heredoc other _ ends complete =>
          obtain ⟨header, given, token, body, closing⟩ := part
          obtain ⟨_, _, _, lines, end_⟩ := other
          dsimp only at terminator directive ends complete
          subst terminator directive ends complete
          simp only [Part.lines, List.cons_append, List.append_assoc, List.cons.injEq] at same
          obtain ⟨rfl, tails⟩ := same
          obtain ⟨rfl, rfl, rfl⟩ :=
            body_unique tails fits.body also.body fits.closing also.closing last final
          exact ⟨rfl, rfl⟩

theorem Laid.unique {inForce : Nat → Registry C} {number : Nat} {parts others : List (Part C)}
    (laid : Laid inForce number parts) (also : Laid inForce number others)
    (same : parts.flatMap Part.lines = others.flatMap Part.lines) : parts = others := by
  induction laid generalizing others with
  | nil => exact (Part.eq_nil_of_lines same.symm).symm
  | @cons number part rest fits last behind ih =>
      cases also with
      | nil => cases Part.eq_nil_of_lines same
      | @cons _ other others begins final following =>
          rw [List.flatMap_cons, List.flatMap_cons] at same
          have ends (unclosed : part.Unclosed) : rest.flatMap Part.lines = [] := by
            rw [last unclosed]
            rfl
          have closes (unclosed : other.Unclosed) : others.flatMap Part.lines = [] := by
            rw [final unclosed]
            rfl
          obtain ⟨rfl, tails⟩ := fits.unique begins same ends closes
          rw [ih following tails]

theorem Layout.unique {registry : Registry C} {number : Nat} {parts others : List (Part C)}
    (layout : Layout registry number parts) (also : Layout registry number others)
    (same : parts.flatMap Part.lines = others.flatMap Part.lines) : parts = others := by
  have laid : Laid (fun _ => registry) number parts := layout.laid fun _ _ _ => rfl
  exact laid.unique (also.laid fun _ _ _ => rfl) same

theorem Laid.directive_lines {inForce : Nat → Registry C} {number : Nat} {parts : List (Part C)}
    (laid : Laid inForce number parts) :
    (∀ directive ∈ parts.filterMap Part.directive?, number ≤ directive.line) ∧
      (parts.filterMap Part.directive?).Pairwise
        (fun earlier later => earlier.line < later.line) := by
  induction laid with
  | nil => exact ⟨nofun, .nil⟩
  | @cons number part rest fits last behind ih =>
      obtain ⟨later, ordered⟩ := ih
      have positive : 0 < part.lines.length := List.length_pos_iff.mpr part.lines_ne_nil
      cases given : part.directive? with
      | none =>
          rw [List.filterMap_cons_none given]
          refine ⟨fun directive member => ?_, ordered⟩
          have := later directive member
          omega
      | some directive =>
          have place : directive.line = number := fits.line given
          rw [List.filterMap_cons_some given]
          constructor
          · intro other member
            rcases List.mem_cons.mp member with rfl | member
            · omega
            · have := later other member
              omega
          · refine List.pairwise_cons.mpr ⟨?_, ordered⟩
            intro other member
            have := later other member
            omega

theorem Layout.directive_lines {registry : Registry C} {number : Nat} {parts : List (Part C)}
    (layout : Layout registry number parts) :
    (∀ directive ∈ parts.filterMap Part.directive?, number ≤ directive.line) ∧
      (parts.filterMap Part.directive?).Pairwise
        (fun earlier later => earlier.line < later.line) :=
  have laid : Laid (fun _ => registry) number parts := layout.laid fun _ _ _ => rfl
  laid.directive_lines

end Assembly

end ExScript
