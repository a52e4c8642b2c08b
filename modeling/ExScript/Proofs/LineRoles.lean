import ExScript.Proofs.Markers
import ExScript.Script.Assembly
import ExScript.Text.Lines

/-!
What a line outside of heredocs can be: ignored, unknown, or one that calls for a command, with or
without a heredoc behind it.
-/

namespace ExScript

variable {C : Type}

namespace Assembly

theorem dropCarriageReturn_unbroken {line : String}
    (unbroken : Text.Unbroken line.toList) : dropCarriageReturn line = line := by
  unfold dropCarriageReturn
  split
  next rest ends =>
    have member : '\r' ∈ line.toList := by
      rw [← List.mem_reverse, ends]
      exact List.mem_cons_self
    exact absurd rfl (unbroken _ member).1
  next => rfl

def Unknown (registry : Registry C) (line : String) : Prop :=
  CommandLine.isIgnored line = false ∧
    (CommandLine.parse line = .ok none ∨
      ∃ parsed, CommandLine.parse line = .ok (some parsed) ∧ registry.resolve parsed.name = none)

/-- A line that calls for a command, and the directive with just what the line says. -/
structure Heads (registry : Registry C) (number : Nat) (line : String) (directive : Directive C) :
    Prop where
  heeded : CommandLine.isIgnored line = false
  number : directive.line = number
  said : ∃ parsed, CommandLine.parse line = .ok (some parsed) ∧
    registry.resolve parsed.name = some directive.command ∧
      directive.count = parsed.count ∧ directive.bang = parsed.bang ∧ directive.args = parsed.args

def LastMarker (args before token : String) : Prop :=
  Heredoc.LastMark args.toList before.toList token.toList

def Unmarked (args : String) : Prop :=
  ∀ before token, ¬ Heredoc.Marks args.toList before token

theorem cut?_eq_some_iff {args before token : String} :
    Heredoc.cut? args = some (before, token) ↔ LastMarker args before token := by
  unfold Heredoc.cut? LastMarker
  rw [← Heredoc.cutChars?_eq_some_iff]
  cases Heredoc.cutChars? args.toList with
  | none => simp
  | some parts =>
      obtain ⟨front, mark⟩ := parts
      simp only [Option.map_some, Option.some.injEq, Prod.mk.injEq]
      constructor
      · rintro ⟨rfl, rfl⟩
        simp
      · rintro ⟨rfl, rfl⟩
        simp

theorem cut?_eq_none_iff {args : String} : Heredoc.cut? args = none ↔ Unmarked args := by
  unfold Heredoc.cut? Unmarked
  rw [Option.map_eq_none_iff, Heredoc.cutChars?_eq_none_iff]

section Roles

variable {registry : Registry C} {number : Nat} {line : String}

theorem headerRole_ignored_iff :
    headerRole registry number line = .ok .ignored ↔ CommandLine.isIgnored line = true := by
  unfold headerRole
  constructor
  · intro found
    split at found
    next ignored => exact ignored
    next =>
      split at found
      · cases found
      · cases found
      · split at found
        · cases found
        · dsimp only at found
          split at found <;> cases found
  · intro ignored
    simp [ignored]

theorem headerRole_unknown_iff :
    headerRole registry number line = .ok .unknown ↔ Unknown registry line := by
  unfold headerRole Unknown
  cases ignored : CommandLine.isIgnored line with
  | true => simp
  | false =>
      simp only [Bool.false_eq_true, ↓reduceIte, true_and]
      cases parses : CommandLine.parse line with
      | error digits => simp
      | ok found =>
          cases found with
          | none => simp
          | some parsed =>
              dsimp only
              cases resolved : registry.resolve parsed.name with
              | none => simp [resolved]
              | some command =>
                  dsimp only
                  split <;> simp [resolved]

def calledFor (number : Nat) (command : Descriptor C) (parsed : CommandLine) : Directive C :=
  { line := number, command, count := parsed.count, bang := parsed.bang, args := parsed.args }

theorem heads_iff {directive : Directive C} :
    Heads registry number line directive ↔
      CommandLine.isIgnored line = false ∧ ∃ parsed command,
        CommandLine.parse line = .ok (some parsed) ∧ registry.resolve parsed.name = some command ∧
          directive = calledFor number command parsed := by
  constructor
  · rintro ⟨heeded, place, parsed, parses, resolves, counted, banged, given⟩
    refine ⟨heeded, parsed, directive.command, parses, resolves, ?_⟩
    obtain ⟨at_, command, count, bang, args⟩ := directive
    dsimp only at place counted banged given
    subst place counted banged given
    rfl
  · rintro ⟨heeded, parsed, command, parses, resolves, rfl⟩
    exact ⟨heeded, rfl, parsed, parses, resolves, rfl, rfl, rfl⟩

theorem headerRole_calledFor {parsed : CommandLine} {command : Descriptor C}
    (heeded : CommandLine.isIgnored line = false)
    (parses : CommandLine.parse line = .ok (some parsed))
    (resolves : registry.resolve parsed.name = some command) :
    headerRole registry number line =
      match if command.hereDoc then Heredoc.cut? parsed.args else none with
      | some (before, terminator) =>
          .ok (.opens ⟨{ calledFor number command parsed with args := before }, terminator⟩)
      | none => .ok (.whole (calledFor number command parsed)) := by
  unfold headerRole
  simp only [heeded, parses, resolves, Bool.false_eq_true, ↓reduceIte]
  rfl

theorem calledFor_of_headerRole {role : LineRole C}
    (found : headerRole registry number line = .ok role) :
    role = .ignored ∨ role = .unknown ∨ ∃ parsed command, CommandLine.isIgnored line = false ∧
      CommandLine.parse line = .ok (some parsed) ∧ registry.resolve parsed.name = some command := by
  cases ignored : CommandLine.isIgnored line with
  | true =>
      rw [headerRole_ignored_iff.mpr ignored] at found
      cases found
      exact .inl rfl
  | false =>
      by_cases unknown : Unknown registry line
      · rw [headerRole_unknown_iff.mpr unknown] at found
        cases found
        exact .inr (.inl rfl)
      · refine .inr (.inr ?_)
        cases parses : CommandLine.parse line with
        | error digits => simp [headerRole, ignored, parses] at found
        | ok read =>
            cases read with
            | none => exact absurd ⟨ignored, .inl parses⟩ unknown
            | some parsed =>
                cases resolves : registry.resolve parsed.name with
                | none => exact absurd ⟨ignored, .inr ⟨parsed, parses, resolves⟩⟩ unknown
                | some command => exact ⟨parsed, command, rfl, rfl, resolves⟩

theorem headerRole_whole_iff {directive : Directive C} :
    headerRole registry number line = .ok (.whole directive) ↔
      Heads registry number line directive ∧
        (directive.command.hereDoc = true → Unmarked directive.args) := by
  rw [heads_iff]
  constructor
  · intro found
    rcases calledFor_of_headerRole found with
      other | other | ⟨parsed, command, heeded, parses, resolves⟩
    · cases other
    · cases other
    · rw [headerRole_calledFor heeded parses resolves] at found
      split at found
      next => cases found
      next uncut =>
        cases found
        refine ⟨⟨heeded, parsed, command, parses, resolves, rfl⟩, ?_⟩
        intro takesLines
        rw [← cut?_eq_none_iff]
        change command.hereDoc = true at takesLines
        simp only [takesLines, ↓reduceIte] at uncut
        exact uncut
  · rintro ⟨⟨heeded, parsed, command, parses, resolves, rfl⟩, unmarked⟩
    rw [headerRole_calledFor heeded parses resolves]
    cases takesLines : command.hereDoc with
    | false => rfl
    | true =>
        have uncut := cut?_eq_none_iff.mpr (unmarked takesLines)
        simp only [calledFor] at uncut
        simp only [↓reduceIte, uncut]

theorem headerRole_opens_iff {heredoc : OpenHeredoc C} :
    headerRole registry number line = .ok (.opens heredoc) ↔
      ∃ args, Heads registry number line { heredoc.header with args } ∧
        heredoc.header.command.hereDoc = true ∧
          LastMarker args heredoc.header.args heredoc.terminator := by
  constructor
  · intro found
    rcases calledFor_of_headerRole found with
      other | other | ⟨parsed, command, heeded, parses, resolves⟩
    · cases other
    · cases other
    · rw [headerRole_calledFor heeded parses resolves] at found
      split at found
      next before terminator cut =>
        cases found
        cases takesLines : command.hereDoc with
        | false => simp [takesLines] at cut
        | true =>
            simp only [takesLines, ↓reduceIte] at cut
            refine ⟨parsed.args, heads_iff.mpr ⟨heeded, parsed, command, parses, resolves, rfl⟩,
              takesLines, cut?_eq_some_iff.mp cut⟩
      next => cases found
  · obtain ⟨⟨at_, command, count, bang, before⟩, terminator⟩ := heredoc
    rintro ⟨args, heads, takesLines, marker⟩
    obtain ⟨heeded, parsed, other, parses, resolves, same⟩ := heads_iff.mp heads
    cases same
    rw [headerRole_calledFor heeded parses resolves]
    have cut := cut?_eq_some_iff.mpr marker
    dsimp only at takesLines cut
    simp only [takesLines, ↓reduceIte, cut]
    rfl

theorem headerRole_error_iff {fault : Fault} :
    headerRole registry number line = .error fault ↔
      CommandLine.isIgnored line = false ∧
        ∃ digits, CommandLine.parse line = .error digits ∧ fault = .oversizedCount digits := by
  cases ignored : CommandLine.isIgnored line with
  | true => simp [headerRole, ignored]
  | false =>
      cases parses : CommandLine.parse line with
      | error digits => simp [headerRole, ignored, parses, eq_comm]
      | ok read =>
          have never : headerRole registry number line ≠ .error fault := by
            cases read with
            | none => simp [headerRole, ignored, parses]
            | some parsed =>
                cases resolves : registry.resolve parsed.name with
                | none => simp [headerRole, ignored, parses, resolves]
                | some command =>
                    rw [headerRole_calledFor ignored parses resolves]
                    split <;> exact nofun
          simp [never]

theorem headerRole_outside {role : LineRole C}
    (found : headerRole registry number line = .ok role) :
    (∀ heredoc, role ≠ .body heredoc) ∧ ∀ directive, role ≠ .closes directive := by
  rcases calledFor_of_headerRole found with rfl | rfl | ⟨parsed, command, heeded, parses, resolves⟩
  · exact ⟨nofun, nofun⟩
  · exact ⟨nofun, nofun⟩
  · rw [headerRole_calledFor heeded parses resolves] at found
    split at found <;> (cases found; exact ⟨nofun, nofun⟩)

end Roles

end Assembly

end ExScript
