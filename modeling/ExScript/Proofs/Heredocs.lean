import ExScript.Proofs.Assembling
import ExScript.Proofs.CommandGrammar
import ExScript.Proofs.Passes

/-!
Heredocs as they are written. The last marker of a header line is the one at its end, whatever
stands before it; the lines up to the terminator belong to the command as they are; and the text
behind is read as if it stood alone, but for the numbers of its lines.
-/

namespace ExScript

variable {C : Type}

namespace Heredoc

/-- What a heredoc can be closed with, so that no marker can be taken for a part of it. -/
structure Terminates (terminator : String) : Prop where
  nonempty : terminator ≠ ""
  solid : ∀ c ∈ terminator.toList, Text.isBlank c = false
  plain : '<' ∉ terminator.toList

theorem Terminates.unbroken {terminator : String} (terminates : Terminates terminator) :
    Text.Unbroken terminator.toList := by
  refine Text.unbroken_of_forall terminates.solid ?_ ?_
  · decide
  · decide

/-- No text before the marker makes an earlier or a later one count, not even one that ends in `<`
or holds markers of its own. -/
theorem lastMark_before (before : List Char) {token : List Char} (nonempty : token ≠ [])
    (solid : ∀ c ∈ token, Text.isBlank c = false) (plain : '<' ∉ token) :
    LastMark (before ++ '<' :: '<' :: token) before token where
  marks := ⟨token, rfl, [], [], by simp, List.forall_mem_nil _, nonempty, solid, .inl rfl⟩
  longest := by
    rintro other another ⟨behind, shape, -⟩
    rcases List.append_eq_append_iff.mp shape with ⟨more, rfl, rest⟩ | ⟨more, rfl, rest⟩
    · cases more with
      | nil => simp
      | cons c more =>
          have opens : '<' :: token = more ++ '<' :: '<' :: behind := (List.cons_eq_cons.mp rest).2
          have inside : '<' ∈ token := by
            cases more with
            | nil => simp [(List.cons_eq_cons.mp opens).2]
            | cons c more => simp [(List.cons_eq_cons.mp opens).2]
          exact absurd inside plain
    · simp

def header (word before terminator : String) : String :=
  word ++ " " ++ before ++ "<<" ++ terminator

theorem header_parse {word before terminator : String} (nonempty : word ≠ "")
    (letters : ∀ c ∈ word.toList, CommandLine.isLetter c = true)
    (starts : ∀ c ∈ before.toList.head?, Text.isBlank c = false)
    (unbroken : Text.Unbroken before.toList) (terminates : Terminates terminator) :
    CommandLine.parse (header word before terminator) =
      .ok (some ⟨none, word, false, before ++ "<<" ++ terminator⟩) := by
  have args : (before ++ "<<" ++ terminator).toList =
      before.toList ++ '<' :: '<' :: terminator.toList := by simp
  have front : ∀ c ∈ (before ++ "<<" ++ terminator).toList.head?, Text.isBlank c = false := by
    intro c first
    rw [args] at first
    cases front : before.toList with
    | nil =>
        rw [front] at first
        cases first
        decide
    | cons d rest =>
        rw [front] at first
        cases first
        exact starts c (by rw [front]; rfl)
  have oneLine : '\n' ∉ (before ++ "<<" ++ terminator).toList := by
    have inside : '\n' ∉ before.toList := fun member => (unbroken _ member).2 rfl
    have behind : '\n' ∉ terminator.toList := fun member => (terminates.unbroken _ member).2 rfl
    simp [inside, behind]
  have proper : CommandLine.Word word.toList := .inr ⟨by simpa using nonempty, letters⟩
  have parses := CommandLine.parse_spaced proper front oneLine
  unfold header
  rwa [← String.append_assoc, ← String.append_assoc] at parses

theorem header_unbroken {word before terminator : String}
    (letters : ∀ c ∈ word.toList, CommandLine.isLetter c = true)
    (unbroken : Text.Unbroken before.toList) (terminates : Terminates terminator) :
    Text.Unbroken (header word before terminator).toList := by
  have inside : Text.Unbroken word.toList :=
    Text.unbroken_of_forall letters (by decide) (by decide)
  have space : Text.Unbroken " ".toList := Text.unbroken_of_all (by decide)
  have marker : Text.Unbroken "<<".toList := Text.unbroken_of_all (by decide)
  simp only [header, Text.unbroken_append]
  exact ⟨⟨⟨⟨inside, space⟩, unbroken⟩, marker⟩, terminates.unbroken⟩

/-- The text of lines in a heredoc: each of them ends in a newline, however it was written. -/
def bodyOf (lines : List (String × Text.Terminator)) : String :=
  Text.written (lines.map fun line => (line.1, .newline))

end Heredoc

theorem Assembly.bodyText_unbroken {lines : List (String × Text.Terminator)}
    (unbroken : ∀ line ∈ lines, Text.Unbroken line.1.toList) :
    bodyText (lines.map (·.1)) = Heredoc.bodyOf lines := by
  induction lines with
  | nil => rfl
  | cons line lines ih =>
      obtain ⟨first, others⟩ := List.forall_mem_cons.mp unbroken
      rw [List.map_cons, bodyText, dropCarriageReturn_unbroken first, ih others]
      simp [Heredoc.bodyOf, Text.written, Text.Terminator.chars, ← String.toList_inj]

namespace Stream

variable {registry : Registry C}

def ofText (text : String) (path : Option String) (tracked reports : Bool) : Stream C :=
  ofSource (.ofText text path) tracked reports

theorem ofText_lines (text : String) (path : Option String) (tracked reports : Bool) :
    (ofText text path tracked reports : Stream C).Lines :=
  ⟨rfl, rfl, rfl, nofun⟩

/-- A text gives this directive, and then what the rest of it gives on its own, further down. -/
def Follows (registry : Registry C) (text : String) (directive : Directive C) (rest : String)
    (lines : Nat) : Prop :=
  ∀ path tracked reports, ∃ behind fault,
    (ofText rest path tracked reports).Yields registry behind fault ∧
      (ofText text path tracked reports).Yields registry
        (directive :: behind.map (Directive.moved lines)) fault

theorem follows_of_pull {text rest : String} {directive : Directive C} {lines : Nat}
    (pulls : ∀ path tracked reports, ∃ next,
      (ofText text path tracked reports).pull registry {} =
        ⟨.ok (some directive), (ofText rest path tracked reports).moved lines, next⟩) :
    Follows registry text directive rest lines := by
  intro path tracked reports
  obtain ⟨next, pulled⟩ := pulls path tracked reports
  have reads : (ofText rest path tracked reports : Stream C).Lines := ofText_lines _ _ _ _
  obtain ⟨behind, fault, assembles⟩ := exists_assembles registry reads
  refine ⟨behind, fault, assembles.yields reads, ?_⟩
  have first : ((ofText text path tracked reports).pull registry {}).result =
      .ok (some directive) := by rw [pulled]
  refine Assembles.yields (.more first ?_) (ofText_lines _ _ _ _)
  rw [pulled]
  exact assembles.moved reads lines

end Stream

def Reporting.ofText (path : Option String) (tracked reports : Bool) : Reporting :=
  ⟨(path.filter (· ≠ "")).getD "<string>", tracked, reports⟩

theorem Stream.ofText_eq (text : String) (path : Option String) (tracked reports : Bool) :
    (ofText text path tracked reports : Stream C) =
      (Reporting.ofText path tracked reports).stream 1 (Text.terminatedLines text) :=
  rfl

theorem Stream.ofText_moved (text : String) (path : Option String) (tracked reports : Bool)
    (lines : Nat) :
    (ofText text path tracked reports : Stream C).moved lines =
      (Reporting.ofText path tracked reports).stream (1 + lines) (Text.terminatedLines text) :=
  rfl

namespace Heredoc

section Reading

variable {registry : Registry C} {command : Descriptor C}

theorem follows_whole {line : String} {parsed : CommandLine}
    (parses : CommandLine.parse line = .ok (some parsed))
    (resolves : registry.resolve parsed.name = some command) (takesNone : command.hereDoc = false)
    (unbroken : Text.Unbroken line.toList) {ending : Text.Terminator} {rest : String}
    (apart : Text.Apart rest [(line, ending)]) :
    Stream.Follows registry (Text.written [(line, ending)] ++ rest)
      (Assembly.calledFor 1 command parsed) rest 1 := by
  have heads : Assembly.Heads registry 1 line (Assembly.calledFor 1 command parsed) :=
    Assembly.heads_iff.mpr
      ⟨CommandLine.heeded_of_parses parses, parsed, command, parses, resolves, rfl⟩
  have role : Assembly.headerRole registry 1 line =
      .ok (.whole (Assembly.calledFor 1 command parsed)) := by
    refine Assembly.headerRole_whole_iff.mpr ⟨heads, fun takes => ?_⟩
    exact absurd (takes.symm.trans takesNone) (by decide)
  rw [← Assembly.dropCarriageReturn_unbroken unbroken] at role
  have lines : Text.terminatedLines (Text.written [(line, ending)] ++ rest) =
      line :: Text.terminatedLines rest :=
    Text.terminatedLines_written (List.forall_mem_singleton.mpr unbroken) apart
  refine Stream.follows_of_pull fun path tracked reports => ?_
  rw [Stream.ofText_eq, lines, Stream.ofText_moved]
  exact ⟨_, Reporting.pull_command _ {} role⟩

def lines (word before terminator : String) (opening closing : Text.Terminator)
    (body : List (String × Text.Terminator)) : List (String × Text.Terminator) :=
  (header word before terminator, opening) :: (body ++ [(terminator, closing)])

def partOf (command : Descriptor C) (word before terminator : String)
    (body : List (String × Text.Terminator)) : HeredocLines C where
  header := header word before terminator
  directive := ⟨1, command, none, false, before ++ bodyOf body⟩
  terminator := terminator
  body := body.map (·.1)
  closing := some terminator

theorem partOf_fits {word before terminator : String}
    (resolves : registry.resolve word = some command) (takesLines : command.hereDoc = true)
    (terminates : Terminates terminator)
    (parses : CommandLine.parse (header word before terminator) =
      .ok (some ⟨none, word, false, before ++ "<<" ++ terminator⟩))
    (unbroken : Text.Unbroken (header word before terminator).toList)
    {body : List (String × Text.Terminator)}
    (inside : ∀ line ∈ body, Text.Unbroken line.1.toList ∧ line.1 ≠ terminator) :
    Assembly.HeredocFits registry 1 (partOf command word before terminator body) := by
  refine ⟨⟨before ++ "<<" ++ terminator, before, ?_, takesLines, ?_, ?_⟩, ?_, ?_⟩
  · have heads := Assembly.dropCarriageReturn_unbroken unbroken
    unfold partOf
    rw [heads]
    exact Assembly.heads_iff.mpr
      ⟨CommandLine.heeded_of_parses parses, _, command, parses, resolves, rfl⟩
  · have chars : (before ++ "<<" ++ terminator).toList =
        before.toList ++ '<' :: '<' :: terminator.toList := by simp
    unfold Assembly.LastMarker
    rw [chars]
    refine lastMark_before _ ?_ terminates.solid terminates.plain
    simpa using terminates.nonempty
  · unfold partOf
    rw [Assembly.bodyText_unbroken fun line member => (inside line member).1]
  · intro line member
    obtain ⟨given, among, rfl⟩ := List.mem_map.mp member
    rw [Assembly.dropCarriageReturn_unbroken (inside given among).1]
    exact (inside given among).2
  · rintro _ ⟨⟩
    exact Assembly.dropCarriageReturn_unbroken terminates.unbroken

theorem follows_heredoc {word before terminator : String}
    (resolves : registry.resolve word = some command) (takesLines : command.hereDoc = true)
    (terminates : Terminates terminator)
    (parses : CommandLine.parse (header word before terminator) =
      .ok (some ⟨none, word, false, before ++ "<<" ++ terminator⟩))
    (unbroken : Text.Unbroken (header word before terminator).toList)
    {opening closing : Text.Terminator} {body : List (String × Text.Terminator)} {rest : String}
    (inside : ∀ line ∈ body, Text.Unbroken line.1.toList ∧ line.1 ≠ terminator)
    (apart : Text.Apart rest (lines word before terminator opening closing body)) :
    Stream.Follows registry
      (Text.written (lines word before terminator opening closing body) ++ rest)
      ⟨1, command, none, false, before ++ bodyOf body⟩ rest (body.length + 2) := by
  have each : ∀ line ∈ lines word before terminator opening closing body,
      Text.Unbroken line.1.toList := by
    refine List.forall_mem_cons.mpr ⟨unbroken, List.forall_mem_append.mpr ⟨?_, ?_⟩⟩
    · exact fun line member => (inside line member).1
    · exact List.forall_mem_singleton.mpr terminates.unbroken
  let part := partOf command word before terminator body
  have fits : Assembly.HeredocFits registry 1 part :=
    partOf_fits resolves takesLines terminates parses unbroken inside
  have whole : Assembly.Fits registry 1 (.heredoc part) := fits
  obtain ⟨role, begins, found⟩ := whole.begins
  cases begins with
  | heredoc _ opened terminated directive =>
      have texts : Text.terminatedLines
          (Text.written (lines word before terminator opening closing body) ++ rest) =
          (Part.heredoc part).lines ++ Text.terminatedLines rest := by
        rw [Text.terminatedLines_written each apart]
        simp [part, partOf, lines, Part.lines]
      have count : (Part.heredoc part).lines.length = body.length + 2 := by
        simp [part, partOf, Part.lines]
      have closed : part.closing = none → Text.terminatedLines rest = [] := fun never =>
        absurd never (Option.some_ne_none terminator)
      refine Stream.follows_of_pull fun path tracked reports => ?_
      rw [Stream.ofText_eq, texts, Stream.ofText_moved, ← count]
      exact ⟨_, Reporting.pull_heredoc _ {} found (.heredoc part opened terminated directive) fits
        closed⟩

end Reading

/-- How the text of a heredoc is read, and how lines are for commands that take none. -/
structure ReadBack (registry : Registry C) (command : Descriptor C)
    (word before terminator : String) : Prop where
  header : CommandLine.parse (header word before terminator) =
    .ok (some ⟨none, word, false, before ++ "<<" ++ terminator⟩)
  heredoc : command.hereDoc = true → ∀ opening closing body rest,
    (∀ line ∈ body, Text.Unbroken line.1.toList ∧ line.1 ≠ terminator) →
    Text.Apart rest (lines word before terminator opening closing body) →
      Stream.Follows registry
        (Text.written (lines word before terminator opening closing body) ++ rest)
        ⟨1, command, none, false, before ++ bodyOf body⟩ rest (body.length + 2)
  whole : ∀ line parsed other, CommandLine.parse line = .ok (some parsed) →
    registry.resolve parsed.name = some other → other.hereDoc = false →
    Text.Unbroken line.toList → ∀ ending rest, Text.Apart rest [(line, ending)] →
      Stream.Follows registry (Text.written [(line, ending)] ++ rest)
        (Assembly.calledFor 1 other parsed) rest 1

/-- A heredoc is read back from its text: the command gets what stands before the marker and all the
lines up to the terminator, whatever they look like, and the text behind is read as if it stood
alone. Without a command that takes lines a marker is text like any other. -/
theorem readBack {registry : Registry C} {command : Descriptor C} {word before terminator : String}
    (letters : ∀ c ∈ word.toList, CommandLine.isLetter c = true)
    (resolves : registry.resolve word = some command)
    (starts : ∀ c ∈ before.toList.head?, Text.isBlank c = false)
    (unbroken : Text.Unbroken before.toList) (terminates : Terminates terminator) :
    ReadBack registry command word before terminator := by
  have nonempty : word ≠ "" := by
    rintro rfl
    cases resolves
  have parses := header_parse nonempty letters starts unbroken terminates
  refine ⟨parses, ?_, ?_⟩
  · intro takesLines opening closing body rest inside apart
    have whole := header_unbroken letters unbroken terminates
    exact follows_heredoc resolves takesLines terminates parses whole inside apart
  · intro line parsed other parsesLine found takesNone unbrokenLine ending rest apart
    exact follows_whole parsesLine found takesNone unbrokenLine apart

theorem readBack_markers :
    ∃ command, putRegistry.resolve "put" = some command ∧
      ReadBack putRegistry command "put" "a <<b <" "E" ∧
      Stream.Follows putRegistry "put a <<b <<<E\nput <<F\r\n\rE\nput z\n"
        ⟨1, command, none, false, "a <<b <put <<F\n\n"⟩ "put z\n" 4 := by
  have starts : ∀ c ∈ "a <<b <".toList.head?, Text.isBlank c = false := by
    intro c member
    obtain rfl : 'a' = c := Option.some.inj member
    decide
  have terminates : Terminates "E" :=
    ⟨by decide, List.forall_mem_singleton.mpr (by decide), by decide⟩
  have reads : ReadBack putRegistry _ "put" "a <<b <" "E" :=
    readBack (List.all_eq_true.mp (by decide)) rfl starts (Text.unbroken_of_all (by decide))
      terminates
  refine ⟨_, rfl, reads, ?_⟩
  let body : List (String × Text.Terminator) := [("put <<F", .both), ("", .carriageReturn)]
  have inside : ∀ line ∈ body, Text.Unbroken line.1.toList ∧ line.1 ≠ "E" := by
    refine List.forall_mem_cons.mpr ⟨⟨Text.unbroken_of_all (by decide), by decide⟩,
      List.forall_mem_singleton.mpr ⟨List.forall_mem_nil _, by decide⟩⟩
  have apart : Text.Apart "put z\n" (lines "put" "a <<b <" "E" .newline .newline body) :=
    ⟨nofun, nofun, fun _ => by decide, nofun, trivial⟩
  have text : Text.written (lines "put" "a <<b <" "E" .newline .newline body) ++ "put z\n" =
      "put a <<b <<<E\nput <<F\r\n\rE\nput z\n" := by decide
  have args : "a <<b <" ++ bodyOf body = "a <<b <put <<F\n\n" := by decide
  have follows := reads.heredoc rfl .newline .newline body "put z\n" inside apart
  rw [text, args] at follows
  exact follows

end Heredoc

end ExScript
