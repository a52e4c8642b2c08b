import ExScript.Proofs.CoupledBlocks
import ExScript.Proofs.TypedLines

/-!
Constructs: commands with all the lines that they need, and whole blocks. Their lines can be typed
at the prompt, the first one as such and the others where they are asked for, or be joined to a
script; either way the same directives are ahead.
-/

namespace ExScript

namespace Text

theorem joinLines_eq {lines : List (List Char)} (some : lines ≠ []) :
    joinLines lines = ['\n'].intercalate lines ++ ['\n'] := by
  induction lines with
  | nil => exact absurd rfl some
  | cons line rest ih =>
      have first : joinLines (line :: rest) = line ++ '\n' :: joinLines rest := by
        simp [joinLines]
      cases rest with
      | nil => simp [joinLines]
      | cons next rest =>
          rw [first, ih (List.cons_ne_nil _ _), List.intercalate_cons_cons]
          simp

theorem intercalate_snoc (separator : List Char) (lines : List (List Char)) (line : List Char) :
    line <:+ separator.intercalate (lines ++ [line]) := by
  induction lines with
  | nil => simp
  | cons first rest ih =>
      rw [List.cons_append, List.intercalate_cons_of_ne_nil (by simp)]
      exact ih.trans (List.suffix_append _ _)

theorem terminatedLines_joinWith {lines : List String} {last : String}
    (unbroken : ∀ line ∈ lines, Unbroken line.toList) (ends : lines.getLast? = some last)
    (nonempty : last ≠ "") :
    Engine.endsLine (joinWith "\n" lines) = false ∧
      terminatedLines (joinWith "\n" lines ++ "\n") = lines := by
  have chars : (joinWith "\n" lines).toList = ['\n'].intercalate (lines.map String.toList) :=
    String.toList_intercalate
  have each : ∀ line ∈ lines.map String.toList, Unbroken line := by
    intro line member
    obtain ⟨text, among, rfl⟩ := List.mem_map.mp member
    exact unbroken text among
  constructor
  · obtain ⟨front, split⟩ := List.getLast?_eq_some_iff.mp ends
    have suffix : last.toList <:+ (joinWith "\n" lines).toList := by
      rw [chars, split, List.map_append]
      exact intercalate_snoc _ _ _
    obtain ⟨before, whole⟩ := suffix
    have some : last.toList ≠ [] := fun empty => nonempty (String.toList_eq_nil_iff.mp empty)
    have final : (joinWith "\n" lines).toList.getLast? = .some (last.toList.getLast some) := by
      rw [← whole, List.getLast?_append_of_ne_nil _ some, List.getLast?_eq_some_getLast some]
    have fine := unbroken last (List.mem_of_getLast? ends) _ (List.getLast_mem some)
    unfold Engine.endsLine
    rw [final]
    simp [fine]
  · have several : lines.map String.toList ≠ [] := by
      intro empty
      rw [List.map_eq_nil_iff.mp empty] at ends
      cases ends
    have joined : (joinWith "\n" lines ++ "\n").toList = joinLines (lines.map String.toList) := by
      rw [String.toList_append, chars, joinLines_eq several]
      rfl
    unfold terminatedLines
    rw [joined, cutLines_joinLines each]
    simp [Function.comp_def]

end Text

variable {C : Type} {registry : Registry C}

theorem Heredoc.LastMark.token_ne_nil {chars before token : List Char}
    (last : Heredoc.LastMark chars before token) : token ≠ [] := by
  obtain ⟨behind, -, gap, final, -, -, nonempty, -⟩ := last.marks
  exact nonempty

theorem Assembly.Heads.nonempty {number : Nat} {line : String} {directive : Directive C}
    (heads : Assembly.Heads registry number (Assembly.dropCarriageReturn line) directive) :
    line ≠ "" := by
  rintro rfl
  have ignored : CommandLine.isIgnored (Assembly.dropCarriageReturn "") = true := by decide
  exact Bool.false_ne_true (heads.heeded.symm.trans ignored)

theorem Assembly.Fits.last_line {number : Nat} {part : Part C}
    (fits : Assembly.Fits registry number part) (gives : part.directive?.isSome = true)
    (closed : ¬ part.Unclosed) : ∃ line, part.lines.getLast? = some line ∧ line ≠ "" := by
  cases part with
  | skipped line | reported line => cases gives
  | command line directive => exact ⟨line, rfl, fits.1.nonempty⟩
  | heredoc part =>
      obtain ⟨line, closes⟩ := Option.ne_none_iff_exists'.mp closed
      obtain ⟨args, before, -, -, marker, -⟩ := fits.opens
      have same := fits.closing line closes
      refine ⟨line, ?_, ?_⟩
      · simp only [Part.lines, closes, Option.toList_some]
        rw [← List.cons_append, List.getLast?_append_of_ne_nil _ (List.cons_ne_nil _ _)]
        rfl
      · rintro rfl
        have empty : part.terminator = "" := same.symm
        rw [empty] at marker
        exact marker.token_ne_nil rfl

theorem Assembly.Fits.heads {number : Nat} {part : Part C}
    (fits : Assembly.Fits registry number part) (gives : part.directive?.isSome = true) :
    ∃ directive, Assembly.Heads registry number (Assembly.dropCarriageReturn part.first)
      directive := by
  cases part with
  | skipped line | reported line => cases gives
  | command line directive => exact ⟨directive, fits.1⟩
  | heredoc part =>
      obtain ⟨args, before, heads, -⟩ := fits.opens
      exact ⟨_, heads⟩

theorem Assembly.Layout.fits {number : Nat} {parts : List (Part C)} {part : Part C}
    (layout : Assembly.Layout registry number parts) (member : part ∈ parts) :
    ∃ place, Assembly.Fits registry place part := by
  induction layout with
  | nil => cases member
  | cons fits last behind ih =>
      rcases List.mem_cons.mp member with rfl | member
      · exact ⟨_, fits⟩
      · exact ih member

theorem answered_append (lines : List String) (more : List (Option String)) :
    answered (lines.map some ++ more) = lines ++ answered more := by
  induction lines with
  | nil => rfl
  | cons line lines ih => exact congrArg (List.cons line) ih

namespace Engine

/-- Directives that belong together: one for itself, or a block with all that it holds. -/
inductive Complete : List (Directive C) → Prop where
  | alone {directive} (noBlock : directive.mark ≠ .opens) (noFinish : directive.mark ≠ .finish) :
      Complete [directive]
  | block {opening inner closing} (opens : opening.mark = .opens) (inside : Inside inner)
      (level : nesting inner = 0) (closes : closing.mark = .closes) :
      Complete (opening :: (inner ++ [closing]))

theorem extentFrom_block {inner : List (Directive C)} {closing : Directive C}
    (inside : Inside inner) (level : nesting inner = 0) (closes : closing.mark = .closes) :
    extentFrom [false] (inner ++ [closing]) ≠ .unclosed ∧
      ∀ behind, extentFrom [false] (inner ++ [closing]) = .closed behind → behind = [] := by
  have describes := extent_describes (inner ++ [closing])
  constructor
  · intro unclosed
    rw [unclosed] at describes
    have least := describes.1.nesting
    rw [nesting_snoc, level, closes] at least
    exact absurd least (by decide)
  · intro behind closed
    rw [closed] at describes
    obtain ⟨body, last, split, ends, within, same, -⟩ := describes
    -- An end in front of the last would close the block earlier.
    rcases List.eq_nil_or_concat behind with rfl | ⟨further, final, rfl⟩
    · rfl
    · have front : inner = (body ++ [last]) ++ further := by
        rw [List.concat_eq_append, ← List.cons_append, ← List.append_assoc] at split
        rw [(List.append_inj' split rfl).1]
        simp
      have least := inside (body ++ [last]) ⟨further, front.symm⟩
      rw [nesting_snoc, same, ends] at least
      exact absurd least (by decide)

theorem Complete.reach {directives : List (Directive C)} (complete : Complete directives) :
    ∃ directive rest, directives = directive :: rest ∧ directive.mark ≠ .finish ∧
      Engine.reach directive rest ≠ .unclosed ∧
        ∀ behind, Engine.reach directive rest = .closed behind → behind = [] := by
  cases complete with
  | alone noBlock noFinish =>
      refine ⟨_, [], rfl, noFinish, ?_⟩
      simp [Engine.reach, noBlock]
  | @block opening inner closing opens inside level closes =>
      refine ⟨opening, inner ++ [closing], rfl, by simp [opens], ?_⟩
      rw [Engine.reach, if_pos opens]
      exact extentFrom_block inside level closes

/-- Lines that make up a construct, with its directives. They are those of parts of which the first
and the last give a directive, and no heredoc is left open. -/
structure Construct (registry : Registry C) (lines : List String)
    (directives : List (Directive C)) (parts : List (Part C)) : Prop where
  layout : Assembly.Layout registry 1 parts
  whole : ∀ part ∈ parts, ¬ part.Unclosed
  lines : parts.flatMap Part.lines = lines
  given : parts.filterMap Part.directive? = directives
  first : ∀ part ∈ parts.head?, part.directive?.isSome = true
  last : Part.Concluded parts
  complete : Complete directives

theorem Construct.last_line {lines : List String} {directives : List (Directive C)}
    {parts : List (Part C)} (construct : Construct registry lines directives parts)
    (some : lines ≠ []) : ∃ line, lines.getLast? = .some line ∧ line ≠ "" := by
  obtain ⟨layout, whole, rfl, -, -, concluded, -⟩ := construct
  rcases List.eq_nil_or_concat parts with rfl | ⟨front, part, rfl⟩
  · exact absurd rfl some
  · rw [List.concat_eq_append] at layout whole concluded ⊢
    have member := List.mem_append_right front (List.mem_singleton_self part)
    obtain ⟨number, fits⟩ := layout.fits member
    obtain ⟨line, last, nonempty⟩ :=
      fits.last_line (concluded part (by simp)) (whole part (by simp))
    refine ⟨line, ?_, nonempty⟩
    rw [List.flatMap_append, List.flatMap_singleton,
      List.getLast?_append_of_ne_nil _ part.lines_ne_nil]
    exact last

theorem Construct.named {first : String} {later : List String} {directives : List (Directive C)}
    {parts : List (Part C)} (construct : Construct registry (first :: later) directives parts)
    (unbroken : Text.Unbroken first.toList) :
    CommandLine.isIgnored first = false ∧ ∃ parsed command,
      CommandLine.parse first = .ok (some parsed) ∧
        registry.resolve parsed.name = some command := by
  obtain ⟨layout, -, lines, -, gives, -, -⟩ := construct
  cases layout with
  | nil => cases lines
  | @cons _ part rest fits last behind =>
      obtain ⟨directive, heads⟩ := fits.heads (gives part rfl)
      rw [List.flatMap_cons, part.lines_eq] at lines
      obtain ⟨same, -⟩ := List.cons_eq_cons.mp lines
      rw [same, Assembly.dropCarriageReturn_unbroken unbroken] at heads
      obtain ⟨parsed, parses, resolves, -⟩ := heads.said
      exact ⟨heads.heeded, parsed, directive.command, parses, resolves⟩

variable {N : Type}

def joinedSource (lines : List String) (name : String) : LineSource :=
  let text := Text.joinWith "\n" lines
  LineSource.ofText (if endsLine text then text else text ++ "\n") (some name)

theorem Construct.facing {registry : Registry (Handler N)} {first : String} {later : List String}
    {directives : List (Directive (Handler N))} {parts : List (Part (Handler N))}
    (construct : Construct registry (first :: later) directives parts) {state : State N}
    (inForce : state.registry = registry)
    (unbroken : ∀ line ∈ first :: later, Text.Unbroken line.toList)
    (allowed : (later.length : Int) ≤ state.settings.maxLines) {more : List (Option String)}
    (answers : state.session.answers = later.map some ++ more) (name : String) :
    ∃ extra, Facing registry extra (state.session.asked.size + later.length) directives
      (state.typing first) (state.reading name (joinedSource (first :: later) name)) := by
  obtain ⟨last, ends, nonempty⟩ := construct.last_line (List.cons_ne_nil _ _)
  obtain ⟨open_, lines⟩ := Text.terminatedLines_joinWith unbroken ends nonempty
  have source : (joinedSource (first :: later) name).atHand = first :: later := by
    unfold joinedSource
    dsimp only
    rw [open_, if_neg Bool.false_ne_true]
    exact lines
  have given : (joinedSource (first :: later) name).Given := LineSource.named_given _ _
  have reading : (Stream.ofSource (joinedSource (first :: later) name) true : Stream (Handler N)) =
      { path := (joinedSource (first :: later) name).path, atHand := first :: later
        tracked := true, reports := true } := by
    rw [Stream.ofSource_given given, source]
  have enough : later.length ≤ state.settings.maxLines.toNat := by omega
  have asked : answered ((later.map some ++ more).take state.settings.maxLines.toNat) =
      later ++ answered (more.take (state.settings.maxLines.toNat - later.length)) := by
    rw [List.take_append, List.length_map, List.take_of_length_le (by simpa using enough),
      answered_append]
  refine ⟨answered (more.take (state.settings.maxLines.toNat - later.length)), rfl, inForce, parts,
    state.opened [first], _, construct.given, construct.last, rfl, rfl, ?_, ?_, ?_⟩
  · refine ⟨rfl, rfl, rfl, rfl, construct.layout, construct.whole, ?_⟩
    have supply : (state.opened [first]).supply (state.typing first).session =
        [first] ++ answered (state.session.answers.take state.settings.maxLines.toNat) := rfl
    rw [supply, answers, asked, construct.lines]
    rfl
  · rw [reading]
    refine ⟨rfl, rfl, rfl, rfl, construct.layout, construct.whole, ?_⟩
    rw [construct.lines, List.append_nil, Stream.supply_given rfl]
  · refine ⟨rfl, ?_, ?_⟩
    · rw [construct.lines]
      exact Nat.succ_le_succ (Nat.zero_le _)
    · rw [construct.lines]
      exact (Nat.add_assoc _ _ _).symm

end Engine

end ExScript
