import ExScript.Proofs.Heredocs
import ExScript.Proofs.Interchange
import ExScript.Proofs.NumberedLines
import ExScript.Proofs.Supply
import ExScript.Proofs.TextFiles

/-!
Commands spelled in other ways. In front of the count and the arguments of a line stand blanks and
colons, and between them its command word; neither of the two matters beyond the command that the
word resolves to. Scripts whose lines differ in nothing else give the same directives and run alike.
-/

namespace ExScript

variable {C : Type}

namespace CommandLine

/-- A line that calls for its command by a word of letters, in parts. -/
structure Worded where
  lead : List Char
  count : List Char
  word : List Char
  behind : List Char

namespace Worded

def chars (line : Worded) : List Char :=
  line.lead ++ (line.count ++ (line.word ++ line.behind))

def text (line : Worded) : String :=
  String.ofList line.chars

theorem toList_text (line : Worded) : line.text.toList = line.chars :=
  String.toList_ofList

structure Fits (line : Worded) : Prop where
  lead : ∀ c ∈ line.lead, isLeading c = true
  count : ∀ c ∈ line.count, Text.isDigit c = true
  named : line.word ≠ []
  letters : ∀ c ∈ line.word, isLetter c = true
  ends : ∀ c ∈ line.behind.head?, isLetter c = false
  unbroken : Text.Unbroken line.chars

def respelled (line : Worded) (lead word : List Char) : Worded :=
  { line with lead, word }

variable {line : Worded}

theorem Fits.respelled (fits : line.Fits) {lead word : List Char}
    (leads : ∀ c ∈ lead, isLeading c = true) (unbroken : Text.Unbroken lead) (named : word ≠ [])
    (letters : ∀ c ∈ word, isLetter c = true) : (line.respelled lead word).Fits where
  lead := leads
  count := fits.count
  named := named
  letters := letters
  ends := fits.ends
  unbroken := by
    obtain ⟨-, inside⟩ := List.forall_mem_append.mp fits.unbroken
    obtain ⟨count, behind⟩ := List.forall_mem_append.mp inside
    have whole : Text.Unbroken word := Text.unbroken_of_forall letters (by decide) (by decide)
    exact List.forall_mem_append.mpr ⟨unbroken, List.forall_mem_append.mpr
      ⟨count, List.forall_mem_append.mpr ⟨whole, (List.forall_mem_append.mp behind).2⟩⟩⟩

def pieces (line : Worded) : Pieces :=
  ⟨line.lead, line.count, line.word, false, [], line.behind⟩

theorem Fits.pieces (fits : line.Fits) : line.pieces.Fits :=
  ⟨fits.lead, fits.count, .inr ⟨fits.named, fits.letters⟩, List.forall_mem_nil _⟩

def command (line : Worded) : CommandLine :=
  let bang := line.behind.head? = some '!'
  { count := if line.count.isEmpty then none else some (Text.digitsValue line.count)
    name := String.ofList line.word
    bang
    args := String.ofList (argumentsOf (if bang then line.behind.drop 1 else line.behind)) }

theorem Fits.parses (fits : line.Fits) :
    parseChars line.chars =
      if maxDigits < line.count.length then .error line.count.length
      else .ok (some line.command) := by
  obtain ⟨-, numbered⟩ := Text.longestRun_iff.mp fits.pieces.leads
  obtain ⟨digits, named⟩ := Text.longestRun_iff.mp fits.pieces.counts
  have word := word?_letters fits.named fits.letters fits.ends
  change line.chars.dropWhile isLeading = line.count ++ (line.word ++ line.behind) at numbered
  change (line.count ++ (line.word ++ line.behind)).takeWhile Text.isDigit = line.count at digits
  change (line.count ++ (line.word ++ line.behind)).dropWhile Text.isDigit =
    line.word ++ line.behind at named
  unfold parseChars
  simp only [numbered, digits, named, word]
  rfl

theorem Fits.heeded (fits : line.Fits) : isIgnoredChars line.chars = false := by
  cases ignored : isIgnoredChars line.chars with
  | false => rfl
  | true =>
      have parses := fits.parses
      rw [parseChars_of_ignored ignored] at parses
      split at parses <;> cases parses

end Worded

end CommandLine

namespace Assembly

/-- Another spelling of a line: other blanks and colons in front, and another word for its
command. -/
inductive Respells (registry : Registry C) : String → String → Prop where
  | header {line : CommandLine.Worded} {lead word : List Char} {command : Descriptor C}
      (fits : line.Fits)
      (resolves : registry.resolve (String.ofList line.word) = some command)
      (leads : ∀ c ∈ lead, CommandLine.isLeading c = true) (unbroken : Text.Unbroken lead)
      (named : word ≠ []) (letters : ∀ c ∈ word, CommandLine.isLetter c = true)
      (same : registry.resolve (String.ofList word) = some command) :
      Respells registry line.text (line.respelled lead word).text

variable {registry : Registry C}

def wordedRole (number : Nat) (command : Descriptor C) (parsed : CommandLine) : LineRole C :=
  match if command.hereDoc then Heredoc.cut? parsed.args else none with
  | some (before, terminator) =>
      .opens ⟨{ calledFor number command parsed with args := before }, terminator⟩
  | none => .whole (calledFor number command parsed)

theorem headerRole_worded {line : CommandLine.Worded} {command : Descriptor C} (fits : line.Fits)
    (resolves : registry.resolve (String.ofList line.word) = some command) (number : Nat) :
    headerRole registry number line.text =
      if CommandLine.maxDigits < line.count.length then
        .error (.oversizedCount line.count.length)
      else .ok (wordedRole number command line.command) := by
  have heeded : CommandLine.isIgnored line.text = false := by
    rw [CommandLine.isIgnored, line.toList_text]
    exact fits.heeded
  have parses := fits.parses
  rw [← line.toList_text] at parses
  split at parses
  next long =>
    unfold headerRole
    rw [heeded, CommandLine.parse, parses, if_pos long]
    rfl
  next few =>
    rw [headerRole_calledFor heeded parses resolves, if_neg few]
    unfold wordedRole
    cases if command.hereDoc then Heredoc.cut? line.command.args else none with
    | none => rfl
    | some cut => rfl

theorem wordedRole_known (number : Nat) (command : Descriptor C) (parsed : CommandLine) :
    wordedRole number command parsed ≠ .unknown := by
  unfold wordedRole
  split <;> exact nofun

namespace Respells

variable {text other : String}

theorem unbroken (respells : Respells registry text other) : Text.Unbroken other.toList := by
  obtain ⟨fits, resolves, leads, unbroken, named, letters, same⟩ := respells
  rw [CommandLine.Worded.toList_text]
  exact (fits.respelled leads unbroken named letters).unbroken

theorem empty_iff (respells : Respells registry text other) : other = "" ↔ text = "" := by
  obtain ⟨fits, resolves, leads, unbroken, named, letters, same⟩ := respells
  have filled {line : CommandLine.Worded} (named : line.word ≠ []) : line.text ≠ "" := by
    intro empty
    have chars := congrArg String.toList empty
    rw [CommandLine.Worded.toList_text] at chars
    exact named (List.append_eq_nil_iff.mp (List.append_eq_nil_iff.mp
      (List.append_eq_nil_iff.mp chars).2).2).1
  exact iff_of_false (filled named) (filled fits.named)

theorem roleOf (respells : Respells registry text other) (number : Nat) :
    roleOf registry none number other = Assembly.roleOf registry none number text ∧
      Assembly.roleOf registry none number text ≠ .ok .unknown := by
  obtain ⟨fits, resolves, leads, unbroken, named, letters, same⟩ := respells
  have also := fits.respelled leads unbroken named letters
  have first := fits.unbroken
  have second := also.unbroken
  rw [← CommandLine.Worded.toList_text] at first second
  unfold Assembly.roleOf
  dsimp only
  rw [dropCarriageReturn_unbroken first, dropCarriageReturn_unbroken second,
    headerRole_worded fits resolves, headerRole_worded also same]
  refine ⟨rfl, ?_⟩
  split
  · exact nofun
  · exact fun unknown => wordedRole_known _ _ _ (Except.ok.inj unknown)

end Respells

def openBehind (registry : Registry C) (pending : Option (OpenHeredoc C)) (number : Nat)
    (line : String) : Option (OpenHeredoc C) :=
  match roleOf registry pending number line with
  | .ok role => role.leaves pending
  | .error _ => pending

/-- The same lines, some of them in another spelling. The lines of heredocs are all kept. -/
inductive Respelled (registry : Registry C) :
    Option (OpenHeredoc C) → Nat → List String → List String → Prop where
  | nil {pending number} : Respelled registry pending number [] []
  | kept {pending number line rest others}
      (behind : Respelled registry (openBehind registry pending number line) (number + 1) rest
        others) : Respelled registry pending number (line :: rest) (line :: others)
  | header {number line other rest others} (respells : Respells registry line other)
      (behind : Respelled registry (openBehind registry none number line) (number + 1) rest
        others) : Respelled registry none number (line :: rest) (other :: others)

namespace Respelled

theorem refl (pending : Option (OpenHeredoc C)) (number : Nat) (lines : List String) :
    Respelled registry pending number lines lines := by
  induction lines generalizing pending number with
  | nil => exact .nil
  | cons line rest ih => exact .kept (ih _ _)

theorem length {pending : Option (OpenHeredoc C)} {number : Nat} {lines others : List String}
    (respelled : Respelled registry pending number lines others) :
    others.length = lines.length := by
  induction respelled with
  | nil => rfl
  | kept behind ih => exact congrArg (· + 1) ih
  | header respells behind ih => exact congrArg (· + 1) ih

theorem eq_nil {pending : Option (OpenHeredoc C)} {number : Nat} {lines : List String}
    (respelled : Respelled registry pending number [] lines) : lines = [] := by
  cases respelled
  rfl

theorem cons {pending : Option (OpenHeredoc C)} {number : Nat} {line : String}
    {rest lines : List String} (respelled : Respelled registry pending number (line :: rest) lines) :
    ∃ other others, lines = other :: others ∧
      roleOf registry pending number other = roleOf registry pending number line ∧
      (other = line ∨ roleOf registry pending number line ≠ .ok .unknown) ∧
      Respelled registry (openBehind registry pending number line) (number + 1) rest others := by
  cases respelled with
  | kept behind => exact ⟨line, _, rfl, rfl, .inl rfl, behind⟩
  | @header _ _ other _ others respells behind =>
      obtain ⟨same, known⟩ := respells.roleOf number
      exact ⟨other, others, rfl, same, .inr known, behind⟩

end Respelled

end Assembly

namespace Stream

variable {registry : Registry C} {stream other : Stream C}

structure Reworded (registry : Registry C) (stream other : Stream C) : Prop where
  place : other = { stream with atHand := other.atHand }
  lines : Assembly.Respelled registry stream.pending stream.number stream.atHand other.atHand

theorem Reworded.refl (stream : Stream C) : Reworded registry stream stream :=
  ⟨rfl, .refl _ _ _⟩

theorem takeLine_place (registry : Registry C) (stream : Stream C) (text : String)
    (session : Session) :
    (takeLine registry stream text session).stream.pending =
        Assembly.openBehind registry stream.pending stream.number text ∧
      (takeLine registry stream text session).stream.number = stream.number + 1 := by
  unfold takeLine Assembly.openBehind
  dsimp only
  cases Assembly.roleOf registry stream.pending stream.number text with
  | error fault => exact ⟨rfl, rfl⟩
  | ok role => cases role <;> exact ⟨rfl, rfl⟩

theorem takeLine_alike {text another : String}
    (same : Assembly.roleOf registry stream.pending stream.number another =
      Assembly.roleOf registry stream.pending stream.number text)
    (known : another = text ∨
      Assembly.roleOf registry stream.pending stream.number text ≠ .ok .unknown)
    (rest others : List String) (session : Session) :
    (takeLine registry { stream with atHand := rest } text session).Matches
      (fun next following => following = { next with atHand := others })
      (takeLine registry { stream with atHand := others } another session) := by
  rcases known with rfl | known
  · unfold takeLine
    dsimp only
    split <;> exact ⟨rfl, rfl, rfl⟩
  · unfold takeLine
    dsimp only
    rw [same]
    cases found : Assembly.roleOf registry stream.pending stream.number text with
    | error fault => exact ⟨rfl, rfl, rfl⟩
    | ok role =>
        cases role with
        -- A line that is not known is reported as it was written.
        | unknown => exact absurd found known
        | ignored | whole | opens | body | closes => exact ⟨rfl, rfl, rfl⟩

theorem pullLines_reworded (reworded : stream.Reworded registry other) (session : Session) :
    (pullLines registry stream.atHand stream session).Matches (Reworded registry)
      (pullLines registry other.atHand other session) := by
  induction hand : stream.atHand generalizing stream other session with
  | nil =>
      obtain ⟨place, lines⟩ := reworded
      rw [hand] at lines
      obtain rfl : other = stream := by rw [place, lines.eq_nil, ← hand]
      rw [hand]
      exact ⟨rfl, rfl, .refl _⟩
  | cons text rest ih =>
      obtain ⟨place, lines⟩ := reworded
      rw [hand] at lines
      obtain ⟨another, others, also, same, known, behind⟩ := lines.cons
      -- Without their first lines, the streams differ in the lines at hand only.
      have replaced : { other with atHand := others } = { stream with atHand := others } := by
        rw [place]
      rw [also, pullLines_cons, pullLines_cons, replaced]
      have read := takeLine_alike same known rest others session
      have next := takeLine_place registry { stream with atHand := rest } text session
      have kept := (takeLine_kept registry { stream with atHand := rest } text session).1
      generalize takeLine registry { stream with atHand := rest } text session = pulled
        at read next kept
      generalize takeLine registry { stream with atHand := others } another session = following
        at read
      obtain ⟨_, left, _⟩ := pulled
      obtain ⟨result, _, final⟩ := following
      obtain ⟨rfl, rfl, still⟩ := read
      dsimp only at still next kept ⊢
      subst still
      have further : Reworded registry left { left with atHand := others } := by
        refine ⟨rfl, ?_⟩
        rw [next.1, next.2, kept]
        exact behind
      rcases result with fault | _ | directive
      · exact ⟨rfl, rfl, further⟩
      · dsimp only at kept ⊢
        rw [kept]
        exact ih further final kept
      · exact ⟨rfl, rfl, further⟩

theorem Reworded.pull (reworded : stream.Reworded registry other) (session : Session) :
    (stream.pull registry session).Matches (Reworded registry) (other.pull registry session) := by
  have lines := pullLines_reworded reworded session
  have place := reworded.place
  have past : (other.closed || other.ended) = (stream.closed || stream.ended) := by rw [place]
  have assembled : other.assembled = stream.assembled := by rw [place]
  unfold Stream.pull
  rw [past, assembled]
  split
  · exact ⟨rfl, rfl, reworded⟩
  · split
    next directive rest found =>
      refine ⟨rfl, rfl, ?_, reworded.lines⟩
      rw [place]
    next none => exact lines

theorem reworded_indistinct (registry : Registry C) : Indistinct registry (Reworded registry) where
  tracked reworded := by rw [reworded.place]
  remaining reworded := by
    have length := reworded.lines.length
    rw [remaining, reworded.place, remaining, length]
  close reworded := ⟨by rw [reworded.place]; rfl, reworded.lines⟩
  pull := Reworded.pull

theorem Reworded.ofText {text other : String}
    (respelled : Assembly.Respelled registry none 1 (Text.terminatedLines text)
      (Text.terminatedLines other)) (path : Option String) (tracked reports : Bool) :
    Reworded registry (.ofText text path tracked reports) (.ofText other path tracked reports) :=
  ⟨rfl, respelled⟩

end Stream

namespace Assembly.Respelled

variable {registry : Registry C} {pending : Option (OpenHeredoc C)} {number : Nat}
  {lines others : List String}

theorem initial {more further : List String}
    (respelled : Respelled registry pending number (lines ++ more) (others ++ further))
    (length : others.length = lines.length) : Respelled registry pending number lines others := by
  induction lines generalizing pending number others with
  | nil =>
      obtain rfl := List.length_eq_zero_iff.mp length
      exact .nil
  | cons line lines ih =>
      obtain ⟨other, others, rfl⟩ := List.exists_cons_of_length_eq_add_one length
      have behind {pending : Option (OpenHeredoc C)}
          (behind : Respelled registry pending (number + 1) (lines ++ more) (others ++ further)) :=
        ih behind (Nat.succ.inj length)
      cases respelled with
      | kept following => exact .kept (behind following)
      | header respells following => exact .header respells (behind following)

theorem replaces (respelled : Respelled registry pending number lines others)
    (unbroken : ∀ line ∈ lines, Text.Unbroken line.toList) :
    List.Forall₂ Text.Replaces lines others := by
  induction respelled with
  | nil => exact .nil
  | kept behind ih =>
      obtain ⟨first, others⟩ := List.forall_mem_cons.mp unbroken
      exact .cons ⟨first, .rfl⟩ (ih others)
  | header respells behind ih =>
      obtain ⟨-, others⟩ := List.forall_mem_cons.mp unbroken
      exact .cons ⟨respells.unbroken, respells.empty_iff⟩ (ih others)

end Assembly.Respelled

theorem Engine.endsLine_iff (text : String) :
    Engine.endsLine text = true ↔ Text.restOf text = "" := by
  have terminated (lines : List (String × Text.Terminator)) :
      ∀ c ∈ (Text.written lines).toList.getLast?, c = '\n' ∨ c = '\r' := by
    rcases List.eq_nil_or_concat lines with rfl | ⟨before, ⟨line, terminator⟩, rfl⟩
    · exact fun c found => nomatch found
    · cases terminator <;> simp [Text.written, Text.Terminator.chars, ← List.append_assoc]
  have unbroken := (Text.linesOf_unbroken text).2
  have ends := terminated (Text.linesOf text)
  conv => lhs; rw [← Text.written_linesOf text]
  rw [Engine.endsLine, String.toList_append]
  cases last : (Text.restOf text).toList.getLast? with
  | none =>
      have empty : Text.restOf text = "" :=
        String.toList_inj.mp (List.getLast?_eq_none_iff.mp last)
      rw [empty, String.toList_empty, List.append_nil]
      cases found : (Text.written (Text.linesOf text)).toList.getLast? with
      | none => simp
      | some c => simpa using ends c found
  | some c =>
      obtain ⟨noReturn, noNewline⟩ := unbroken c (List.mem_of_getLast? last)
      have filled : Text.restOf text ≠ "" := by
        intro empty
        rw [empty] at last
        cases last
      simp [List.getLast?_append, last, noReturn, noNewline, filled]

theorem Text.terminatedLines_endedText (text : String) :
    terminatedLines (Engine.endedText text) =
      terminatedLines text ++ if restOf text = "" then [] else [restOf text] := by
  unfold Engine.endedText
  by_cases empty : restOf text = ""
  · rw [if_pos ((Engine.endsLine_iff text).mpr empty), if_pos empty, List.append_nil]
  · rw [if_neg (mt (Engine.endsLine_iff text).mp empty), if_neg empty,
      terminatedLines_append_newline empty]

namespace Engine

variable {N : Type}

/-- Two texts give the same directives, and as scripts they run alike. -/
structure RunAlike (registry : Registry (Handler N)) (text other : String) : Prop where
  directives : ∀ path tracked reports, ∃ directives fault,
    (Stream.ofText text path tracked reports).Yields registry directives fault ∧
      (Stream.ofText other path tracked reports).Yields registry directives fault
  asText : ∀ depth name (state : State N), state.registry = registry →
    (sourceString (dispatchTo depth) other name).run state =
      (sourceString (dispatchTo depth) text name).run state
  asFile : ∀ depth name (state : State N), state.registry = registry →
    (asScript name (runSource (dispatchTo depth) name (.ofText other (some name)))).run state =
      (asScript name (runSource (dispatchTo depth) name (.ofText text (some name)))).run state

variable {registry : Registry (Handler N)} {text other : String}

theorem asScript_respelled
    (respelled : Assembly.Respelled registry none 1 (Text.terminatedLines text)
      (Text.terminatedLines other)) (depth : Nat) (name : String) {state : State N}
    (registered : state.registry = registry) :
    (asScript name (runSource (dispatchTo depth) name (.ofText other (some name)))).run state =
      (asScript name (runSource (dispatchTo depth) name (.ofText text (some name)))).run state :=
  asScript_congr (runSource_exchanged (Stream.reworded_indistinct registry)
    (.ofText respelled (some name) true true) depth name registered)

/-- Spelling does not matter. Lines outside of heredocs can be led by other blanks and colons, and
can call for their command by any other word for it: the directives are the same, and whatever the
script does it does with each spelling. -/
theorem respelled_runAlike {others : List String} {last : String}
    (respelled : Assembly.Respelled registry none 1
      (Text.terminatedLines text ++ [Text.restOf text]) (others ++ [last])) :
    RunAlike registry text (Text.rewritten text others last) := by
  have replaces := respelled.replaces (Text.terminatedLines_unbroken text)
  obtain ⟨lines, rest⟩ := Text.lines_rewritten replaces
  have length : others.length = (Text.terminatedLines text).length := by
    simpa using respelled.length
  have terminated := respelled.initial length
  rw [← lines] at terminated
  have final : last = "" ↔ Text.restOf text = "" := by
    have reversed := List.forall₂_reverse_iff.mpr replaces
    simp only [List.reverse_append, List.reverse_singleton, List.singleton_append,
      List.forall₂_cons] at reversed
    exact reversed.1.empty
  have ended : Assembly.Respelled registry none 1 (Text.terminatedLines (endedText text))
      (Text.terminatedLines (endedText (Text.rewritten text others last))) := by
    rw [Text.terminatedLines_endedText, Text.terminatedLines_endedText, lines, rest]
    by_cases empty : Text.restOf text = ""
    · rw [if_pos empty, if_pos (final.mpr empty), List.append_nil, List.append_nil]
      exact respelled.initial length
    · rw [if_neg empty, if_neg (mt final.mp empty)]
      exact respelled
  refine ⟨fun path tracked reports => ?_, fun depth name state registered => ?_,
    fun depth name state registered => ?_⟩
  · have reads := Stream.ofText_lines (C := Handler N) text path tracked reports
    obtain ⟨directives, fault, assembles⟩ := Stream.exists_assembles registry reads
    refine ⟨directives, fault, assembles.yields reads, ?_⟩
    exact Stream.Assembles.yields ((Stream.reworded_indistinct registry).assembles
      (.ofText terminated path tracked reports) assembles) (Stream.ofText_lines _ _ _ _)
  · exact asScript_respelled ended depth name registered
  · exact asScript_respelled terminated depth name registered

def fitsAll (line : CommandLine.Worded) : Bool :=
  line.lead.all CommandLine.isLeading && line.count.all Text.isDigit && !line.word.isEmpty &&
    line.word.all CommandLine.isLetter && line.behind.head?.all (!CommandLine.isLetter ·) &&
      line.chars.all fun c => c != '\r' && c != '\n'

theorem fits_of_fitsAll {line : CommandLine.Worded} (checked : fitsAll line = true) : line.Fits := by
  simp only [fitsAll, Bool.and_eq_true, List.all_eq_true] at checked
  obtain ⟨⟨⟨⟨⟨leads, counts⟩, named⟩, letters⟩, ends⟩, unbroken⟩ := checked
  refine ⟨leads, counts, by simpa using named, letters, fun c first => ?_, fun c member => ?_⟩
  · rw [Option.mem_def.mp first] at ends
    simpa using ends
  · simpa using unbroken c member

theorem builtin_respells (line : CommandLine.Worded) (lead word : List Char)
    (checked : fitsAll line = true) (also : fitsAll (line.respelled lead word) = true)
    (known : (builtinRegistry.resolve (String.ofList line.word)).isSome = true)
    (same : builtinRegistry.resolve (String.ofList word) =
      builtinRegistry.resolve (String.ofList line.word)) :
    Assembly.Respells builtinRegistry line.text (line.respelled lead word).text := by
  obtain ⟨command, resolves⟩ := Option.isSome_iff_exists.mp known
  have respelled := fits_of_fitsAll also
  exact .header (fits_of_fitsAll checked) resolves respelled.lead
    (List.forall_mem_append.mp respelled.unbroken).1 respelled.named respelled.letters
    (same.trans resolves)

def choiceText : String :=
  "if 0\necho 1\nelse\n echo 2\nendif"

theorem respelled_runAlike_abbreviated :
    RunAlike builtinRegistry choiceText "::if 0\nec 1\n\tel\n: echo 2\nen" := by
  have opens : Assembly.Respells builtinRegistry "if 0" "::if 0" :=
    builtin_respells ⟨[], [], ['i', 'f'], [' ', '0']⟩ [':', ':'] ['i', 'f'] rfl rfl
      (by decide +kernel) rfl
  have first : Assembly.Respells builtinRegistry "echo 1" "ec 1" :=
    builtin_respells ⟨[], [], ['e', 'c', 'h', 'o'], [' ', '1']⟩ [] ['e', 'c'] rfl rfl
      (by decide +kernel) rfl
  have falls : Assembly.Respells builtinRegistry "else" "\tel" :=
    builtin_respells ⟨[], [], ['e', 'l', 's', 'e'], []⟩ ['\t'] ['e', 'l'] rfl rfl
      (by decide +kernel) rfl
  have second : Assembly.Respells builtinRegistry " echo 2" ": echo 2" :=
    builtin_respells ⟨[' '], [], ['e', 'c', 'h', 'o'], [' ', '2']⟩ [':', ' '] ['e', 'c', 'h', 'o']
      rfl rfl (by decide +kernel) rfl
  have closes : Assembly.Respells builtinRegistry "endif" "en" :=
    builtin_respells ⟨[], [], ['e', 'n', 'd', 'i', 'f'], []⟩ [] ['e', 'n'] rfl rfl
      (by decide +kernel) rfl
  have respelled : Assembly.Respelled builtinRegistry none 1
      (Text.terminatedLines choiceText ++ [Text.restOf choiceText])
      (["::if 0", "ec 1", "\tel", ": echo 2"] ++ ["en"]) :=
    .header opens (.header first (.header falls (.header second (.header closes .nil))))
  exact respelled_runAlike respelled

end Engine

end ExScript
