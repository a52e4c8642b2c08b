import ExScript.Command.Line
import Mathlib.Data.List.Basic

/-!
The grammar of command lines. A line can be cut in many ways into what leads it, a count, a word, a
mark, a gap and arguments. The cut that is read lets each of them in turn take as much as there is
for it, and a line that can be cut at all can be cut like this. A command that was read is read
again from its own text.
-/

namespace ExScript

structure Text.LongestRun (test : Char → Bool) (chars run rest : List Char) : Prop where
  parts : chars = run ++ rest
  inside : ∀ c ∈ run, test c = true
  ends : ∀ c ∈ rest.head?, test c = false

theorem Text.longestRun_iff {test : Char → Bool} {chars run rest : List Char} :
    LongestRun test chars run rest ↔
      chars.takeWhile test = run ∧ chars.dropWhile test = rest := by
  constructor
  · rintro ⟨rfl, inside, ends⟩
    rw [List.takeWhile_append_of_pos inside, List.dropWhile_append_of_pos inside]
    cases rest with
    | nil => simp
    | cons c rest => simp [ends c rfl]
  · rintro ⟨rfl, rfl⟩
    refine ⟨List.takeWhile_append_dropWhile.symm, List.all_eq_true.mp List.all_takeWhile, ?_⟩
    intro c first
    have stops := List.head?_dropWhile_not test chars
    rw [Option.mem_def.mp first] at stops
    simpa using stops

theorem Text.LongestRun.length_le {test : Char → Bool} {chars run rest other more : List Char}
    (longest : LongestRun test chars run rest) (parts : chars = other ++ more)
    (inside : ∀ c ∈ other, test c = true) : other.length ≤ run.length := by
  obtain ⟨taken, -⟩ := longestRun_iff.mp longest
  rw [← taken, parts, List.takeWhile_append_of_pos inside, List.length_append]
  exact Nat.le_add_right _ _

namespace CommandLine

theorem isDigit_codes {c : Char} (digit : Text.isDigit c = true) :
    (48 ≤ c.toNat ∧ c.toNat < 58) ∨ (0x660 ≤ c.toNat ∧ c.toNat < 0x1680) ∨
      (0x1681 ≤ c.toNat ∧ c.toNat < 0x2000) ∨ 0x3001 ≤ c.toNat := by
  have zeros : ∀ start ∈ Text.zeroCodes, start = 48 ∨ (0x660 ≤ start ∧ start + 10 ≤ 0x1680) ∨
      (0x1681 ≤ start ∧ start + 10 ≤ 0x2000) ∨ 0x3001 ≤ start := by decide
  unfold Text.isDigit Text.digitValue? at digit
  rw [Option.isSome_map, List.find?_isSome] at digit
  obtain ⟨start, among, within⟩ := digit
  have shape := zeros start among
  simp only [Bool.and_eq_true, decide_eq_true_eq] at within
  omega

theorem isLetter_codes {c : Char} (letter : isLetter c = true) :
    (97 ≤ c.toNat ∧ c.toNat ≤ 122) ∨ (65 ≤ c.toNat ∧ c.toNat ≤ 90) := by
  simpa [isLetter, Char.le_def, UInt32.le_iff_toNat_le] using letter

theorem isLeading_digit {c : Char} (digit : Text.isDigit c = true) : isLeading c = false := by
  have codes := isDigit_codes digit
  have noColon : c ≠ ':' := by
    rintro rfl
    exact absurd digit (by decide)
  simp [isLeading, Text.isBlank, noColon]
  omega

def StartsWord (c : Char) : Prop :=
  isLetter c = true ∨ c = '!'

theorem StartsWord.not_leading {c : Char} (starts : StartsWord c) : isLeading c = false := by
  rcases starts with letter | rfl
  · have codes := isLetter_codes letter
    have noColon : c ≠ ':' := by
      rintro rfl
      exact absurd letter (by decide)
    simp [isLeading, Text.isBlank, noColon]
    omega
  · decide

theorem StartsWord.not_digit {c : Char} (starts : StartsWord c) : Text.isDigit c = false := by
  rcases starts with letter | rfl
  · have codes := isLetter_codes letter
    rw [← Bool.not_eq_true]
    intro digit
    have others := isDigit_codes digit
    omega
  · decide

def Word (word : List Char) : Prop :=
  word = ['!'] ∨ word ≠ [] ∧ ∀ c ∈ word, isLetter c = true

theorem Word.starts {word : List Char} (proper : Word word) :
    ∃ c rest, word = c :: rest ∧ StartsWord c := by
  rcases proper with rfl | ⟨some, all⟩
  · exact ⟨'!', [], rfl, .inr rfl⟩
  · obtain ⟨c, rest, rfl⟩ := List.exists_cons_of_ne_nil some
    exact ⟨c, rest, rfl, .inl (all c List.mem_cons_self)⟩

def Named (chars : List Char) : Prop :=
  ∃ c ∈ chars.head?, StartsWord c

theorem word?_of_not_named {chars : List Char} (unnamed : ¬ Named chars) : word? chars = none := by
  have other : ∀ rest, chars = '!' :: rest → False := by
    rintro rest rfl
    exact unnamed ⟨'!', rfl, .inr rfl⟩
  have noLetters : chars.takeWhile isLetter = [] := by
    cases chars with
    | nil => rfl
    | cons c rest =>
        have noLetter : ¬ isLetter c = true := fun letter => unnamed ⟨c, rfl, .inl letter⟩
        exact List.takeWhile_cons_of_neg noLetter
  rw [word?.eq_2 _ other, noLetters]
  rfl

theorem word?_letters {word behind : List Char} (nonempty : word ≠ [])
    (letters : ∀ c ∈ word, isLetter c = true) (ends : ∀ c ∈ behind.head?, isLetter c = false) :
    word? (word ++ behind) = some (word, behind) := by
  have run : Text.LongestRun isLetter (word ++ behind) word behind := ⟨rfl, letters, ends⟩
  obtain ⟨taken, dropped⟩ := Text.longestRun_iff.mp run
  have other : ∀ rest, word ++ behind = '!' :: rest → False := by
    intro rest same
    obtain ⟨c, more, rfl⟩ := List.exists_cons_of_ne_nil nonempty
    rw [List.cons_append] at same
    cases same
    exact absurd (letters '!' List.mem_cons_self) (by decide)
  have filled : word.isEmpty = false := by simpa using nonempty
  rw [word?.eq_2 _ other, taken, dropped, filled]
  rfl

theorem parseChars_of_not_named {chars lead numbered count named : List Char}
    (leads : Text.LongestRun isLeading chars lead numbered)
    (counts : Text.LongestRun Text.isDigit numbered count named) (unnamed : ¬ Named named) :
    parseChars chars = .ok none := by
  obtain ⟨-, dropped⟩ := Text.longestRun_iff.mp leads
  obtain ⟨-, behind⟩ := Text.longestRun_iff.mp counts
  unfold parseChars
  simp only [dropped, behind, word?_of_not_named unnamed]

theorem dropFinalNewline_of_not_mem {chars : List Char} (oneLine : '\n' ∉ chars) :
    dropFinalNewline chars = chars := by
  unfold dropFinalNewline
  split
  next rest ends =>
    have member : '\n' ∈ chars := by
      rw [← List.mem_reverse, ends]
      exact List.mem_cons_self
    exact absurd member oneLine
  next => rfl

theorem exists_word {named : List Char} (starts : Named named) :
    ∃ word behind, named = word ++ behind ∧ Word word ∧
      (word = ['!'] ∨ ∀ c ∈ behind.head?, isLetter c = false) := by
  obtain ⟨c, first, letter | rfl⟩ := starts
  · obtain ⟨rest, rfl⟩ := List.head?_eq_some_iff.mp first
    have run : Text.LongestRun isLetter (c :: rest) _ _ := Text.longestRun_iff.mpr ⟨rfl, rfl⟩
    refine ⟨_, _, run.parts, .inr ⟨?_, run.inside⟩, .inr run.ends⟩
    rw [List.takeWhile_cons_of_pos letter]
    exact List.cons_ne_nil _ _
  · obtain ⟨rest, rfl⟩ := List.head?_eq_some_iff.mp first
    exact ⟨['!'], rest, rfl, .inl rfl, .inl rfl⟩

theorem exists_unmarked (behind : List Char) :
    ∃ gap args, behind = gap ++ args ∧ (∀ c ∈ gap, Text.isBlank c = true) ∧
      ∀ c ∈ args.head?, Text.isBlank c = false := by
  have run : Text.LongestRun Text.isBlank behind _ _ := Text.longestRun_iff.mpr ⟨rfl, rfl⟩
  exact ⟨_, _, run.parts, run.inside, run.ends⟩

structure Pieces where
  lead : List Char
  count : List Char
  word : List Char
  bang : Bool
  gap : List Char
  args : List Char

namespace Pieces

def mark (pieces : Pieces) : List Char :=
  if pieces.bang then ['!'] else []

def behindWord (pieces : Pieces) : List Char :=
  pieces.mark ++ (pieces.gap ++ pieces.args)

def chars (pieces : Pieces) : List Char :=
  pieces.lead ++ (pieces.count ++ (pieces.word ++ pieces.behindWord))

/-- How much the pieces take, in the order in which they may. Trying the longest pieces first finds
the cuts that fit in the order of their sizes, the greatest before the others. -/
def sizes (pieces : Pieces) : List Nat :=
  [pieces.lead.length, pieces.count.length, pieces.word.length, pieces.mark.length,
    pieces.gap.length]

def command (pieces : Pieces) : CommandLine where
  count := if pieces.count = [] then none else some (Text.digitsValue pieces.count)
  name := String.ofList pieces.word
  bang := pieces.bang
  args := String.ofList pieces.args

structure Fits (pieces : Pieces) : Prop where
  lead : ∀ c ∈ pieces.lead, isLeading c = true
  count : ∀ c ∈ pieces.count, Text.isDigit c = true
  word : Word pieces.word
  gap : ∀ c ∈ pieces.gap, Text.isBlank c = true

/-- And no piece leaves anything that it could have taken. -/
structure Greedy (pieces : Pieces) : Prop extends Fits pieces where
  wordEnds : pieces.word = ['!'] ∨ ∀ c ∈ pieces.behindWord.head?, isLetter c = false
  marked : (pieces.gap ++ pieces.args).head? = some '!' → pieces.bang = true
  gapEnds : ∀ c ∈ pieces.args.head?, Text.isBlank c = false

variable {pieces other : Pieces}

theorem Fits.leads (fits : pieces.Fits) :
    Text.LongestRun isLeading pieces.chars pieces.lead
      (pieces.count ++ (pieces.word ++ pieces.behindWord)) where
  parts := rfl
  inside := fits.lead
  ends := by
    intro c first
    obtain ⟨start, rest, word, starts⟩ := fits.word.starts
    cases digits : pieces.count with
    | nil =>
        rw [digits, word] at first
        cases first
        exact starts.not_leading
    | cons digit more =>
        rw [digits] at first
        cases first
        exact isLeading_digit (fits.count c (by simp [digits]))

theorem Fits.counts (fits : pieces.Fits) :
    Text.LongestRun Text.isDigit (pieces.count ++ (pieces.word ++ pieces.behindWord)) pieces.count
      (pieces.word ++ pieces.behindWord) where
  parts := rfl
  inside := fits.count
  ends := by
    intro c first
    obtain ⟨start, rest, word, starts⟩ := fits.word.starts
    rw [word] at first
    cases first
    exact starts.not_digit

theorem Fits.named (fits : pieces.Fits) : Named (pieces.word ++ pieces.behindWord) := by
  obtain ⟨start, rest, word, starts⟩ := fits.word.starts
  exact ⟨start, by rw [word]; rfl, starts⟩

theorem Greedy.words (greedy : pieces.Greedy) :
    word? (pieces.word ++ pieces.behindWord) = some (pieces.word, pieces.behindWord) := by
  rcases greedy.word with mark | ⟨some, all⟩
  · rw [mark]
    rfl
  · have noMark : '!' ∉ pieces.word := fun member => absurd (all '!' member) (by decide)
    exact word?_letters some all
      (greedy.wordEnds.resolve_left fun mark => noMark (by simp [mark]))

theorem Greedy.arguments (greedy : pieces.Greedy) (oneLine : '\n' ∉ pieces.args) :
    argumentsOf (pieces.gap ++ pieces.args) = pieces.args := by
  have run : Text.LongestRun Text.isBlank (pieces.gap ++ pieces.args) pieces.gap pieces.args :=
    ⟨rfl, greedy.gap, greedy.gapEnds⟩
  unfold argumentsOf Text.stripStart
  rw [(Text.longestRun_iff.mp run).2]
  exact dropFinalNewline_of_not_mem oneLine

theorem Greedy.parses (greedy : pieces.Greedy) (oneLine : '\n' ∉ pieces.args) :
    parseChars pieces.chars =
      if maxDigits < pieces.count.length then .error pieces.count.length
      else .ok (some pieces.command) := by
  obtain ⟨-, numbered⟩ := Text.longestRun_iff.mp greedy.leads
  obtain ⟨digits, named⟩ := Text.longestRun_iff.mp greedy.counts
  have bang : (pieces.behindWord.head? = some '!') = (pieces.bang = true) := by
    unfold behindWord mark
    cases banged : pieces.bang with
    | true => simp
    | false =>
        have unmarked := mt greedy.marked (by simp [banged])
        simpa using unmarked
  have behind : (if pieces.bang = true then pieces.behindWord.drop 1 else pieces.behindWord) =
      pieces.gap ++ pieces.args := by
    unfold behindWord mark
    cases pieces.bang <;> rfl
  unfold parseChars
  simp only [numbered, digits, named, greedy.words, bang, behind, greedy.arguments oneLine,
    Bool.decide_eq_true, List.isEmpty_iff]
  rfl

/-- Whatever starts a word in the right place can be cut greedily. -/
theorem exists_greedy {lead count named : List Char} (leads : ∀ c ∈ lead, isLeading c = true)
    (counts : ∀ c ∈ count, Text.isDigit c = true) (starts : Named named) :
    ∃ pieces : Pieces, pieces.Greedy ∧ pieces.lead = lead ∧ pieces.count = count ∧
      pieces.chars = lead ++ (count ++ named) := by
  obtain ⟨word, behind, rfl, proper, ends⟩ := exists_word starts
  by_cases marked : behind.head? = some '!'
  · obtain ⟨rest, rfl⟩ := List.head?_eq_some_iff.mp marked
    obtain ⟨gap, args, rfl, blank, gapEnds⟩ := exists_unmarked rest
    exact ⟨⟨lead, count, word, true, gap, args⟩,
      ⟨⟨leads, counts, proper, blank⟩, ends, fun _ => rfl, gapEnds⟩, rfl, rfl, rfl⟩
  · obtain ⟨gap, args, rfl, blank, gapEnds⟩ := exists_unmarked behind
    exact ⟨⟨lead, count, word, false, gap, args⟩,
      ⟨⟨leads, counts, proper, blank⟩, ends, fun mark => absurd mark marked, gapEnds⟩,
      rfl, rfl, rfl⟩

/-- The front of a line can be cut in one way only. -/
theorem Fits.front {chars lead numbered count named : List Char} (fits : pieces.Fits)
    (parts : pieces.chars = chars) (leads : Text.LongestRun isLeading chars lead numbered)
    (counts : Text.LongestRun Text.isDigit numbered count named) :
    pieces.lead = lead ∧ pieces.count = count ∧ pieces.word ++ pieces.behindWord = named := by
  subst parts
  obtain ⟨lead_, numbered_⟩ := Text.longestRun_iff.mp leads
  obtain ⟨sameLead, sameNumbered⟩ := Text.longestRun_iff.mp fits.leads
  obtain rfl := sameNumbered.symm.trans numbered_
  obtain ⟨count_, named_⟩ := Text.longestRun_iff.mp counts
  obtain ⟨sameCount, sameNamed⟩ := Text.longestRun_iff.mp fits.counts
  exact ⟨sameLead.symm.trans lead_, sameCount.symm.trans count_, sameNamed.symm.trans named_⟩

theorem Greedy.word_le (greedy : pieces.Greedy) (fits : other.Fits)
    (same : other.word ++ other.behindWord = pieces.word ++ pieces.behindWord) :
    other.word.length ≤ pieces.word.length := by
  have proper := greedy.word
  rcases fits.word with mark | ⟨some, all⟩
  · obtain ⟨c, rest, word, -⟩ := proper.starts
    rw [mark, word]
    exact Nat.succ_le_succ (Nat.zero_le _)
  · rcases proper with mark | ⟨-, letters⟩
    · obtain ⟨c, rest, word⟩ := List.exists_cons_of_ne_nil some
      rw [mark, word, List.cons_append] at same
      obtain ⟨rfl, -⟩ := List.cons_eq_cons.mp same
      exact absurd (all '!' (by simp [word])) (by decide)
    · have noMark : '!' ∉ pieces.word := fun member => absurd (letters '!' member) (by decide)
      have run : Text.LongestRun isLetter (pieces.word ++ pieces.behindWord) pieces.word
          pieces.behindWord :=
        ⟨rfl, letters, greedy.wordEnds.resolve_left fun mark => noMark (by simp [mark])⟩
      exact run.length_le same.symm all

theorem Greedy.mark_le (greedy : pieces.Greedy) (same : other.behindWord = pieces.behindWord) :
    other.mark.length ≤ pieces.mark.length := by
  cases marked : pieces.bang with
  | true => cases banged : other.bang <;> simp [mark, marked, banged]
  | false =>
      cases banged : other.bang with
      | false => simp [mark, banged]
      | true =>
          have first : (pieces.gap ++ pieces.args).head? = some '!' := by
            have head := congrArg List.head? same
            simpa [behindWord, mark, marked, banged] using head.symm
          rw [greedy.marked first] at marked
          cases marked

theorem bang_of_mark (same : other.mark = pieces.mark) : other.bang = pieces.bang := by
  unfold mark at same
  cases banged : other.bang <;> cases marked : pieces.bang <;> simp [banged, marked] at same ⊢

theorem Greedy.first (greedy : pieces.Greedy) (fits : other.Fits)
    (parts : other.chars = pieces.chars) :
    other = pieces ∨ List.Lex (· < ·) other.sizes pieces.sizes := by
  obtain ⟨lead, count, rest⟩ := fits.front parts greedy.leads greedy.counts
  unfold sizes
  rw [lead, count]
  rcases Nat.lt_or_eq_of_le (greedy.word_le fits rest) with shorter | equal
  · exact .inr (.cons (.cons (.rel shorter)))
  · obtain ⟨word, behind⟩ := List.append_inj rest equal
    rw [word]
    rcases Nat.lt_or_eq_of_le (greedy.mark_le behind) with fewer | alike
    · exact .inr (.cons (.cons (.cons (.rel fewer))))
    · obtain ⟨mark, tails⟩ := List.append_inj behind alike
      rw [mark]
      have run : Text.LongestRun Text.isBlank (pieces.gap ++ pieces.args) pieces.gap pieces.args :=
        ⟨rfl, greedy.gap, greedy.gapEnds⟩
      rcases Nat.lt_or_eq_of_le (run.length_le tails.symm fits.gap) with less | all
      · exact .inr (.cons (.cons (.cons (.cons (.rel less)))))
      · obtain ⟨gap, args⟩ := List.append_inj tails all
        have bang := bang_of_mark mark
        cases other
        cases pieces
        dsimp only at lead count word bang gap args
        rw [lead, count, word, bang, gap, args]
        exact .inl rfl

def written (pieces : Pieces) : Pieces :=
  { pieces with
    lead := []
    count := if pieces.count = [] then [] else Nat.toDigits 10 (Text.digitsValue pieces.count)
    gap := [' '] }

theorem written_count (pieces : Pieces) : pieces.written.count = [] ↔ pieces.count = [] := by
  unfold written
  by_cases none : pieces.count = []
  · simp [none]
  · simp [none, Nat.toDigits_ne_nil]

theorem written_command (pieces : Pieces) : pieces.written.command = pieces.command := by
  unfold command
  simp only [written_count]
  by_cases none : pieces.count = []
  · simp [none, written]
  · simp [none, written, Text.digitsValue_toDigits]

theorem written_length (pieces : Pieces) (few : pieces.count.length ≤ maxDigits) :
    pieces.written.count.length ≤ maxDigits := by
  unfold written
  by_cases none : pieces.count = []
  · simp [none]
  · rw [if_neg none]
    exact Nat.le_trans (Text.length_toDigits_digitsValue_le none) few

theorem Greedy.written (greedy : pieces.Greedy) : pieces.written.Greedy where
  lead := List.forall_mem_nil _
  count := by
    intro c member
    unfold Pieces.written at member
    by_cases none : pieces.count = []
    · simp [none] at member
    · rw [if_neg none] at member
      exact Text.isDigit_ascii (Nat.isDigit_of_mem_toDigits (by decide) (by decide) member)
  word := greedy.word
  gap := by
    intro c member
    rw [List.mem_singleton.mp member]
    decide
  wordEnds := by
    right
    intro c first
    unfold behindWord mark Pieces.written at first
    cases banged : pieces.bang <;> rw [banged] at first <;> cases first <;> decide
  marked first := by cases first
  gapEnds := greedy.gapEnds

end Pieces

def render (command : CommandLine) : String :=
  command.count.elim "" toString ++ command.name ++ (if command.bang then "!" else "") ++ " " ++
    command.args

theorem Pieces.render_command (pieces : Pieces) :
    pieces.command.render.toList = pieces.written.chars := by
  unfold render Pieces.command Pieces.chars Pieces.behindWord Pieces.mark Pieces.written
  by_cases none : pieces.count = [] <;> cases pieces.bang <;> simp [none, Nat.toString_eq_repr]

theorem Pieces.Greedy.parses_uncounted {pieces : Pieces} (greedy : pieces.Greedy)
    (oneLine : '\n' ∉ pieces.args) (uncounted : pieces.count = []) {line : String}
    (chars : line.toList = pieces.chars) : parse line = .ok (some pieces.command) := by
  unfold parse
  rw [chars, greedy.parses oneLine, uncounted]
  exact if_neg (Nat.not_lt_zero _)

theorem parse_spaced {word args : String} (proper : Word word.toList)
    (starts : ∀ c ∈ args.toList.head?, Text.isBlank c = false) (oneLine : '\n' ∉ args.toList) :
    parse (word ++ " " ++ args) = .ok (some ⟨none, word, false, args⟩) := by
  let pieces : Pieces := ⟨[], [], word.toList, false, [' '], args.toList⟩
  have greedy : pieces.Greedy := by
    refine ⟨⟨List.forall_mem_nil _, List.forall_mem_nil _, proper, ?_⟩, .inr ?_, ?_, starts⟩
    · intro c member
      rw [List.mem_singleton.mp member]
      decide
    · rintro c ⟨⟩
      decide
    · rintro ⟨⟩
  have chars : (word ++ " " ++ args).toList = pieces.chars := by
    simp [pieces, Pieces.chars, Pieces.behindWord, Pieces.mark]
  have command : pieces.command = ⟨none, word, false, args⟩ := by
    unfold Pieces.command
    rw [String.ofList_toList, String.ofList_toList]
    rfl
  exact command ▸ greedy.parses_uncounted oneLine rfl chars

theorem dropWhile_stripStart (chars : List Char) :
    (Text.stripStart chars).dropWhile isLeading = chars.dropWhile isLeading := by
  unfold Text.stripStart
  induction chars with
  | nil => rfl
  | cons first rest ih =>
      by_cases blank : Text.isBlank first
      · have leading : isLeading first = true := by simp [isLeading, blank]
        rw [List.dropWhile_cons_of_pos blank, List.dropWhile_cons_of_pos leading, ih]
      · rw [List.dropWhile_cons_of_neg blank]

theorem parseChars_of_ignored {chars : List Char} (ignored : isIgnoredChars chars = true) :
    parseChars chars = .ok none := by
  unfold isIgnoredChars at ignored
  unfold parseChars
  rw [← dropWhile_stripStart]
  split at ignored
  next nothing =>
    rw [nothing]
    rfl
  next comment quoted =>
    have word : word? ('"' :: comment) = none := rfl
    have digit : Text.isDigit '"' = false := by decide
    have leading : isLeading '"' = false := by decide
    rw [quoted]
    simp [leading, digit, word]
  next => cases ignored

theorem heeded_of_parses {line : String} {parsed : CommandLine}
    (parses : parse line = .ok (some parsed)) : isIgnored line = false := by
  cases ignored : isIgnored line with
  | false => rfl
  | true =>
      have nothing : parse line = .ok none := parseChars_of_ignored ignored
      rw [nothing] at parses
      cases parses

structure Grammar (line : String) (lead count named : List Char) : Prop where
  read : (∃ command, parse line = .ok (some command)) ↔ Named named ∧ count.length ≤ maxDigits
  refused : ∀ digits, parse line = .error digits ↔
    (Named named ∧ maxDigits < count.length) ∧ digits = count.length
  nothing : parse line = .ok none ↔ ¬ Named named
  cut : Named named ↔ ∃ pieces : Pieces, pieces.Fits ∧ pieces.chars = line.toList
  command : ∀ command, parse line = .ok (some command) → ∃ pieces : Pieces,
    pieces.Greedy ∧ pieces.chars = line.toList ∧ pieces.lead = lead ∧ pieces.count = count ∧
      command = pieces.command ∧
      ∀ other : Pieces, other.Fits → other.chars = line.toList →
        other = pieces ∨ List.Lex (· < ·) other.sizes pieces.sizes
  rendered : ∀ command, parse line = .ok (some command) →
    parse command.render = .ok (some command)

theorem Pieces.Greedy.rendered {pieces : Pieces} (greedy : pieces.Greedy)
    (oneLine : '\n' ∉ pieces.args) (few : pieces.count.length ≤ maxDigits) :
    parse pieces.command.render = .ok (some pieces.command) := by
  have parses := greedy.written.parses oneLine
  rw [if_neg (Nat.not_lt.mpr (pieces.written_length few)), pieces.written_command] at parses
  unfold parse
  rw [pieces.render_command]
  exact parses

/-- A line is a command exactly if a word starts behind its leading characters and its digits, which
may not be too many. Nothing is given back to find a word: of all cuts of the line the first one is
read, and what was read is read again from its own text. -/
theorem parse_grammar {line : String} (oneLine : '\n' ∉ line.toList)
    {lead numbered count named : List Char}
    (leads : Text.LongestRun isLeading line.toList lead numbered)
    (counts : Text.LongestRun Text.isDigit numbered count named) :
    Grammar line lead count named := by
  by_cases starts : Named named
  · obtain ⟨pieces, greedy, rfl, rfl, chars⟩ :=
      Pieces.exists_greedy leads.inside counts.inside starts
    rw [← counts.parts, ← leads.parts] at chars
    have inside : '\n' ∉ pieces.args := by
      intro member
      refine oneLine ?_
      rw [← chars]
      simp [Pieces.chars, Pieces.behindWord, member]
    have parses : parse line = if maxDigits < pieces.count.length then .error pieces.count.length
        else .ok (some pieces.command) := by
      unfold parse
      rw [← chars]
      exact greedy.parses inside
    have fits : ∃ other : Pieces, other.Fits ∧ other.chars = line.toList :=
      ⟨pieces, greedy.toFits, chars⟩
    -- The pieces are the same with any count; only whether it is refused depends on its length.
    by_cases many : maxDigits < pieces.count.length
    · rw [if_pos many] at parses
      have few : ¬ pieces.count.length ≤ maxDigits := Nat.not_le.mpr many
      constructor
      · simp [parses, few]
      · simp [parses, starts, many, eq_comm]
      · simp [parses, starts]
      · exact iff_of_true starts fits
      · simp [parses]
      · simp [parses]
    · rw [if_neg many] at parses
      have few : pieces.count.length ≤ maxDigits := Nat.not_lt.mp many
      constructor
      · simp [parses, starts, few]
      · simp [parses, many]
      · simp [parses, starts]
      · exact iff_of_true starts fits
      · intro command found
        obtain rfl : pieces.command = command := by simpa [parses] using found
        exact ⟨pieces, greedy, chars, rfl, rfl, rfl, fun other fits parts =>
          greedy.first fits (parts.trans chars.symm)⟩
      · intro command found
        obtain rfl : pieces.command = command := by simpa [parses] using found
        exact greedy.rendered inside few
  · have parses : parse line = .ok none := parseChars_of_not_named leads counts starts
    constructor
    · simp [parses, starts]
    · simp [parses, starts]
    · simp [parses, starts]
    · refine iff_of_false starts ?_
      rintro ⟨pieces, fits, chars⟩
      obtain ⟨-, -, rfl⟩ := fits.front chars leads counts
      exact starts fits.named
    · simp [parses]
    · simp [parses]

theorem parse_grammar_marks :
    Grammar ": ٣4!!! x " [':', ' '] ['٣', '4'] ['!', '!', '!', ' ', 'x', ' '] := by
  have leads : Text.LongestRun isLeading ": ٣4!!! x ".toList [':', ' ']
      ['٣', '4', '!', '!', '!', ' ', 'x', ' '] := Text.longestRun_iff.mpr ⟨by decide, by decide⟩
  have counts : Text.LongestRun Text.isDigit ['٣', '4', '!', '!', '!', ' ', 'x', ' '] ['٣', '4']
      ['!', '!', '!', ' ', 'x', ' '] := Text.longestRun_iff.mpr ⟨by decide, by decide⟩
  exact parse_grammar (by decide) leads counts

end CommandLine

end ExScript
