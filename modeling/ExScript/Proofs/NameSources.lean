import ExScript.Expr.Evaluator

/-!
A name as a source. What may stand in a name is one word to the scanner, so that the source is one
token; the token is an expression of its own unless the word is a keyword.
-/

namespace ExScript

namespace Text

open ExScript.Expr.Numeral (isWordChar isDecimal)

structure InWord (c : Char) : Prop where
  word : isWordChar c = true
  dense : isBlank c = false

def farBlanks : List Nat :=
  [0x85, 0xA0, 0x1680, 0x2000, 0x2001, 0x2002, 0x2003, 0x2004, 0x2005, 0x2006, 0x2007, 0x2008,
    0x2009, 0x200A, 0x2028, 0x2029, 0x202F, 0x205F, 0x3000]

theorem mem_farBlanks {c : Char} (blank : isBlank c = true) (far : 128 ≤ c.toNat) :
    c.toNat ∈ farBlanks := by
  simp only [isBlank, Bool.or_eq_true, Bool.and_eq_true, decide_eq_true_eq, beq_iff_eq] at blank
  simp only [farBlanks, List.mem_cons, List.not_mem_nil, or_false]
  omega

theorem forall_ascii (property : Char → Prop)
    (checked : ∀ code < 128, property (Char.ofNat code)) {c : Char} (near : c.toNat < 128) :
    property c := by
  have here := checked c.toNat near
  rwa [Char.ofNat_toNat] at here

theorem not_isBlank_of_word {c : Char} (near : c.toNat < 128) :
    isWordChar c = true → isBlank c = false :=
  forall_ascii (fun c => isWordChar c = true → isBlank c = false) (by decide) near

/-- Bounds of ranges that hold nothing but characters of words, as far as ASCII goes, and no
blanks. -/
structure Wordy (bounds : Array Nat) : Prop where
  near : ∀ code < 128, inside bounds (Char.ofNat code).toNat = true →
    isWordChar (Char.ofNat code) = true
  far : ∀ code ∈ farBlanks, inside bounds code = false

theorem Wordy.inWord {bounds : Array Nat} (wordy : Wordy bounds) {c : Char}
    (within : inside bounds c.toNat = true) : InWord c := by
  by_cases near : c.toNat < 128
  · have word := forall_ascii (fun c => inside bounds c.toNat = true → isWordChar c = true)
      wordy.near near within
    exact ⟨word, not_isBlank_of_word near word⟩
  · have far : 128 ≤ c.toNat := Nat.le_of_not_lt near
    refine ⟨by simp [isWordChar, far], Bool.eq_false_iff.mpr fun blank => ?_⟩
    rw [wordy.far c.toNat (mem_farBlanks blank far)] at within
    cases within

theorem wordy_start : Wordy identifierStartBounds where
  near := by decide +kernel
  far := by decide +kernel

theorem wordy_rest : Wordy identifierRestBounds where
  near := by decide +kernel
  far := by decide +kernel

theorem not_isDecimal_of_start {c : Char} (start : isIdentifierStart c = true) :
    isDecimal c = false := by
  by_cases near : c.toNat < 128
  · exact forall_ascii (fun c => isIdentifierStart c = true → isDecimal c = false)
      (by decide +kernel) near start
  · refine Bool.eq_false_iff.mpr fun decimal => ?_
    simp only [isDecimal, Bool.and_eq_true, decide_eq_true_eq, Char.le_def] at decimal
    have least : c.toNat ≤ '9'.toNat := decimal.2
    exact near (Nat.lt_of_le_of_lt least (by decide))

structure Spelling (name : String) (first : Char) (rest : List Char) : Prop where
  chars : name.toList = first :: rest
  start : isIdentifierStart first = true
  behind : rest.all isIdentifierRest = true

theorem exists_spelling {name : String} (legal : isIdentifier name = true) :
    ∃ first rest, Spelling name first rest := by
  unfold isIdentifier at legal
  cases chars : name.toList with
  | nil =>
      rw [chars] at legal
      cases legal
  | cons first rest =>
      rw [chars] at legal
      simp only [isIdentifierChars, Bool.and_eq_true] at legal
      exact ⟨first, rest, chars, legal.1, legal.2⟩

namespace Spelling

variable {name : String} {first : Char} {rest : List Char}

theorem inWord (spelling : Spelling name first rest) : ∀ c ∈ first :: rest, InWord c := by
  intro c member
  rcases List.mem_cons.mp member with rfl | later
  · exact wordy_start.inWord spelling.start
  · exact wordy_rest.inWord (List.all_eq_true.mp spelling.behind c later)

theorem ne {mark : Char} (spelling : Spelling name first rest)
    (other : isWordChar mark = false) : ∀ c ∈ first :: rest, c ≠ mark := by
  rintro c member rfl
  rw [(spelling.inWord c member).word] at other
  cases other

theorem first_ne (spelling : Spelling name first rest) :
    first ≠ ' ' ∧ first ≠ '\t' ∧ first ≠ '\x0c' ∧ first ≠ '#' ∧ first ≠ '\n' ∧ first ≠ '\\' ∧
      first ≠ '.' ∧ first ≠ '"' ∧ first ≠ '\'' := by
  refine ⟨?_, ?_, ?_, ?_, ?_, ?_, ?_, ?_, ?_⟩ <;>
    exact spelling.ne (by decide) first List.mem_cons_self

end Spelling

theorem strip_identifier {name : String} (legal : isIdentifier name = true) :
    strip name = name := by
  obtain ⟨first, rest, spelling⟩ := exists_spelling legal
  have dense (c : Char) (member : c ∈ name.toList) : isBlank c = false :=
    (spelling.inWord c (spelling.chars ▸ member)).dense
  have kept (chars : List Char) (each : ∀ c ∈ chars, isBlank c = false) :
      chars.dropWhile isBlank = chars := by
    cases chars with
    | nil => rfl
    | cons c rest => exact List.dropWhile_cons_of_neg (by simp [each c List.mem_cons_self])
  unfold strip stripChars stripEnd stripStart
  rw [kept _ dense, kept _ fun c member => dense c (List.mem_reverse.mp member),
    List.reverse_reverse, String.ofList_toList]

theorem unbroken_identifier {name : String} (legal : isIdentifier name = true) :
    Unbroken name.toList := by
  obtain ⟨first, rest, spelling⟩ := exists_spelling legal
  intro c member
  rw [spelling.chars] at member
  exact ⟨spelling.ne (by decide) c member, spelling.ne (by decide) c member⟩

theorem not_blank_identifier {name : String} (legal : isIdentifier name = true) : name ≠ "" := by
  rintro rfl
  cases legal

end Text

namespace Expr

open Text (Spelling)

namespace Scanner

/-- A word in front of a newline is one token, whether or not it may stand in front of a
quotation. -/
theorem scan_word (fuel : Nat) (scanner : Scanner) {first : Char} {rest : List Char}
    {name : String} (spelling : Spelling name first rest) :
    scanFrom (fuel + 1) .within scanner (first :: rest ++ ['\n']) =
      scanner.token (wordLexeme (first :: rest)) :: scanFrom fuel .within scanner ['\n'] := by
  obtain ⟨space, tab, feed, comment, newline, slash, dot, double, single⟩ := spelling.first_ne
  have word (c : Char) (member : c ∈ first :: rest) : Numeral.isWordChar c = true :=
    (spelling.inWord c member).word
  have taken : (rest ++ ['\n']).takeWhile Numeral.isWordChar = rest := by
    rw [List.takeWhile_append_of_pos fun c member => word c (List.mem_cons_of_mem first member)]
    exact List.append_nil rest
  have left : (rest ++ ['\n']).dropWhile Numeral.isWordChar = ['\n'] := by
    rw [List.dropWhile_append_of_pos fun c member => word c (List.mem_cons_of_mem first member)]
    rfl
  have fits : strayIn (first :: rest) = none := by
    have behind : ∀ c ∈ rest, ¬ (!Text.isIdentifierRest c) = true := by
      simpa using spelling.behind
    simp [strayIn, spelling.start, List.find?_eq_none.mpr behind]
  have unmarked : isQuotationMark first = false := by simp [isQuotationMark, double, single]
  rw [List.cons_append, scanFrom.eq_def]
  simp only [space, tab, feed, comment, newline, slash, dot, unmarked,
    Text.not_isDecimal_of_start spelling.start, word first List.mem_cons_self, taken, left, fits,
    decide_false, Bool.or_self, Bool.false_and, Bool.false_eq_true, ↓reduceIte]
  cases quotationKind? (first :: rest) <;> rfl

theorem scan_start (fuel : Nat) {first : Char} {rest : List Char} {name : String}
    (spelling : Spelling name first rest) :
    scanFrom (fuel + 1) .lineStart {} (first :: rest ++ ['\n']) =
      scanFrom fuel .within {} (first :: rest ++ ['\n']) := by
  obtain ⟨space, tab, feed, comment, newline, slash, -⟩ := spelling.first_ne
  have flush : indentation 0 0 (first :: (rest ++ ['\n'])) = (0, 0, first :: (rest ++ ['\n'])) := by
    simp [indentation, space, tab, feed]
  have even : ({} : Scanner).indentTokens 0 0 = .ok ([], {}) := rfl
  rw [List.cons_append, scanFrom.eq_def]
  simp [flush, even, comment, newline, slash]

end Scanner

theorem tokens_identifier {name : String} (legal : Text.isIdentifier name = true) :
    tokens name = [⟨Scanner.wordLexeme name.toList, 1, 0⟩, ⟨.newline, 1, 0⟩, ⟨.finish, 1, 0⟩] := by
  obtain ⟨first, rest, spelling⟩ := Text.exists_spelling legal
  have unified : Text.unifyNewlines name.toList = name.toList := by
    rw [Text.unifyNewlines, Text.cutLines_of_unbroken (Text.unbroken_identifier legal)]
    rfl
  have last : name.toList.getLast? ≠ some '\n' := fun ended =>
    (Text.unbroken_identifier legal _ (List.mem_of_getLast? ended)).2 rfl
  unfold tokens
  rw [unified]
  dsimp only
  rw [if_neg last, spelling.chars, List.length_append, List.length_cons, List.length_singleton,
    Nat.mul_add, Scanner.scan_start _ spelling, Scanner.scan_word _ _ spelling]
  rfl

def normalForm (name : String) : String :=
  String.ofList (Text.normalName name.toList)

theorem wordLexeme_free {name : String} (free : name ∉ keywords) :
    Scanner.wordLexeme name.toList = .name (normalForm name) := by
  unfold Scanner.wordLexeme
  rw [String.ofList_toList]
  exact if_neg fun listed => free (List.contains_iff_mem.mp listed)

theorem wordLexeme_keyword {name : String} (keyword : name ∈ keywords) :
    Scanner.wordLexeme name.toList = .keyword name := by
  unfold Scanner.wordLexeme
  rw [String.ofList_toList]
  exact if_pos (List.contains_iff_mem.mpr keyword)

theorem parse_identifier {name : String} (legal : Text.isIdentifier name = true)
    (free : name ∉ keywords) : parse name = .ok [.expression (.name (normalForm name))] := by
  unfold parse
  rw [tokens_identifier legal, wordLexeme_free free]
  rfl

theorem parseOrMistake_identifier {name : String} (legal : Text.isIdentifier name = true)
    (short : name.length ≤ maxSource) (free : name ∉ keywords) :
    parseOrMistake name = .ok [.expression (.name (normalForm name))] := by
  obtain ⟨first, rest, spelling⟩ := Text.exists_spelling legal
  have noNull : ¬ name.toList.contains '\x00' = true := by
    rw [spelling.chars, List.contains_iff_mem]
    exact fun member => spelling.ne (by decide) _ member rfl
  unfold parseOrMistake
  rw [if_neg (Nat.not_lt.mpr short), if_neg noNull, parse_identifier legal free]

end Expr

end ExScript
