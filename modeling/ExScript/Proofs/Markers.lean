import ExScript.Command.Line

/-!
Heredoc markers: the one that counts is the last. What comes before it and its token are those two
parts of the arguments, of which there is no longer first part.
-/

namespace ExScript.Heredoc

def Announces (behind token : List Char) : Prop :=
  ∃ gap final, behind = gap ++ (token ++ final) ∧ (∀ c ∈ gap, Text.isBlank c = true) ∧
    token ≠ [] ∧ (∀ c ∈ token, Text.isBlank c = false) ∧ (final = [] ∨ final = ['\n'])

def Marks (chars before token : List Char) : Prop :=
  ∃ behind, chars = before ++ '<' :: '<' :: behind ∧ Announces behind token

structure LastMark (chars before token : List Char) : Prop where
  marks : Marks chars before token
  longest : ∀ other another, Marks chars other another → other.length ≤ before.length

theorem announces_of_token {behind token : List Char} (found : token? behind = some token) :
    Announces behind token := by
  have whole : behind.takeWhile Text.isBlank ++ Text.stripStart behind = behind :=
    List.takeWhile_append_dropWhile
  have parts : (Text.stripStart behind).takeWhile (!Text.isBlank ·) ++
      (Text.stripStart behind).dropWhile (!Text.isBlank ·) = Text.stripStart behind :=
    List.takeWhile_append_dropWhile
  unfold token? at found
  dsimp only at found
  split at found
  · cases found
  · split at found
    next nonempty ends =>
      cases found
      refine ⟨behind.takeWhile Text.isBlank, (Text.stripStart behind).dropWhile (!Text.isBlank ·),
        ?_, ?_, ?_, ?_, ?_⟩
      · rw [parts, whole]
      · intro c member
        exact List.all_eq_true.mp List.all_takeWhile c member
      · intro empty
        rw [empty] at nonempty
        exact nonempty rfl
      · intro c member
        have solid := List.all_eq_true.mp List.all_takeWhile c member
        simpa using solid
      · simpa using ends
    next => cases found

theorem token_of_announces {behind token : List Char} (announces : Announces behind token) :
    token? behind = some token := by
  obtain ⟨gap, final, rfl, blank, nonempty, solid, ends⟩ := announces
  have stripped : Text.stripStart (gap ++ (token ++ final)) = token ++ final := by
    unfold Text.stripStart
    rw [List.dropWhile_append_of_pos blank]
    cases token with
    | nil => exact absurd rfl nonempty
    | cons c token => simp [solid c List.mem_cons_self]
  have newline : Text.isBlank '\n' = true := by decide
  have taken : (token ++ final).takeWhile (!Text.isBlank ·) = token := by
    rw [List.takeWhile_append_of_pos (by simpa using solid)]
    rcases ends with rfl | rfl <;> simp [newline]
  have dropped : (token ++ final).dropWhile (!Text.isBlank ·) = final := by
    rw [List.dropWhile_append_of_pos (by simpa using solid)]
    rcases ends with rfl | rfl <;> simp [newline]
  have some_ : token.isEmpty = false := by simpa using nonempty
  have fine : (final.isEmpty || decide (final = ['\n'])) = true := by
    rcases ends with rfl | rfl <;> rfl
  unfold token?
  simp only [stripped, taken, dropped, some_, fine, Bool.false_eq_true, ↓reduceIte]

theorem not_marks_nil (before token : List Char) : ¬ Marks [] before token := by
  rintro ⟨behind, shape, -⟩
  cases before <;> cases shape

theorem marks_cons_iff {c : Char} {rest before token : List Char} :
    Marks (c :: rest) before token ↔
      (∃ inner, before = c :: inner ∧ Marks rest inner token) ∨
        (before = [] ∧ c = '<' ∧ ∃ behind, rest = '<' :: behind ∧ Announces behind token) := by
  constructor
  · rintro ⟨behind, shape, announces⟩
    cases before with
    | nil =>
        cases shape
        exact .inr ⟨rfl, rfl, behind, rfl, announces⟩
    | cons d inner =>
        cases shape
        exact .inl ⟨inner, rfl, behind, rfl, announces⟩
  · rintro (⟨inner, rfl, behind, rfl, announces⟩ | ⟨rfl, rfl, behind, rfl, announces⟩)
    · exact ⟨behind, rfl, announces⟩
    · exact ⟨behind, rfl, announces⟩

def Cuts (chars : List Char) : Option (List Char × List Char) → Prop
  | none => ∀ before token, ¬ Marks chars before token
  | some (before, token) => LastMark chars before token

theorem cutChars?_cuts (chars : List Char) : Cuts chars (cutChars? chars) := by
  induction chars with
  | nil => exact not_marks_nil
  | cons c rest ih =>
      unfold cutChars?
      cases inner : cutChars? rest with
      | some found =>
          obtain ⟨before, token⟩ := found
          rw [inner] at ih
          refine ⟨marks_cons_iff.mpr (.inl ⟨before, rfl, ih.marks⟩), ?_⟩
          intro other another marks
          rcases marks_cons_iff.mp marks with ⟨shorter, rfl, inside⟩ | ⟨rfl, -, -⟩
          · exact Nat.succ_le_succ (ih.longest shorter another inside)
          · exact Nat.zero_le _
      | none =>
          rw [inner] at ih
          have first (before token : List Char) (marks : Marks (c :: rest) before token) :
              before = [] ∧ c = '<' ∧ ∃ behind, rest = '<' :: behind ∧ Announces behind token := by
            rcases marks_cons_iff.mp marks with ⟨shorter, -, marks⟩ | here
            · exact absurd marks (ih shorter token)
            · exact here
          dsimp only
          split
          next behind =>
            cases found : token? behind with
            | none =>
                intro before token marks
                obtain ⟨-, -, other, same, announces⟩ := first before token marks
                cases same
                rw [token_of_announces announces] at found
                cases found
            | some token =>
                refine ⟨⟨behind, rfl, announces_of_token found⟩, ?_⟩
                intro other another marks
                obtain ⟨rfl, -⟩ := first other another marks
                exact Nat.le_refl _
          next plain =>
            intro before token marks
            obtain ⟨-, opens, behind, again, -⟩ := first before token marks
            exact plain behind opens again

theorem LastMark.unique {chars before token other another : List Char}
    (last : LastMark chars before token) (same : LastMark chars other another) :
    before = other ∧ token = another := by
  obtain ⟨behind, shape, announces⟩ := last.marks
  obtain ⟨following, form, announced⟩ := same.marks
  have length : before.length = other.length :=
    Nat.le_antisymm (same.longest _ _ last.marks) (last.longest _ _ same.marks)
  rw [shape] at form
  obtain ⟨rfl, tails⟩ := List.append_inj form length
  cases tails
  have found := token_of_announces announces
  rw [token_of_announces announced] at found
  exact ⟨rfl, (Option.some.inj found).symm⟩

theorem cutChars?_eq_some_iff {chars before token : List Char} :
    cutChars? chars = some (before, token) ↔ LastMark chars before token := by
  have cuts := cutChars?_cuts chars
  constructor
  · intro found
    rw [found] at cuts
    exact cuts
  · intro last
    cases found : cutChars? chars with
    | none =>
        rw [found] at cuts
        exact absurd last.marks (cuts before token)
    | some parts =>
        obtain ⟨other, another⟩ := parts
        rw [found] at cuts
        obtain ⟨rfl, rfl⟩ := last.unique cuts
        rfl

theorem cutChars?_eq_none_iff {chars : List Char} :
    cutChars? chars = none ↔ ∀ before token, ¬ Marks chars before token := by
  have cuts := cutChars?_cuts chars
  constructor
  · intro found
    rw [found] at cuts
    exact cuts
  · intro unmarked
    cases found : cutChars? chars with
    | none => rfl
    | some parts =>
        obtain ⟨before, token⟩ := parts
        rw [found] at cuts
        exact absurd cuts.marks (unmarked before token)

end ExScript.Heredoc
