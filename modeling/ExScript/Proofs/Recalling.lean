import ExScript.Shell.Capture
import Mathlib.Data.List.Basic

/-!
Recalling the last command, seen in three ways. The scan goes through the text once and counts
backslashes. The marks of a text are its `!`s, each with all the backslashes right in front of it;
they cut the text in just one way. The three patterns look for a `!` that is not protected, for the
leftmost `!` with its backslashes, and tell whether these protect it. All three say the same.
-/

namespace ExScript.Shell

/-- A `!` with the backslashes right in front of it, and what stands before them. -/
structure Mark where
  before : List Char
  backslashes : Nat
  deriving DecidableEq, Repr

namespace Mark

def chars (mark : Mark) : List Char :=
  mark.before ++ (List.replicate mark.backslashes '\\' ++ ['!'])

structure Maximal (mark : Mark) : Prop where
  first : '!' ∉ mark.before
  all : mark.before.getLast? ≠ some '\\'

def Bare (mark : Mark) : Prop :=
  mark.backslashes % 2 = 0

instance (mark : Mark) : Decidable mark.Bare :=
  inferInstanceAs (Decidable (_ = _))

def recalled (last : List Char) (mark : Mark) : List Char :=
  if mark.Bare then List.replicate mark.backslashes '\\' ++ last
  else List.replicate (mark.backslashes - 1) '\\' ++ ['!']

end Mark

/-- A text cut behind each `!`. -/
structure Marked (text : List Char) (marks : List Mark) (tail : List Char) : Prop where
  chars : text = marks.flatMap Mark.chars ++ tail
  maximal : ∀ mark ∈ marks, mark.Maximal
  unmarked : '!' ∉ tail

def recalledMarks (last : List Char) (marks : List Mark) (tail : List Char) : List Char :=
  marks.flatMap (fun mark => mark.before ++ mark.recalled last) ++ tail

theorem Marked.cons {mark : Mark} {text tail : List Char} {marks : List Mark}
    (maximal : mark.Maximal) (marked : Marked text marks tail) :
    Marked (mark.chars ++ text) (mark :: marks) tail where
  chars := by rw [marked.chars, List.flatMap_cons, List.append_assoc]
  maximal := List.forall_mem_cons.mpr ⟨maximal, marked.maximal⟩
  unmarked := marked.unmarked

theorem Marked.append {text other tail rest : List Char} {marks others : List Mark}
    (marked : Marked text marks tail) (ends : text.getLast? ≠ some '\\') (count : Nat)
    (behind : Marked other others rest) :
    Marked (text ++ (List.replicate count '\\' ++ '!' :: other))
      (marks ++ ⟨tail, count⟩ :: others) rest where
  chars := by
    rw [marked.chars, behind.chars]
    simp [Mark.chars]
  maximal := by
    have all : tail.getLast? ≠ some '\\' := by
      intro last
      rw [marked.chars, List.getLast?_append, last] at ends
      exact ends rfl
    intro mark member
    rcases List.mem_append.mp member with inside | member
    · exact marked.maximal mark inside
    · rcases List.mem_cons.mp member with rfl | inside
      · exact ⟨marked.unmarked, all⟩
      · exact behind.maximal mark inside
  unmarked := behind.unmarked

theorem Marked.behind {gap text tail : List Char} {marks : List Mark} (noMark : '!' ∉ gap)
    (ends : gap.getLast? ≠ some '\\') (marked : Marked text marks tail) :
    ∃ others rest, Marked (gap ++ text) others rest ∧
      (∀ last, recalledMarks last others rest = gap ++ recalledMarks last marks tail) ∧
      ((∃ mark ∈ others, mark.Bare) ↔ ∃ mark ∈ marks, mark.Bare) := by
  cases marks with
  | nil =>
      refine ⟨[], gap ++ tail, ⟨by rw [marked.chars]; rfl, marked.maximal, ?_⟩, fun _ => rfl,
        Iff.rfl⟩
      exact fun member => (List.mem_append.mp member).elim noMark marked.unmarked
  | cons mark marks =>
      obtain ⟨here, others⟩ := List.forall_mem_cons.mp marked.maximal
      have maximal : Mark.Maximal ⟨gap ++ mark.before, mark.backslashes⟩ := by
        refine ⟨fun member => (List.mem_append.mp member).elim noMark here.first, ?_⟩
        intro last
        rw [List.getLast?_append, Option.or_eq_some_iff] at last
        exact last.elim here.all fun inGap => ends inGap.2
      refine ⟨⟨gap ++ mark.before, mark.backslashes⟩ :: marks, tail,
        ⟨?_, List.forall_mem_cons.mpr ⟨maximal, others⟩, marked.unmarked⟩, ?_, ?_⟩
      · rw [marked.chars]
        simp [Mark.chars]
      · intro last
        have same : Mark.recalled last ⟨gap ++ mark.before, mark.backslashes⟩ =
            mark.recalled last := rfl
        simp [recalledMarks, same]
      · simp [Mark.Bare]

/-- The scan cuts a text at its marks; `run` is how many backslashes it has read before. -/
theorem exists_marked (last : List Char) (run : Nat) (text : List Char) :
    ∃ marks tail, Marked (List.replicate run '\\' ++ text) marks tail ∧
      recallFrom last run text = recalledMarks last marks tail ∧
      (recalls run text = true ↔ ∃ mark ∈ marks, mark.Bare) := by
  induction text generalizing run with
  | nil =>
      refine ⟨[], List.replicate run '\\', ⟨by simp, List.forall_mem_nil _, ?_⟩, rfl, ?_⟩
      · intro member
        exact absurd (List.eq_of_mem_replicate member) (by decide)
      · simp [recalls]
  | cons c text ih =>
      rw [recallFrom, recalls]
      by_cases backslash : c = '\\'
      · obtain ⟨marks, tail, marked, scanned, bare⟩ := ih (run + 1)
        rw [if_pos backslash, if_pos backslash]
        refine ⟨marks, tail, ?_, scanned, bare⟩
        rw [List.replicate_succ', List.append_assoc, List.singleton_append] at marked
        rwa [backslash]
      obtain ⟨marks, tail, marked, scanned, bare⟩ := ih 0
      rw [if_neg backslash, if_neg backslash, scanned]
      by_cases isMark : c = '!'
      · have here : Mark.Maximal ⟨[], run⟩ := ⟨List.not_mem_nil, nofun⟩
        refine ⟨⟨[], run⟩ :: marks, tail, ?_, ?_, ?_⟩
        · have cut := marked.cons here
          simpa [Mark.chars, isMark] using cut
        · rw [if_pos isMark]
          by_cases even : run % 2 = 0 <;>
            simp [recalledMarks, Mark.recalled, Mark.Bare, even]
        · rw [if_pos isMark]
          simp [Mark.Bare, bare]
      rw [if_neg isMark, if_neg isMark]
      -- The backslashes protect nothing: with the character they stand in front of the next mark.
      have noMark : '!' ∉ List.replicate run '\\' ++ [c] := by
        simp [List.mem_replicate, Ne.symm isMark]
      have ends : (List.replicate run '\\' ++ [c]).getLast? ≠ some '\\' := by
        simp [backslash]
      obtain ⟨others, rest, whole, recalled, same⟩ := marked.behind noMark ends
      refine ⟨others, rest, ?_, ?_, bare.trans same.symm⟩
      · simpa using whole
      · rw [recalled, List.append_assoc]
        rfl

theorem eq_of_append_mark {before others rest behind : List Char} (noMark : '!' ∉ before)
    (noOther : '!' ∉ others) (same : before ++ '!' :: rest = others ++ '!' :: behind) :
    before = others ∧ rest = behind := by
  induction before generalizing others with
  | nil =>
      cases others with
      | nil => exact ⟨rfl, (List.cons.inj same).2⟩
      | cons c others =>
          obtain ⟨rfl, -⟩ := List.cons.inj same
          exact absurd List.mem_cons_self noOther
  | cons c before ih =>
      cases others with
      | nil =>
          obtain ⟨rfl, -⟩ := List.cons.inj same
          exact absurd List.mem_cons_self noMark
      | cons other others =>
          obtain ⟨rfl, behindBoth⟩ := List.cons.inj same
          obtain ⟨rfl, rest⟩ := ih (fun inside => noMark (List.mem_cons_of_mem c inside))
            (fun inside => noOther (List.mem_cons_of_mem c inside)) behindBoth
          exact ⟨rfl, rest⟩

theorem eq_of_append_backslashes {before others : List Char} {count many : Nat}
    (all : before.getLast? ≠ some '\\') (allOthers : others.getLast? ≠ some '\\')
    (same : before ++ List.replicate count '\\' = others ++ List.replicate many '\\') :
    before = others ∧ count = many := by
  induction count generalizing many with
  | zero =>
      cases many with
      | zero => simpa using same
      | succ many =>
          rw [List.replicate_zero, List.append_nil] at same
          rw [same, List.getLast?_append, List.getLast?_replicate] at all
          exact absurd rfl all
  | succ count ih =>
      cases many with
      | zero =>
          rw [List.replicate_zero, List.append_nil] at same
          rw [← same, List.getLast?_append, List.getLast?_replicate] at allOthers
          exact absurd rfl allOthers
      | succ many =>
          rw [List.replicate_succ', List.replicate_succ', ← List.append_assoc,
            ← List.append_assoc] at same
          obtain ⟨before, count⟩ := ih (List.append_cancel_right same)
          exact ⟨before, congrArg (· + 1) count⟩

theorem Mark.chars_append (mark : Mark) (rest : List Char) :
    mark.chars ++ rest = mark.before ++ List.replicate mark.backslashes '\\' ++ '!' :: rest := by
  simp [Mark.chars]

theorem Mark.Maximal.unmarked {mark : Mark} (maximal : mark.Maximal) :
    '!' ∉ mark.before ++ List.replicate mark.backslashes '\\' := by
  simp [maximal.first, List.mem_replicate]

theorem Marked.unique {text tail rest : List Char} {marks others : List Mark}
    (marked : Marked text marks tail) (also : Marked text others rest) :
    marks = others ∧ tail = rest := by
  induction marks generalizing text others with
  | nil =>
      cases others with
      | nil =>
          have chars := marked.chars.symm.trans also.chars
          simpa using chars
      | cons other others =>
          have unmarked : '!' ∉ text := by
            rw [marked.chars]
            exact marked.unmarked
          rw [also.chars] at unmarked
          simp [Mark.chars] at unmarked
  | cons mark marks ih =>
      obtain ⟨here, behind⟩ := List.forall_mem_cons.mp marked.maximal
      cases others with
      | nil =>
          have unmarked : '!' ∉ text := by
            rw [also.chars]
            exact also.unmarked
          rw [marked.chars] at unmarked
          simp [Mark.chars] at unmarked
      | cons other others =>
          obtain ⟨there, others⟩ := List.forall_mem_cons.mp also.maximal
          have same := marked.chars.symm.trans also.chars
          rw [List.flatMap_cons, List.append_assoc, List.flatMap_cons, List.append_assoc,
            Mark.chars_append, Mark.chars_append] at same
          obtain ⟨first, left⟩ := eq_of_append_mark here.unmarked there.unmarked same
          obtain ⟨before, backslashes⟩ := eq_of_append_backslashes here.all there.all first
          obtain ⟨rfl, rfl⟩ := ih ⟨rfl, behind, marked.unmarked⟩ ⟨left, others, also.unmarked⟩
          exact ⟨congrArg (· :: marks) (by cases mark; cases other; simp_all), rfl⟩

/-! The three patterns. -/

/-- A text in which `((^|[^\\])(\\\\)*)!` is found. -/
def Unprotected (text : List Char) : Prop :=
  ∃ before pairs behind, text = before ++ (List.replicate (2 * pairs) '\\' ++ '!' :: behind) ∧
    before.getLast? ≠ some '\\'

/-- A text that `(\\)*!` matches as a whole. -/
def Bang (matched : List Char) : Prop :=
  ∃ count, matched = List.replicate count '\\' ++ ['!']

/-- A text that `^\\(\\\\)*!$` matches. -/
def Protected (matched : List Char) : Prop :=
  ∃ pairs, matched = '\\' :: (List.replicate (2 * pairs) '\\' ++ ['!'])

inductive Replaced (last matched : String) : String → Prop where
  | unescaped (isProtected : Protected matched.toList) :
      Replaced last matched (Text.replaceText "\\!" "!" matched)
  | recalled (bare : ¬ Protected matched.toList) :
      Replaced last matched (Text.replaceText "!" last matched)

/-- Every match replaced, where the next one is looked for behind the one before. -/
inductive Substituted (last : String) : List Char → List Char → Prop where
  | done {text} (nothing : ∀ before matched behind, text = before ++ (matched ++ behind) →
      ¬ Bang matched) : Substituted last text text
  | next {before matched behind replacement result} (bang : Bang matched)
      (leftmost : ∀ sooner other rest, before ++ (matched ++ behind) = sooner ++ (other ++ rest) →
        Bang other → before.length ≤ sooner.length)
      (replaced : Replaced last (String.ofList matched) replacement)
      (behindIt : Substituted last behind result) :
      Substituted last (before ++ (matched ++ behind)) (before ++ (replacement.toList ++ result))

theorem unprotected_iff {text tail : List Char} {marks : List Mark}
    (marked : Marked text marks tail) : Unprotected text ↔ ∃ mark ∈ marks, mark.Bare := by
  constructor
  · rintro ⟨before, pairs, behind, chars, ends⟩
    obtain ⟨ahead, middle, cut, -⟩ := exists_marked [] 0 before
    obtain ⟨others, rest, cutBehind, -⟩ := exists_marked [] 0 behind
    have whole := cut.append ends (2 * pairs) cutBehind
    rw [List.replicate_zero, List.nil_append, List.nil_append, ← chars] at whole
    obtain ⟨rfl, -⟩ := marked.unique whole
    refine ⟨⟨middle, 2 * pairs⟩, List.mem_append_right _ List.mem_cons_self, ?_⟩
    exact Nat.mul_mod_right 2 pairs
  · rintro ⟨mark, member, bare⟩
    obtain ⟨ahead, others, rfl⟩ := List.append_of_mem member
    refine ⟨ahead.flatMap Mark.chars ++ mark.before, mark.backslashes / 2,
      others.flatMap Mark.chars ++ tail, ?_, ?_⟩
    · have even : 2 * (mark.backslashes / 2) = mark.backslashes := by
        have rest : mark.backslashes % 2 = 0 := bare
        omega
      rw [marked.chars, even]
      simp [Mark.chars]
    · intro last
      rw [List.getLast?_append, Option.or_eq_some_iff] at last
      rcases last with last | ⟨-, last⟩
      · exact (marked.maximal mark member).all last
      · rcases List.eq_nil_or_concat ahead with rfl | ⟨ahead, other, rfl⟩
        · cases last
        · simp [Mark.chars] at last

theorem protected_iff {count : Nat} :
    Protected (List.replicate count '\\' ++ ['!']) ↔ count % 2 = 1 := by
  constructor
  · rintro ⟨pairs, same⟩
    have lengths := congrArg List.length same
    simp at lengths
    omega
  · intro odd
    refine ⟨count / 2, ?_⟩
    rw [← List.cons_append, ← List.replicate_succ]
    have same : count = 2 * (count / 2) + 1 := by omega
    rw [← same]

theorem cutAt?_once {needle : List Char} {c : Char}
    (later : ∀ count, needle.isPrefixOf (List.replicate (count + 1) c ++ needle) = false)
    (count : Nat) :
    Text.cutAt? needle (List.replicate count c ++ needle) = some (List.replicate count c, []) := by
  induction count with
  | zero =>
      cases needle with
      | nil => exact absurd (later 0) (by simp)
      | cons d needle => simp [Text.cutAt?]
  | succ count ih =>
      have notHere := later count
      rw [List.replicate_succ, List.cons_append] at notHere ⊢
      rw [Text.cutAt?, if_neg (by simp [notHere]), ih]
      rfl

theorem replaceText_once {needle replacement : String} {c : Char}
    (later : ∀ count, needle.toList.isPrefixOf (List.replicate (count + 1) c ++ needle.toList) =
      false) (count : Nat) :
    (Text.replaceText needle replacement
      (String.ofList (List.replicate count c ++ needle.toList))).toList =
        List.replicate count c ++ replacement.toList := by
  have some : needle.toList ≠ [] := by
    intro none
    simpa [none] using later 0
  have nothing (limit : Nat) : Text.splitOnText needle.toList limit [] = [[]] := by
    cases limit with
    | zero => rfl
    | succ limit => simp [Text.splitOnText, Text.cutAt?, some]
  have length : ∃ limit, (String.ofList (List.replicate count c ++ needle.toList)).length =
      limit + 1 := by
    refine ⟨count + needle.toList.length - 1, ?_⟩
    have positive := List.length_pos_of_ne_nil some
    rw [String.length_ofList, List.length_append, List.length_replicate]
    omega
  obtain ⟨limit, length⟩ := length
  rw [Text.replaceText, length, String.toList_ofList, Text.splitOnText, cutAt?_once later]
  dsimp only
  rw [nothing]
  simp [Text.joinWith]

namespace Mark

def matched (mark : Mark) : String :=
  String.ofList (List.replicate mark.backslashes '\\' ++ ['!'])

theorem toList_matched (mark : Mark) :
    mark.matched.toList = List.replicate mark.backslashes '\\' ++ ['!'] :=
  String.toList_ofList

theorem protected_matched_iff (mark : Mark) : Protected mark.matched.toList ↔ ¬ mark.Bare := by
  rw [toList_matched, protected_iff]
  exact (Nat.mod_two_ne_zero).symm

theorem Bare.replaceText {mark : Mark} (bare : mark.Bare) (last : String) :
    (Text.replaceText "!" last mark.matched).toList = mark.recalled last.toList := by
  rw [recalled, if_pos bare]
  exact replaceText_once (fun _ => rfl) mark.backslashes

theorem replaceText_of_not_bare {mark : Mark} (escaped : ¬ mark.Bare) (last : List Char) :
    (Text.replaceText "\\!" "!" mark.matched).toList = mark.recalled last := by
  have odd : mark.backslashes % 2 = 1 := Nat.mod_two_ne_zero.mp escaped
  have backslash : mark.backslashes = mark.backslashes - 1 + 1 := by omega
  have whole : mark.matched =
      String.ofList (List.replicate (mark.backslashes - 1) '\\' ++ "\\!".toList) := by
    rw [matched, backslash, List.replicate_succ', List.append_assoc]
    rfl
  rw [recalled, if_neg escaped, whole]
  refine replaceText_once ?_ _
  intro count
  cases count <;> rfl

end Mark

theorem replaced_iff (mark : Mark) {last replacement : String} :
    Replaced last mark.matched replacement ↔ replacement.toList = mark.recalled last.toList := by
  by_cases bare : mark.Bare
  · have unescaped : ¬ Protected mark.matched.toList :=
      fun isProtected => mark.protected_matched_iff.mp isProtected bare
    have becomes := bare.replaceText last
    constructor
    · rintro (⟨isProtected⟩ | _)
      · exact absurd isProtected unescaped
      · exact becomes
    · intro recalled
      rw [String.toList_inj.mp (recalled.trans becomes.symm)]
      exact .recalled unescaped
  · have escaped : Protected mark.matched.toList := mark.protected_matched_iff.mpr bare
    have becomes := Mark.replaceText_of_not_bare bare last.toList
    constructor
    · rintro (_ | ⟨bare⟩)
      · exact becomes
      · exact absurd escaped bare
    · intro recalled
      rw [String.toList_inj.mp (recalled.trans becomes.symm)]
      exact .unescaped escaped

theorem Bang.mem {matched : List Char} (bang : Bang matched) : '!' ∈ matched := by
  obtain ⟨count, rfl⟩ := bang
  exact List.mem_append_right _ (List.mem_singleton.mpr rfl)

theorem Mark.Maximal.leftmost {mark : Mark} (maximal : mark.Maximal)
    {text sooner other rest : List Char} (same : mark.chars ++ text = sooner ++ (other ++ rest))
    (bang : Bang other) : mark.before.length ≤ sooner.length := by
  obtain ⟨count, rfl⟩ := bang
  -- All from the start of a match up to its `!` are backslashes. If it starts further to the left,
  -- then what stands before the mark ends in one.
  by_contra shorter
  have begins : mark.before <+: mark.chars ++ text := by
    rw [Mark.chars_append, List.append_assoc]
    exact List.prefix_append _ _
  have front : sooner <+: mark.before :=
    List.prefix_of_prefix_length_le (same ▸ List.prefix_append _ _) begins (by omega)
  obtain ⟨between, before⟩ := front
  have some : between ≠ [] := by
    rintro rfl
    rw [← before, List.append_nil] at shorter
    omega
  have unmarked := maximal.unmarked
  rw [← before, List.append_assoc, List.mem_append, not_or] at unmarked
  have noMark : '!' ∉ List.replicate count '\\' := by simp [List.mem_replicate]
  have backslashes : between ++ List.replicate mark.backslashes '\\' =
      List.replicate count '\\' := by
    rw [Mark.chars_append, ← before, List.append_assoc, List.append_assoc] at same
    have behind := List.append_cancel_left same
    rw [← List.append_assoc, List.append_assoc _ ['!']] at behind
    exact (eq_of_append_mark unmarked.2 noMark behind).1
  have last : between.getLast? = Option.some '\\' := by
    rw [List.getLast?_eq_some_getLast some, Option.some.injEq]
    apply List.eq_of_mem_replicate (n := count)
    rw [← backslashes]
    exact List.mem_append_left _ (List.getLast_mem some)
  apply maximal.all
  rw [← before, List.getLast?_append, last]
  rfl

theorem Marked.substituted {last : String} {text tail : List Char} {marks : List Mark}
    (marked : Marked text marks tail) :
    Substituted last text (recalledMarks last.toList marks tail) := by
  induction marks generalizing text with
  | nil =>
      rw [marked.chars]
      refine .done fun before matched behind same bang => marked.unmarked ?_
      have among : '!' ∈ before ++ (matched ++ behind) :=
        List.mem_append_right _ (List.mem_append_left _ bang.mem)
      rwa [← same] at among
  | cons mark marks ih =>
      obtain ⟨maximal, others⟩ := List.forall_mem_cons.mp marked.maximal
      have behind := ih ⟨rfl, others, marked.unmarked⟩
      have replaced : Replaced last _ (String.ofList (mark.recalled last.toList)) :=
        (replaced_iff mark).mpr String.toList_ofList
      have next := Substituted.next ⟨mark.backslashes, rfl⟩
        (fun _ _ _ same bang => maximal.leftmost (by simpa [Mark.chars] using same) bang)
        replaced behind
      rw [marked.chars]
      simpa [Mark.chars, recalledMarks] using next

theorem Substituted.marked {last : String} {text result : List Char}
    (substituted : Substituted last text result) :
    ∃ marks tail, Marked text marks tail ∧ result = recalledMarks last.toList marks tail := by
  induction substituted with
  | @done text nothing =>
      refine ⟨[], text, ⟨rfl, List.forall_mem_nil _, fun member => ?_⟩, rfl⟩
      obtain ⟨before, behind, split⟩ := List.append_of_mem member
      exact nothing before ['!'] behind split ⟨0, rfl⟩
  | @next before matched behind replacement result bang leftmost replaced _ ih =>
      obtain ⟨marks, tail, marked, rfl⟩ := ih
      obtain ⟨count, rfl⟩ := bang
      have maximal : Mark.Maximal ⟨before, count⟩ := by
        constructor
        · intro member
          obtain ⟨sooner, rest, rfl⟩ := List.append_of_mem member
          have short := leftmost sooner ['!']
            (rest ++ (List.replicate count '\\' ++ ['!'] ++ behind)) (by simp) ⟨0, rfl⟩
          rw [List.length_append, List.length_cons] at short
          omega
        · intro ends
          obtain ⟨sooner, rfl⟩ := List.getLast?_eq_some_iff.mp ends
          have short := leftmost sooner (List.replicate (count + 1) '\\' ++ ['!']) behind
            (by simp [List.replicate_succ]) ⟨count + 1, rfl⟩
          rw [List.length_append, List.length_singleton] at short
          omega
      refine ⟨⟨before, count⟩ :: marks, tail, ?_, ?_⟩
      · have cut := marked.cons maximal
        simpa [Mark.chars] using cut
      · rw [(replaced_iff ⟨before, count⟩).mp replaced]
        simp [recalledMarks]

def noPrevious : Fault :=
  .script (.plain "E34: No previous command")

structure Recalls (last text : String) (marks : List Mark) (tail : List Char) : Prop where
  marked : Marked text.toList marks tail
  only : ∀ others rest, Marked text.toList others rest → others = marks ∧ rest = tail
  outcome : recallLast text last =
    if last = "" ∧ ∃ mark ∈ marks, mark.Bare then .error noPrevious
    else .ok (String.ofList (recalledMarks last.toList marks tail))
  searched : Unprotected text.toList ↔ ∃ mark ∈ marks, mark.Bare
  substituted : ∀ result, Substituted last text.toList result ↔
    result = recalledMarks last.toList marks tail

theorem exists_recalls (last text : String) : ∃ marks tail, Recalls last text marks tail := by
  obtain ⟨marks, tail, marked, scanned, bare⟩ := exists_marked last.toList 0 text.toList
  rw [List.replicate_zero, List.nil_append] at marked
  have only : ∀ others rest, Marked text.toList others rest → others = marks ∧ rest = tail :=
    fun _ _ also => also.unique marked
  refine ⟨marks, tail, marked, only, ?_, unprotected_iff marked, fun result => ⟨?_, ?_⟩⟩
  · unfold recallLast
    rw [scanned]
    by_cases refused : last = "" ∧ ∃ mark ∈ marks, mark.Bare
    · rw [if_pos refused, if_pos (by simpa [refused.1] using bare.mpr refused.2)]
      rfl
    · rw [if_neg refused, if_neg]
      intro both
      rw [Bool.and_eq_true, decide_eq_true_eq, bare] at both
      exact refused both.symm
  · intro substituted
    obtain ⟨others, rest, also, rfl⟩ := substituted.marked
    obtain ⟨rfl, rfl⟩ := only others rest also
    rfl
  · rintro rfl
    exact marked.substituted

end ExScript.Shell
