import ExScript.Script.LineSource
import Mathlib.Data.List.Chain

/-!
What a text gives as a source of lines. The terminators are counted on the text alone, where a
carriage return counts unless a newline stands right behind it; the lines are as many, and with
their terminators put back and the rest behind them they are the text again.
-/

namespace ExScript

namespace Text

def endsLine : List Char → Bool
  | [] => false
  | c :: rest => c = '\n' || (c = '\r' && rest.head? ≠ some '\n')

/-- The terminators of a text, a carriage return and the newline right behind it being one. -/
def countTerminators (chars : List Char) : Nat :=
  chars.tails.countP endsLine

theorem countTerminators_cons (c : Char) (rest : List Char) :
    countTerminators (c :: rest) =
      countTerminators rest + if endsLine (c :: rest) then 1 else 0 := by
  rw [countTerminators, List.tails, List.countP_cons]
  rfl

theorem countTerminators_line {line : List Char} (unbroken : Unbroken line)
    (terminator : Terminator) (rest : List Char) :
    countTerminators (line ++ (terminator.chars ++ rest)) =
      countTerminators rest +
        if terminator = .carriageReturn ∧ rest.head? = some '\n' then 0 else 1 := by
  induction line with
  | nil =>
      cases terminator with
      | newline => simp [Terminator.chars, countTerminators_cons, endsLine]
      | both => simp [Terminator.chars, countTerminators_cons, endsLine]
      | carriageReturn =>
          by_cases newline : rest.head? = some '\n' <;>
            simp [Terminator.chars, countTerminators_cons, endsLine, newline]
  | cons c line ih =>
      obtain ⟨noReturn, noNewline⟩ := unbroken c List.mem_cons_self
      have behind := ih fun other member => unbroken other (List.mem_cons_of_mem c member)
      rw [List.cons_append, countTerminators_cons, behind]
      simp [endsLine, noReturn, noNewline]

theorem length_cutLines (chars : List Char) :
    (cutLines chars).1.length = countTerminators chars := by
  fun_induction cutLines chars with
  | case1 => rfl
  | case2 rest lines tail cut ih | case4 rest lines tail cut ih =>
      rw [cut] at ih
      simp [countTerminators_cons, endsLine, ← ih]
  | case3 rest apart lines tail cut ih =>
      have alone : rest.head? ≠ some '\n' := by
        intro first
        obtain ⟨more, same⟩ := List.head?_eq_some_iff.mp first
        exact apart more same
      rw [cut] at ih
      simp [countTerminators_cons, endsLine, alone, ← ih]
  | case5 c rest _ noReturn noNewline line terminator lines tail cut ih
  | case6 c rest _ noReturn noNewline tail cut ih =>
      have inside : endsLine (c :: rest) = false := by
        simp only [endsLine, Bool.or_eq_false_iff, Bool.and_eq_false_iff, decide_eq_false_iff_not]
        exact ⟨fun newline => noNewline newline, .inl fun isReturn => noReturn isReturn⟩
      rw [cut] at ih
      rw [countTerminators_cons, inside, ← ih]
      rfl

theorem flatMap_cutLines (chars : List Char) :
    ((cutLines chars).1.flatMap fun line => line.1 ++ line.2.chars) ++ (cutLines chars).2 =
      chars := by
  fun_induction cutLines chars with
  | case1 => rfl
  | case2 rest lines tail cut ih | case3 rest _ lines tail cut ih
  | case4 rest lines tail cut ih =>
      rw [cut] at ih
      rw [List.flatMap_cons, List.append_assoc, ih]
      rfl
  | case5 c rest _ _ _ line terminator lines tail cut ih
  | case6 c rest _ _ _ tail cut ih =>
      rw [cut] at ih
      simpa using ih

def linesOf (text : String) : List (String × Terminator) :=
  (cutLines text.toList).1.map fun line => (String.ofList line.1, line.2)

def restOf (text : String) : String :=
  String.ofList (cutLines text.toList).2

theorem map_linesOf (text : String) : (linesOf text).map (·.1) = terminatedLines text := by
  rw [linesOf, List.map_map]
  rfl

theorem length_linesOf (text : String) :
    (linesOf text).length = countTerminators text.toList := by
  rw [linesOf, List.length_map, length_cutLines]

theorem linesOf_unbroken (text : String) :
    (∀ line ∈ linesOf text, Unbroken line.1.toList) ∧ Unbroken (restOf text).toList := by
  obtain ⟨lines, rest⟩ := cutLines_unbroken text.toList
  constructor
  · intro line member
    obtain ⟨cut, among, rfl⟩ := List.mem_map.mp member
    rw [String.toList_ofList]
    exact lines cut among
  · rwa [restOf, String.toList_ofList]

theorem terminatedLines_unbroken (text : String) :
    ∀ line ∈ terminatedLines text ++ [restOf text], Unbroken line.toList := by
  obtain ⟨lines, rest⟩ := linesOf_unbroken text
  refine List.forall_mem_append.mpr ⟨fun line member => ?_, List.forall_mem_singleton.mpr rest⟩
  rw [← map_linesOf] at member
  obtain ⟨cut, among, rfl⟩ := List.mem_map.mp member
  exact lines cut among

theorem written_linesOf (text : String) : written (linesOf text) ++ restOf text = text := by
  rw [← String.toList_inj, String.toList_append, written, restOf, String.toList_ofList,
    String.toList_ofList, linesOf, List.flatMap_map]
  simp only [String.toList_ofList]
  exact flatMap_cutLines text.toList

/-- A carriage return that ends a line does not stand right in front of an empty line that a
newline ends. -/
def Separate (line next : String × Terminator) : Prop :=
  line.2 = .carriageReturn → next ≠ ("", .newline)

theorem head?_written_iff {line : String × Terminator} {lines : List (String × Terminator)}
    (unbroken : Unbroken line.1.toList) (rest : String) :
    (written (line :: lines) ++ rest).toList.head? = some '\n' ↔ line = ("", .newline) := by
  obtain ⟨text, terminator⟩ := line
  rw [String.toList_append, written, String.toList_ofList, List.flatMap_cons]
  cases chars : text.toList with
  | nil =>
      have empty : text = "" := String.toList_inj.mp chars
      cases terminator <;> simp [Terminator.chars, empty]
  | cons c rest =>
      have noNewline := (unbroken c (by rw [chars]; exact List.mem_cons_self)).2
      have some : text ≠ "" := by
        rintro rfl
        cases chars
      simp [chars, noNewline, some]

theorem apart_iff_isChain {lines : List (String × Terminator)}
    (unbroken : ∀ line ∈ lines, Unbroken line.1.toList) :
    Apart "" lines ↔ lines.IsChain Separate := by
  induction lines with
  | nil => simp [Apart]
  | cons line lines ih =>
      obtain ⟨first, others⟩ := List.forall_mem_cons.mp unbroken
      rw [Apart, ih others]
      cases lines with
      | nil => simp [written]
      | cons next lines =>
          rw [ne_eq, head?_written_iff (others next List.mem_cons_self), List.isChain_cons_cons]
          rfl

theorem countTerminators_written {lines : List (String × Terminator)}
    (unbroken : ∀ line ∈ lines, Unbroken line.1.toList) :
    countTerminators (written lines).toList ≤ lines.length ∧
      (countTerminators (written lines).toList = lines.length → Apart "" lines) := by
  induction lines with
  | nil => exact ⟨Nat.le_refl 0, fun _ => trivial⟩
  | cons line lines ih =>
      obtain ⟨first, others⟩ := List.forall_mem_cons.mp unbroken
      obtain ⟨bound, apart⟩ := ih others
      have chars : (written (line :: lines)).toList =
          line.1.toList ++ (line.2.chars ++ (written lines).toList) := by
        simp [written]
      rw [chars, countTerminators_line first, Apart, String.append_empty, List.length_cons]
      by_cases swallowed :
          line.2 = .carriageReturn ∧ (written lines).toList.head? = some '\n'
      · rw [if_pos swallowed]
        exact ⟨by omega, fun same => absurd same (by omega)⟩
      · rw [if_neg swallowed]
        refine ⟨by omega, fun same => ⟨?_, apart (by omega)⟩⟩
        exact fun ends starts => swallowed ⟨ends, starts⟩

/-- Written one behind the other, lines are cut as they were exactly if no two terminators
run into one. -/
theorem terminatedLines_written_iff {lines : List (String × Terminator)}
    (unbroken : ∀ line ∈ lines, Unbroken line.1.toList) :
    terminatedLines (written lines) = lines.map (·.1) ↔ lines.IsChain Separate := by
  rw [← apart_iff_isChain unbroken]
  constructor
  · intro same
    have count : (linesOf (written lines)).length = lines.length := by
      rw [← List.length_map (·.1), map_linesOf, same, List.length_map]
    rw [length_linesOf] at count
    exact (countTerminators_written unbroken).2 count
  · intro apart
    have cut := terminatedLines_written unbroken apart
    rw [String.append_empty] at cut
    rw [cut]
    exact List.append_nil _

theorem apart_linesOf (text : String) : Apart (restOf text) (linesOf text) := by
  unfold restOf linesOf
  generalize text.toList = chars
  have whole (lines : List (List Char × Terminator)) (tail : List Char) :
      (written (lines.map fun line => (String.ofList line.1, line.2)) ++
          String.ofList tail).toList =
        (lines.flatMap fun line => line.1 ++ line.2.chars) ++ tail := by
    simp [written, List.flatMap_map]
  fun_induction cutLines chars with
  | case1 => trivial
  | case2 rest lines tail cut ih | case4 rest lines tail cut ih =>
      rw [cut] at ih
      exact ⟨fun ends => (by cases ends), ih⟩
  | case3 rest apart lines tail cut ih =>
      have behind := flatMap_cutLines rest
      rw [cut] at ih behind
      refine ⟨fun _ first => ?_, ih⟩
      rw [whole, behind] at first
      obtain ⟨more, same⟩ := List.head?_eq_some_iff.mp first
      exact apart more same
  | case5 c rest _ _ _ line terminator lines tail cut ih =>
      rw [cut] at ih
      exact ih
  | case6 => trivial

theorem linesOf_written {lines : List (String × Terminator)} {rest : String}
    (unbroken : ∀ line ∈ lines, Unbroken line.1.toList) (last : Unbroken rest.toList)
    (apart : Apart rest lines) :
    linesOf (written lines ++ rest) = lines ∧ restOf (written lines ++ rest) = rest := by
  have cut : cutLines (written lines ++ rest).toList =
      (lines.map fun line => (line.1.toList, line.2), rest.toList) := by
    induction lines with
    | nil =>
        have empty : (written [] ++ rest).toList = rest.toList := by simp [written]
        rw [empty, cutLines_of_unbroken last]
        rfl
    | cons line lines ih =>
        obtain ⟨first, others⟩ := List.forall_mem_cons.mp unbroken
        have chars : (written (line :: lines) ++ rest).toList =
            line.1.toList ++ (line.2.chars ++ (written lines ++ rest).toList) := by
          simp [written]
        rw [chars, cutLines_line first line.2 apart.1, ih others apart.2]
        rfl
  unfold linesOf restOf
  rw [cut]
  simp [Function.comp_def]

theorem Apart.ended {lines : List (String × Terminator)} {rest : String}
    (apart : Apart rest lines) (filled : rest ≠ "") : Apart "" (lines ++ [(rest, .newline)]) := by
  induction lines with
  | nil => exact ⟨nofun, trivial⟩
  | cons line lines ih =>
      refine ⟨fun ends first => apart.1 ends ?_, ih apart.2⟩
      have chars : rest.toList ≠ [] := fun none => filled (String.toList_inj.mp none)
      obtain ⟨c, more, same⟩ := List.exists_cons_of_ne_nil chars
      simpa [written, same, List.head?_append] using first

theorem terminatedLines_append_newline {text : String} (filled : restOf text ≠ "") :
    terminatedLines (text ++ "\n") = terminatedLines text ++ [restOf text] := by
  have whole : text ++ "\n" = written (linesOf text ++ [(restOf text, .newline)]) ++ "" := by
    conv => lhs; rw [← written_linesOf text]
    simp [written, Terminator.chars, ← String.toList_inj]
  have unbroken : ∀ line ∈ linesOf text ++ [(restOf text, .newline)], Unbroken line.1.toList :=
    List.forall_mem_append.mpr
      ⟨(linesOf_unbroken text).1, List.forall_mem_singleton.mpr (linesOf_unbroken text).2⟩
  have nothing : Unbroken "".toList := List.forall_mem_nil _
  have cut := linesOf_written unbroken nothing ((apart_linesOf text).ended filled)
  rw [whole, ← map_linesOf, cut.1, List.map_append, map_linesOf]
  rfl

structure Replaces (line other : String) : Prop where
  unbroken : Unbroken other.toList
  empty : other = "" ↔ line = ""

def rewritten (text : String) (lines : List String) (last : String) : String :=
  written (lines.zip ((linesOf text).map (·.2))) ++ last

theorem apart_zip {lines : List (String × Terminator)} {rest : String} {others : List String}
    {last : String} (unbroken : ∀ line ∈ lines, Unbroken line.1.toList) (apart : Apart rest lines)
    (replaces : List.Forall₂ Replaces (lines.map (·.1) ++ [rest]) (others ++ [last])) :
    Apart last (others.zip (lines.map (·.2))) := by
  induction lines generalizing others with
  | nil => cases others <;> trivial
  | cons line lines ih =>
      obtain ⟨-, behind⟩ := List.forall_mem_cons.mp unbroken
      obtain ⟨one, others, rfl⟩ : ∃ one more, others = one :: more := by
        cases others with
        | nil =>
            cases replaces with
            | cons first none => simp at none
        | cons one more => exact ⟨one, more, rfl⟩
      obtain ⟨-, following⟩ := List.forall₂_cons.mp replaces
      refine ⟨fun ends starts => apart.1 ends ?_, ih behind apart.2 following⟩
      -- What starts with a newline now is an empty line, which was empty before.
      cases lines with
      | nil =>
          cases others with
          | nil =>
              obtain ⟨left, -⟩ := List.forall₂_cons.mp following
              have first : '\n' ∈ last.toList := List.mem_of_head? (by simpa [written] using starts)
              exact absurd rfl (left.unbroken _ first).2
          | cons other more => simp at following
      | cons next lines =>
          cases others with
          | nil => simp at following
          | cons other more =>
              obtain ⟨here, -⟩ := List.forall₂_cons.mp following
              have newline := (head?_written_iff here.unbroken last).mp starts
              obtain ⟨empty, same⟩ := Prod.mk.inj newline
              rw [head?_written_iff (behind next List.mem_cons_self)]
              exact Prod.ext (here.empty.mp empty) same

theorem lines_rewritten {text : String} {others : List String} {last : String}
    (replaces : List.Forall₂ Replaces (terminatedLines text ++ [restOf text]) (others ++ [last])) :
    terminatedLines (rewritten text others last) = others ∧
      restOf (rewritten text others last) = last := by
  have unbroken : ∀ other ∈ others ++ [last], Unbroken other.toList := by
    generalize terminatedLines text ++ [restOf text] = lines at replaces
    generalize others ++ [last] = all at replaces ⊢
    induction replaces with
    | nil => exact List.forall_mem_nil _
    | cons first behind ih => exact List.forall_mem_cons.mpr ⟨first.unbroken, ih⟩
  obtain ⟨each, final⟩ := List.forall_mem_append.mp unbroken
  have length := replaces.length_eq
  rw [← map_linesOf] at replaces length
  obtain ⟨cut, rest⟩ := linesOf_written
    (fun line member => each line.1 (List.of_mem_zip member).1) (final last List.mem_cons_self)
    (apart_zip (linesOf_unbroken text).1 (apart_linesOf text) replaces)
  refine ⟨?_, rest⟩
  rw [← map_linesOf, rewritten, cut, List.map_fst_zip]
  simp at length ⊢
  omega

end Text

namespace LineSource

def numberedFrom (number : Nat) (lines : List String) : List RawLine :=
  lines.mapIdx fun index text => ⟨number + index, text⟩

theorem numberedFrom_cons (number : Nat) (text : String) (lines : List String) :
    numberedFrom number (text :: lines) = ⟨number, text⟩ :: numberedFrom (number + 1) lines := by
  simp [numberedFrom, Nat.add_assoc, Nat.add_comm 1]

theorem map_numberedFrom (number : Nat) (lines : List String) :
    (numberedFrom number lines).map (·.text) = lines := by
  induction lines generalizing number with
  | nil => rfl
  | cons text lines ih => rw [numberedFrom_cons, List.map_cons, ih]

theorem numberedFrom_injective (number : Nat) : Function.Injective (numberedFrom number) := by
  intro lines others same
  rw [← map_numberedFrom number lines, same, map_numberedFrom]

theorem readOn_closed {source : LineSource} (closed : source.isOpen = false) (limit : Option Nat)
    (atHand : List String) (number : Nat) (session : Session) :
    readOn limit atHand number source session = ([], source, session) := by
  cases atHand with
  | cons text rest => rw [readOn, closed]; rfl
  | nil =>
      rw [readOn]
      cases source.prompting with
      | none => rfl
      | some prompting =>
          dsimp only
          cases prompting.limit.toNat with
          | zero => rw [askOn, closed]; rfl
          | succ left => rw [askOn, closed]; rfl

theorem pass_closed {source : LineSource} (closed : source.isOpen = false) (limit : Option Nat)
    (session : Session) : source.pass limit session = ([], source, session) := by
  have close : source.close = source := by
    obtain ⟨path, atHand, prompting, isOpen⟩ := source
    cases closed
    rfl
  have stays : source.closeAt limit 0 = source := by
    rw [closeAt, close, ite_self]
  rw [pass, stays, readOn_closed closed]

theorem readOn_given {source : LineSource} (given : Given source) (atHand : List String)
    (number : Nat) (session : Session) :
    readOn none atHand number source session =
      (numberedFrom number atHand, source, session) := by
  induction atHand generalizing number with
  | nil => rw [readOn, given.prompting]; rfl
  | cons text rest ih =>
      rw [readOn, given.isOpen]
      dsimp only [if_true]
      have stays : source.closeAt none number = source := rfl
      rw [stays, ih, numberedFrom_cons]
      rfl

theorem readOn_some {source : LineSource} (given : Given source) (atHand : List String)
    (number taken : Nat) (session : Session) :
    readOn (some (number + taken)) atHand number source session =
      (numberedFrom number (atHand.take (taken + 1)),
        if taken < atHand.length then source.close else source, session) := by
  induction atHand generalizing number taken with
  | nil => rw [readOn, given.prompting]; rfl
  | cons text rest ih =>
      rw [readOn, given.isOpen]
      dsimp only [if_true]
      cases taken with
      | zero =>
          have closes : source.closeAt (some (number + 0)) number = source.close := by
            simp [closeAt]
          rw [closes, readOn_closed rfl]
          rfl
      | succ taken =>
          have stays : source.closeAt (some (number + (taken + 1))) number = source := by
            simp [closeAt]
          have behind := ih (number + 1) taken
          rw [Nat.add_assoc, Nat.add_comm 1] at behind
          rw [stays, behind, List.take_succ_cons, numberedFrom_cons]
          simp

theorem pass_given {source : LineSource} (given : Given source) (session : Session) :
    source.pass none session = (numberedFrom 1 source.atHand, source, session) :=
  readOn_given given source.atHand 1 session

theorem pass_some {source : LineSource} (given : Given source) {taken : Nat}
    (taken_le : taken ≤ source.atHand.length) (session : Session) :
    source.pass (some taken) session =
      (numberedFrom 1 (source.atHand.take taken), source.close, session) := by
  cases taken with
  | zero =>
      have closes : source.closeAt (some 0) 0 = source.close := by simp [closeAt]
      rw [pass, closes, readOn_closed rfl]
      rfl
  | succ taken =>
      have stays : source.closeAt (some (taken + 1)) 0 = source := by simp [closeAt]
      rw [pass, stays, Nat.add_comm, readOn_some given, Nat.add_comm 1, if_pos (by omega)]

/-- A text gives as many lines as it has terminators; with these put back and the rest behind them,
they are the text. Lines written one behind the other are given back exactly if no carriage return
meets the newline of an empty line. Once closed, a source gives no more lines. -/
theorem splitting (path : Option String) (session : Session) :
    (∀ text : String, ∃ (lines : List (String × Text.Terminator)) (rest : String),
      Text.written lines ++ rest = text ∧
      (∀ line ∈ lines, Text.Unbroken line.1.toList) ∧ Text.Unbroken rest.toList ∧
      lines.length = Text.countTerminators text.toList ∧
      (ofText text path).pass none session =
        (numberedFrom 1 (lines.map (·.1)), ofText text path, session) ∧
      ∀ taken ≤ lines.length, ∃ closed : LineSource,
        (ofText text path).pass (some taken) session =
          (numberedFrom 1 ((lines.take taken).map (·.1)), closed, session) ∧
        ∀ later other, closed.pass later other = ([], closed, other)) ∧
    ∀ lines : List (String × Text.Terminator), (∀ line ∈ lines, Text.Unbroken line.1.toList) →
      (((ofText (Text.written lines) path).pass none session).1 =
        numberedFrom 1 (lines.map (·.1)) ↔ lines.IsChain Text.Separate) := by
  constructor
  · intro text
    obtain ⟨lines, rest⟩ := Text.linesOf_unbroken text
    have given : Given (ofText text path) := named_given _ _
    have atHand : (ofText text path).atHand = (Text.linesOf text).map (·.1) :=
      (Text.map_linesOf text).symm
    refine ⟨Text.linesOf text, Text.restOf text, Text.written_linesOf text, lines, rest,
      Text.length_linesOf text, ?_, ?_⟩
    · rw [pass_given given, atHand]
    · intro taken taken_le
      refine ⟨(ofText text path).close, ?_, fun later other => pass_closed rfl later other⟩
      rw [pass_some given (by rwa [atHand, List.length_map]), atHand, List.map_take]
  · intro lines unbroken
    have given : Given (ofText (Text.written lines) path) := named_given _ _
    rw [pass_given given, ← Text.terminatedLines_written_iff unbroken]
    exact (numberedFrom_injective 1).eq_iff

theorem splitting_mixed :
    ((ofText "a\r\r\nb\n").pass none {}).1 = [⟨1, "a"⟩, ⟨2, ""⟩, ⟨3, "b"⟩] := by
  have unbroken : ∀ line ∈ [("a", .carriageReturn), ("", .both), ("b", .newline)],
      Text.Unbroken (line : String × Text.Terminator).1.toList :=
    List.forall_mem_cons.mpr ⟨Text.unbroken_of_all (by decide), List.forall_mem_cons.mpr
      ⟨Text.unbroken_of_all (by decide), List.forall_mem_singleton.mpr
        (Text.unbroken_of_all (by decide))⟩⟩
  have separate : [("a", .carriageReturn), ("", .both), ("b", .newline)].IsChain
      Text.Separate := by
    simp [Text.Separate]
  exact ((splitting none {}).2 _ unbroken).mpr separate

end LineSource

end ExScript
