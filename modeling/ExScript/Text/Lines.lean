/-!
Lines and their terminators. A carriage return with a newline right behind it is one terminator;
either of them alone is one as well. What follows the last terminator is no line.
-/

namespace ExScript.Text

inductive Terminator where
  | newline
  | carriageReturn
  | both
  deriving DecidableEq, Repr

def Terminator.chars : Terminator → List Char
  | .newline => ['\n']
  | .carriageReturn => ['\r']
  | .both => ['\r', '\n']

def cutLines : List Char → List (List Char × Terminator) × List Char
  | [] => ([], [])
  | '\r' :: '\n' :: rest =>
      let (lines, tail) := cutLines rest
      (([], .both) :: lines, tail)
  | '\r' :: rest =>
      let (lines, tail) := cutLines rest
      (([], .carriageReturn) :: lines, tail)
  | '\n' :: rest =>
      let (lines, tail) := cutLines rest
      (([], .newline) :: lines, tail)
  | c :: rest =>
      match cutLines rest with
      | ((line, terminator) :: lines, tail) => ((c :: line, terminator) :: lines, tail)
      | ([], tail) => ([], c :: tail)

def terminatedLines (text : String) : List String :=
  (cutLines text.toList).1.map fun (line, _) => String.ofList line

def unifyNewlines (chars : List Char) : List Char :=
  let (lines, tail) := cutLines chars
  lines.flatMap (fun (line, _) => line ++ ['\n']) ++ tail

def Unbroken (line : List Char) : Prop :=
  ∀ c ∈ line, c ≠ '\r' ∧ c ≠ '\n'

theorem unbroken_of_all {line : List Char}
    (checked : line.all (fun c => c != '\r' && c != '\n') = true) : Unbroken line := by
  intro c member
  have fine := List.all_eq_true.mp checked c member
  simpa using fine

theorem unbroken_of_forall {line : List Char} {allowed : Char → Prop}
    (each : ∀ c ∈ line, allowed c) (noReturn : ¬ allowed '\r') (noNewline : ¬ allowed '\n') :
    Unbroken line := by
  intro c member
  have here := each c member
  constructor
  · rintro rfl
    exact noReturn here
  · rintro rfl
    exact noNewline here

theorem unbroken_append {one other : String} :
    Unbroken (one ++ other).toList ↔ Unbroken one.toList ∧ Unbroken other.toList := by
  rw [String.toList_append]
  exact List.forall_mem_append

/-- A terminated line is cut off, unless its terminator runs into the text behind it. -/
theorem cutLines_line {line : List Char} (unbroken : Unbroken line) (terminator : Terminator)
    {rest : List Char} (apart : terminator = .carriageReturn → rest.head? ≠ some '\n') :
    cutLines (line ++ (terminator.chars ++ rest)) =
      ((line, terminator) :: (cutLines rest).1, (cutLines rest).2) := by
  induction line with
  | nil =>
      cases terminator with
      | newline | both => rfl
      | carriageReturn =>
          have alone : ∀ more, rest = '\n' :: more → False := by
            rintro more rfl
            exact apart rfl rfl
          exact cutLines.eq_3 rest alone
  | cons c line ih =>
      obtain ⟨noReturn, noNewline⟩ := unbroken c List.mem_cons_self
      have behind := ih fun other member => unbroken other (List.mem_cons_of_mem c member)
      rw [List.cons_append, cutLines, behind]
      all_goals simp_all

def written (lines : List (String × Terminator)) : String :=
  String.ofList (lines.flatMap fun (line, terminator) => line.toList ++ terminator.chars)

/-- No carriage return that ends a line has a newline behind it, which would belong to it. -/
def Apart (rest : String) : List (String × Terminator) → Prop
  | [] => True
  | (_, terminator) :: lines =>
      (terminator = .carriageReturn → (written lines ++ rest).toList.head? ≠ some '\n') ∧
        Apart rest lines

theorem terminatedLines_written {lines : List (String × Terminator)} {rest : String}
    (unbroken : ∀ line ∈ lines, Unbroken line.1.toList) (apart : Apart rest lines) :
    terminatedLines (written lines ++ rest) = lines.map (·.1) ++ terminatedLines rest := by
  induction lines with
  | nil => simp [written]
  | cons line lines ih =>
      obtain ⟨line, terminator⟩ := line
      obtain ⟨first, others⟩ := List.forall_mem_cons.mp unbroken
      have chars : (written ((line, terminator) :: lines) ++ rest).toList =
          line.toList ++ (terminator.chars ++ (written lines ++ rest).toList) := by
        simp [written]
      have behind := ih others apart.2
      unfold terminatedLines at behind ⊢
      rw [chars, cutLines_line first terminator apart.1, List.map_cons, behind]
      simp

def joinLines (lines : List (List Char)) : List Char :=
  lines.flatMap fun line => line ++ ['\n']

theorem getLast?_joinLines (lines : List (List Char)) (line : List Char) :
    (joinLines (lines ++ [line])).getLast? = some '\n' := by
  simp [joinLines, ← List.append_assoc]

theorem cutLines_joinLines {lines : List (List Char)} (unbroken : ∀ line ∈ lines, Unbroken line) :
    cutLines (joinLines lines) = (lines.map fun line => (line, .newline), []) := by
  induction lines with
  | nil => rfl
  | cons line rest ih =>
      have behind := ih fun other member => unbroken other (List.mem_cons_of_mem line member)
      have first : joinLines (line :: rest) =
          line ++ (Terminator.newline.chars ++ joinLines rest) := by
        simp [joinLines, Terminator.chars]
      rw [first, cutLines_line (unbroken line List.mem_cons_self) .newline nofun, behind]
      rfl

def Whole (chars : List Char) : Prop :=
  ∀ c ∈ chars.getLast?, c = '\n'

theorem Whole.tail {c : Char} {chars : List Char} (whole : Whole (c :: chars)) : Whole chars := by
  intro last found
  refine whole last ?_
  cases chars with
  | nil => cases found
  | cons next chars => rwa [List.getLast?_cons_cons]

theorem Whole.lines_ne_nil {chars : List Char} (whole : Whole chars) (some : chars ≠ []) :
    (cutLines chars).1 ≠ [] := by
  fun_induction cutLines chars with
  | case1 => exact absurd rfl some
  | case2 | case3 | case4 | case5 => exact List.cons_ne_nil _ _
  | case6 c chars _ _ newline tail cut ih =>
      cases chars with
      | nil => exact absurd (whole c rfl) newline
      | cons next chars => exact absurd (congrArg Prod.fst cut) (ih whole.tail (List.cons_ne_nil _ _))

/-- Lines end where whole lines end: what follows is cut on its own. -/
theorem cutLines_append {before : List Char} (whole : Whole before) (rest : List Char) :
    cutLines (before ++ rest) =
      ((cutLines before).1 ++ (cutLines rest).1, (cutLines rest).2) := by
  fun_induction cutLines before with
  | case1 => rfl
  | case2 chars lines tail cut ih =>
      rw [List.cons_append, List.cons_append, cutLines, ih whole.tail.tail, cut]
      rfl
  | case3 chars apart lines tail cut ih =>
      have behind (more : List Char) : chars ++ rest ≠ '\n' :: more := by
        intro same
        cases chars with
        | nil => exact absurd (whole '\r' rfl) (by decide)
        | cons next chars => exact apart chars (by rw [(List.cons_eq_cons.mp same).1])
      rw [List.cons_append, cutLines, ih whole.tail, cut]
      · rfl
      · exact behind
  | case4 chars lines tail cut ih =>
      rw [List.cons_append, cutLines, ih whole.tail, cut]
      rfl
  | case5 c chars _ noReturn newline line terminator lines tail cut ih =>
      rw [List.cons_append, cutLines, ih whole.tail, cut]
      · rfl
      · exact fun _ isReturn => absurd isReturn noReturn
      · exact noReturn
      · exact newline
  | case6 c chars _ _ newline tail cut =>
      cases chars with
      | nil => exact absurd (whole c rfl) newline
      | cons next chars =>
          exact absurd (congrArg Prod.fst cut) (whole.tail.lines_ne_nil (List.cons_ne_nil _ _))

theorem cutLines_unbroken (chars : List Char) :
    (∀ line ∈ (cutLines chars).1, Unbroken line.1) ∧ Unbroken (cutLines chars).2 := by
  have nothing : Unbroken [] := List.forall_mem_nil _
  have enter {line : List Char × Terminator} {lines : List (List Char × Terminator)}
      (first : Unbroken line.1) (others : ∀ line ∈ lines, Unbroken line.1) :
      ∀ other ∈ line :: lines, Unbroken other.1 := List.forall_mem_cons.mpr ⟨first, others⟩
  fun_induction cutLines chars with
  | case1 => exact ⟨List.forall_mem_nil _, nothing⟩
  | case2 rest lines tail cut ih =>
      rw [cut] at ih
      exact ⟨enter nothing ih.1, ih.2⟩
  | case3 rest _ lines tail cut ih =>
      rw [cut] at ih
      exact ⟨enter nothing ih.1, ih.2⟩
  | case4 rest lines tail cut ih =>
      rw [cut] at ih
      exact ⟨enter nothing ih.1, ih.2⟩
  | case5 c rest _ noReturn noNewline line terminator lines tail cut ih =>
      rw [cut] at ih
      obtain ⟨first, others⟩ := List.forall_mem_cons.mp ih.1
      refine ⟨enter (List.forall_mem_cons.mpr ⟨⟨?_, ?_⟩, first⟩) others, ih.2⟩
      · exact fun isReturn => noReturn isReturn
      · exact fun isNewline => noNewline isNewline
  | case6 c rest _ noReturn noNewline tail cut ih =>
      rw [cut] at ih
      refine ⟨List.forall_mem_nil _, List.forall_mem_cons.mpr ⟨⟨?_, ?_⟩, ih.2⟩⟩
      · exact fun isReturn => noReturn isReturn
      · exact fun isNewline => noNewline isNewline

theorem cutLines_of_unbroken {chars : List Char} (unbroken : Unbroken chars) :
    cutLines chars = ([], chars) := by
  induction chars with
  | nil => rfl
  | cons c rest ih =>
      obtain ⟨noReturn, noNewline⟩ := unbroken c List.mem_cons_self
      rw [cutLines, ih fun other member => unbroken other (List.mem_cons_of_mem c member)]
      all_goals simp_all

theorem joinLines_whole (lines : List (List Char)) : Whole (joinLines lines) := by
  rcases List.eq_nil_or_concat lines with rfl | ⟨before, line, rfl⟩
  · exact fun c found => nomatch found
  · intro c found
    rw [List.concat_eq_append, getLast?_joinLines] at found
    exact (Option.some.inj found).symm

theorem cutLines_unifyNewlines (chars : List Char) :
    cutLines (unifyNewlines chars) =
      ((cutLines chars).1.map fun line => (line.1, .newline), (cutLines chars).2) := by
  obtain ⟨lines, tail⟩ := cutLines_unbroken chars
  have unified : unifyNewlines chars =
      joinLines ((cutLines chars).1.map (·.1)) ++ (cutLines chars).2 := by
    simp [unifyNewlines, joinLines, List.flatMap_map]
  have each : ∀ line ∈ (cutLines chars).1.map (·.1), Unbroken line := by
    intro line member
    obtain ⟨cut, among, rfl⟩ := List.mem_map.mp member
    exact lines cut among
  rw [unified, cutLines_append (joinLines_whole _), cutLines_joinLines each,
    cutLines_of_unbroken tail]
  simp

theorem terminatedLines_unifyNewlines (chars : List Char) :
    terminatedLines (String.ofList (unifyNewlines chars)) =
      terminatedLines (String.ofList chars) := by
  unfold terminatedLines
  rw [String.toList_ofList, String.toList_ofList, cutLines_unifyNewlines, List.map_map]
  rfl

theorem terminatedLines_append {text : String} (whole : Whole text.toList) (rest : String) :
    terminatedLines (text ++ rest) = terminatedLines text ++ terminatedLines rest := by
  unfold terminatedLines
  rw [String.toList_append, cutLines_append whole, List.map_append]

end ExScript.Text
