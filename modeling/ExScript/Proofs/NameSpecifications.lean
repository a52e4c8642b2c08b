import ExScript.Proofs.CommandGrammar
import ExScript.Command.Descriptor

/-!
Which texts are name specifications, and which words they stand for. A specification is a part
alone or with an optional part in brackets, and its label is its text again. The one text that is
read without being a specification has a newline behind the brackets; its label leaves that out.
-/

namespace ExScript.Spec

def Bare (chars : List Char) : Prop :=
  chars ≠ [] ∧ ∀ c ∈ chars, isBracket c = false

theorem Bare.run {chars : List Char} (bare : Bare chars) (rest : List Char)
    (ends : ∀ c ∈ rest.head?, isBracket c = true) :
    (chars ++ rest).takeWhile (!isBracket ·) = chars ∧
      (chars ++ rest).dropWhile (!isBracket ·) = rest := by
  have longest : Text.LongestRun (!isBracket ·) (chars ++ rest) chars rest :=
    ⟨rfl, fun c member => by simp [bare.2 c member], fun c first => by simp [ends c first]⟩
  exact Text.longestRun_iff.mp longest

theorem bare_takeWhile {chars : List Char} (some : chars.takeWhile (!isBracket ·) ≠ []) :
    Bare (chars.takeWhile (!isBracket ·)) := by
  refine ⟨some, fun c member => ?_⟩
  have free := List.all_eq_true.mp (List.all_takeWhile (p := (!isBracket ·)) (l := chars)) c member
  simpa using free

def Overlooked (behind : List Char) : Prop :=
  behind = [] ∨ behind = ['\n']

theorem parseChars?_alone {short : List Char} (bare : Bare short) :
    parseChars? short = some (short, []) := by
  obtain ⟨taken, dropped⟩ := bare.run [] nofun
  rw [List.append_nil] at taken dropped
  have nonempty : short.isEmpty = false := by simpa using bare.1
  simp [parseChars?, taken, dropped, nonempty]

theorem parseChars?_bracketed {short optional behind : List Char} (bare : Bare short)
    (more : Bare optional) (overlooked : Overlooked behind) :
    parseChars? (short ++ '[' :: (optional ++ ']' :: behind)) = some (short, optional) := by
  obtain ⟨taken, dropped⟩ := bare.run ('[' :: (optional ++ ']' :: behind))
    (by rintro c ⟨⟩; rfl)
  obtain ⟨inner, last⟩ := more.run (']' :: behind) (by rintro c ⟨⟩; rfl)
  have nonempty : short.isEmpty = false := by simpa using bare.1
  have filled : optional.isEmpty = false := by simpa using more.1
  rcases overlooked with rfl | rfl <;>
    simp [parseChars?, taken, dropped, inner, last, nonempty, filled]

theorem parseChars?_eq_some_iff {chars short optional : List Char} :
    parseChars? chars = some (short, optional) ↔
      Bare short ∧ (chars = short ∧ optional = [] ∨
        Bare optional ∧ ∃ behind, Overlooked behind ∧
          chars = short ++ '[' :: (optional ++ ']' :: behind)) := by
  constructor
  · intro parsed
    have cut : chars.takeWhile (!isBracket ·) ++ chars.dropWhile (!isBracket ·) = chars :=
      List.takeWhile_append_dropWhile
    unfold parseChars? at parsed
    dsimp only at parsed
    split at parsed
    · cases parsed
    next some =>
      have bare := bare_takeWhile (by simpa using some)
      split at parsed
      next all =>
        cases parsed
        rw [all, List.append_nil] at cut
        exact ⟨bare, .inl ⟨cut.symm, rfl⟩⟩
      next rest opened =>
        split at parsed
        · cases parsed
        next filled =>
          have more := bare_takeWhile (by simpa using filled)
          have inner : rest.takeWhile (!isBracket ·) ++ rest.dropWhile (!isBracket ·) = rest :=
            List.takeWhile_append_dropWhile
          split at parsed
          next closed =>
            cases parsed
            rw [closed] at inner
            rw [opened, ← inner] at cut
            exact ⟨bare, .inr ⟨more, [], .inl rfl, cut.symm⟩⟩
          next closed =>
            cases parsed
            rw [closed] at inner
            rw [opened, ← inner] at cut
            exact ⟨bare, .inr ⟨more, ['\n'], .inr rfl, cut.symm⟩⟩
          next => cases parsed
      next => cases parsed
  · rintro ⟨bare, ⟨rfl, rfl⟩ | ⟨more, behind, overlooked, rfl⟩⟩
    · exact parseChars?_alone bare
    · exact parseChars?_bracketed bare more overlooked

def ofParts (short optional : String) : Spec :=
  ⟨short, short ++ optional⟩

/-- A part alone, or with an optional part in brackets. -/
def Spells (text short optional : String) : Prop :=
  Bare short.toList ∧ (text = short ∧ optional = "" ∨
    Bare optional.toList ∧ text = short ++ "[" ++ optional ++ "]")

def Overruns (text short optional : String) : Prop :=
  Bare short.toList ∧ Bare optional.toList ∧ text = short ++ "[" ++ optional ++ "]\n"

theorem toList_bracketed (short optional behind : String) :
    (short ++ "[" ++ optional ++ behind).toList =
      short.toList ++ '[' :: (optional.toList ++ behind.toList) := by
  simp

theorem parse?_eq_some_iff {text : String} {spec : Spec} :
    parse? text = some spec ↔ ∃ short optional,
      (Spells text short optional ∨ Overruns text short optional) ∧
        spec = ofParts short optional := by
  have parts (short optional : List Char) :
      ofParts (String.ofList short) (String.ofList optional) =
        ⟨String.ofList short, String.ofList (short ++ optional)⟩ := by
    rw [ofParts, String.ofList_append]
  unfold parse?
  rw [Option.map_eq_some_iff]
  constructor
  · rintro ⟨⟨short, optional⟩, parsed, rfl⟩
    refine ⟨String.ofList short, String.ofList optional, ?_, (parts short optional).symm⟩
    unfold Spells Overruns
    simp only [← String.toList_inj, toList_bracketed, String.toList_ofList]
    obtain ⟨bare, ⟨alone, rfl⟩ | ⟨more, behind, rfl | rfl, chars⟩⟩ :=
      parseChars?_eq_some_iff.mp parsed
    · exact .inl ⟨bare, .inl ⟨alone, rfl⟩⟩
    · exact .inl ⟨bare, .inr ⟨more, chars⟩⟩
    · exact .inr ⟨bare, more, chars⟩
  · rintro ⟨short, optional, read, rfl⟩
    refine ⟨(short.toList, optional.toList), parseChars?_eq_some_iff.mpr ?_, ?_⟩
    · rcases read with ⟨bare, ⟨rfl, rfl⟩ | ⟨more, rfl⟩⟩ | ⟨bare, more, rfl⟩
      · exact ⟨bare, .inl ⟨rfl, rfl⟩⟩
      · exact ⟨bare, .inr ⟨more, [], .inl rfl, toList_bracketed _ _ _⟩⟩
      · exact ⟨bare, .inr ⟨more, ['\n'], .inr rfl, toList_bracketed _ _ _⟩⟩
    · have same := parts short.toList optional.toList
      rw [String.ofList_toList, String.ofList_toList] at same
      exact (congrArg (Spec.mk · _) String.ofList_toList).trans same.symm

theorem label_alone (short : String) : (ofParts short "").label = short := by
  simp [label, ofParts]

theorem label_bracketed {short optional : String} (more : Bare optional.toList) :
    (ofParts short optional).label = short ++ "[" ++ optional ++ "]" := by
  have longer : short ++ optional ≠ short := by
    intro same
    have chars := congrArg String.toList same
    rw [String.toList_append, List.append_right_eq_self] at chars
    exact more.1 chars
  have behind : String.ofList ((short ++ optional).toList.drop short.length) = optional := by
    rw [String.toList_append, ← String.length_toList, List.drop_left, String.ofList_toList]
  unfold label ofParts
  rw [if_neg longer, behind]

theorem Spells.label {text short optional : String} (spells : Spells text short optional) :
    (ofParts short optional).label = text := by
  obtain ⟨-, ⟨rfl, rfl⟩ | ⟨more, rfl⟩⟩ := spells
  · exact label_alone _
  · exact label_bracketed more

theorem Overruns.label {text short optional : String} (overruns : Overruns text short optional) :
    (ofParts short optional).label ++ "\n" = text := by
  obtain ⟨-, more, rfl⟩ := overruns
  rw [label_bracketed more, String.append_assoc]
  rfl

theorem Overruns.spells_label {text short optional : String}
    (overruns : Overruns text short optional) :
    Spells (ofParts short optional).label short optional :=
  ⟨overruns.1, .inr ⟨overruns.2.1, label_bracketed overruns.2.1⟩⟩

theorem accepts_ofParts_iff {short optional name : String} :
    (ofParts short optional).accepts name = true ↔
      ∃ front, front.toList <+: optional.toList ∧ name = short ++ front := by
  unfold accepts ofParts
  rw [Bool.and_eq_true, List.isPrefixOf_iff_prefix, List.isPrefixOf_iff_prefix,
    String.toList_append]
  constructor
  · rintro ⟨⟨front, begins⟩, inside⟩
    refine ⟨String.ofList front, ?_, ?_⟩
    · rw [← begins, List.prefix_append_right_inj] at inside
      rwa [String.toList_ofList]
    · rw [← String.toList_inj, String.toList_append, String.toList_ofList, begins]
  · rintro ⟨front, inside, rfl⟩
    rw [String.toList_append]
    exact ⟨List.prefix_append _ _, (List.prefix_append_right_inj _).mpr inside⟩

/-- Just the specifications are read, each as what it spells, and the label is the text again. -/
structure ReadExactly (text : String) : Prop where
  read : ∀ spec, parse? text = some spec ↔
    ∃ short optional, Spells text short optional ∧ spec = ofParts short optional
  labelled : ∀ spec, parse? text = some spec → spec.label = text

theorem readExactly_iff {text : String} :
    ReadExactly text ↔ ∀ short optional, ¬ Overruns text short optional := by
  constructor
  · intro exactly short optional overruns
    have parsed : parse? text = some (ofParts short optional) :=
      parse?_eq_some_iff.mpr ⟨short, optional, .inr overruns, rfl⟩
    have longer := overruns.label
    rw [exactly.labelled _ parsed, ← String.toList_inj, String.toList_append] at longer
    exact absurd (List.append_right_eq_self.mp longer) (by decide)
  · intro within
    have read (spec : Spec) : parse? text = some spec ↔
        ∃ short optional, Spells text short optional ∧ spec = ofParts short optional := by
      rw [parse?_eq_some_iff]
      simp only [within, or_false]
    refine ⟨read, fun spec parsed => ?_⟩
    obtain ⟨short, optional, spells, rfl⟩ := (read spec).mp parsed
    exact spells.label

/-- A text is read exactly unless a newline stands behind its brackets. What is read has the words
that its parts stand for, and is read again from its label; of all else the text is refused. -/
theorem readExactly_unless_overrun (text : String) :
    (ReadExactly text ↔ ∀ short optional, ¬ Overruns text short optional) ∧
      (∀ spec, parse? text = some spec → ∃ short optional,
        (Spells text short optional ∨ Overruns text short optional) ∧
          spec = ofParts short optional ∧ parse? spec.label = some spec ∧
            ∀ name, spec.accepts name = true ↔
              ∃ front, front.toList <+: optional.toList ∧ name = short ++ front) ∧
      ∀ {C : Type} (registration : Registration C) (rest : List String) (serial : Nat),
        parse? text = none → registration.specs = text :: rest →
          registration.describe serial = .error (.invalidSpec text) := by
  refine ⟨readExactly_iff, fun spec parsed => ?_, fun registration rest serial refused specs => ?_⟩
  · obtain ⟨short, optional, read, rfl⟩ := parse?_eq_some_iff.mp parsed
    have spells : Spells (ofParts short optional).label short optional := by
      rcases read with spells | overruns
      · rwa [spells.label]
      · exact overruns.spells_label
    exact ⟨short, optional, read, rfl, parse?_eq_some_iff.mpr ⟨short, optional, .inl spells, rfl⟩,
      fun _ => accepts_ofParts_iff⟩
  · unfold Registration.describe
    rw [specs, Registration.parseSpecs, refused]

theorem overrun_isRead :
    parse? "he[llo]\n" = some ⟨"he", "hello"⟩ ∧
      (¬ ∃ short optional, Spells "he[llo]\n" short optional) ∧
        (⟨"he", "hello"⟩ : Spec).label = "he[llo]" := by
  refine ⟨by decide, ?_, by decide⟩
  rintro ⟨short, optional, spells⟩
  obtain ⟨bare, ⟨alone, -⟩ | ⟨more, same⟩⟩ := spells
  · rw [← alone] at bare
    exact absurd (bare.2 '[' (by decide)) (by decide)
  · have last := congrArg (fun text => text.toList.getLast?) same
    rw [String.toList_append, List.getLast?_append] at last
    have closes : some '\n' = some ']' := last
    exact absurd closes (by decide)

end ExScript.Spec
