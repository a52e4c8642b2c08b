import ExScript.Engine.Conditional

/-!
How far a block reaches into the directives behind its `if`. A scan finds it with a stack of the
blocks that are open; it is told apart from the outside by counting how blocks nest.
-/

namespace ExScript.Engine

variable {C : Type}

/-- What becomes of a block: it is closed in front of some rest, an arm of it or of a block within
it comes behind a fallback, or its directives run out. -/
inductive Extent (C : Type) where
  | closed (rest : List (Directive C))
  | misplaced (culprit : Directive C) (rest : List (Directive C))
  | unclosed

/-- The scan, which knows of each open block, inner ones first, whether its fallback was seen. -/
def extentFrom : List Bool → List (Directive C) → Extent C
  | [], rest => .closed rest
  | _ :: _, [] => .unclosed
  | fallbackSeen :: outer, directive :: rest =>
      match directive.mark with
      | .opens => extentFrom (false :: fallbackSeen :: outer) rest
      | .elseif =>
          if fallbackSeen then .misplaced directive rest
          else extentFrom (fallbackSeen :: outer) rest
      | .fallback =>
          if fallbackSeen then .misplaced directive rest
          else extentFrom (true :: outer) rest
      | .closes => extentFrom outer rest
      | _ => extentFrom (fallbackSeen :: outer) rest

def Extent.andThen (extent : Extent C) (next : List (Directive C) → Extent C) : Extent C :=
  match extent with
  | .closed rest => next rest
  | other => other

theorem extentFrom_append (inner outer : List Bool) (directives : List (Directive C)) :
    extentFrom (inner ++ outer) directives =
      (extentFrom inner directives).andThen (extentFrom outer) := by
  induction directives generalizing inner with
  | nil =>
      cases inner with
      | nil => rfl
      | cons fallbackSeen inner => rfl
  | cons directive rest ih =>
      cases inner with
      | nil => rfl
      | cons fallbackSeen inner =>
          rw [List.cons_append]
          unfold extentFrom
          split
          · exact ih (false :: fallbackSeen :: inner)
          · split
            · rfl
            · exact ih (fallbackSeen :: inner)
          · split
            · rfl
            · exact ih (true :: inner)
          · exact ih inner
          · exact ih (fallbackSeen :: inner)

theorem extentFrom_inner (fallbackSeen : Bool) (directives : List (Directive C)) :
    extentFrom [false, fallbackSeen] directives =
      (extentFrom [false] directives).andThen (extentFrom [fallbackSeen]) :=
  extentFrom_append [false] [fallbackSeen] directives

theorem extentFrom_closed_suffix {unclosed : List Bool} {directives rest : List (Directive C)}
    (closed : extentFrom unclosed directives = .closed rest) : rest <:+ directives := by
  induction directives generalizing unclosed with
  | nil =>
      cases unclosed with
      | nil => cases closed; exact List.suffix_rfl
      | cons fallbackSeen outer => cases closed
  | cons directive following ih =>
      cases unclosed with
      | nil => cases closed; exact List.suffix_rfl
      | cons fallbackSeen outer =>
          apply List.IsSuffix.trans _ (List.suffix_cons directive following)
          unfold extentFrom at closed
          split at closed
          · exact ih closed
          · split at closed
            · cases closed
            · exact ih closed
          · split at closed
            · cases closed
            · exact ih closed
          · exact ih closed
          · exact ih closed

def Mark.shift : Mark → Int
  | .opens => 1
  | .closes => -1
  | _ => 0

def nesting : List (Directive C) → Int
  | [] => 0
  | directive :: rest => directive.mark.shift + nesting rest

@[simp] theorem nesting_nil : nesting ([] : List (Directive C)) = 0 := rfl

@[simp] theorem nesting_snoc (directives : List (Directive C)) (last : Directive C) :
    nesting (directives ++ [last]) = nesting directives + last.mark.shift := by
  induction directives with
  | nil => simp [nesting]
  | cons first rest ih => simp only [List.cons_append, nesting, ih, Int.add_assoc]

def Inside (directives : List (Directive C)) : Prop :=
  ∀ front, front <+: directives → 0 ≤ nesting front

theorem inside_nil : Inside ([] : List (Directive C)) := by
  intro front start
  have empty := List.prefix_nil.mp start
  subst empty
  exact Int.le_of_eq nesting_nil.symm

theorem Inside.nesting {directives : List (Directive C)} (inside : Inside directives) :
    0 ≤ nesting directives :=
  inside directives List.prefix_rfl

theorem inside_snoc (directives : List (Directive C)) (last : Directive C) :
    Inside (directives ++ [last]) ↔
      Inside directives ∧ 0 ≤ nesting directives + last.mark.shift := by
  constructor
  · intro inside
    refine ⟨fun front start => inside front (start.trans (List.prefix_append _ _)), ?_⟩
    rw [← nesting_snoc]
    exact inside.nesting
  · intro ⟨inside, bound⟩ front start
    rcases List.prefix_concat_iff.mp start with whole | earlier
    · rw [whole, nesting_snoc]
      exact bound
    · exact inside front earlier

/-- The block that is open `above` levels below the end of the directives has had its fallback. -/
def FallbackSeen (above : Int) (directives : List (Directive C)) : Prop :=
  ∃ earlier fallback between, directives = earlier ++ fallback :: between ∧
    fallback.mark = .fallback ∧ Inside between ∧ nesting between = above

def Misplaced (stem : List (Directive C)) (culprit : Directive C) : Prop :=
  (culprit.mark = .fallback ∨ culprit.mark = .elseif) ∧ FallbackSeen 0 stem

def WellPlaced (directives : List (Directive C)) : Prop :=
  ∀ stem culprit rest, directives = stem ++ culprit :: rest → ¬ Misplaced stem culprit

/-- What the extent of a block says about the directives behind its `if`. -/
def Extent.Describes (directives : List (Directive C)) : Extent C → Prop
  | .closed rest => ∃ body closing, directives = body ++ closing :: rest ∧
      closing.mark = .closes ∧ Inside body ∧ nesting body = 0 ∧ WellPlaced body
  | .misplaced culprit rest => ∃ stem, directives = stem ++ culprit :: rest ∧
      Inside stem ∧ WellPlaced stem ∧ Misplaced stem culprit
  | .unclosed => Inside directives ∧ WellPlaced directives

theorem snoc_eq_iff {stem earlier between : List (Directive C)} {last fallback : Directive C} :
    stem ++ [last] = earlier ++ fallback :: between ↔
      (between = [] ∧ stem = earlier ∧ last = fallback) ∨
        ∃ shorter, between = shorter ++ [last] ∧ stem = earlier ++ fallback :: shorter := by
  rcases List.eq_nil_or_concat between with rfl | ⟨shorter, other, rfl⟩
  · simp
  · constructor
    · intro same
      rw [List.concat_eq_append, ← List.cons_append, ← List.append_assoc] at same
      obtain ⟨front, ends⟩ := List.append_inj' same rfl
      cases ends
      exact .inr ⟨shorter, List.concat_eq_append, front⟩
    · rintro (⟨empty, -⟩ | ⟨common, same, rfl⟩)
      · simp at empty
      · rw [List.concat_eq_append] at same
        obtain ⟨rfl, ends⟩ := List.append_inj' same rfl
        cases ends
        simp

theorem fallbackSeen_snoc {above : Int} (bound : 0 ≤ above) (stem : List (Directive C))
    (last : Directive C) :
    FallbackSeen above (stem ++ [last]) ↔
      (above = 0 ∧ last.mark = .fallback) ∨ FallbackSeen (above - last.mark.shift) stem := by
  constructor
  · rintro ⟨earlier, fallback, between, split, isFallback, inside, level⟩
    rcases snoc_eq_iff.mp split with ⟨rfl, rfl, rfl⟩ | ⟨shorter, rfl, rfl⟩
    · exact .inl ⟨by rw [← level, nesting_nil], isFallback⟩
    · rw [nesting_snoc] at level
      exact .inr ⟨earlier, fallback, shorter, rfl, isFallback, ((inside_snoc _ _).mp inside).1,
        by omega⟩
  · rintro (⟨rfl, isFallback⟩ | ⟨earlier, fallback, shorter, rfl, isFallback, inside, level⟩)
    · exact ⟨stem, last, [], rfl, isFallback, inside_nil, nesting_nil⟩
    · refine ⟨earlier, fallback, shorter ++ [last], by simp, isFallback, ?_, ?_⟩
      · exact (inside_snoc _ _).mpr ⟨inside, by omega⟩
      · rw [nesting_snoc]
        omega

theorem not_fallbackSeen {above : Int} (bound : above < 0) (directives : List (Directive C)) :
    ¬ FallbackSeen above directives := by
  rintro ⟨earlier, fallback, between, -, -, inside, level⟩
  have least := inside.nesting
  omega

theorem wellPlaced_nil : WellPlaced ([] : List (Directive C)) := by
  intro stem culprit rest split
  simp at split

theorem WellPlaced.snoc {stem : List (Directive C)} {last : Directive C} (placed : WellPlaced stem)
    (fits : ¬ Misplaced stem last) : WellPlaced (stem ++ [last]) := by
  intro front culprit rest split
  rcases snoc_eq_iff.mp split with ⟨-, rfl, rfl⟩ | ⟨shorter, -, rfl⟩
  · exact fits
  · exact placed front culprit shorter rfl

structure Scanned (stem : List (Directive C)) (unclosed : List Bool) : Prop where
  inside : Inside stem
  placed : WellPlaced stem
  depth : nesting stem + 1 = unclosed.length
  seen : ∀ level (bound : level < unclosed.length),
    unclosed[level] = true ↔ FallbackSeen level stem

namespace Scanned

theorem start : Scanned ([] : List (Directive C)) [false] where
  inside := inside_nil
  placed := wellPlaced_nil
  depth := rfl
  seen := by
    intro level bound
    constructor
    · intro seen
      simp at seen
    · rintro ⟨earlier, fallback, between, split, -⟩
      simp at split

variable {stem : List (Directive C)} {directive : Directive C} {fallbackSeen : Bool}
  {outer : List Bool}

theorem innermost (scanned : Scanned stem (fallbackSeen :: outer)) :
    fallbackSeen = true ↔ FallbackSeen 0 stem :=
  scanned.seen 0 (by simp)

theorem opens (scanned : Scanned stem (fallbackSeen :: outer)) (mark : directive.mark = .opens) :
    Scanned (stem ++ [directive]) (false :: fallbackSeen :: outer) where
  inside := by
    have least := scanned.inside.nesting
    exact (inside_snoc _ _).mpr ⟨scanned.inside, by rw [mark]; simp only [Mark.shift]; omega⟩
  placed := scanned.placed.snoc (by simp [Misplaced, mark])
  depth := by
    have depth := scanned.depth
    rw [nesting_snoc, mark]
    simp only [Mark.shift, List.length_cons] at depth ⊢
    omega
  seen := by
    intro level bound
    rw [fallbackSeen_snoc (by omega), mark]
    cases level with
    | zero => simpa using not_fallbackSeen (by decide) stem
    | succ level =>
        have known := scanned.seen level (by simpa using bound)
        simpa [Mark.shift] using known

theorem closes {inner : Bool} (scanned : Scanned stem (inner :: fallbackSeen :: outer))
    (mark : directive.mark = .closes) : Scanned (stem ++ [directive]) (fallbackSeen :: outer) where
  inside := by
    have depth := scanned.depth
    refine (inside_snoc _ _).mpr ⟨scanned.inside, ?_⟩
    rw [mark]
    simp only [Mark.shift, List.length_cons] at depth ⊢
    omega
  placed := scanned.placed.snoc (by simp [Misplaced, mark])
  depth := by
    have depth := scanned.depth
    rw [nesting_snoc, mark]
    simp only [Mark.shift, List.length_cons] at depth ⊢
    omega
  seen := by
    intro level bound
    have known := scanned.seen (level + 1) (by simpa using bound)
    rw [fallbackSeen_snoc (by omega), mark]
    simpa [Mark.shift] using known

theorem fallback (scanned : Scanned stem (false :: outer)) (mark : directive.mark = .fallback) :
    Scanned (stem ++ [directive]) (true :: outer) where
  inside := by
    have least := scanned.inside.nesting
    exact (inside_snoc _ _).mpr ⟨scanned.inside, by rw [mark]; simp only [Mark.shift]; omega⟩
  placed := by
    refine scanned.placed.snoc fun misplaced => ?_
    have seen := scanned.innermost.mpr misplaced.2
    cases seen
  depth := by
    have depth := scanned.depth
    rw [nesting_snoc, mark]
    simpa [Mark.shift] using depth
  seen := by
    intro level bound
    rw [fallbackSeen_snoc (by omega), mark]
    cases level with
    | zero => simp
    | succ level =>
        have known := scanned.seen (level + 1) (by simpa using bound)
        have positive : (level : Int) + 1 ≠ 0 := by omega
        simpa [Mark.shift, positive] using known

theorem within (scanned : Scanned stem (fallbackSeen :: outer)) (level : directive.mark.shift = 0)
    (noFallback : directive.mark ≠ .fallback) (fits : ¬ Misplaced stem directive) :
    Scanned (stem ++ [directive]) (fallbackSeen :: outer) where
  inside := by
    have least := scanned.inside.nesting
    exact (inside_snoc _ _).mpr ⟨scanned.inside, by omega⟩
  placed := scanned.placed.snoc fits
  depth := by
    rw [nesting_snoc, level, Int.add_zero]
    exact scanned.depth
  seen := by
    intro above bound
    rw [fallbackSeen_snoc (by omega), level]
    simpa [noFallback] using scanned.seen above bound

end Scanned

theorem extentFrom_describes {stem : List (Directive C)} {fallbackSeen : Bool} {outer : List Bool}
    (scanned : Scanned stem (fallbackSeen :: outer)) (following : List (Directive C)) :
    (extentFrom (fallbackSeen :: outer) following).Describes (stem ++ following) := by
  induction following generalizing stem fallbackSeen outer with
  | nil =>
      rw [List.append_nil]
      exact ⟨scanned.inside, scanned.placed⟩
  | cons directive rest ih =>
      have regroup : stem ++ directive :: rest = stem ++ [directive] ++ rest := by simp
      unfold extentFrom
      split
      next mark =>
        rw [regroup]
        exact ih (scanned.opens mark)
      next mark =>
        split
        next seen => exact ⟨stem, rfl, scanned.inside, scanned.placed, .inr mark,
          scanned.innermost.mp seen⟩
        next unseen =>
          rw [regroup]
          refine ih (scanned.within (by rw [mark]; rfl) (by simp [mark]) ?_)
          exact fun misplaced => unseen (scanned.innermost.mpr misplaced.2)
      next mark =>
        split
        next seen => exact ⟨stem, rfl, scanned.inside, scanned.placed, .inl mark,
          scanned.innermost.mp seen⟩
        next unseen =>
          rw [regroup]
          rw [Bool.not_eq_true] at unseen
          subst unseen
          exact ih (scanned.fallback mark)
      next mark =>
        cases outer with
        | nil =>
            have depth := scanned.depth
            simp only [List.length_singleton] at depth
            rw [extentFrom]
            exact ⟨stem, directive, rfl, mark, scanned.inside, by omega, scanned.placed⟩
        | cons outermost outer =>
            rw [regroup]
            exact ih (scanned.closes mark)
      next notOpens notElseif notFallback notCloses =>
        rw [regroup]
        refine ih (scanned.within ?_ notFallback ?_)
        · cases known : directive.mark <;> simp_all [Mark.shift]
        · exact fun misplaced => misplaced.1.elim notFallback notElseif

theorem extent_describes (directives : List (Directive C)) :
    (extentFrom [false] directives).Describes directives :=
  extentFrom_describes .start directives

def Ends (stem : List (Directive C)) (last : Directive C) : Prop :=
  (last.mark = .closes ∧ nesting stem = 0) ∨ Misplaced stem last

theorem Ends.not_inside {stem longer more : List (Directive C)} {last : Directive C}
    (ends : Ends stem last) (inside : Inside longer) (placed : WellPlaced longer) :
    longer ≠ stem ++ last :: more := by
  rintro rfl
  rcases ends with ⟨mark, level⟩ | misplaced
  · have bound := inside (stem ++ [last]) (by simp)
    rw [nesting_snoc, mark, level] at bound
    exact absurd bound (by decide)
  · exact placed stem last more rfl misplaced

theorem Extent.Describes.parts {directives : List (Directive C)} {extent : Extent C}
    (describes : extent.Describes directives) :
    ∃ stem, Inside stem ∧ WellPlaced stem ∧
      ((directives = stem ∧ extent = .unclosed) ∨
        ∃ last rest, directives = stem ++ last :: rest ∧ Ends stem last ∧
          extent = if last.mark = .closes then .closed rest else .misplaced last rest) := by
  cases extent with
  | closed rest =>
      obtain ⟨body, closing, split, mark, inside, level, placed⟩ := describes
      exact ⟨body, inside, placed, .inr ⟨closing, rest, split, .inl ⟨mark, level⟩, by simp [mark]⟩⟩
  | misplaced culprit rest =>
      obtain ⟨stem, split, inside, placed, misplaced⟩ := describes
      refine ⟨stem, inside, placed, .inr ⟨culprit, rest, split, .inr misplaced, ?_⟩⟩
      rcases misplaced.1 with mark | mark <;> simp [mark]
  | unclosed => exact ⟨directives, describes.1, describes.2, .inl ⟨rfl, rfl⟩⟩

theorem stems_eq {first second : List (Directive C)} {left right : Directive C}
    {behindLeft behindRight : List (Directive C)}
    (same : first ++ left :: behindLeft = second ++ right :: behindRight)
    (inside : Inside first) (placed : WellPlaced first) (ends : Ends first left)
    (otherInside : Inside second) (otherPlaced : WellPlaced second)
    (otherEnds : Ends second right) :
    left = right ∧ behindLeft = behindRight := by
  rcases List.append_eq_append_iff.mp same with ⟨more, split, tail⟩ | ⟨more, split, tail⟩
  · cases more with
    | nil => simpa using tail
    | cons next more =>
        obtain ⟨rfl, -⟩ := List.cons.inj tail
        exact absurd split (ends.not_inside otherInside otherPlaced)
  · cases more with
    | nil =>
        obtain ⟨rfl, rfl⟩ := List.cons.inj tail
        exact ⟨rfl, rfl⟩
    | cons next more =>
        obtain ⟨rfl, -⟩ := List.cons.inj tail
        exact absurd split (otherEnds.not_inside inside placed)

theorem Extent.Describes.unique {directives : List (Directive C)} {first second : Extent C}
    (describes : first.Describes directives) (other : second.Describes directives) :
    first = second := by
  obtain ⟨stem, inside, placed, ⟨rfl, rfl⟩ | ⟨last, rest, rfl, ends, rfl⟩⟩ := describes.parts
  · obtain ⟨shorter, -, -, ⟨-, rfl⟩ | ⟨last, rest, split, ends, -⟩⟩ := other.parts
    · rfl
    · exact absurd split (ends.not_inside inside placed)
  · obtain ⟨longer, otherInside, otherPlaced, ⟨rfl, -⟩ | ⟨other, behind, split, otherEnds, rfl⟩⟩ :=
      other.parts
    · exact absurd rfl (ends.not_inside otherInside otherPlaced)
    · obtain ⟨rfl, rfl⟩ := stems_eq split inside placed ends otherInside otherPlaced otherEnds
      rfl

theorem extent_describes_iff (directives : List (Directive C)) (extent : Extent C) :
    extent.Describes directives ↔ extentFrom [false] directives = extent := by
  constructor
  · exact (extent_describes directives).unique
  · rintro rfl
    exact extent_describes directives

end ExScript.Engine
