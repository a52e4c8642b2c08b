import ExScript.Proofs.NameSources
import ExScript.Proofs.Scopes

/-!
Variables that read as what they were given. A name that an expression can speak of stands for the
value it was given last, in the table that lasts and in every scope made from it. Keywords, names
that are taken for others and those too long to be read are accepted all the same; what they read as
has nothing to do with what they were given.
-/

namespace ExScript

namespace Expr

variable {name : String}

/-- A name that expressions can speak of: no keyword, taken for no other name, and no longer than
the longest source. -/
structure Speakable (name : String) : Prop where
  free : name ∉ keywords
  normal : normalForm name = name
  short : name.length ≤ maxSource

theorem speakable_of_ascii (ascii : name.toList.all (·.toNat < 0x80) = true)
    (free : name ∉ keywords) (short : name.length ≤ maxSource) : Speakable name where
  free := free
  normal := by rw [normalForm, Text.normalName_ascii ascii, String.ofList_toList]
  short := short

theorem run_name (setting : Setting) (word : String) (world : World) :
    (runProgram setting [.expression (.name word)]).run world =
      match world.lookup? setting.scope word with
      | some value => .ok value world
      | none => .error (.unboundName word) world := by
  change (lookUp setting.scope word).run world = _
  unfold lookUp
  rw [EStateM.run_bind, EStateM.run_get]
  dsimp only
  cases world.lookup? setting.scope word <;> rfl

/-- Programs that come to the same whatever names stand for. -/
def isFixed : List Statement → Bool
  | [.expression (.literal _)] | [.skip] | [.leave] | [.again] | [.giveBack none]
  | [.raise none none] => true
  | _ => false

theorem run_of_isFixed {program : List Statement} (fixed : isFixed program = true) :
    ∃ result : Except Mistake Value, ∀ (outside : Outside) (scope : Scope) (world : World),
      (runProgram { outside, scope } program).run world =
        match result with
        | .ok value => .ok value world
        | .error mistake => .error mistake world := by
  unfold isFixed at fixed
  split at fixed
  next value => exact ⟨.ok (literalValue value), fun _ _ _ => rfl⟩
  next => exact ⟨.ok .nothing, fun _ _ _ => rfl⟩
  next => exact ⟨.ok .nothing, fun _ _ _ => rfl⟩
  next => exact ⟨.ok .nothing, fun _ _ _ => rfl⟩
  next => exact ⟨.error (.raised "SyntaxError" "cannot return at top level"), fun _ _ _ => rfl⟩
  next => exact ⟨.error (.noAttribute "NoneType" "args"), fun _ _ _ => rfl⟩
  next => cases fixed

theorem keyword_isFixed : ∀ word ∈ keywords,
    (match parseOrMistake word with
      | .ok program => isFixed program
      | .error _ => true) = true := by
  decide +kernel

namespace World

variable {world : World} {value : Value}

def named (world : World) (scope : Scope) (source name : String) : Except ScriptError Value :=
  match world.lookup? scope name with
  | some value => .ok value
  | none => .error (invalidExpression source (.unboundName name))

theorem runIn_program (world : World) (outside : Outside) (scope : Scope)
    (legal : Text.isIdentifier name = true) :
    world.runIn outside scope name =
      match parseOrMistake name with
      | .error mistake => (.error (invalidExpression name mistake), world)
      | .ok program =>
          match (runProgram { outside, scope } program).run world with
          | .ok value world => (.ok value, world)
          | .error mistake world => (.error (invalidExpression name mistake), world) := by
  unfold runIn
  rw [Text.strip_identifier legal]
  exact if_neg (Text.not_blank_identifier legal)

theorem runIn_name (world : World) (outside : Outside) (scope : Scope)
    (legal : Text.isIdentifier name = true) (free : name ∉ keywords)
    (short : name.length ≤ maxSource) :
    world.runIn outside scope name = (world.named scope name (normalForm name), world) := by
  rw [runIn_program world outside scope legal, parseOrMistake_identifier legal short free]
  dsimp only
  rw [run_name]
  unfold named
  cases world.lookup? scope (normalForm name) <;> rfl

theorem runIn_fixed (legal : Text.isIdentifier name = true)
    (locked : name ∈ keywords ∨ maxSource < name.length) :
    ∃ result, ∀ (outside : Outside) (scope : Scope) (world : World),
      world.runIn outside scope name = (result, world) := by
  rcases locked with keyword | long
  · have fixed := keyword_isFixed name keyword
    cases parsed : parseOrMistake name with
    | error mistake =>
        refine ⟨.error (invalidExpression name mistake), fun outside scope world => ?_⟩
        rw [runIn_program world outside scope legal, parsed]
    | ok program =>
        rw [parsed] at fixed
        obtain ⟨result, runs⟩ := run_of_isFixed fixed
        refine ⟨result.mapError (invalidExpression name), fun outside scope world => ?_⟩
        rw [runIn_program world outside scope legal, parsed]
        dsimp only
        rw [runs]
        cases result <;> rfl
  · refine ⟨.error (invalidExpression name (.ofLimit "")), fun outside scope world => ?_⟩
    rw [runIn_program world outside scope legal]
    unfold parseOrMistake
    rw [if_pos long]

theorem lookup?_bind_ne {other : String} (distinct : other ≠ name) (value : Value) :
    (world.bind .user name value).lookup? .user other = world.lookup? .user other := by
  unfold lookup?
  change ((world.user.insert name value).get? other).or (initial? other) =
    (world.user.get? other).or (initial? other)
  rw [Table.get?_insert_ne world.user distinct]

structure Holds (world : World) (name : String) (value : Value) : Prop where
  held : world.user.get? name = some value
  distinct : world.user.keys.Nodup

theorem Holds.lookup? (holds : world.Holds name value) : world.lookup? .user name = some value := by
  unfold World.lookup?
  change ((world.user.get? name).or (initial? name)) = some value
  rw [holds.held]
  rfl

theorem Holds.insert {last : World} (distinct : world.user.keys.Nodup)
    (inserted : last.user = world.user.insert name value) : last.Holds name value where
  held := by rw [inserted, Table.get?_insert_self]
  distinct := by
    rw [inserted]
    exact Table.keys_insert_nodup distinct name value

/-- A variable is among the user's names, unless it is what its name stood for at first, and reads
as its value if expressions can speak of it. -/
structure Remembers (world : World) (name : String) (value : Value) : Prop where
  listed : world.userTable.get? name = some value ∨
    world.userTable.get? name = none ∧ initial? name = some value
  lasting : Speakable name → ∀ outside, world.execute outside name = (.ok value, world)
  fresh : Speakable name → ∀ outside, world.evaluate outside name = (.ok value, world.newScope.2)

theorem Holds.listed (holds : world.Holds name value) :
    world.userTable.get? name = some value ∨
      world.userTable.get? name = none ∧ initial? name = some value := by
  unfold userTable
  rw [Table.get?_filter holds.distinct, holds.held, Option.filter_some]
  by_cases own : world.isUserBinding name value = true
  · exact .inl (if_pos own)
  · refine .inr ⟨if_neg own, ?_⟩
    simp only [isUserBinding, Bool.or_eq_true, not_or, Bool.not_eq_true, Bool.not_eq_false'] at own
    obtain ⟨first, initial, same⟩ := (Option.any_eq_true _ _).mp own.2
    rw [initial, Value.same_initial initial same]

theorem Holds.remembers (holds : world.Holds name value) (legal : Text.isIdentifier name = true) :
    world.Remembers name value where
  listed := holds.listed
  lasting speakable outside := by
    unfold execute
    rw [runIn_name world outside .user legal speakable.free speakable.short, speakable.normal]
    unfold named
    rw [holds.lookup?]
  fresh speakable outside := by
    unfold evaluate
    dsimp only
    rw [runIn_name _ outside _ legal speakable.free speakable.short, speakable.normal]
    unfold named
    rw [lookup?_newScope_of_nodup holds.distinct, holds.lookup?]

theorem reads_alike (distinct : world.user.keys.Nodup) (legal : Text.isIdentifier name = true)
    (unspeakable : ¬ Speakable name) :
    ∃ result, ∀ value outside,
      ((world.bind .user name value).execute outside name).1 = result ∧
        ((world.bind .user name value).evaluate outside name).1 = result := by
  by_cases locked : name ∈ keywords ∨ maxSource < name.length
  · obtain ⟨result, reads⟩ := runIn_fixed legal locked
    refine ⟨result, fun value outside => ?_⟩
    unfold execute evaluate
    dsimp only
    rw [reads, reads]
    exact ⟨rfl, rfl⟩
  · obtain ⟨free, long⟩ := not_or.mp locked
    have short : name.length ≤ maxSource := Nat.le_of_not_lt long
    have other : normalForm name ≠ name := fun normal => unspeakable ⟨free, normal, short⟩
    refine ⟨world.named .user name (normalForm name), fun value outside => ?_⟩
    have keys : (world.bind .user name value).user.keys.Nodup :=
      Table.keys_insert_nodup distinct name value
    unfold execute evaluate
    dsimp only
    rw [runIn_name _ _ _ legal free short, runIn_name _ _ _ legal free short]
    unfold named
    rw [lookup?_newScope_of_nodup keys, lookup?_bind_ne other]
    exact ⟨rfl, rfl⟩

end World

end Expr

namespace Engine

open ExScript.Expr (Speakable)

variable {N : Type}

structure NamesReadable (state : State N) : Prop where
  refused : ∀ name value, Text.isIdentifier name = false →
    (define name value).run state =
      .error (.fault (.script (.expression ("Illegal variable name: " ++ name)))) state
  defined : ∀ name value, Text.isIdentifier name = true →
    ∃ last : State N, (define name value).run state = .ok ⟨⟩ last ∧
      last.world.Remembers name value
  assigned : ∀ args (last : State N), Text.strip args ≠ "" →
    (runLet args).run state = .ok ⟨⟩ last →
      ∃ name source value, assignment? args = some (name, source) ∧
        Text.isIdentifier name = true ∧
        (state.world.evaluate state.outside source).1 = .ok value ∧
        last.world.Remembers name value
  misnamed : ∀ args name source value, Text.strip args ≠ "" →
    assignment? args = some (name, source) →
      (state.world.evaluate state.outside source).1 = .ok value →
        Text.isIdentifier name = false →
          ∃ last : State N,
            (runLet args).run state =
              .error (.fault (.script (.expression ("Illegal variable name: " ++ name)))) last ∧
            ∀ scope, state.world.Knows scope → last.world.table scope = state.world.table scope
  unspoken : ∀ name, Text.isIdentifier name = true → ¬ Speakable name →
    ∃ result, ∀ value outside,
      ((state.world.bind .user name value).execute outside name).1 = result ∧
        ((state.world.bind .user name value).evaluate outside name).1 = result

theorem run_define_illegal {name : String} (illegal : Text.isIdentifier name = false)
    (value : Expr.Value) (state : State N) :
    (define name value).run state =
      .error (.fault (.script (.expression ("Illegal variable name: " ++ name)))) state := by
  rw [run_define, illegal]
  exact if_neg Bool.false_ne_true

theorem runLet_misnamed {args name source : String} {value : Expr.Value} {state : State N}
    (given : Text.strip args ≠ "") (assigns : assignment? args = some (name, source))
    (evaluated : (state.world.evaluate state.outside source).1 = .ok value)
    (illegal : Text.isIdentifier name = false) :
    ∃ last : State N,
      (runLet args).run state =
        .error (.fault (.script (.expression ("Illegal variable name: " ++ name)))) last ∧
      ∀ scope, state.world.Knows scope → last.world.table scope = state.world.table scope := by
  have assigned := let_assigns args state
  generalize (runLet args).run state = result at assigned
  cases assigned with
  | listed blank | unlisted blank => exact absurd blank given
  | bound _ other legal =>
      obtain ⟨rfl, rfl⟩ := Prod.mk.inj (Option.some.inj (assigns.symm.trans other))
      cases illegal.symm.trans legal
  | @refused stop last _ reason kept =>
      cases reason with
      | malformed none => cases assigns.symm.trans none
      | invalid other failed =>
          obtain ⟨rfl, rfl⟩ := Prod.mk.inj (Option.some.inj (assigns.symm.trans other))
          cases evaluated.symm.trans failed
      | illegal other _ _ =>
          obtain ⟨rfl, rfl⟩ := Prod.mk.inj (Option.some.inj (assigns.symm.trans other))
          exact ⟨last, rfl, kept.tables⟩

/-- Every variable that expressions can speak of is read as it was given, and what is no name is
refused. -/
theorem names_readable {state : State N} (distinct : state.world.Distinct) :
    NamesReadable state where
  refused name value illegal := run_define_illegal illegal value state
  defined name value legal := by
    have holds : (state.world.bind .user name value).Holds name value :=
      .insert (distinct .user) rfl
    refine ⟨{ state with world := state.world.bind .user name value }, ?_, holds.remembers legal⟩
    rw [run_define, if_pos legal]
  assigned args last given ended := by
    have assigned := let_assigns args state
    rw [ended] at assigned
    cases assigned with
    | listed blank => exact absurd blank given
    | @bound name source value _ _ assigns legal evaluated user =>
        have holds := Expr.World.Holds.insert (distinct .user) user
        exact ⟨name, source, value, assigns, legal, evaluated, holds.remembers legal⟩
  misnamed args name source value given assigns evaluated illegal :=
    runLet_misnamed given assigns evaluated illegal
  unspoken name legal unspeakable := Expr.World.reads_alike (distinct .user) legal unspeakable

def five : State Unit :=
  { builtinState with world := (({} : Expr.World).withNames []).bind .user "x" (.int 5) }

theorem names_readable_five : five.world.Distinct ∧
    (∃ last : State Unit, (define "y" (.int 7)).run five = .ok ⟨⟩ last ∧
      (last.world.evaluate last.outside "y").1 = .ok (.int 7)) ∧
    (define "x-y" (.int 7)).run five =
      .error (.fault (.script (.expression "Illegal variable name: x-y"))) five := by
  have distinct : five.world.Distinct := ((Expr.World.Made.start [] []).named "x" (.int 5)).distinct
  have speakable : Speakable "y" :=
    Expr.speakable_of_ascii (by decide) (by decide) (by decide)
  obtain ⟨last, defined, remembers⟩ :=
    (names_readable distinct).defined "y" (.int 7) (by decide +kernel)
  refine ⟨distinct, ⟨last, defined, ?_⟩, ?_⟩
  · rw [remembers.fresh speakable]
  · exact (names_readable distinct).refused "x-y" (.int 7) (by decide +kernel)

def classed : State Unit :=
  { five with world := five.world.bind .user "class" (.int 1) }

/-- A keyword is accepted as a name, and listed, and is no expression. -/
theorem names_unreadable : (define "class" (.int 1)).run five = .ok ⟨⟩ classed ∧
    classed.world.userTable.get? "class" = some (.int 1) ∧
    (classed.world.evaluate classed.outside "class").1 = .error (.expression
      "E15: Invalid expression: 'class' (SyntaxError: invalid syntax (<unknown>, line 1))") := by
  have legal : Text.isIdentifier "class" = true := by decide +kernel
  have parsed : Expr.parseOrMistake "class" =
      .error (.raised "SyntaxError" "invalid syntax (<unknown>, line 1)") := by
    unfold Expr.parseOrMistake Expr.parse
    rw [Expr.tokens_identifier legal, Expr.wordLexeme_keyword (by decide)]
    rfl
  refine ⟨?_, rfl, ?_⟩
  · rw [run_define, if_pos legal]
    rfl
  · unfold Expr.World.evaluate
    dsimp only
    rw [Expr.World.runIn_program _ _ _ legal, parsed]
    have told : Expr.invalidExpression "class"
        (.raised "SyntaxError" "invalid syntax (<unknown>, line 1)") = .expression
          "E15: Invalid expression: 'class' (SyntaxError: invalid syntax (<unknown>, line 1))" := by
      decide +kernel
    exact congrArg Except.error told

end Engine

end ExScript
