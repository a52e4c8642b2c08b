import ExScript.Proofs.Confinement

/-!
Which tables of names the evaluation of trees and statements changes: that of its scope.
-/

namespace ExScript.Expr

variable {α β : Type} {scope : Scope}

namespace Confined

@[grind ←] theorem runAll {run : Statement → Eval Signal}
    (confined : ∀ statement, Confined scope (run statement)) (statements : List Statement) :
    Confined scope (runAll run statements) := by
  induction statements with
  | nil => exact .pure _
  | cons statement rest ih =>
      refine .bind (confined statement) fun signal => ?_
      cases signal with
      | next => exact ih
      | leave | again | back => exact .pure _

@[grind ←] theorem loopWhile {test : Eval Bool} {body otherwise : Eval Signal}
    (tests : Confined scope test) (runs : Confined scope body) (ends : Confined scope otherwise)
    (turns : Nat) : Confined scope (loopWhile test body otherwise turns) := by
  induction turns with
  | zero => exact .throw _
  | succ turns ih =>
      unfold Expr.loopWhile
      refine .bind tests fun on => ?_
      cases on with
      | false => exact ends
      | true =>
          refine .bind runs fun signal => ?_
          cases signal with
          | leave | back => exact .pure _
          | next | again => exact ih

theorem guarded {condition : Prop} [Decidable condition] {refusal : Eval PUnit}
    {next : Eval α} (refuses : Confined scope refusal) (onward : Confined scope next) :
    Confined scope (if condition then refusal >>= fun _ => next else next) := by
  split
  · exact .bind refuses fun _ => onward
  · exact onward

@[grind ←] theorem loopOver {assign : Value → Eval Unit} {body otherwise : Eval Signal}
    (assigns : ∀ part, Confined scope (assign part)) (runs : Confined scope body)
    (ends : Confined scope otherwise) (source : Value) (size turns place : Nat) :
    Confined scope (loopOver source size assign body otherwise turns place) := by
  induction turns generalizing place with
  | zero => exact .throw _
  | succ turns ih =>
      unfold Expr.loopOver
      refine .bind .get fun world => .guarded (.throw _) ?_
      split
      next => exact ends
      next part found =>
        refine .bind (assigns part) fun _ => .bind runs fun signal => ?_
        cases signal with
        | leave | back => exact .pure _
        | next | again => exact ih _

@[grind ←] theorem compareChain {operand : Tree → Eval Value}
    (confined : ∀ tree, Confined scope (operand tree)) (left : Value)
    (rest : List (Comparison × Tree)) : Confined scope (compareChain operand left rest) := by
  induction rest generalizing left with
  | nil => exact .pure _
  | cons next rest ih =>
      unfold Expr.compareChain
      refine .bind (confined _) fun right => .bind (compareValues _ _ _) fun holds => ?_
      cases holds with
      | false => exact .pure _
      | true => exact ih right

@[grind .] theorem raisedText (parts : List Value) : Confined scope (raisedText parts) := by
  unfold Expr.raisedText
  refine .bind .get fun world => .bind (mapM (fun item => ?_) _) fun texts => .pure _
  dsimp only
  split <;> grind

@[grind .] theorem raiseValue (value cause : Value) : Confined scope (raiseValue value cause) := by
  unfold Expr.raiseValue
  refine .bind .get fun world => ?_
  split
  next => exact .throw _
  next => split <;> grind
  next => exact .throw _

@[grind .] theorem notCallable (value : Value) : Confined scope (notCallable value) := by
  grind [Expr.notCallable]

end Confined

theorem Keeps.calling {call : Eval Value} {world : World} (inside : Keeps scope call world)
    (name : String) (arguments : List Value) (named : List (String × Value)) :
    Keeps scope (calling name arguments named call) world := by
  unfold Keeps at inside ⊢
  cases ended : call.run world with
  | ok value last =>
      have same : (Expr.calling name arguments named call).run world = .ok value last := by
        change EStateM.tryCatch call _ world = _
        unfold EStateM.tryCatch
        rw [show call world = .ok value last from ended]
      rw [ended] at inside
      rw [same]
      exact inside
  | error mistake last =>
      have same : (Expr.calling name arguments named call).run world =
          .error (failedCall last name arguments named mistake) last := by
        change EStateM.tryCatch call _ world = _
        unfold EStateM.tryCatch
        rw [show call world = .error mistake last from ended]
        rfl
      rw [ended] at inside
      rw [same]
      exact inside

@[grind ←] theorem Confined.calling {call : Eval Value} (confined : Confined scope call)
    (name : String) (arguments : List Value) (named : List (String × Value)) :
    Confined scope (calling name arguments named call) :=
  fun world => (confined world).calling name arguments named

theorem Beside.lending {home : Scope} {table : Table Value} {world last : World}
    (inside : Beside home (world.setTable home table) last)
    (distinct : world.Distinct → table.keys.Nodup) :
    Beside scope world (last.setTable home (world.table home)) := by
  have size : last.fresh.size = world.fresh.size :=
    inside.size.trans (world.size_setTable _ _)
  refine ⟨fun other _ => ?_, ?_, ?_, fun held => ?_⟩
  · by_cases same : other = home
    · subst same
      exact World.table_restored size other
    · rw [World.table_setTable_ne _ same, inside.tables other same]
      exact world.table_setTable_ne same table
  · exact (last.size_setTable _ _).trans size
  · exact (last.given_setTable _ _).trans (inside.given.trans (world.given_setTable _ _))
  · exact (inside.distinct (held.setTable home (distinct held))).setTable home (held home)

theorem Keeps.lending {home : Scope} {body : Eval α} {world : World}
    (confined : Confined home body) {table : Table Value}
    (distinct : world.Distinct → table.keys.Nodup) :
    Keeps scope (lending home table body) world := by
  have inside := confined (world.setTable home table)
  unfold Keeps EStateM.run at inside ⊢
  unfold Expr.lending
  cases ended : body (world.setTable home table) with
  | ok value last =>
      rw [ended] at inside
      exact Beside.lending inside distinct
  | error mistake last =>
      rw [ended] at inside
      exact Beside.lending inside distinct

/-- Evaluations with so many steps left change the table of their scope only. -/
structure ConfinedAt (fuel : Nat) : Prop where
  evaluate (setting : Setting) (tree : Tree) : Confined setting.scope (evaluate fuel setting tree)
  collect (setting : Setting) (element : Tree) (clauses : List (Tree × Tree × List Tree)) :
    Confined setting.scope (collect fuel setting element clauses)
  assign (setting : Setting) (target : Tree) (value : Value) :
    Confined setting.scope (assign fuel setting target value)
  assignParts (setting : Setting) (targets : List Tree) (value : Value) :
    Confined setting.scope (assignParts fuel setting targets value)
  apply (setting : Setting) (function : Value) (arguments : List Value)
    (named : List (String × Value)) :
    Confined setting.scope (apply fuel setting function arguments named)
  execute (setting : Setting) (statement : Statement) :
    Confined setting.scope (execute fuel setting statement)

namespace ConfinedAt

variable {fuel : Nat}

theorem evaluate_succ (below : ConfinedAt fuel) (setting : Setting) (tree : Tree) :
    Confined setting.scope (Expr.evaluate (fuel + 1) setting tree) := by
  have parts := below.evaluate
  have calls := below.apply
  have collects := below.collect
  cases tree with
  | literal value => grind [Expr.evaluate]
  | name name => grind [Expr.evaluate]
  | list items => grind [Expr.evaluate]
  | tuple items => grind [Expr.evaluate]
  | dict pairs => grind [Expr.evaluate]
  | unary op operand => grind [Expr.evaluate]
  | binary op left right => grind [Expr.evaluate]
  | both left right => grind [Expr.evaluate]
  | either left right => grind [Expr.evaluate]
  | compare first rest => grind [Expr.evaluate]
  | choice condition whenTrue whenFalse => grind [Expr.evaluate]
  | call callee arguments named =>
      unfold Expr.evaluate
      refine .bind (parts _ _) fun function => .bind (.notCallable _) fun _ =>
        .bind (.mapM (parts setting) _) fun values => .bind (.mapM (fun pair => ?_) _) fun named =>
          calls _ _ _ _
      exact .bind (parts _ _) fun value => .pure _
  | «attribute» subject name =>
      unfold Expr.evaluate
      refine .bind (parts _ _) fun value => ?_
      split
      · exact .bind .get fun world => .throw _
      · exact .bind .get fun world => by split <;> grind
  | item subject index =>
      cases index with
      | slice start stop step =>
          unfold Expr.evaluate
          refine .bind (parts _ _) fun value => .bind ?_ fun first => .bind ?_ fun last =>
            .bind ?_ fun stride => .sliceOf _ _ _ _
          all_goals
            dsimp only
            split
            · exact .pure _
            · exact .bind (parts _ _) fun value => .pure _
      | _ =>
          unfold Expr.evaluate
          exact .bind (parts _ _) fun value => .bind (parts _ _) fun place => .itemOf _ _
  | slice start stop step => grind [Expr.evaluate]
  | collect element clauses => grind [Expr.evaluate]
  | unsupported form => grind [Expr.evaluate]

theorem collect_succ (below : ConfinedAt fuel) (setting : Setting) (element : Tree)
    (clauses : List (Tree × Tree × List Tree)) :
    Confined setting.scope (Expr.collect (fuel + 1) setting element clauses) := by
  have parts := below.evaluate setting
  have assigns := below.assign setting
  cases clauses with
  | nil => exact .bind (parts _) fun value => .pure _
  | cons clause rest =>
      obtain ⟨target, source, tests⟩ := clause
      unfold Expr.collect
      dsimp only
      -- A name has its value looked up first; what follows is the same for all targets.
      split
      case' h_1 => refine .bind .get fun world => .bind (.pure _) fun before => ?_
      case' h_2 => refine .bind (.pure _) fun before => ?_
      all_goals
        refine .bind (parts _) fun value => .bind (.partsOf _) fun items =>
          .bind (.filterM (fun part => ?_) _) fun kept => .bind (.mapM (fun part => ?_) _)
            fun groups => ?_
        · exact .bind (assigns _ _) fun _ => .allM (fun test => .bind (parts _) fun value =>
            .bind .get fun world => .pure _) _
        · exact .bind (assigns _ _) fun _ => below.collect setting element rest
        · split
          · exact .bind (.bindName _ _) fun _ => .pure _
          · exact .bind (.pure _) fun _ => .pure _

theorem assign_succ (below : ConfinedAt fuel) (setting : Setting) (target : Tree) (value : Value) :
    Confined setting.scope (Expr.assign (fuel + 1) setting target value) := by
  have parts := below.evaluate setting
  unfold Expr.assign
  split
  next name => exact .bindName name value
  next subject index =>
    exact .bind (parts _) fun subject => .bind (parts _) fun index => .setItem _ _ _
  next subject name => exact .bind (parts _) fun subject => .bind .get fun world => .throw _
  next targets => exact below.assignParts setting targets value
  next targets => exact below.assignParts setting targets value
  next => exact .throw _

theorem assignParts_succ (below : ConfinedAt fuel) (setting : Setting) (targets : List Tree)
    (value : Value) :
    Confined setting.scope (Expr.assignParts (fuel + 1) setting targets value) := by
  unfold Expr.assignParts
  refine .bind (.lengthOf value) fun length => ?_
  split
  · exact .throw _
  · exact .bind (.partsOf value) fun parts => .forM (fun pair => below.assign setting _ _) _

theorem apply_succ (below : ConfinedAt fuel) (setting : Setting) (function : Value)
    (arguments : List Value) (named : List (String × Value)) :
    Confined setting.scope (Expr.apply (fuel + 1) setting function arguments named) := by
  unfold Expr.apply
  split
  next name => exact .calling (.callFunction _ _ _) _ _ _
  next => exact .calling (.callLookout _ _ _ _) _ _ _
  next => exact .calling (.callLookout _ _ _ _) _ _ _
  next receiver name => exact .calling (.callMethod _ _ _ _) _ _ _
  next name => exact .allocate _
  next address =>
    intro world
    refine Keeps.get_bind ?_
    split
    next procedure stored =>
      dsimp only
      split
      case' isFalse => refine Keeps.calling ?_ _ _ _
      all_goals
        refine Keeps.get_bind ?_
        cases bindArguments procedure arguments named with
        | error mistake =>
            refine Keeps.bind (Confined.lift (.error mistake) world) ?_
            rintro _ _ ⟨⟩
        | ok bound =>
            refine Keeps.bind (Confined.pure bound world) ?_
            rintro _ _ ⟨⟩
            refine Keeps.bind ?_ fun signal between _ => Confined.pure _ between
            exact Keeps.lending (.runAll (below.execute _) _)
              fun held => Table.keys_insertAll_nodup (held _) bound
    next => exact Confined.pure _ world
  next => exact .pure _

theorem execute_succ (below : ConfinedAt fuel) (setting : Setting) (statement : Statement) :
    Confined setting.scope (Expr.execute (fuel + 1) setting statement) := by
  have parts := below.evaluate setting
  have assigns := below.assign setting
  have runs (statements : List Statement) :
      Confined setting.scope (Expr.runAll (Expr.execute fuel setting) statements) :=
    .runAll (below.execute setting) statements
  cases statement with
  | expression tree => exact .bind (parts _) fun _ => .pure _
  | assign targets tree =>
      exact .bind (parts _) fun value => .bind (.forM (fun target => assigns target value) _)
        fun _ => .pure _
  | update op target tree =>
      exact .bind (parts _) fun value => .bind (assigns target value) fun _ => .pure _
  | branch condition whenTrue whenFalse =>
      exact .bind (parts _) fun value => .bind .get fun world => runs _
  | repeatWhile condition body otherwise =>
      exact .loopWhile (.bind (parts _) fun value => .bind .get fun world => .pure _) (runs _)
        (runs _) _
  | forEach target source body otherwise =>
      unfold Expr.execute
      refine .bind (parts _) fun value => .bind .get fun world => ?_
      split
      · exact .bind .get fun world => .throw _
      · exact .loopOver (assigns target) (runs _) (runs _) _ _ _ _
  | define name parameters defaults body =>
      exact .bind (.mapM parts _) fun values => .bind (.allocate _) fun procedure =>
        .bind (.bindName name procedure) fun _ => .pure _
  | giveBack tree =>
      unfold Expr.execute
      dsimp only
      split
      · split
        · exact .pure _
        · exact .bind (parts _) fun value => .pure _
      · exact .throw _
  | raise error cause =>
      unfold Expr.execute
      dsimp only
      split
      case' h_1 => refine .bind (parts _) fun value => ?_
      case' h_2 => refine .bind (.pure _) fun value => ?_
      all_goals
        split
        · exact .bind (parts _) fun reason => .raiseValue _ _
        · exact .bind (.pure _) fun reason => .raiseValue _ _
  | check condition message =>
      unfold Expr.execute
      refine .bind (parts _) fun value => .bind .get fun world => ?_
      split
      · exact .pure _
      · dsimp only
        split
        · exact .bind (parts _) fun value => .bind .get fun world => .throw _
        · exact .throw _
  | skip => exact .pure _
  | leave => exact .pure _
  | again => exact .pure _
  | load => exact .throw _
  | unsupported form => exact .throw _

end ConfinedAt

theorem confinedAt (fuel : Nat) : ConfinedAt fuel := by
  induction fuel with
  | zero => exact ⟨fun _ _ => .throw _, fun _ _ _ => .throw _, fun _ _ _ => .throw _,
      fun _ _ _ => .throw _, fun _ _ _ _ => .throw _, fun _ _ => .throw _⟩
  | succ fuel below => exact ⟨below.evaluate_succ, below.collect_succ, below.assign_succ,
      below.assignParts_succ, below.apply_succ, below.execute_succ⟩

theorem runProgram_confined (setting : Setting) (program : List Statement) :
    Confined setting.scope (runProgram setting program) := by
  fun_induction runProgram setting program with
  | case1 => exact .pure _
  | case2 tree => exact (confinedAt _).evaluate setting tree
  | case3 statement rest other ih =>
      refine .bind ((confinedAt _).execute setting statement) fun signal => ?_
      cases signal with
      | next => exact ih
      | leave | again | back => exact .pure _

/-- Evaluating a source in a scope changes no table but that of the scope, whether there is a value
or an error. -/
theorem World.runIn_beside (world : World) (outside : Outside) (scope : Scope) (source : String) :
    Beside scope world (world.runIn outside scope source).2 := by
  unfold runIn
  dsimp only
  split
  next blank => exact .refl scope world
  next given =>
    split
    next mistake parsed => exact .refl scope world
    next program parsed =>
      have kept := runProgram_confined { outside, scope } program world
      unfold Keeps at kept
      split
      next value last ended =>
        rw [ended] at kept
        exact kept
      next mistake last ended =>
        rw [ended] at kept
        exact kept

theorem World.evaluate_kept (world : World) (outside : Outside) (source : String) :
    Kept world (world.evaluate outside source).2 :=
  .of_beside (world.newScope.2.runIn_beside outside world.newScope.1 source)

end ExScript.Expr
