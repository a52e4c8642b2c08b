import ExScript.Proofs.WorldTables

/-!
Which tables of names an evaluation changes. Everything that is evaluated in a scope binds names in
the table of that scope only. A procedure runs in the table of the scope that it is at home in,
which is put back when the procedure ends.
-/

namespace ExScript.Expr

variable {α β : Type}

/-- From a world on, an action changes the table of a scope only, whether it returns or fails. -/
def Keeps (scope : Scope) (action : Eval α) (world : World) : Prop :=
  match action.run world with
  | .ok _ last => Beside scope world last
  | .error _ last => Beside scope world last

def Confined (scope : Scope) (action : Eval α) : Prop :=
  ∀ world, Keeps scope action world

def Looks (action : Eval α) : Prop :=
  ∀ world, (∃ value, action.run world = .ok value world) ∨
    ∃ mistake, action.run world = .error mistake world

variable {scope : Scope}

namespace Keeps

theorem ok {action : Eval α} {world last : World} {value : α}
    (ended : action.run world = .ok value last) (beside : Beside scope world last) :
    Keeps scope action world := by
  unfold Keeps
  rw [ended]
  exact beside

theorem bind {action : Eval α} {next : α → Eval β} {world : World}
    (first : Keeps scope action world)
    (behind : ∀ value between, action.run world = .ok value between →
      Keeps scope (next value) between) :
    Keeps scope (action >>= next) world := by
  unfold Keeps at first ⊢
  rw [EStateM.run_bind]
  cases ended : action.run world with
  | error mistake last =>
      rw [ended] at first
      exact first
  | ok value between =>
      rw [ended] at first
      have there := behind value between ended
      unfold Keeps at there
      dsimp only at first ⊢
      cases reached : (next value).run between with
      | ok value final =>
          rw [reached] at there
          exact first.trans there
      | error mistake final =>
          rw [reached] at there
          exact first.trans there

theorem get_bind {next : World → Eval α} {world : World} (behind : Keeps scope (next world) world) :
    Keeps scope (get >>= next) world := by
  have read : Keeps scope (get : Eval World) world := .ok rfl (.refl scope world)
  refine bind read ?_
  rintro _ _ ⟨⟩
  exact behind

theorem look_bind {action : Eval α} {next : α → Eval β} {world : World} (looks : Looks action)
    (behind : ∀ value, Keeps scope (next value) world) :
    Keeps scope (action >>= next) world := by
  refine bind ?_ fun value between ended => ?_
  · unfold Keeps
    rcases looks world with ⟨value, ended⟩ | ⟨mistake, ended⟩
    · rw [ended]
      exact .refl _ _
    · rw [ended]
      exact .refl _ _
  · rcases looks world with ⟨value, same⟩ | ⟨mistake, failed⟩
    · rw [ended] at same
      cases same
      exact behind _
    · rw [ended] at failed
      cases failed

end Keeps

namespace Confined

@[grind .] theorem pure (value : α) : Confined scope (pure value) :=
  fun world => Beside.refl scope world

@[grind .] theorem throw (mistake : Mistake) : Confined scope (throw mistake : Eval α) :=
  fun world => Beside.refl scope world

@[grind .] theorem get : Confined scope (get : Eval World) :=
  fun world => Beside.refl scope world

@[grind ←] theorem bind {action : Eval α} {next : α → Eval β} (first : Confined scope action)
    (behind : ∀ value, Confined scope (next value)) : Confined scope (action >>= next) :=
  fun world => (first world).bind fun value between _ => behind value between

@[grind ←] theorem mapM {each : α → Eval β} (confined : ∀ item, Confined scope (each item))
    (items : List α) : Confined scope (items.mapM each) := by
  induction items with
  | nil => exact .pure []
  | cons first rest ih =>
      rw [List.mapM_cons]
      exact (confined first).bind fun _ => ih.bind fun _ => .pure _

@[grind ←] theorem foldlM {each : β → α → Eval β}
    (confined : ∀ sum item, Confined scope (each sum item)) (start : β) (items : List α) :
    Confined scope (items.foldlM each start) := by
  induction items generalizing start with
  | nil => exact .pure start
  | cons first rest ih =>
      rw [List.foldlM_cons]
      exact (confined start first).bind ih

@[grind ←] theorem forM {each : α → Eval PUnit} (confined : ∀ item, Confined scope (each item))
    (items : List α) : Confined scope (items.forM each) := by
  induction items with
  | nil => exact .pure PUnit.unit
  | cons first rest ih =>
      rw [List.forM_eq_forM, List.forM_cons]
      exact (confined first).bind fun _ => ih

@[grind ←] theorem allM {test : α → Eval Bool} (confined : ∀ item, Confined scope (test item))
    (items : List α) : Confined scope (items.allM test) := by
  induction items with
  | nil => exact .pure true
  | cons first rest ih =>
      unfold List.allM
      refine (confined first).bind fun passed => ?_
      cases passed with
      | false => exact .pure false
      | true => exact ih

theorem filterAuxM {test : α → Eval Bool} (confined : ∀ item, Confined scope (test item))
    (items kept : List α) : Confined scope (items.filterAuxM test kept) := by
  induction items generalizing kept with
  | nil => exact .pure kept
  | cons first rest ih => exact (confined first).bind fun passed => ih _

@[grind ←] theorem filterM {test : α → Eval Bool} (confined : ∀ item, Confined scope (test item))
    (items : List α) : Confined scope (items.filterM test) :=
  (filterAuxM confined items []).bind fun _ => .pure _

@[grind .] theorem allocate (object : Object) : Confined scope (allocate object) :=
  fun _ => Beside.of_tables (fun other => by cases other <;> rfl) rfl rfl

@[grind .] theorem makeList (items : List Value) : Confined scope (makeList items) :=
  allocate _

@[grind .] theorem makeTuple (items : List Value) : Confined scope (makeTuple items) :=
  allocate _

@[grind .] theorem lift (result : Except Mistake α) : Confined scope (lift result) := by
  cases result with
  | ok value => exact .pure value
  | error mistake => exact .throw mistake

@[grind .] theorem lookUp (name : String) : Confined scope (lookUp scope name) := by
  grind [Expr.lookUp]

end Confined

theorem Keeps.store {world : World} (address : Nat) (object : Object) :
    Keeps scope (set (world.store address object)) world :=
  Beside.of_tables (fun other => by cases other <;> rfl) rfl rfl

theorem looks_checkKey (key : Value) : Looks (checkKey key) := by
  intro world
  unfold checkKey
  rw [EStateM.run_bind, EStateM.run_get]
  dsimp only
  rw [EStateM.run_bind, EStateM.run_get]
  dsimp only
  split
  · exact .inr ⟨_, rfl⟩
  · exact .inl ⟨_, rfl⟩

theorem looks_checkDigits (values : List Value) : Looks (checkDigits values) := by
  intro world
  unfold checkDigits
  rw [EStateM.run_bind, EStateM.run_get]
  dsimp only
  split
  · exact .inr ⟨_, rfl⟩
  · exact .inl ⟨_, rfl⟩

theorem Looks.confined {action : Eval α} (looks : Looks action) : Confined scope action := by
  intro world
  unfold Keeps
  rcases looks world with ⟨value, ended⟩ | ⟨mistake, ended⟩
  · rw [ended]
    exact .refl _ _
  · rw [ended]
    exact .refl _ _

namespace Confined

@[grind .] theorem checkKey (key : Value) : Confined scope (checkKey key) :=
  (looks_checkKey key).confined

@[grind .] theorem checkDigits (values : List Value) : Confined scope (checkDigits values) :=
  (looks_checkDigits values).confined

@[grind .] theorem partsOf (value : Value) : Confined scope (partsOf value) := by
  grind [Expr.partsOf]

@[grind .] theorem lengthOf (value : Value) : Confined scope (lengthOf value) := by
  grind [Expr.lengthOf]

@[grind .] theorem concatenate (left right : Value) : Confined scope (concatenate left right) := by
  grind [Expr.concatenate]

@[grind .] theorem repeatSequence (sequence : Value) (count : Int) :
    Confined scope (repeatSequence sequence count) := by
  grind [Expr.repeatSequence]

@[grind .] theorem multiplySequence (left right : Value) :
    Confined scope (multiplySequence left right) := by
  grind [Expr.multiplySequence]

@[grind .] theorem applyNumbers (op : BinaryOp) (left right : Value) :
    Confined scope (applyNumbers op left right) := by
  unfold Expr.applyNumbers
  split <;> grind

@[grind .] theorem applyBits (op : BinaryOp) (left right : Value) :
    Confined scope (applyBits op left right) := by
  unfold Expr.applyBits
  split <;> grind

@[grind .] theorem applyShift (op : BinaryOp) (left right : Value) :
    Confined scope (applyShift op left right) := by
  unfold Expr.applyShift
  split <;> grind

@[grind .] theorem formatText (text : String) (right : Value) :
    Confined scope (formatText text right) := by
  grind [Expr.formatText]

@[grind .] theorem applyBinary (op : BinaryOp) (left right : Value) :
    Confined scope (applyBinary op left right) := by
  unfold Expr.applyBinary
  split <;> grind

@[grind .] theorem applyUnary (op : UnaryOp) (operand : Value) :
    Confined scope (applyUnary op operand) := by
  unfold Expr.applyUnary
  split <;> grind [badOperand]

@[grind .] theorem isWithin (item container : Value) :
    Confined scope (isWithin item container) := by
  grind [Expr.isWithin]

@[grind .] theorem compareValues (comparison : Comparison) (left right : Value) :
    Confined scope (compareValues comparison left right) := by
  grind [Expr.compareValues]

@[grind .] theorem partAt (kind : String) (length : Nat) (part : Nat → Option Value)
    (index : Value) : Confined scope (partAt kind length part index) := by
  grind [Expr.partAt, indexType]

@[grind .] theorem itemOf (subject index : Value) : Confined scope (itemOf subject index) := by
  unfold Expr.itemOf
  refine .bind .get fun world => ?_
  split
  next => grind
  next => grind
  next => split <;> grind [notSubscriptable]
  next => grind [notSubscriptable]

@[grind .] theorem boundOf (bound : Option Value) : Confined scope (boundOf bound) := by
  unfold Expr.boundOf
  split
  next => exact .pure _
  next => exact .pure _
  next => split <;> grind

@[grind .] theorem sliceOf (subject : Value) (start stop step : Option Value) :
    Confined scope (sliceOf subject start stop step) := by
  unfold Expr.sliceOf
  refine .bind .get fun world => ?_
  dsimp only
  split
  next => grind
  next => grind
  next => split <;> grind [notSubscriptable]
  next => grind [notSubscriptable]

@[grind .] theorem setItem (subject index value : Value) :
    Confined scope (setItem subject index value) := by
  intro world
  unfold Expr.setItem
  refine Keeps.get_bind ?_
  have refused : ∀ mistake, Keeps scope (MonadExcept.throw mistake : Eval Unit) world :=
    fun mistake => Confined.throw mistake world
  dsimp only
  split
  next address =>
    split
    next items =>
      split
      next => exact Confined.bind (by grind [indexType]) (fun _ => .throw _) world
      next whole =>
        split
        next place => exact .store address _
        next => exact refused _
    next entries => exact Keeps.look_bind (looks_checkKey index) fun _ => .store address _
    next => exact refused _
  next => exact refused _

@[grind .] theorem check (arity : Arity) (given : Nat) : Confined scope (arity.check given) := by
  grind [Arity.check]

@[grind .] theorem typed (text : String) (value : Value) : Confined scope (typed text value) := by
  grind [Expr.typed]

@[grind .] theorem checkLength (text : String) (base : Int) :
    Confined scope (checkLength text base) := by
  grind [Expr.checkLength]

@[grind .] theorem toWhole (value : Value) : Confined scope (toWhole value) := by
  unfold Expr.toWhole
  split
  next => grind
  next => split <;> grind

@[grind .] theorem toWholeIn (value base : Value) : Confined scope (toWholeIn value base) := by
  unfold Expr.toWholeIn
  split
  next =>
    split
    · exact .throw _
    · split <;> grind
  next => grind

@[grind .] theorem toReal (value : Value) : Confined scope (toReal value) := by
  unfold Expr.toReal
  split
  next => grind
  next => split <;> grind

@[grind .] theorem magnitude (value : Value) : Confined scope (magnitude value) := by
  grind [Expr.magnitude]

@[grind .] theorem extreme (order : Order) (name : String) (parts : List Value) :
    Confined scope (extreme order name parts) := by
  unfold Expr.extreme
  split <;> grind

@[grind .] theorem extremeOf (order : Order) (name : String) (arguments : List Value) :
    Confined scope (extremeOf order name arguments) := by
  unfold Expr.extremeOf
  split <;> grind

@[grind .] theorem total (source start : Value) : Confined scope (total source start) := by
  grind [Expr.total]

@[grind .] theorem insertionPlace (sorted : Array Value) (part : Value) (low high : Nat) :
    Confined scope (insertionPlace sorted part low high) := by
  fun_induction Expr.insertionPlace sorted part low high with
  | case1 low high some middle before behind => grind
  | case2 low high none => exact .pure low

@[grind .] theorem runLength (falling : Bool) (previous : Value) (parts : List Value) :
    Confined scope (runLength falling previous parts) := by
  induction parts generalizing previous with
  | nil => exact .pure 0
  | cons part rest ih => grind [Expr.runLength]

@[grind .] theorem sortParts (parts : List Value) : Confined scope (sortParts parts) := by
  unfold Expr.sortParts
  split <;> grind

@[grind .] theorem toRangeBound (value : Value) : Confined scope (toRangeBound value) := by
  grind [Expr.toRangeBound]

@[grind .] theorem toRange (arguments : List Value) : Confined scope (toRange arguments) := by
  grind [Expr.toRange]

@[grind .] theorem codeOf (value : Value) : Confined scope (codeOf value) := by
  unfold Expr.codeOf
  split
  next => split <;> grind
  next => grind

@[grind .] theorem characterOf (value : Value) : Confined scope (characterOf value) := by
  grind [Expr.characterOf]

@[grind .] theorem toDict (arguments : List Value) (named : List (String × Value)) :
    Confined scope (toDict arguments named) := by
  unfold Expr.toDict
  dsimp only
  split
  next => exact .bind .get fun world => by split <;> grind
  next => grind
  next => grind

@[grind .] theorem printAll (arguments : List Value) (named : List (String × Value)) :
    Confined scope (printAll arguments named) := by
  intro world
  unfold Expr.printAll
  refine Keeps.get_bind (Keeps.look_bind (looks_checkDigits arguments) fun _ => ?_)
  exact Keeps.ok rfl (Beside.of_tables (fun other => by cases other <;> rfl) rfl rfl)

@[grind .] theorem refuseNamed (name : String) (named : List (String × Value)) :
    Confined scope (refuseNamed name named) := by
  grind [Expr.refuseNamed]

@[grind .] theorem callPlain (name : String) (arguments : List Value) :
    Confined scope (callPlain name arguments) := by
  unfold Expr.callPlain
  dsimp only
  split <;> grind

@[grind .] theorem callFunction (name : String) (arguments : List Value)
    (named : List (String × Value)) : Confined scope (callFunction name arguments named) := by
  grind [Expr.callFunction]

@[grind .] theorem callLookout (outside : Outside) (name : Lookout) (arguments : List Value)
    (named : List (String × Value)) :
    Confined scope (callLookout outside name arguments named) := by
  grind [Expr.callLookout]

@[grind .] theorem matchesEnd (name : String) (test : List Char → Bool) (wanted : Value) :
    Confined scope (matchesEnd name test wanted) := by
  unfold Expr.matchesEnd
  refine .bind .get fun world => ?_
  split
  next => exact .pure _
  next => split <;> grind
  next => exact .throw _

@[grind .] theorem textArgument (value : Value) : Confined scope (textArgument value) := by
  unfold Expr.textArgument
  split <;> grind

@[grind .] theorem limitOf (text : List Char) (limit : Option Value) :
    Confined scope (limitOf text limit) := by
  unfold Expr.limitOf
  split <;> grind

@[grind .] theorem splitText (text : List Char) (separator limit : Option Value) :
    Confined scope (splitText text separator limit) := by
  unfold Expr.splitText
  refine .bind (limitOf text limit) fun limit => ?_
  split <;> grind

@[grind .] theorem joinParts (separator : String) (source : Value) :
    Confined scope (joinParts separator source) := by
  unfold Expr.joinParts
  refine .bind .get fun world => ?_
  split
  next => exact .throw _
  next parts => 
    refine .bind (mapM (fun item => ?_) _) fun texts => .pure _
    dsimp only
    split <;> grind

@[grind .] theorem stripText (text : List Char) (marks : Option Value) :
    Confined scope (stripText text marks) := by
  unfold Expr.stripText
  split <;> grind

@[grind .] theorem boundedText (text : List Char) (start stop : Option Value) :
    Confined scope (boundedText text start stop) := by
  grind [Expr.boundedText]

@[grind .] theorem callText (text name : String) (arguments : List Value) :
    Confined scope (callText text name arguments) := by
  unfold Expr.callText
  dsimp only
  split
  next => grind
  next => grind
  next => grind
  next => grind
  next => grind
  next => grind
  next => grind
  next =>
    refine .bind (check _ _) fun _ => ?_
    split <;> grind
  next => grind
  next => grind

@[grind .] theorem callMethod (receiver : Value) (name : String) (arguments : List Value)
    (named : List (String × Value)) :
    Confined scope (callMethod receiver name arguments named) := by
  unfold Expr.callMethod
  split
  next text => grind
  next address =>
    refine .bind (refuseNamed _ _) fun _ => .bind (check _ _) fun _ world => ?_
    refine Keeps.get_bind ?_
    split
    next items =>
      exact Keeps.bind (.store address _) fun _ between _ => Confined.pure _ between
    next => exact Confined.pure _ world
  next => exact .pure _

theorem bindName (name : String) (value : Value) :
    Confined scope (modify (·.bind scope name value)) :=
  fun world => .ok rfl (.bindName world name value)

end Confined

end ExScript.Expr
