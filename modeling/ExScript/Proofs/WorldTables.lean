import ExScript.Expr.Evaluator

/-!
The tables of names that a world has: the user's and those of the scopes made from it. Putting a
table in the place of another changes no other one, and neither does making a scope.
-/

namespace ExScript.Expr

def World.Distinct (world : World) : Prop :=
  ∀ scope, (world.table scope).keys.Nodup

/-- No table but that of a scope has changed. -/
structure Beside (scope : Scope) (world last : World) : Prop where
  tables : ∀ other, other ≠ scope → last.table other = world.table other
  size : last.fresh.size = world.fresh.size
  given : last.given = world.given
  distinct : world.Distinct → last.Distinct

theorem Beside.refl (scope : Scope) (world : World) : Beside scope world world :=
  ⟨fun _ _ => rfl, rfl, rfl, id⟩

theorem Beside.trans {scope : Scope} {world between last : World}
    (first : Beside scope world between) (second : Beside scope between last) :
    Beside scope world last where
  tables other elsewhere := (second.tables other elsewhere).trans (first.tables other elsewhere)
  size := second.size.trans first.size
  given := second.given.trans first.given
  distinct held := second.distinct (first.distinct held)

theorem World.Distinct.congr {world last : World}
    (same : ∀ scope, last.table scope = world.table scope) (held : world.Distinct) :
    last.Distinct :=
  fun scope => same scope ▸ held scope

theorem Beside.of_tables {world last : World}
    (same : ∀ other, last.table other = world.table other)
    (size : last.fresh.size = world.fresh.size) (given : last.given = world.given) :
    Beside scope world last :=
  ⟨fun other _ => same other, size, given, .congr same⟩

theorem World.table_setTable_ne (world : World) {scope other : Scope} (distinct : other ≠ scope)
    (table : Table Value) : (world.setTable scope table).table other = world.table other := by
  cases scope with
  | user =>
      cases other with
      | user => exact absurd rfl distinct
      | fresh index => rfl
  | fresh place =>
      cases other with
      | user => rfl
      | fresh index =>
          have apart : place ≠ index := fun same => distinct (congrArg Scope.fresh same.symm)
          simp [setTable, World.table, Array.getD_eq_getD_getElem?,
            Array.getElem?_setIfInBounds_ne apart]

theorem World.size_setTable (world : World) (scope : Scope) (table : Table Value) :
    (world.setTable scope table).fresh.size = world.fresh.size := by
  cases scope <;> simp [setTable]

theorem World.given_setTable (world : World) (scope : Scope) (table : Table Value) :
    (world.setTable scope table).given = world.given := by
  cases scope <;> rfl

def World.Knows (world : World) : Scope → Prop
  | .user => True
  | .fresh index => index < world.fresh.size

theorem World.table_setTable_self {world : World} {scope : Scope} (known : world.Knows scope)
    (table : Table Value) : (world.setTable scope table).table scope = table := by
  cases scope with
  | user => rfl
  | fresh index =>
      have bound : index < world.fresh.size := known
      simp [setTable, World.table, Array.getD_eq_getD_getElem?, bound]

theorem World.table_unknown {world : World} {scope : Scope} (unknown : ¬ world.Knows scope) :
    world.table scope = ∅ := by
  cases scope with
  | user => exact absurd trivial unknown
  | fresh index =>
      have bound : ¬ index < world.fresh.size := unknown
      simp [World.table, Array.getD_eq_getD_getElem?, bound]

theorem World.knows_setTable {world : World} {scope other : Scope} {table : Table Value} :
    (world.setTable scope table).Knows other ↔ world.Knows other := by
  cases other with
  | user => exact Iff.rfl
  | fresh index => simp [Knows, size_setTable]

theorem World.table_restored {world last : World} (size : last.fresh.size = world.fresh.size)
    (scope : Scope) :
    (last.setTable scope (world.table scope)).table scope = world.table scope := by
  by_cases known : last.Knows scope
  · exact table_setTable_self known _
  · have unknown : ¬ world.Knows scope := by
      cases scope with
      | user => exact known
      | fresh index => simpa [Knows, size] using known
    rw [table_unknown unknown, table_unknown (mt knows_setTable.mp known)]

theorem World.Distinct.setTable {world : World} (held : world.Distinct) (scope : Scope)
    {table : Table Value} (distinct : table.keys.Nodup) :
    (world.setTable scope table).Distinct := by
  intro other
  by_cases same : other = scope
  · subst same
    by_cases known : world.Knows other
    · rwa [table_setTable_self known]
    · rw [table_unknown (mt knows_setTable.mp known)]
      exact List.nodup_nil
  · rw [table_setTable_ne _ same]
    exact held other

theorem Beside.bindName {scope : Scope} (world : World) (name : String) (value : Value) :
    Beside scope world (world.bind scope name value) where
  tables _ elsewhere := world.table_setTable_ne elsewhere _
  size := world.size_setTable _ _
  given := world.given_setTable _ _
  distinct held := held.setTable scope (Table.keys_insert_nodup (held scope) name value)

theorem Value.same_initial {name : String} {held value : Value}
    (initial : initial? name = some value) (same : held.same value = true) : held = value := by
  have kinds : value = .nothing ∨ (∃ truth, value = .bool truth) ∨
      (∃ number, value = .constant number) ∨ value = .function name ∨ value = .kind name := by
    unfold initial? at initial
    split at initial
    next found =>
      cases initial
      obtain ⟨before, behind, entries, -⟩ := List.lookup_eq_some_iff.mp found
      have member : (name, value) ∈ constants := by simp [entries]
      simp only [constants, List.mem_cons, Prod.mk.injEq, List.not_mem_nil, or_false] at member
      rcases member with ⟨-, rfl⟩ | ⟨-, rfl⟩ | ⟨-, rfl⟩ | ⟨-, rfl⟩ | ⟨-, rfl⟩ | ⟨-, rfl⟩ |
        ⟨-, rfl⟩ | ⟨-, rfl⟩ <;> simp
    next =>
      split at initial
      · cases initial
        simp
      · split at initial
        · cases initial
          simp
        · cases initial
  rcases kinds with rfl | ⟨truth, rfl⟩ | ⟨number, rfl⟩ | rfl | rfl <;>
    cases held <;> simp_all [Value.same]

namespace World

theorem Distinct.userTable {world : World} (distinct : world.Distinct) :
    world.userTable.keys.Nodup :=
  Table.keys_filter_nodup (distinct .user) _

theorem unknown_newScope (world : World) : ¬ world.Knows world.newScope.1 :=
  Nat.lt_irrefl _

theorem table_newScope_self (world : World) :
    world.newScope.2.table world.newScope.1 = world.userTable := by
  simp [newScope, table, Array.getD_eq_getD_getElem?]

theorem table_newScope {world : World} {scope : Scope} (known : world.Knows scope) :
    world.newScope.2.table scope = world.table scope := by
  cases scope with
  | user => rfl
  | fresh index =>
      have bound : index < world.fresh.size := known
      simp [newScope, table, Array.getD_eq_getD_getElem?, Array.getElem?_push_lt bound,
        Array.getElem?_eq_getElem bound]

theorem knows_newScope (world : World) (scope : Scope) :
    world.newScope.2.Knows scope ↔ scope = world.newScope.1 ∨ world.Knows scope := by
  cases scope with
  | user => simp [Knows]
  | fresh index =>
      simp only [Knows, newScope, Array.size_push, Scope.fresh.injEq]
      omega

theorem Distinct.newScope {world : World} (distinct : world.Distinct) :
    world.newScope.2.Distinct := by
  intro scope
  by_cases known : world.Knows scope
  · rw [table_newScope known]
    exact distinct scope
  · by_cases new : scope = world.newScope.1
    · subst new
      rw [table_newScope_self]
      exact distinct.userTable
    · rw [table_unknown (mt (world.knows_newScope scope).mp (not_or.mpr ⟨new, known⟩))]
      exact List.nodup_nil

/-- From one world to another a scope has been made: one that was not there before and holds the
user's names. All other scopes are as they were. -/
structure Begins (world : World) (scope : Scope) (last : World) : Prop where
  new : ¬ world.Knows scope
  known : ∀ other, last.Knows other ↔ other = scope ∨ world.Knows other
  table : last.table scope = world.userTable
  others : ∀ other, world.Knows other → last.table other = world.table other
  elsewhere : last = { world with fresh := last.fresh }

theorem begins_newScope (world : World) : Begins world world.newScope.1 world.newScope.2 where
  new := world.unknown_newScope
  known := world.knows_newScope
  table := world.table_newScope_self
  others _ := table_newScope
  elsewhere := rfl

/-- The tables that there were are as they were, with the same names bound to the same values. -/
structure Kept (world last : World) : Prop where
  tables : ∀ scope, world.Knows scope → last.table scope = world.table scope
  distinct : world.Distinct → last.Distinct

theorem Kept.refl (world : World) : Kept world world :=
  ⟨fun _ _ => rfl, id⟩

theorem Kept.of_beside {world last : World}
    (beside : Beside world.newScope.1 world.newScope.2 last) : Kept world last where
  tables scope known := by
    have other : scope ≠ world.newScope.1 := fun same => world.unknown_newScope (same ▸ known)
    exact (beside.tables scope other).trans (table_newScope known)
  distinct held := beside.distinct held.newScope

def flushed (world : World) : World :=
  { world with printed := "" }

theorem table_flushed (world : World) (scope : Scope) :
    world.flushed.table scope = world.table scope := by
  cases scope <;> rfl

theorem lookup?_newScope_of_nodup {world : World} (distinct : world.user.keys.Nodup)
    (name : String) :
    world.newScope.2.lookup? world.newScope.1 name = world.lookup? .user name := by
  unfold lookup?
  rw [table_newScope_self]
  have kept := Table.get?_filter distinct world.isUserBinding name
  change (world.userTable.get? name).or (initial? name) =
    (world.user.get? name).or (initial? name)
  change world.userTable.get? name = (world.user.get? name).filter _ at kept
  rw [kept]
  cases held : world.user.get? name with
  | none => rfl
  | some value =>
      by_cases own : world.isUserBinding name value = true
      · rw [Option.filter_some, if_pos own]
      · rw [Option.filter_some, if_neg own]
        have initial : (initial? name).any value.same = true := by
          simp only [isUserBinding, Bool.or_eq_true, not_or, Bool.not_eq_true,
            Bool.not_eq_false'] at own
          exact own.2
        cases found : initial? name with
        | none =>
            rw [found] at initial
            cases initial
        | some first =>
            rw [found] at initial
            rw [Value.same_initial found initial]
            rfl

theorem lookup?_newScope {world : World} (distinct : world.Distinct) (name : String) :
    world.newScope.2.lookup? world.newScope.1 name = world.lookup? .user name :=
  lookup?_newScope_of_nodup (distinct .user) name

end World

theorem Beside.flushed {scope : Scope} {world last : World} (beside : Beside scope world last) :
    Beside scope world last.flushed where
  tables other elsewhere := (last.table_flushed other).trans (beside.tables other elsewhere)
  size := beside.size
  given := beside.given
  distinct held := .congr last.table_flushed (beside.distinct held)

end ExScript.Expr
