/-!
Tables from names to values that keep the order in which names were first entered. Entering a name
again changes its value and keeps its place.
-/

namespace ExScript

structure Table (α : Type) where
  entries : List (String × α)
  deriving Inhabited

namespace Table

variable {α : Type}

def empty : Table α := ⟨[]⟩

instance : EmptyCollection (Table α) := ⟨empty⟩

def get? (table : Table α) (name : String) : Option α :=
  table.entries.lookup name

def contains (table : Table α) (name : String) : Bool :=
  (table.get? name).isSome

def keys (table : Table α) : List String :=
  table.entries.map (·.1)

def values (table : Table α) : List α :=
  table.entries.map (·.2)

def enter (name : String) (value : α) : List (String × α) → List (String × α)
  | [] => [(name, value)]
  | (other, old) :: rest =>
      if other = name then (name, value) :: rest else (other, old) :: enter name value rest

def insert (table : Table α) (name : String) (value : α) : Table α :=
  ⟨enter name value table.entries⟩

def insertAll (table : Table α) (pairs : List (String × α)) : Table α :=
  pairs.foldl (fun table (name, value) => table.insert name value) table

def filter (table : Table α) (keep : String → α → Bool) : Table α :=
  ⟨table.entries.filter fun (name, value) => keep name value⟩

def map {β : Type} (change : α → β) (table : Table α) : Table β :=
  ⟨table.entries.map fun (name, value) => (name, change value)⟩

def last? (pairs : List (String × α)) (name : String) : Option α :=
  pairs.reverse.lookup name

theorem get?_mem {table : Table α} {name : String} {value : α}
    (found : table.get? name = some value) : value ∈ table.values := by
  obtain ⟨before, behind, entries, -⟩ := List.lookup_eq_some_iff.mp found
  simp [values, entries]

theorem keys_enter (name : String) (value : α) (entries : List (String × α)) :
    (enter name value entries).map (·.1) =
      if name ∈ entries.map (·.1) then entries.map (·.1) else entries.map (·.1) ++ [name] := by
  induction entries with
  | nil => rfl
  | cons entry rest ih =>
      obtain ⟨other, old⟩ := entry
      by_cases same : other = name
      · simp [enter, same]
      · rw [enter, if_neg same, List.map_cons, ih]
        by_cases known : name ∈ rest.map (·.1)
        · have still : name ∈ ((other, old) :: rest).map (·.1) := List.mem_cons_of_mem _ known
          rw [if_pos known, if_pos still]
          rfl
        · have unknown : name ∉ ((other, old) :: rest).map (·.1) := by
            simpa [Ne.symm same] using known
          rw [if_neg known, if_neg unknown]
          rfl

theorem keys_insert_nodup {table : Table α} (distinct : table.keys.Nodup) (name : String)
    (value : α) : (table.insert name value).keys.Nodup := by
  unfold keys insert
  rw [keys_enter]
  split
  · exact distinct
  next unknown =>
    refine List.nodup_append.mpr ⟨distinct, List.pairwise_singleton _ _, ?_⟩
    rintro key member other last rfl
    rw [List.mem_singleton.mp last] at member
    exact unknown member

theorem keys_insertAll_nodup {table : Table α} (distinct : table.keys.Nodup)
    (pairs : List (String × α)) : (table.insertAll pairs).keys.Nodup := by
  induction pairs generalizing table with
  | nil => exact distinct
  | cons pair rest ih => exact ih (keys_insert_nodup distinct pair.1 pair.2)

theorem keys_filter_nodup {table : Table α} (distinct : table.keys.Nodup)
    (keep : String → α → Bool) : (table.filter keep).keys.Nodup :=
  distinct.sublist (List.filter_sublist.map _)

theorem lookup_of_mem {entries : List (String × α)} (distinct : (entries.map (·.1)).Nodup)
    {name : String} {value : α} (member : (name, value) ∈ entries) :
    entries.lookup name = some value := by
  induction entries with
  | nil => simp at member
  | cons entry rest ih =>
      obtain ⟨first, behind⟩ := List.nodup_cons.mp distinct
      rcases List.mem_cons.mp member with rfl | later
      · simp
      · have other : name ≠ entry.1 := by
          rintro rfl
          exact first (List.mem_map.mpr ⟨_, later, rfl⟩)
        rw [List.lookup_cons, beq_eq_false_iff_ne.mpr other]
        exact ih behind later

theorem mem_values_iff {table : Table α} (distinct : table.keys.Nodup) {value : α} :
    value ∈ table.values ↔ ∃ name, table.get? name = some value := by
  constructor
  · intro member
    obtain ⟨⟨name, held⟩, entered, rfl⟩ := List.mem_map.mp member
    exact ⟨name, lookup_of_mem distinct entered⟩
  · rintro ⟨name, found⟩
    exact get?_mem found

theorem get?_eq_some_iff {table : Table α} (distinct : table.keys.Nodup) {name : String}
    {value : α} : table.get? name = some value ↔ (name, value) ∈ table.entries := by
  constructor
  · intro found
    obtain ⟨before, behind, entries, -⟩ := List.lookup_eq_some_iff.mp found
    simp [entries]
  · exact lookup_of_mem distinct

theorem get?_filter {table : Table α} (distinct : table.keys.Nodup) (keep : String → α → Bool)
    (name : String) : (table.filter keep).get? name = (table.get? name).filter (keep name) := by
  ext value
  rw [Option.filter_eq_some_iff, get?_eq_some_iff (keys_filter_nodup distinct keep),
    get?_eq_some_iff distinct]
  exact List.mem_filter

theorem lookup_enter_self (name : String) (value : α) (entries : List (String × α)) :
    (enter name value entries).lookup name = some value := by
  induction entries with
  | nil => simp [enter]
  | cons entry rest ih =>
      obtain ⟨other, old⟩ := entry
      by_cases same : other = name
      · simp [enter, same]
      · simp [enter, same, List.lookup_cons, ih, beq_eq_false_iff_ne.mpr (Ne.symm same)]

theorem lookup_enter_ne {name other : String} (distinct : other ≠ name) (value : α)
    (entries : List (String × α)) :
    (enter name value entries).lookup other = entries.lookup other := by
  induction entries with
  | nil => simp [enter, List.lookup_cons, beq_eq_false_iff_ne.mpr distinct]
  | cons entry rest ih =>
      obtain ⟨first, old⟩ := entry
      by_cases same : first = name
      · subst same
        simp [enter, List.lookup_cons, beq_eq_false_iff_ne.mpr distinct]
      · simp [enter, same, List.lookup_cons, ih]

@[simp] theorem get?_insert_self (table : Table α) (name : String) (value : α) :
    (table.insert name value).get? name = some value :=
  lookup_enter_self name value table.entries

theorem get?_insert_ne (table : Table α) {name other : String} (distinct : other ≠ name)
    (value : α) : (table.insert name value).get? other = table.get? other :=
  lookup_enter_ne distinct value table.entries

theorem last?_append (before behind : List (String × α)) (name : String) :
    last? (before ++ behind) name = (last? behind name).or (last? before name) := by
  unfold last?
  rw [List.reverse_append, List.lookup_append]

theorem last?_cons (pair : String × α) (rest : List (String × α)) (name : String) :
    last? (pair :: rest) name =
      (last? rest name).or (if name = pair.1 then some pair.2 else none) := by
  rw [← List.singleton_append, last?_append]
  congr 1
  obtain ⟨other, value⟩ := pair
  by_cases same : name = other
  · simp [last?, same]
  · simp [last?, List.lookup_cons, beq_eq_false_iff_ne.mpr same, same]

theorem exists_last? {pairs : List (String × α)} {pair : String × α} (member : pair ∈ pairs) :
    ∃ value, last? pairs pair.1 = some value := by
  rw [← Option.ne_none_iff_exists']
  unfold last?
  rw [Ne, List.lookup_eq_none_iff]
  intro other
  have different := other pair (List.mem_reverse.mpr member)
  exact absurd rfl (bne_iff_ne.mp different)

theorem mem_of_last? {pairs : List (String × α)} {name : String} {value : α}
    (found : last? pairs name = some value) : (name, value) ∈ pairs := by
  obtain ⟨before, behind, entries, -⟩ := List.lookup_eq_some_iff.mp found
  rw [← List.mem_reverse, entries]
  simp

theorem exists_last?_flatMap {β : Type} {items : List β} {pairs : β → List (String × α)}
    {name : String} {value : α} (last : last? (items.flatMap pairs) name = some value) :
    ∃ item ∈ items, last? (pairs item) name = some value := by
  induction items with
  | nil => cases last
  | cons item rest ih =>
      rw [List.flatMap_cons, last?_append] at last
      cases behind : last? (rest.flatMap pairs) name with
      | none =>
          rw [behind] at last
          exact ⟨item, List.mem_cons_self, last⟩
      | some other =>
          rw [behind] at last
          obtain ⟨found, member, same⟩ := ih (behind.trans last)
          exact ⟨found, List.mem_cons_of_mem _ member, same⟩

theorem last?_flatMap_eq_none {β : Type} {items : List β} {pairs : β → List (String × α)}
    {name : String} (nothing : last? (items.flatMap pairs) name = none) :
    ∀ item ∈ items, last? (pairs item) name = none := by
  induction items with
  | nil => exact List.forall_mem_nil _
  | cons item rest ih =>
      rw [List.flatMap_cons, last?_append, Option.or_eq_none_iff] at nothing
      exact List.forall_mem_cons.mpr ⟨nothing.2, ih nothing.1⟩

/-- Of all that is entered the last counts, and what was there before if there is none. -/
theorem get?_insertAll (table : Table α) (pairs : List (String × α)) (name : String) :
    (table.insertAll pairs).get? name = (last? pairs name).or (table.get? name) := by
  induction pairs generalizing table with
  | nil => rfl
  | cons pair rest ih =>
      have behind : table.insertAll (pair :: rest) =
          (table.insert pair.1 pair.2).insertAll rest := rfl
      rw [behind, ih, last?_cons, Option.or_assoc]
      by_cases same : name = pair.1
      · rw [if_pos same, same, get?_insert_self]
        rfl
      · rw [if_neg same, get?_insert_ne _ same]
        rfl

theorem insertAll_append (table : Table α) (before behind : List (String × α)) :
    table.insertAll (before ++ behind) = (table.insertAll before).insertAll behind := by
  unfold insertAll
  rw [List.foldl_append]

theorem get?_eq_none_iff {table : Table α} {name : String} :
    table.get? name = none ↔ name ∉ table.keys := by
  unfold get? keys
  rw [List.lookup_eq_none_iff, List.mem_map]
  constructor
  · rintro other ⟨entry, member, rfl⟩
    exact absurd rfl (bne_iff_ne.mp (other entry member))
  · intro unknown entry member
    exact bne_iff_ne.mpr fun same => unknown ⟨entry, member, same.symm⟩

theorem keys_insertAll {table : Table α} {pairs : List (String × α)}
    (known : ∀ pair ∈ pairs, pair.1 ∈ table.keys) : (table.insertAll pairs).keys = table.keys := by
  induction pairs generalizing table with
  | nil => rfl
  | cons pair rest ih =>
      obtain ⟨first, others⟩ := List.forall_mem_cons.mp known
      have same : (table.insert pair.1 pair.2).keys = table.keys := by
        unfold keys insert at *
        rw [keys_enter, if_pos first]
      exact (ih (by rwa [same])).trans same

theorem eq_of_get? {table other : Table α} (distinct : table.keys.Nodup)
    (keys : other.keys = table.keys) (same : ∀ name, other.get? name = table.get? name) :
    other = table := by
  have found {table : Table α} (distinct : table.keys.Nodup) :
      table.entries.map some =
        table.keys.map fun name => (table.get? name).map fun value => (name, value) := by
    unfold Table.keys
    rw [List.map_map]
    refine List.map_congr_left fun entry member => ?_
    have here : table.get? entry.1 = some entry.2 := lookup_of_mem distinct member
    simp [here]
  have entries : other.entries.map some = table.entries.map some := by
    rw [found distinct, found (keys ▸ distinct), keys]
    simp only [same]
  exact congrArg mk ((List.map_inj_right fun _ _ => Option.some.inj).mp entries)

theorem insertAll_eq_self {table : Table α} (distinct : table.keys.Nodup)
    {pairs : List (String × α)}
    (same : ∀ name, (table.insertAll pairs).get? name = table.get? name) :
    table.insertAll pairs = table := by
  refine eq_of_get? distinct (keys_insertAll fun pair member => ?_) same
  obtain ⟨value, last⟩ := exists_last? member
  have found := same pair.1
  rw [get?_insertAll, last] at found
  refine Classical.not_not.mp fun unknown => ?_
  rw [get?_eq_none_iff.mpr unknown] at found
  cases found

section Map

variable {β : Type} (change : α → β)

theorem get?_map (table : Table α) (name : String) :
    (table.map change).get? name = (table.get? name).map change := by
  unfold get? map
  induction table.entries with
  | nil => rfl
  | cons entry rest ih =>
      obtain ⟨other, value⟩ := entry
      by_cases same : name = other
      · simp [same]
      · simp [List.lookup_cons, beq_eq_false_iff_ne.mpr same, ih]

theorem keys_map (table : Table α) : (table.map change).keys = table.keys := by
  simp [keys, map, Function.comp_def]

theorem values_map (table : Table α) : (table.map change).values = table.values.map change := by
  simp [values, map, Function.comp_def]

theorem map_enter (name : String) (value : α) (entries : List (String × α)) :
    (enter name value entries).map (fun (name, value) => (name, change value)) =
      enter name (change value) (entries.map fun (name, value) => (name, change value)) := by
  induction entries with
  | nil => rfl
  | cons entry rest ih =>
      obtain ⟨other, old⟩ := entry
      by_cases same : other = name
      · simp [enter, same]
      · simp [enter, same, ih]

theorem map_insert (table : Table α) (name : String) (value : α) :
    (table.insert name value).map change = (table.map change).insert name (change value) :=
  congrArg mk (map_enter change name value table.entries)

theorem map_insertAll (table : Table α) (pairs : List (String × α)) :
    (table.insertAll pairs).map change =
      (table.map change).insertAll (pairs.map fun (name, value) => (name, change value)) := by
  induction pairs generalizing table with
  | nil => rfl
  | cons pair rest ih =>
      have behind : table.insertAll (pair :: rest) =
          (table.insert pair.1 pair.2).insertAll rest := rfl
      rw [behind, ih, map_insert]
      rfl

end Map

end Table

end ExScript
