import Mathlib.Data.List.Nodup

/-!
Lists that keep of every item its first occurrence, as they are built up: an item is added at the
end unless it is there already.
-/

namespace ExScript

variable {α : Type} [BEq α] [LawfulBEq α]

def addNew (items : List α) (item : α) : List α :=
  if items.contains item then items else items ++ [item]

theorem addNew_mem {items : List α} {item : α} (member : item ∈ items) :
    addNew items item = items := by
  simp [addNew, member]

theorem addNew_not_mem {items : List α} {item : α} (other : item ∉ items) :
    addNew items item = items ++ [item] := by
  simp [addNew, other]

theorem nodup_addNew {items : List α} (nodup : items.Nodup) (item : α) :
    (addNew items item).Nodup := by
  by_cases member : item ∈ items
  · rwa [addNew_mem member]
  · rw [addNew_not_mem member]
    refine List.nodup_append.mpr ⟨nodup, by simp, ?_⟩
    rintro one inside other among rfl
    exact member (List.mem_singleton.mp among ▸ inside)

theorem nodup_foldl_addNew {items : List α} (nodup : items.Nodup) (more : List α) :
    (more.foldl addNew items).Nodup := by
  induction more generalizing items with
  | nil => exact nodup
  | cons item more ih => exact ih (nodup_addNew nodup item)

theorem prefix_foldl_addNew (items more : List α) : items <+: more.foldl addNew items := by
  induction more generalizing items with
  | nil => exact List.prefix_refl items
  | cons item more ih =>
      refine List.IsPrefix.trans ?_ (ih (addNew items item))
      by_cases member : item ∈ items
      · exact (addNew_mem member).symm ▸ List.prefix_refl items
      · exact (addNew_not_mem member).symm ▸ List.prefix_append items [item]

theorem eraseDups_of_nodup {items : List α} (nodup : items.Nodup) : items.eraseDups = items := by
  induction items with
  | nil => rfl
  | cons item rest ih =>
      obtain ⟨other, nodup⟩ := List.nodup_cons.mp nodup
      have kept : rest.filter (fun next => !next == item) = rest := by
        apply List.filter_eq_self.mpr
        intro next member
        simp only [Bool.not_eq_true', beq_eq_false_iff_ne]
        rintro rfl
        exact other member
      rw [List.eraseDups_cons, kept, ih nodup]

theorem foldl_addNew {items : List α} (nodup : items.Nodup) (more : List α) :
    more.foldl addNew items = (items ++ more).eraseDups := by
  induction more generalizing items with
  | nil => rw [List.foldl_nil, List.append_nil, eraseDups_of_nodup nodup]
  | cons item more ih =>
      rw [List.foldl_cons, ih (nodup_addNew nodup item)]
      by_cases member : item ∈ items
      · rw [addNew_mem member, List.eraseDups_append, List.eraseDups_append]
        simp [List.removeAll, member]
      · rw [addNew_not_mem member, List.append_assoc, List.singleton_append]

end ExScript
