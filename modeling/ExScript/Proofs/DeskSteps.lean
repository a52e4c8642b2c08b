import ExScript.Prompt.Desk

/-!
The steps at a desk, one by one: when each of them is possible, and what it leaves of the desk.
-/

namespace ExScript.Desk

variable {desk after : Desk} {number : Nat}

theorem find?_update {change : Asking → Asking} (other : Nat)
    (keeps : ∀ asking, (change asking).posted = asking.posted := by exact fun _ => rfl) :
    (desk.update number change).find? other =
      if other = number then (desk.find? number).map change else desk.find? other := by
  have same : ((fun asking : Asking => decide (asking.posted.number = other)) ∘ fun asking =>
      if asking.posted.number = number then change asking else asking) =
        fun asking => decide (asking.posted.number = other) := by
    funext asking
    by_cases here : asking.posted.number = number <;> simp [here, keeps]
  unfold update find?
  rw [List.find?_map, same]
  by_cases here : other = number
  · subst here
    simp only [↓reduceIte]
    cases found : desk.asked.find? fun asking => asking.posted.number = other with
    | none => rfl
    | some asking =>
        have named := List.find?_some found
        simp only [decide_eq_true_eq] at named
        simp [named]
  · simp only [here, ↓reduceIte]
    cases found : desk.asked.find? fun asking => asking.posted.number = other with
    | none => rfl
    | some asking =>
        have named := List.find?_some found
        simp only [decide_eq_true_eq] at named
        simp [named, here]

theorem find?_post {request : PromptRequest} (fresh : desk.find? desk.nextNumber = none)
    (other : Nat) :
    (desk.post request).2.find? other =
      if other = desk.nextNumber then some { posted := ⟨desk.nextNumber, request⟩ }
      else desk.find? other := by
  unfold find? at fresh ⊢
  simp only [post, List.find?_append]
  by_cases here : other = desk.nextNumber
  · subst here
    simp [fresh]
  · simp [here, Ne.symm here]

theorem update_find? {change : Asking → Asking} {asking : Asking}
    (found : desk.find? number = some asking)
    (keeps : ∀ asking, (change asking).posted = asking.posted := by exact fun _ => rfl) :
    (desk.update number change).find? number = some (change asking) := by
  rw [find?_update number keeps, if_pos rfl, found]
  rfl

def Knows (desk : Desk) (number : Nat) : Prop :=
  ∃ asking, desk.find? number = some asking

theorem not_knows : ¬ desk.Knows number ↔ desk.find? number = none := by
  unfold Knows
  cases desk.find? number <;> simp

theorem not_knows_start : ¬ Knows {} number :=
  fun ⟨_, found⟩ => nomatch found

theorem knows_update {change : Asking → Asking} {other : Nat}
    (keeps : ∀ asking, (change asking).posted = asking.posted := by exact fun _ => rfl) :
    (desk.update number change).Knows other ↔ desk.Knows other := by
  unfold Knows
  rw [find?_update other keeps]
  split
  next same =>
    subst same
    constructor
    · rintro ⟨_, found⟩
      obtain ⟨asking, found, -⟩ := Option.map_eq_some_iff.mp found
      exact ⟨asking, found⟩
    · rintro ⟨asking, found⟩
      exact ⟨change asking, Option.map_eq_some_iff.mpr ⟨asking, found, rfl⟩⟩
  next => rfl

theorem next_some {posted : Posted} (handed : desk.next = (some posted, after)) :
    desk.unread = posted :: after.unread ∧ after = { desk with unread := after.unread } := by
  unfold next at handed
  split at handed
  · cases handed
  next unread =>
    cases handed
    exact ⟨unread, rfl⟩

theorem next_none (nothing : desk.next = (none, after)) : desk.unread = [] ∧ after = desk := by
  unfold next at nothing
  split at nothing
  next unread =>
    cases nothing
    exact ⟨unread, rfl⟩
  · cases nothing

theorem claim_some {named : Option Int} {answer : Option String}
    (claimed : desk.claim named answer = (some number, after)) :
    number ∈ desk.pending ∧
      after = { desk.forget number with claimed := desk.claimed ++ [⟨number, answer⟩] } := by
  unfold claim at claimed
  split at claimed
  · cases claimed
  · cases claimed
  next target =>
    dsimp only at claimed
    split at claimed
    next pending =>
      cases claimed
      exact ⟨pending, rfl⟩
    · cases claimed

theorem claim_none {named : Option Int} {answer : Option String}
    (refused : desk.claim named answer = (none, after)) :
    after = desk ∨ ∃ number, number ∉ desk.pending ∧ after = desk.forget number := by
  unfold claim at refused
  split at refused
  · cases refused
    exact .inl rfl
  · cases refused
    exact .inl rfl
  next target =>
    dsimp only at refused
    split at refused
    · cases refused
    next absent =>
      cases refused
      exact .inr ⟨_, absent, rfl⟩

theorem fill_some (filled : desk.fill number = some after) :
    ∃ delivery asking, delivery ∈ desk.claimed ∧ delivery.number = number ∧
      desk.find? number = some asking ∧ asking.slot = none ∧
        after = ({ desk with claimed := desk.claimed.filter (·.number ≠ number) } : Desk).update
          number fun asking => { asking with slot := some delivery.answer } := by
  unfold fill at filled
  split at filled
  next delivery asking claimed found =>
    split at filled
    · cases filled
    next free =>
      cases filled
      have named := List.find?_some claimed
      exact ⟨delivery, asking, List.mem_of_find?_eq_some claimed, by simpa using named, found,
        by simpa using free, rfl⟩
  · cases filled

theorem take_some (taken : desk.take number = some after) :
    ∃ posted answer, desk.find? number = some ⟨posted, .waiting, some answer⟩ ∧
      after = desk.update number fun asking =>
        { asking with state := .returned answer, slot := none } := by
  unfold take at taken
  split at taken
  next found =>
    cases taken
    exact ⟨_, _, found, rfl⟩
  · cases taken

theorem expire_some (expired : desk.expire number = some after) :
    ∃ posted slot, desk.find? number = some ⟨posted, .waiting, slot⟩ ∧
      after = desk.update number fun asking => { asking with state := .timedOut } := by
  unfold expire at expired
  split at expired
  next found =>
    cases expired
    exact ⟨_, _, found, rfl⟩
  · cases expired

theorem withdraw_some (withdrawn : desk.withdraw number = some after) :
    ∃ posted slot, desk.find? number = some ⟨posted, .timedOut, slot⟩ ∧
      after = (desk.forget number).update number fun asking =>
        { asking with state := .withdrawn } := by
  unfold withdraw at withdrawn
  split at withdrawn
  next found =>
    cases withdrawn
    exact ⟨_, _, found, rfl⟩
  · cases withdrawn

theorem leave_some (left : desk.leave number = some after) :
    ∃ posted slot, desk.find? number = some ⟨posted, .withdrawn, slot⟩ ∧
      after = desk.update number fun asking =>
        { asking with state := .returned (slot.getD none), slot := none } := by
  unfold leave at left
  split at left
  next found =>
    cases left
    exact ⟨_, _, found, rfl⟩
  · cases left

variable {event : Event}

def Event.handed? : Event → Option Posted
  | .handedOut given => some given
  | _ => none

def Event.withdrawn? : Event → Option Nat
  | .claimed delivery => some delivery.number
  | .withdrew number => some number
  | _ => none

/-- What a step does to the unread requests and to the numbers that wait. -/
inductive Moves (desk : Desk) (event : Event) (after : Desk) : Prop where
  | joins (request : PromptRequest) (posts : event = .posted ⟨desk.nextNumber, request⟩)
      (unread : after.unread = desk.unread ++ [⟨desk.nextNumber, request⟩])
      (pending : after.pending = desk.pending ++ [desk.nextNumber])
      (next : after.nextNumber = desk.nextNumber + 1)
  | leaves (posted : Posted) (hands : event = .handedOut posted)
      (unread : desk.unread = posted :: after.unread) (pending : after.pending = desk.pending)
      (next : after.nextNumber = desk.nextNumber)
  | forgets (number : Nat) (posts : ∀ posted, event ≠ .posted posted)
      (hands : event.handed? = none)
      (withdraws : event.withdrawn? = some number ∧ (number ∈ desk.pending ∨ desk.Knows number) ∨
        event.withdrawn? = none ∧ number ∉ desk.pending)
      (unread : after.unread = withdrawn number desk.unread)
      (pending : after.pending = desk.pending.filter (· ≠ number))
      (next : after.nextNumber = desk.nextNumber)
  | stays (posts : ∀ posted, event ≠ .posted posted) (hands : event.handed? = none)
      (withdraws : event.withdrawn? = none) (unread : after.unread = desk.unread)
      (pending : after.pending = desk.pending) (next : after.nextNumber = desk.nextNumber)

theorem Step.moves (step : Step desk event after) : Moves desk event after := by
  cases step with
  | post request => exact .joins request rfl rfl rfl rfl
  | next handed =>
      obtain ⟨unread, same⟩ := next_some handed
      rw [same]
      exact .leaves _ rfl unread rfl rfl
  | idle nothing =>
      obtain ⟨-, rfl⟩ := next_none nothing
      exact .stays (fun _ => nofun) rfl rfl rfl rfl rfl
  | claim named answer claims =>
      obtain ⟨waits, rfl⟩ := claim_some claims
      exact .forgets _ (fun _ => nofun) rfl (.inl ⟨rfl, .inl waits⟩) rfl rfl rfl
  | refuse named answer refused =>
      rcases claim_none refused with rfl | ⟨number, absent, rfl⟩
      · exact .stays (fun _ => nofun) rfl rfl rfl rfl rfl
      · exact .forgets number (fun _ => nofun) rfl (.inr ⟨rfl, absent⟩) rfl rfl rfl
  | fill filled =>
      obtain ⟨delivery, asking, -, -, -, -, rfl⟩ := fill_some filled
      exact .stays (fun _ => nofun) rfl rfl rfl rfl rfl
  | take taken =>
      obtain ⟨posted, answer, -, rfl⟩ := take_some taken
      exact .stays (fun _ => nofun) rfl rfl rfl rfl rfl
  | expire expired =>
      obtain ⟨posted, slot, -, rfl⟩ := expire_some expired
      exact .stays (fun _ => nofun) rfl rfl rfl rfl rfl
  | withdraw withdrawn =>
      obtain ⟨posted, slot, found, rfl⟩ := withdraw_some withdrawn
      exact .forgets _ (fun _ => nofun) rfl (.inl ⟨rfl, .inr ⟨_, found⟩⟩) rfl rfl rfl
  | leave left =>
      obtain ⟨posted, slot, -, rfl⟩ := leave_some left
      exact .stays (fun _ => nofun) rfl rfl rfl rfl rfl

theorem Step.pending (step : Step desk event after) (member : number ∈ after.pending) :
    number ∈ desk.pending ∨
      ∃ request, event = .posted ⟨desk.nextNumber, request⟩ ∧ number = desk.nextNumber := by
  cases step.moves with
  | joins request posts unread pending next =>
      rw [pending] at member
      rcases List.mem_append.mp member with old | new
      · exact .inl old
      · exact .inr ⟨request, posts, List.mem_singleton.mp new⟩
  | leaves posted hands unread pending next => exact .inl (pending ▸ member)
  | forgets number posts hands withdraws unread pending next =>
      rw [pending] at member
      exact .inl (List.mem_filter.mp member).1
  | stays posts hands withdraws unread pending next => exact .inl (pending ▸ member)

/-- What a step does to the threads that posted requests: one more thread waits, or one goes on or
has its slot filled, or there is nothing for them in it. -/
inductive Turns (desk : Desk) (event : Event) (after : Desk) : Prop where
  | joins (request : PromptRequest)
      (asked : after.asked = desk.asked ++ [{ posted := ⟨desk.nextNumber, request⟩ }])
      (next : after.nextNumber = desk.nextNumber + 1)
  | changes (number : Nat) (change : Asking → Asking)
      (asked : after.asked = (desk.update number change).asked)
      (next : after.nextNumber = desk.nextNumber)
      (keeps : ∀ asking, (change asking).posted = asking.posted)
      (fills : ∀ asking, (change asking).slot ≠ none →
        asking.slot ≠ none ∨ event = .accepted number)
  | stays (asked : after.asked = desk.asked) (next : after.nextNumber = desk.nextNumber)

theorem Step.turns (step : Step desk event after) : Turns desk event after := by
  cases step with
  | post request => exact .joins request rfl rfl
  | next handed =>
      obtain ⟨-, same⟩ := next_some handed
      rw [same]
      exact .stays rfl rfl
  | idle nothing =>
      obtain ⟨-, rfl⟩ := next_none nothing
      exact .stays rfl rfl
  | claim named answer claims =>
      obtain ⟨-, rfl⟩ := claim_some claims
      exact .stays rfl rfl
  | refuse named answer refused =>
      rcases claim_none refused with rfl | ⟨other, -, rfl⟩ <;> exact .stays rfl rfl
  | fill filled =>
      obtain ⟨delivery, asking, -, -, -, -, rfl⟩ := fill_some filled
      exact .changes _ _ rfl rfl (fun _ => rfl) fun _ _ => .inr rfl
  | take taken =>
      obtain ⟨posted, answer, -, rfl⟩ := take_some taken
      exact .changes _ _ rfl rfl (fun _ => rfl) fun _ full => absurd rfl full
  | expire expired =>
      obtain ⟨posted, slot, -, rfl⟩ := expire_some expired
      exact .changes _ _ rfl rfl (fun _ => rfl) fun _ full => .inl full
  | withdraw withdrawn =>
      obtain ⟨posted, slot, -, rfl⟩ := withdraw_some withdrawn
      exact .changes _ _ rfl rfl (fun _ => rfl) fun _ full => .inl full
  | leave left =>
      obtain ⟨posted, slot, -, rfl⟩ := leave_some left
      exact .changes _ _ rfl rfl (fun _ => rfl) fun _ full => absurd rfl full

theorem find?_congr {other : Desk} (asked : desk.asked = other.asked) (number : Nat) :
    desk.find? number = other.find? number := by
  unfold find?
  rw [asked]

theorem knows_congr {other : Desk} (asked : desk.asked = other.asked) :
    desk.Knows number ↔ other.Knows number := by
  unfold Knows
  rw [find?_congr asked]

theorem Step.knows (step : Step desk event after) (known : desk.Knows number) :
    after.Knows number := by
  cases step.turns with
  | joins request asked next =>
      obtain ⟨asking, found⟩ := known
      unfold find? at found
      refine ⟨asking, ?_⟩
      unfold find?
      rw [asked, List.find?_append, found]
      rfl
  | changes other change asked next keeps fills =>
      exact (knows_congr asked).mpr ((knows_update keeps).mpr known)
  | stays asked next => exact (knows_congr asked).mpr known

theorem Step.fresh (step : Step desk event after)
    (fresh : ∀ number, desk.nextNumber ≤ number → ¬ desk.Knows number) :
    ∀ number, after.nextNumber ≤ number → ¬ after.Knows number := by
  intro number past known
  cases step.turns with
  | joins request asked next =>
      have posted : (desk.post request).2.find? number = _ :=
        find?_post (not_knows.mp (fresh _ (Nat.le_refl _))) number
      have same : after.find? number = (desk.post request).2.find? number :=
        find?_congr asked number
      obtain ⟨asking, found⟩ := known
      rw [same, posted, if_neg (by omega)] at found
      exact fresh number (by omega) ⟨asking, found⟩
  | changes other change asked next keeps fills =>
      exact fresh number (next ▸ past) ((knows_update keeps).mp ((knows_congr asked).mp known))
  | stays asked next => exact fresh number (next ▸ past) ((knows_congr asked).mp known)

end ExScript.Desk
