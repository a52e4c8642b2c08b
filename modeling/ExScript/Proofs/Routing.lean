import ExScript.Proofs.Answering
import ExScript.Proofs.Unread

/-!
Where answers go. Requests are numbered in the order they are posted, so the lowest number that
waits is that of the oldest request, whether or not it was handed out. An answer is matched to that
request or to the one it names, if it waits, and otherwise to none; and a slot that is claimed is
free until it is filled.
-/

namespace ExScript.Desk

variable {events : List Event} {desk after : Desk} {event : Event} {number : Nat}

theorem find?_update_some {change : Asking → Asking} {other : Nat} {asking : Asking}
    (found : (desk.update number change).find? other = some asking)
    (keeps : ∀ asking, (change asking).posted = asking.posted := by exact fun _ => rfl) :
    ∃ before, desk.find? other = some before ∧
      (asking = before ∨ other = number ∧ asking = change before) := by
  rw [find?_update other keeps] at found
  split at found
  next same =>
    obtain ⟨before, was, rfl⟩ := Option.map_eq_some_iff.mp found
    exact ⟨before, same ▸ was, .inr ⟨same, rfl⟩⟩
  next => exact ⟨asking, found, .inl rfl⟩

theorem Step.full (step : Step desk event after) {asking : Asking}
    (found : after.find? number = some asking) (full : asking.slot ≠ none) :
    event = .accepted number ∨
      ∃ before, desk.find? number = some before ∧ before.slot ≠ none := by
  cases step.turns with
  | joins request asked next =>
      unfold find? at found
      rw [asked, List.find?_append] at found
      rcases Option.or_eq_some_iff.mp found with old | ⟨-, new⟩
      · exact .inr ⟨asking, old, full⟩
      · cases List.mem_singleton.mp (List.mem_of_find?_eq_some new)
        exact absurd rfl full
  | changes other change asked next keeps fills =>
      rw [find?_congr asked] at found
      obtain ⟨before, was, rfl | ⟨rfl, rfl⟩⟩ := find?_update_some found keeps
      · exact .inr ⟨_, was, full⟩
      · exact (fills before full).symm.imp_right fun held => ⟨before, was, held⟩
  | stays asked next => exact .inr ⟨asking, find?_congr asked number ▸ found, full⟩

theorem Run.full (run : Run events desk) {asking : Asking}
    (found : desk.find? number = some asking) (full : asking.slot ≠ none) :
    .accepted number ∈ events := by
  induction run generalizing asking with
  | start => cases found
  | step run step ih =>
      rcases step.full found full with rfl | ⟨before, was, held⟩
      · exact List.mem_append_right _ List.mem_cons_self
      · exact List.mem_append_left _ (ih was held)

theorem Run.fills (run : Run events desk) {delivery : Delivery}
    (claimed : delivery ∈ desk.claimed) :
    (∃ asking, desk.find? delivery.number = some asking ∧ asking.slot = none) ∧
      ∃ filled, desk.fill delivery.number = some filled := by
  obtain ⟨numbered, once, -⟩ := run.account
  obtain ⟨known, open_⟩ := (once.inFlight delivery).mp claimed
  obtain ⟨asking, found⟩ := numbered.claimed delivery known
  have free : asking.slot = none :=
    Classical.byContradiction fun full => open_ (run.full found full)
  refine ⟨⟨asking, found, free⟩, ?_⟩
  unfold fill
  rw [found]
  cases listed : desk.claimed.find? (·.number = delivery.number) with
  | none => simpa using List.find?_eq_none.mp listed delivery claimed
  | some other => exact ⟨_, if_neg (by simp [free])⟩

def Event.posted? : Event → Option Posted
  | .posted given => some given
  | _ => none

def requests (events : List Event) : List Posted :=
  events.filterMap Event.posted?

theorem mem_requests {posted : Posted} : posted ∈ requests events ↔ .posted posted ∈ events := by
  unfold requests
  rw [List.mem_filterMap]
  constructor
  · rintro ⟨event, member, posts⟩
    cases event <;> cases posts
    exact member
  · exact fun member => ⟨_, member, rfl⟩

theorem requests_snoc : requests (events ++ [event]) = requests events ++ event.posted?.toList := by
  unfold requests
  rw [List.filterMap_append]
  cases event <;> rfl

theorem Run.requests_increasing (run : Run events desk) : Increasing (requests events) := by
  induction run with
  | start => exact .nil
  | @step events desk after event run step ih =>
      rw [requests_snoc]
      cases posts : event.posted? with
      | none => simpa using ih
      | some posted =>
          refine List.pairwise_append.mpr ⟨ih, List.pairwise_singleton _ _, ?_⟩
          intro earlier member last new
          rw [List.mem_singleton.mp new]
          cases step with
          | post request =>
              cases posts
              exact (run.queued.counted earlier (mem_requests.mp member)).2
          | _ => cases posts

theorem Run.pending_increasing (run : Run events desk) : desk.pending.Pairwise (· < ·) := by
  induction run with
  | start => exact .nil
  | @step events desk after event run step ih =>
      cases step.moves with
      | joins request posts unread pending next =>
          rw [pending]
          refine List.pairwise_append.mpr ⟨ih, List.pairwise_singleton _ _, ?_⟩
          intro earlier waits last new
          rw [List.mem_singleton.mp new]
          exact run.queued.below waits
      | leaves posted hands unread pending next => rwa [pending]
      | forgets number posts hands withdraws unread pending next =>
          rw [pending]
          exact ih.filter _
      | stays posts hands withdraws unread pending next => rwa [pending]

def Oldest (desk : Desk) (number : Nat) : Prop :=
  number ∈ desk.pending ∧ ∀ other ∈ desk.pending, number ≤ other

def Matches (desk : Desk) (named : Option Int) (number : Nat) : Prop :=
  match named with
  | none => desk.Oldest number
  | some id => id = number ∧ number ∈ desk.pending

theorem claim_iff {named : Option Int} {answer : Option String} :
    (desk.claim named answer).1 = some number ↔
      desk.target? named = some (number : Int) ∧ number ∈ desk.pending := by
  unfold claim
  split
  next nobody => simp [nobody]
  next negative => simp [negative]
  next target =>
    rw [target]
    dsimp only
    split
    next waits =>
      constructor
      · rintro ⟨⟩
        exact ⟨rfl, waits⟩
      · rintro ⟨same, -⟩
        rw [Int.ofNat.inj (Option.some.inj same)]
    next absent =>
      refine ⟨nofun, ?_⟩
      rintro ⟨same, waits⟩
      exact absurd (Int.ofNat.inj (Option.some.inj same) ▸ waits) absent

theorem claim_matches {named : Option Int} {answer : Option String} :
    (desk.claim named answer).1 = some number ↔ desk.Matches named number := by
  rw [claim_iff]
  cases named with
  | some id => simp [target?, Matches]
  | none =>
      have lowest : desk.target? none = some (number : Int) ↔ desk.pending.min? = some number := by
        refine Option.map_eq_some_iff.trans ⟨?_, fun least => ⟨number, least, rfl⟩⟩
        rintro ⟨other, least, same⟩
        rw [least, Int.ofNat.inj same]
      rw [lowest, List.min?_eq_some_iff]
      exact ⟨fun matched => matched.1, fun oldest => ⟨oldest, oldest.1⟩⟩

theorem claim_refused {named : Option Int} {answer : Option String}
    (refused : desk.claim named answer = (none, after)) :
    after.pending = desk.pending ∧ after.claimed = desk.claimed ∧ after.asked = desk.asked := by
  rcases claim_none refused with rfl | ⟨number, absent, rfl⟩
  · exact ⟨rfl, rfl, rfl⟩
  · refine ⟨List.filter_eq_self.mpr fun other waits => ?_, rfl, rfl⟩
    have apart : other ≠ number := fun same => absent (same ▸ waits)
    simpa using apart

structure Matched (desk after : Desk) (number : Nat) (answer : Option String) : Prop where
  waited : number ∈ desk.pending
  pending : after.pending = desk.pending.filter (· ≠ number)
  claimed : after.claimed = desk.claimed ++ [⟨number, answer⟩]
  asked : after.asked = desk.asked

structure Routed (events : List Event) (desk : Desk) : Prop where
  numbered : Increasing (requests events)
  pending : ∀ number, number ∈ desk.pending ↔
    (∃ posted ∈ requests events, posted.number = number) ∧
      ∀ event ∈ events, event.withdrawn? ≠ some number
  ordered : desk.pending.Pairwise (· < ·)
  claims : ∀ named answer number,
    (desk.claim named answer).1 = some number ↔ desk.Matches named number
  matched : ∀ named answer number after, desk.claim named answer = (some number, after) →
    Matched desk after number answer ∧ (desk.answer named answer).1 = true
  refused : ∀ named answer after, desk.claim named answer = (none, after) →
    (after.pending = desk.pending ∧ after.claimed = desk.claimed ∧ after.asked = desk.asked) ∧
      desk.answer named answer = (false, after)
  free : ∀ delivery ∈ desk.claimed,
    (∃ asking, desk.find? delivery.number = some asking ∧ asking.slot = none) ∧
      ∃ filled, desk.fill delivery.number = some filled

/-- In whatever order threads post, hand out, answer and give up: numbers grow in the order of
posting; an answer without a number is matched to the oldest request that waits, one with a number
to that request if it waits, and any other to nothing, which changes no request; and an answer that
is matched always finds its slot free. -/
theorem answers_routed (run : Run events desk) : Routed events desk where
  numbered := run.requests_increasing
  pending number := by
    simp only [mem_requests]
    exact run.queued.pending number
  ordered := run.pending_increasing
  claims _ _ _ := claim_matches
  matched named answer number after claims := by
    obtain ⟨waited, rfl⟩ := claim_some claims
    refine ⟨⟨waited, rfl, rfl, rfl⟩, ?_⟩
    rw [Desk.answer, claims]
  refused named answer after refused := by
    refine ⟨claim_refused refused, ?_⟩
    rw [Desk.answer, refused]
  free _ claimed := run.fills claimed

theorem answers_routed_twins : ∃ handed claimed,
    Run (twins ++ [.handedOut ⟨1, ⟨"> ", []⟩⟩]) handed ∧
      handed.claim none (some "yes") = (some 1, claimed) ∧
      (∃ filled, claimed.fill 1 = some filled) ∧ (claimed.claim none none).1 = some 2 ∧
      (claimed.answer (some 1) (some "no")).1 = false := by
  have handed := run_twins.step (.next rfl)
  have run := handed.step (.claim none (some "yes") rfl)
  refine ⟨_, _, handed, rfl, ?_, ?_, ?_⟩
  · exact ((answers_routed run).free ⟨1, some "yes"⟩ (by decide)).2
  · exact ((answers_routed run).claims none none 2).mpr ⟨by decide, by decide⟩
  · exact congrArg Prod.fst ((answers_routed run).refused (some 1) (some "no") _ rfl).2

end ExScript.Desk
