import ExScript.Proofs.DeskSteps
import Mathlib.Data.List.Nodup

/-!
What becomes of answers. A request is answered once at most, and its thread returns that answer or
nothing. An answer that was accepted is lost just when the slot is filled after the thread, whose
time was up, had looked at it for the last time.
-/

namespace ExScript.Desk

variable {events : List Event} {desk after : Desk} {event : Event} {number : Nat}

def Event.claim? : Event → Option Delivery
  | .claimed delivery => some delivery
  | _ => none

def claims (events : List Event) : List Delivery :=
  events.filterMap Event.claim?

theorem mem_claims {delivery : Delivery} :
    delivery ∈ claims events ↔ .claimed delivery ∈ events := by
  unfold claims
  rw [List.mem_filterMap]
  constructor
  · rintro ⟨event, member, claim⟩
    cases event <;> cases claim
    exact member
  · exact fun member => ⟨_, member, rfl⟩

theorem claims_snoc : claims (events ++ [event]) = claims events ++ event.claim?.toList := by
  unfold claims
  rw [List.filterMap_append]
  cases event <;> rfl

def Given (events : List Event) (number : Nat) (answer : Option String) : Prop :=
  .claimed ⟨number, answer⟩ ∈ events ∧ .accepted number ∈ events

/-- The slot was filled when the thread of the request had left. -/
def Late (events : List Event) (number : Nat) : Prop :=
  [.left number, .accepted number].Sublist events

theorem late_snoc :
    Late (events ++ [event]) number ↔
      Late events number ∨ (event = .accepted number ∧ .left number ∈ events) := by
  unfold Late
  constructor
  · intro sublist
    obtain ⟨front, back, parts, inFront, inBack⟩ := List.sublist_append_iff.mp sublist
    cases front with
    | nil =>
        rw [List.nil_append] at parts
        subst parts
        have short := inBack.length_le
        simp at short
    | cons first front =>
        cases front with
        | nil =>
            obtain ⟨rfl, rfl⟩ := List.cons_eq_cons.mp parts
            have last := List.mem_singleton.mp (List.singleton_sublist.mp inBack)
            exact .inr ⟨last.symm, List.singleton_sublist.mp inFront⟩
        | cons second front =>
            simp only [List.cons_append, List.cons.injEq, List.nil_eq_append_iff] at parts
            obtain ⟨rfl, rfl, rfl, -⟩ := parts
            exact .inl inFront
  · rintro (late | ⟨rfl, left⟩)
    · exact late.trans (List.sublist_append_left _ _)
    · exact (List.singleton_sublist.mpr left).append (List.Sublist.refl [Event.accepted number])

theorem Late.left (late : Late events number) : .left number ∈ events :=
  late.subset List.mem_cons_self

theorem Late.accepted (late : Late events number) : .accepted number ∈ events :=
  late.subset (List.mem_cons_of_mem _ List.mem_cons_self)

structure Numbered (events : List Event) (desk : Desk) : Prop where
  fresh : ∀ number, desk.nextNumber ≤ number → ¬ desk.Knows number
  pending : ∀ number ∈ desk.pending, desk.Knows number
  claimed : ∀ delivery, .claimed delivery ∈ events → desk.Knows delivery.number
  left : ∀ number, .left number ∈ events → desk.Knows number

theorem Step.numbered (step : Step desk event after) (numbered : Numbered events desk) :
    Numbered (events ++ [event]) after := by
  refine ⟨step.fresh numbered.fresh, ?_, ?_, ?_⟩
  · intro number member
    rcases step.pending member with old | ⟨request, rfl, rfl⟩
    · exact step.knows (numbered.pending number old)
    · cases step
      exact ⟨_, (find?_post (not_knows.mp (numbered.fresh _ (Nat.le_refl _))) _).trans (if_pos rfl)⟩
  · intro delivery member
    rcases List.mem_append.mp member with old | new
    · exact step.knows (numbered.claimed delivery old)
    · cases List.mem_singleton.mp new
      refine step.knows ?_
      cases step with
      | claim named answer claims => exact numbered.pending _ (claim_some claims).1
  · intro number member
    rcases List.mem_append.mp member with old | new
    · exact step.knows (numbered.left number old)
    · cases List.mem_singleton.mp new
      refine step.knows ?_
      cases step with
      | leave left =>
          obtain ⟨posted, slot, found, -⟩ := leave_some left
          exact ⟨_, found⟩

/-- Requests are claimed once at most, and what is claimed is put into its slot once at most. -/
structure Once (events : List Event) (desk : Desk) : Prop where
  unclaimed : ∀ number ∈ desk.pending, ∀ answer, .claimed ⟨number, answer⟩ ∉ events
  once : ((claims events).map (·.number)).Nodup
  inFlight : ∀ delivery,
    delivery ∈ desk.claimed ↔ .claimed delivery ∈ events ∧ .accepted delivery.number ∉ events
  accepted : ∀ number, .accepted number ∈ events → ∃ answer, .claimed ⟨number, answer⟩ ∈ events

theorem Once.unique (once : Once events desk) {first second : Option String}
    (claimed : .claimed ⟨number, first⟩ ∈ events) (also : .claimed ⟨number, second⟩ ∈ events) :
    first = second := by
  have same := List.inj_on_of_nodup_map once.once (mem_claims.mpr claimed) (mem_claims.mpr also) rfl
  cases same
  rfl

theorem Once.frame (once : Once events desk) (pending : ∀ number ∈ after.pending,
      number ∈ desk.pending ∨ ∀ answer, .claimed ⟨number, answer⟩ ∉ events)
    (claimed : after.claimed = desk.claimed) (noClaim : event.claim? = none)
    (noAccept : ∀ number, event ≠ .accepted number) : Once (events ++ [event]) after := by
  have claims (delivery : Delivery) :
      .claimed delivery ∈ events ++ [event] ↔ .claimed delivery ∈ events := by
    rw [← mem_claims, ← mem_claims, claims_snoc, noClaim]
    simp
  have accepts (number : Nat) : .accepted number ∈ events ++ [event] ↔ .accepted number ∈ events := by
    simp [Ne.symm (noAccept number)]
  refine ⟨?_, ?_, ?_, ?_⟩
  · intro number member answer
    rw [claims]
    rcases pending number member with waits | unclaimed
    · exact once.unclaimed number waits answer
    · exact unclaimed answer
  · rw [claims_snoc, noClaim]
    simpa using once.once
  · intro delivery
    rw [claimed, claims, accepts]
    exact once.inFlight delivery
  · intro number member
    rw [accepts] at member
    obtain ⟨answer, known⟩ := once.accepted number member
    exact ⟨answer, (claims _).mpr known⟩

theorem Once.claims (once : Once events desk) (waits : number ∈ desk.pending)
    (answer : Option String) :
    Once (events ++ [.claimed ⟨number, answer⟩])
      { desk.forget number with claimed := desk.claimed ++ [⟨number, answer⟩] } := by
  have unclaimed := once.unclaimed number waits
  refine ⟨?_, ?_, ?_, ?_⟩
  · intro other member reply claimed
    obtain ⟨pending, apart⟩ := List.mem_filter.mp member
    rcases List.mem_append.mp claimed with old | new
    · exact once.unclaimed other pending reply old
    · cases List.mem_singleton.mp new
      simp at apart
  · rw [claims_snoc]
    simp only [Event.claim?, Option.toList, List.map_append, List.map_cons, List.map_nil]
    refine List.nodup_append.mpr ⟨once.once, List.nodup_singleton _, ?_⟩
    rintro other member _ here rfl
    obtain ⟨delivery, known, rfl⟩ := List.mem_map.mp member
    have same : delivery.number = number := List.mem_singleton.mp here
    exact unclaimed delivery.answer (same ▸ mem_claims.mp known)
  · intro delivery
    simp only [List.mem_append, List.mem_singleton, Event.claimed.injEq, reduceCtorEq, or_false]
    rw [once.inFlight]
    constructor
    · rintro (⟨claimed, open_⟩ | rfl)
      · exact ⟨.inl claimed, open_⟩
      · refine ⟨.inr rfl, fun accepted => ?_⟩
        obtain ⟨reply, claimed⟩ := once.accepted _ accepted
        exact unclaimed reply claimed
    · rintro ⟨claimed | rfl, open_⟩
      · exact .inl ⟨claimed, open_⟩
      · exact .inr rfl
  · intro other member
    obtain ⟨reply, claimed⟩ := once.accepted other (by simpa using member)
    exact ⟨reply, List.mem_append_left _ claimed⟩

theorem Once.accepts (once : Once events desk) {delivery : Delivery}
    (inFlight : delivery ∈ desk.claimed) (pending : after.pending = desk.pending)
    (claimed : after.claimed = desk.claimed.filter (·.number ≠ delivery.number)) :
    Once (events ++ [.accepted delivery.number]) after := by
  have known := ((once.inFlight delivery).mp inFlight).1
  refine ⟨?_, ?_, ?_, ?_⟩
  · intro other member reply
    simpa using once.unclaimed other (pending ▸ member) reply
  · rw [claims_snoc]
    simpa [Event.claim?] using once.once
  · intro other
    rw [claimed, List.mem_filter, once.inFlight]
    simp [and_assoc]
  · intro other member
    rcases List.mem_append.mp member with old | new
    · obtain ⟨reply, earlier⟩ := once.accepted other old
      exact ⟨reply, List.mem_append_left _ earlier⟩
    · cases List.mem_singleton.mp new
      exact ⟨delivery.answer, List.mem_append_left _ known⟩

theorem Step.once (step : Step desk event after) (numbered : Numbered events desk)
    (once : Once events desk) : Once (events ++ [event]) after := by
  have pending (number : Nat) (member : number ∈ after.pending) :
      number ∈ desk.pending ∨ ∀ answer, .claimed ⟨number, answer⟩ ∉ events := by
    refine (step.pending member).imp_right ?_
    rintro ⟨request, -, rfl⟩ answer claimed
    exact numbered.fresh _ (Nat.le_refl _) (numbered.claimed _ claimed)
  cases step with
  | post request => exact once.frame pending rfl rfl (fun _ => nofun)
  | next handed =>
      obtain ⟨-, same⟩ := next_some handed
      exact once.frame pending (by rw [same]) rfl (fun _ => nofun)
  | idle nothing =>
      obtain ⟨-, rfl⟩ := next_none nothing
      exact once.frame pending rfl rfl (fun _ => nofun)
  | claim named answer claims =>
      obtain ⟨waits, rfl⟩ := claim_some claims
      exact once.claims waits answer
  | refuse named answer refused =>
      rcases claim_none refused with rfl | ⟨number, -, rfl⟩ <;>
        exact once.frame pending rfl rfl (fun _ => nofun)
  | fill filled =>
      obtain ⟨delivery, asking, inFlight, rfl, -, -, rfl⟩ := fill_some filled
      exact once.accepts inFlight rfl rfl
  | take taken =>
      obtain ⟨posted, answer, -, rfl⟩ := take_some taken
      exact once.frame pending rfl rfl (fun _ => nofun)
  | expire expired =>
      obtain ⟨posted, slot, -, rfl⟩ := expire_some expired
      exact once.frame pending rfl rfl (fun _ => nofun)
  | withdraw withdrawn =>
      obtain ⟨posted, slot, -, rfl⟩ := withdraw_some withdrawn
      exact once.frame pending rfl rfl (fun _ => nofun)
  | leave leaves =>
      obtain ⟨posted, slot, -, rfl⟩ := leave_some leaves
      exact once.frame pending rfl rfl (fun _ => nofun)

inductive Stage (events : List Event) (number : Nat) : Asking → Prop where
  | within {posted state slot} (unreturned : ∀ answer, state ≠ .returned answer)
      (given : ∀ answer, slot = some answer ↔ Given events number answer)
      (still : .left number ∉ events) (patient : state ≠ .waiting → .expired number ∈ events) :
      Stage events number ⟨posted, state, slot⟩
  | answered {posted slot answer} (given : Given events number answer)
      (timely : ¬ Late events number) : Stage events number ⟨posted, .returned answer, slot⟩
  | unanswered {posted slot} (expired : .expired number ∈ events) (left : .left number ∈ events)
      (late : .accepted number ∈ events → Late events number) :
      Stage events number ⟨posted, .returned none, slot⟩

theorem given_snoc (noAccept : event ≠ .accepted number)
    (early : ∀ answer, event = .claimed ⟨number, answer⟩ → .accepted number ∉ events)
    (answer : Option String) :
    Given (events ++ [event]) number answer ↔ Given events number answer := by
  unfold Given
  constructor
  · rintro ⟨claimed, accepted⟩
    have accepted : .accepted number ∈ events := by
      simpa [Ne.symm noAccept] using accepted
    rcases List.mem_append.mp claimed with old | new
    · exact ⟨old, accepted⟩
    · exact absurd accepted (early answer (List.mem_singleton.mp new).symm)
  · rintro ⟨claimed, accepted⟩
    exact ⟨List.mem_append_left _ claimed, List.mem_append_left _ accepted⟩

theorem Stage.snoc {asking : Asking} (stage : Stage events number asking)
    (noAccept : event ≠ .accepted number)
    (early : ∀ answer, event = .claimed ⟨number, answer⟩ → .accepted number ∉ events)
    (notLeft : event ≠ .left number) : Stage (events ++ [event]) number asking := by
  have given := given_snoc noAccept early
  have late : Late (events ++ [event]) number ↔ Late events number := by
    rw [late_snoc]
    simp [noAccept]
  cases stage with
  | within unreturned filled still patient =>
      refine .within unreturned (fun answer => (filled answer).trans (given answer).symm) ?_
        fun impatient => List.mem_append_left _ (patient impatient)
      simpa [Ne.symm notLeft] using still
  | answered known timely => exact .answered ((given _).mpr known) (late.not.mpr timely)
  | unanswered expired left overdue =>
      refine .unanswered (List.mem_append_left _ expired) (List.mem_append_left _ left) ?_
      intro accepted
      rw [late]
      exact overdue (by simpa [Ne.symm noAccept] using accepted)

theorem Stage.accepts {asking : Asking} {answer : Option String}
    (stage : Stage events number asking) (once : Once events desk)
    (claimed : .claimed ⟨number, answer⟩ ∈ events) (open_ : .accepted number ∉ events) :
    Stage (events ++ [.accepted number]) number { asking with slot := some answer } := by
  cases stage with
  | within unreturned given still patient =>
      refine .within unreturned ?_ (by simpa using still)
        fun impatient => List.mem_append_left _ (patient impatient)
      intro other
      constructor
      · rintro ⟨⟩
        exact ⟨List.mem_append_left _ claimed, by simp⟩
      · rintro ⟨also, -⟩
        exact congrArg some (once.unique claimed (by simpa using also))
  | answered given timely => exact absurd given.2 open_
  | unanswered expired left late =>
      refine .unanswered (List.mem_append_left _ expired) (List.mem_append_left _ left) ?_
      exact fun _ => late_snoc.mpr (.inr ⟨rfl, left⟩)

theorem Stage.takes {posted : Posted} {answer : Option String}
    (stage : Stage events number ⟨posted, .waiting, some answer⟩) :
    Stage (events ++ [.took number]) number ⟨posted, .returned answer, none⟩ := by
  cases stage with
  | within unreturned given still patient =>
      refine (Stage.answered ((given answer).mp rfl) ?_).snoc nofun (fun _ => nofun) nofun
      exact fun late => still late.left

theorem Stage.expires {posted : Posted} {slot : Option (Option String)}
    (stage : Stage events number ⟨posted, .waiting, slot⟩) :
    Stage (events ++ [.expired number]) number ⟨posted, .timedOut, slot⟩ := by
  cases stage with
  | within unreturned given still patient =>
      have same (answer : Option String) :
          Given (events ++ [.expired number]) number answer ↔ Given events number answer :=
        given_snoc (by simp) (by simp) answer
      exact .within (fun _ => nofun) (fun answer => (given answer).trans (same answer).symm)
        (by simpa using still) fun _ => by simp

theorem Stage.withdraws {posted : Posted} {slot : Option (Option String)}
    (stage : Stage events number ⟨posted, .timedOut, slot⟩) :
    Stage (events ++ [.withdrew number]) number ⟨posted, .withdrawn, slot⟩ := by
  cases stage with
  | within unreturned given still patient =>
      have stage : Stage events number ⟨posted, .withdrawn, slot⟩ :=
        .within (fun _ => nofun) given still fun _ => patient nofun
      exact stage.snoc nofun (fun _ => nofun) nofun

theorem Stage.leaves {posted : Posted} {slot : Option (Option String)}
    (stage : Stage events number ⟨posted, .withdrawn, slot⟩) (once : Once events desk) :
    Stage (events ++ [.left number]) number ⟨posted, .returned (slot.getD none), none⟩ := by
  cases stage with
  | within unreturned given still patient =>
      have timely : ¬ Late (events ++ [.left number]) number := by
        rw [late_snoc]
        rintro (late | ⟨same, -⟩)
        · exact still late.left
        · cases same
      cases slot with
      | some answer =>
          have known := (given answer).mp rfl
          exact .answered ⟨List.mem_append_left _ known.1, List.mem_append_left _ known.2⟩ timely
      | none =>
          refine .unanswered (List.mem_append_left _ (patient nofun)) (by simp) ?_
          intro accepted
          have accepted : .accepted number ∈ events := by simpa using accepted
          -- an answer that was accepted by now would be in the slot, which is empty
          obtain ⟨answer, claimed⟩ := once.accepted number accepted
          cases (given answer).mpr ⟨claimed, accepted⟩

def Staged (events : List Event) (desk : Desk) : Prop :=
  ∀ number asking, desk.find? number = some asking → Stage events number asking

theorem Staged.frame (staged : Staged events desk) (asked : after.asked = desk.asked)
    (noAccept : ∀ number, event ≠ .accepted number) (notLeft : ∀ number, event ≠ .left number)
    (early : ∀ number answer, event = .claimed ⟨number, answer⟩ → .accepted number ∉ events :=
      by exact fun _ _ => nofun) :
    Staged (events ++ [event]) after := by
  intro number asking found
  rw [find?_congr asked] at found
  exact (staged number asking found).snoc (noAccept number) (early number) (notLeft number)

theorem Staged.update {change : Asking → Asking} (staged : Staged events desk)
    (others : ∀ other ≠ number, event ≠ .accepted other ∧ event ≠ .left other)
    (noClaim : event.claim? = none)
    (own : ∀ asking, desk.find? number = some asking → Stage (events ++ [event]) number
      (change asking))
    (keeps : ∀ asking, (change asking).posted = asking.posted := by exact fun _ => rfl) :
    Staged (events ++ [event]) (desk.update number change) := by
  intro other asking found
  rw [find?_update other keeps] at found
  split at found
  next same =>
    subst same
    obtain ⟨before, was, rfl⟩ := Option.map_eq_some_iff.mp found
    exact own before was
  next apart =>
    obtain ⟨noAccept, notLeft⟩ := others other apart
    refine (staged other asking found).snoc noAccept ?_ notLeft
    rintro answer rfl
    cases noClaim

theorem Staged.posts (staged : Staged events desk) (numbered : Numbered events desk)
    (request : PromptRequest) :
    Staged (events ++ [.posted ⟨desk.nextNumber, request⟩]) (desk.post request).2 := by
  intro number asking found
  rw [find?_post (not_knows.mp (numbered.fresh _ (Nat.le_refl _)))] at found
  split at found
  next new =>
    cases found
    subst new
    have unclaimed (answer : Option String) : ¬ Given events desk.nextNumber answer :=
      fun given => numbered.fresh _ (Nat.le_refl _) (numbered.claimed _ given.1)
    have still : .left desk.nextNumber ∉ events :=
      fun left => numbered.fresh _ (Nat.le_refl _) (numbered.left _ left)
    have stage : Stage events desk.nextNumber { posted := ⟨desk.nextNumber, request⟩ } :=
      .within (fun _ => nofun) (fun answer => ⟨nofun, fun given => absurd given (unclaimed answer)⟩)
        still fun impatient => absurd rfl impatient
    exact stage.snoc nofun (fun _ => nofun) nofun
  next old => exact (staged number asking found).snoc nofun (fun _ => nofun) nofun

theorem Step.staged (step : Step desk event after) (numbered : Numbered events desk)
    (once : Once events desk) (staged : Staged events desk) : Staged (events ++ [event]) after := by
  cases step with
  | post request => exact staged.posts numbered request
  | next handed =>
      obtain ⟨-, same⟩ := next_some handed
      exact staged.frame (by rw [same]) (fun _ => nofun) (fun _ => nofun)
  | idle nothing =>
      obtain ⟨-, rfl⟩ := next_none nothing
      exact staged.frame rfl (fun _ => nofun) (fun _ => nofun)
  | claim named answer claims =>
      obtain ⟨waits, rfl⟩ := claim_some claims
      refine staged.frame rfl (fun _ => nofun) (fun _ => nofun) ?_
      rintro other reply claimed accepted
      cases claimed
      obtain ⟨earlier, known⟩ := once.accepted _ accepted
      exact once.unclaimed _ waits earlier known
  | refuse named answer refused =>
      rcases claim_none refused with rfl | ⟨number, -, rfl⟩ <;>
        exact staged.frame rfl (fun _ => nofun) (fun _ => nofun)
  | fill filled =>
      obtain ⟨delivery, _, inFlight, rfl, -, -, rfl⟩ := fill_some filled
      obtain ⟨claimed, open_⟩ := (once.inFlight delivery).mp inFlight
      refine staged.update (fun other apart => ⟨?_, nofun⟩) rfl fun asking found => ?_
      · exact fun same => apart (Event.accepted.inj same).symm
      · exact (staged _ _ found).accepts once claimed open_
  | take taken =>
      obtain ⟨posted, answer, found, rfl⟩ := take_some taken
      refine staged.update (fun _ _ => ⟨nofun, nofun⟩) rfl fun asking here => ?_
      cases found.symm.trans here
      exact (staged _ _ found).takes
  | expire expired =>
      obtain ⟨posted, slot, found, rfl⟩ := expire_some expired
      refine staged.update (fun _ _ => ⟨nofun, nofun⟩) rfl fun asking here => ?_
      cases found.symm.trans here
      exact (staged _ _ found).expires
  | @withdraw _ number withdrawn =>
      obtain ⟨posted, slot, found, rfl⟩ := withdraw_some withdrawn
      have forgotten : Staged events (desk.forget number) := staged
      refine forgotten.update (fun _ _ => ⟨nofun, nofun⟩) rfl fun asking here => ?_
      cases found.symm.trans here
      exact (staged _ _ found).withdraws
  | leave leaves =>
      obtain ⟨posted, slot, found, rfl⟩ := leave_some leaves
      refine staged.update (fun other apart => ⟨nofun, ?_⟩) rfl fun asking here => ?_
      · exact fun same => apart (Event.left.inj same).symm
      · cases found.symm.trans here
        exact (staged _ _ found).leaves once

/-- The thread of a request returned an answer, or it has yet to return and the slot holds it. -/
def Delivered (desk : Desk) (number : Nat) (answer : Option String) : Prop :=
  ∃ asking, desk.find? number = some asking ∧
    (asking.state = .returned answer ∨
      asking.slot = some answer ∧ ∀ other, asking.state ≠ .returned other)

theorem returned?_eq_some_iff {answer : Option String} :
    desk.returned? number = some answer ↔
      ∃ asking, desk.find? number = some asking ∧ asking.state = .returned answer := by
  unfold returned?
  constructor
  · intro returned
    split at returned
    next found =>
      cases returned
      exact ⟨_, found, rfl⟩
    · cases returned
  · rintro ⟨⟨posted, state, slot⟩, found, rfl⟩
    rw [found]

theorem Run.account (run : Run events desk) :
    Numbered events desk ∧ Once events desk ∧ Staged events desk := by
  induction run with
  | start =>
      refine ⟨⟨fun _ _ => not_knows_start, nofun, nofun, nofun⟩, ⟨nofun, .nil, ?_, nofun⟩,
        fun _ asking found => absurd ⟨asking, found⟩ not_knows_start⟩
      exact fun delivery => ⟨nofun, nofun⟩
  | step run step ih =>
      obtain ⟨numbered, once, staged⟩ := ih
      exact ⟨step.numbered numbered, step.once numbered once, step.staged numbered once staged⟩

theorem leave_returns (run : Run events desk) {posted : Posted} {answer : Option String}
    (found : desk.find? number = some ⟨posted, .withdrawn, some answer⟩) :
    ∃ after, Run (events ++ [.left number]) after ∧ after.returned? number = some answer := by
  have left : desk.leave number = some (desk.update number fun asking =>
      { asking with state := .returned answer, slot := none }) := by
    simp [leave, found]
  exact ⟨_, run.step (.leave left), returned?_eq_some_iff.mpr ⟨_, update_find? found, rfl⟩⟩

/-- A slot keeps an answer until its thread, which can always go on, returns it. -/
theorem Delivered.returns (run : Run events desk) {answer : Option String}
    (delivered : Delivered desk number answer) :
    ∃ more after, Run (events ++ more) after ∧ after.returned? number = some answer ∧
      ∀ event ∈ more, event = .took number ∨ event = .withdrew number ∨ event = .left number := by
  obtain ⟨⟨posted, state, slot⟩, found, returned | ⟨held, unreturned⟩⟩ := delivered
  · refine ⟨[], desk, by simpa using run, ?_, nofun⟩
    exact returned?_eq_some_iff.mpr ⟨_, found, returned⟩
  · dsimp only at held unreturned
    subst held
    cases state with
    | waiting =>
        have taken : desk.take number = some (desk.update number fun asking =>
            { asking with state := .returned answer, slot := none }) := by
          simp [take, found]
        refine ⟨[.took number], _, run.step (.take taken), ?_, by simp⟩
        exact returned?_eq_some_iff.mpr ⟨_, update_find? found, rfl⟩
    | timedOut =>
        have found : (desk.forget number).find? number = some ⟨posted, .timedOut, some answer⟩ :=
          found
        have withdrawn : desk.withdraw number = some ((desk.forget number).update number
            fun asking => { asking with state := .withdrawn }) := by
          change desk.find? number = _ at found
          simp [withdraw, found]
        obtain ⟨after, further, returned⟩ :=
          leave_returns (run.step (.withdraw withdrawn)) (update_find? found)
        rw [List.append_assoc] at further
        exact ⟨_, after, further, returned, by simp⟩
    | withdrawn =>
        obtain ⟨after, further, returned⟩ := leave_returns run found
        exact ⟨_, after, further, returned, by simp⟩
    | returned other => exact absurd rfl (unreturned other)

theorem delivered_iff (run : Run events desk) {value : String}
    (claimed : .claimed ⟨number, some value⟩ ∈ events) (accepted : .accepted number ∈ events) :
    Delivered desk number (some value) ↔ ¬ Late events number := by
  obtain ⟨numbered, once, staged⟩ := run.account
  have given : Given events number (some value) := ⟨claimed, accepted⟩
  have own {answer : Option String} (also : Given events number answer) : answer = some value :=
    once.unique also.1 claimed
  constructor
  · rintro ⟨asking, found, delivered⟩ late
    cases staged number asking found with
    | within unreturned filled still patient => exact still late.left
    | answered known timely => exact timely late
    | unanswered expired left overdue =>
        rcases delivered with returned | ⟨-, unreturned⟩
        · cases returned
        · exact unreturned none rfl
  · intro timely
    obtain ⟨asking, found⟩ := numbered.claimed _ claimed
    refine ⟨asking, found, ?_⟩
    cases staged number asking found with
    | within unreturned filled still patient =>
        exact .inr ⟨(filled _).mpr given, unreturned⟩
    | answered known _ => exact .inl (congrArg _ (own known))
    | unanswered expired left overdue => exact absurd (overdue accepted) timely

theorem result_claimed (run : Run events desk) {result : Option String}
    (returned : desk.returned? number = some result) :
    .claimed ⟨number, result⟩ ∈ events ∨ (result = none ∧ .expired number ∈ events) := by
  obtain ⟨-, -, staged⟩ := run.account
  obtain ⟨asking, found, state⟩ := returned?_eq_some_iff.mp returned
  cases staged number asking found with
  | within unreturned filled still patient => exact absurd state (unreturned result)
  | answered known timely =>
      cases state
      exact .inl known.1
  | unanswered expired left overdue =>
      cases state
      exact .inr ⟨rfl, expired⟩

/-- At most one answer is matched to a request. A thread returns the answer matched to its own
request, or nothing since it was cancelled or its time was up. A value that was accepted is
delivered unless its slot was filled when the thread had left, and a thread that got it can return
it by steps of its own. -/
theorem accepted_delivered_iff (run : Run events desk) :
    ((claims events).map (·.number)).Nodup ∧
    (∀ number result, desk.returned? number = some result →
      .claimed ⟨number, result⟩ ∈ events ∨ (result = none ∧ .expired number ∈ events)) ∧
    (∀ number value, .claimed ⟨number, some value⟩ ∈ events → .accepted number ∈ events →
      (Delivered desk number (some value) ↔ ¬ Late events number)) ∧
    (∀ number answer, Delivered desk number answer →
      ∃ more after, Run (events ++ more) after ∧ after.returned? number = some answer ∧
        ∀ event ∈ more, event = .took number ∨ event = .withdrew number ∨ event = .left number) :=
  ⟨run.account.2.1.once, fun _ _ returned => result_claimed run returned,
    fun _ _ claimed accepted => delivered_iff run claimed accepted,
    fun _ _ delivered => delivered.returns run⟩

def hurried : List Event :=
  [.posted ⟨1, ⟨"> ", []⟩⟩, .claimed ⟨1, some "yes"⟩, .expired 1, .withdrew 1]

theorem run_hurried : Run hurried
    { nextNumber := 2, asked := [⟨⟨1, ⟨"> ", []⟩⟩, .withdrawn, none⟩],
      claimed := [⟨1, some "yes"⟩] } :=
  (((Run.start.step (.post {} ⟨"> ", []⟩)).step (.claim none (some "yes") rfl)).step
    (.expire rfl)).step (.withdraw rfl)

theorem accepted_delivered_iff_hurried : ∃ desk,
    Run (hurried ++ [.accepted 1]) desk ∧ Delivered desk 1 (some "yes") ∧
      ∃ more after, Run (hurried ++ [.accepted 1] ++ more) after ∧
        after.returned? 1 = some (some "yes") := by
  have run := run_hurried.step (@Step.fill _ _ 1 rfl)
  obtain ⟨-, -, delivered, returns⟩ := accepted_delivered_iff run
  have timely := (delivered 1 "yes" (by decide) (by decide)).mpr (by unfold Late; decide)
  obtain ⟨more, after, further, returned, -⟩ := returns 1 _ timely
  exact ⟨_, run, timely, more, after, further, returned⟩

theorem accepted_undelivered : ¬ ∀ events desk, Run events desk → ∀ number value result,
    .claimed ⟨number, some value⟩ ∈ events → .accepted number ∈ events →
      desk.returned? number = some result → result = some value := by
  intro delivered
  have run := (run_hurried.step (@Step.leave _ _ 1 rfl)).step (@Step.fill _ _ 1 rfl)
  have result := delivered _ _ run 1 "yes" none (by decide) (by decide) rfl
  cases result

end ExScript.Desk
