import ExScript.Proofs.DeskSteps
import Mathlib.Data.List.Nodup

/-!
The unread requests and the numbers that wait. They agree as long as no request is withdrawn while
an earlier unread one looks like it, since then the earlier one is taken out in its place. While they
agree, a request that waits is handed out in its turn, and nothing else is.
-/

namespace ExScript.Desk

variable {events : List Event} {desk after : Desk} {event : Event} {number : Nat}

section Withdrawing

variable {unread : List Posted} {own : Posted}

def Increasing (unread : List Posted) : Prop :=
  unread.Pairwise fun earlier later => earlier.number < later.number

theorem Increasing.eq_of_number {posted other : Posted} (increasing : Increasing unread)
    (member : posted ∈ unread) (also : other ∈ unread) (same : posted.number = other.number) :
    posted = other :=
  List.inj_on_of_nodup_map (List.pairwise_map.mpr (increasing.imp Nat.ne_of_lt)) member also same

theorem removeLike_split (member : own ∈ unread) :
    ∃ before first rest, unread = before ++ first :: rest ∧ first.request = own.request ∧
      (∀ posted ∈ before, posted.request ≠ own.request) ∧
        removeLike own.request unread = before ++ rest := by
  induction unread with
  | nil => cases member
  | cons posted unread ih =>
      by_cases like : posted.request = own.request
      · exact ⟨[], posted, unread, rfl, like, nofun, if_pos like⟩
      · rcases List.mem_cons.mp member with rfl | later
        · exact absurd rfl like
        · obtain ⟨before, first, rest, parts, alike, apart, removed⟩ := ih later
          refine ⟨posted :: before, first, rest, by rw [parts]; rfl, alike, ?_, ?_⟩
          · intro other among
            rcases List.mem_cons.mp among with rfl | among
            · exact like
            · exact apart other among
          · simp only [removeLike, like, ↓reduceIte, removed, List.cons_append]

theorem withdrawn_of_absent (absent : ∀ posted ∈ unread, posted.number ≠ number) :
    withdrawn number unread = unread := by
  have nowhere : unread.find? (fun posted => posted.number = number) = none := by
    simpa using absent
  simp only [withdrawn, nowhere]

theorem withdrawn_of_mem (increasing : Increasing unread) (member : own ∈ unread) :
    withdrawn own.number unread = removeLike own.request unread := by
  unfold withdrawn
  cases found : unread.find? fun posted => posted.number = own.number with
  | none =>
      have absent := List.find?_eq_none.mp found own member
      simp at absent
  | some posted =>
      have same : posted.number = own.number := by simpa using List.find?_some found
      rw [increasing.eq_of_number (List.mem_of_find?_eq_some found) member same]

theorem removeLike_first (increasing : Increasing unread) (member : own ∈ unread) :
    (removeLike own.request unread = unread.filter (·.number ≠ own.number) ∧
      ∀ twin ∈ unread, twin.number < own.number → twin.request ≠ own.request) ∨
    (own ∈ removeLike own.request unread ∧
      ∃ twin ∈ unread, twin.number < own.number ∧ twin.request = own.request) := by
  obtain ⟨before, first, rest, rfl, alike, apart, removed⟩ := removeLike_split member
  rw [removed]
  obtain ⟨-, onwards, across⟩ := List.pairwise_append.mp increasing
  rcases List.mem_append.mp member with among | among
  · exact absurd rfl (apart own among)
  · rcases List.mem_cons.mp among with rfl | later
    · left
      have kept (posted : Posted) (elsewhere : posted ∈ before ∨ posted ∈ rest) :
          posted.number ≠ own.number := by
        rcases elsewhere with front | back
        · exact Nat.ne_of_lt (across posted front own List.mem_cons_self)
        · exact Nat.ne_of_gt (List.rel_of_pairwise_cons onwards back)
      refine ⟨?_, ?_⟩
      · rw [List.filter_append, List.filter_cons_of_neg (by simp),
          List.filter_eq_self.mpr fun posted front => by simpa using kept posted (.inl front),
          List.filter_eq_self.mpr fun posted back => by simpa using kept posted (.inr back)]
      · intro twin also earlier
        rcases List.mem_append.mp also with front | back
        · exact apart twin front
        · rcases List.mem_cons.mp back with rfl | behind
          · exact absurd earlier (Nat.lt_irrefl _)
          · exact absurd earlier (Nat.lt_asymm (List.rel_of_pairwise_cons onwards behind))
    · right
      exact ⟨List.mem_append_right _ later, first, by simp,
        List.rel_of_pairwise_cons onwards later, alike⟩

/-- An unread request with an earlier unread one that looks like it. -/
def Shadowed (desk : Desk) (number : Nat) : Prop :=
  ∃ own ∈ desk.unread, own.number = number ∧
    ∃ twin ∈ desk.unread, twin.number < number ∧ twin.request = own.request

theorem withdrawn_of_clear (increasing : Increasing desk.unread) (clear : ¬ desk.Shadowed number) :
    withdrawn number desk.unread = desk.unread.filter (·.number ≠ number) := by
  by_cases here : ∃ own ∈ desk.unread, own.number = number
  · obtain ⟨own, member, rfl⟩ := here
    rw [withdrawn_of_mem increasing member]
    rcases removeLike_first increasing member with ⟨removed, -⟩ | ⟨-, twin, among, earlier, alike⟩
    · exact removed
    · exact absurd ⟨own, member, rfl, twin, among, earlier, alike⟩ clear
  · have absent (posted : Posted) (member : posted ∈ desk.unread) : posted.number ≠ number :=
      fun same => here ⟨posted, member, same⟩
    rw [withdrawn_of_absent absent, List.filter_eq_self.mpr]
    exact fun posted member => by simpa using absent posted member

theorem mem_withdrawn_of_shadowed (increasing : Increasing desk.unread)
    (shadowed : desk.Shadowed number) :
    ∃ own ∈ withdrawn number desk.unread, own.number = number := by
  obtain ⟨own, member, rfl, twin, among, earlier, alike⟩ := shadowed
  rw [withdrawn_of_mem increasing member]
  rcases removeLike_first increasing member with ⟨-, unlike⟩ | ⟨kept, -⟩
  · exact absurd alike (unlike twin among earlier)
  · exact ⟨own, kept, rfl⟩

theorem removeLike_sublist (request : PromptRequest) : (removeLike request unread).Sublist unread := by
  induction unread with
  | nil => exact .slnil
  | cons posted unread ih =>
      unfold removeLike
      split
      · exact List.sublist_cons_self ..
      · exact ih.cons_cons posted

theorem withdrawn_sublist : (withdrawn number unread).Sublist unread := by
  unfold withdrawn
  split
  · exact .refl _
  · exact removeLike_sublist _

end Withdrawing

def handed (events : List Event) : List Posted :=
  events.filterMap Event.handed?

def Event.asks : Event → Bool
  | .handedOut _ | .idled => true
  | _ => false

theorem handed_append (before more : List Event) :
    handed (before ++ more) = handed before ++ handed more :=
  List.filterMap_append ..

theorem handed_snoc (before : List Event) (event : Event) :
    handed (before ++ [event]) = handed before ++ event.handed?.toList := by
  rw [handed_append]
  cases event <;> rfl

/-- What was handed out and what is unread are, one behind the other, posted requests in the order
they were posted, and a number waits until its request is withdrawn. -/
structure Queued (events : List Event) (desk : Desk) : Prop where
  fresh : ∀ number, desk.nextNumber ≤ number → ¬ desk.Knows number
  counted : ∀ posted, .posted posted ∈ events → 0 < posted.number ∧ posted.number < desk.nextNumber
  increasing : Increasing (handed events ++ desk.unread)
  posted : ∀ posted ∈ handed events ++ desk.unread, .posted posted ∈ events
  withdrew : ∀ event ∈ events, ∀ number, event.withdrawn? = some number → number < desk.nextNumber
  pending : ∀ number, number ∈ desk.pending ↔
    (∃ posted, .posted posted ∈ events ∧ posted.number = number) ∧
      ∀ event ∈ events, event.withdrawn? ≠ some number
  positive : 0 < desk.nextNumber

theorem unwithdrawn_snoc : (∀ other ∈ events ++ [event], other.withdrawn? ≠ some number) ↔
    (∀ other ∈ events, other.withdrawn? ≠ some number) ∧ event.withdrawn? ≠ some number := by
  rw [List.forall_mem_append, List.forall_mem_singleton]

theorem Queued.frame (queued : Queued events desk)
    (fresh : ∀ number, after.nextNumber ≤ number → ¬ after.Knows number)
    (posts : ∀ posted, event ≠ .posted posted) (hands : event.handed? = none)
    (withdraws : ∀ number, event.withdrawn? = some number → number < desk.nextNumber)
    (unread : after.unread.Sublist desk.unread) (next : after.nextNumber = desk.nextNumber)
    (pending : ∀ number, number ∈ after.pending ↔
      number ∈ desk.pending ∧ event.withdrawn? ≠ some number) :
    Queued (events ++ [event]) after := by
  have posted (posted : Posted) : .posted posted ∈ events ++ [event] ↔ .posted posted ∈ events := by
    simp [Ne.symm (posts posted)]
  have sublist : (handed (events ++ [event]) ++ after.unread).Sublist
      (handed events ++ desk.unread) := by
    rw [handed_snoc, hands, Option.toList_none, List.append_nil]
    exact (List.Sublist.refl _).append unread
  refine ⟨fresh, ?_, queued.increasing.sublist sublist, ?_, ?_, ?_, next ▸ queued.positive⟩
  · intro one known
    rw [next]
    exact queued.counted one ((posted one).mp known)
  · exact fun one member => (posted one).mpr (queued.posted one (sublist.subset member))
  · intro other member number withdraws'
    rw [next]
    rcases List.mem_append.mp member with old | new
    · exact queued.withdrew other old number withdraws'
    · exact withdraws number (List.mem_singleton.mp new ▸ withdraws')
  · intro number
    simp only [pending, queued.pending, posted, unwithdrawn_snoc, and_assoc]

theorem Queued.below (queued : Queued events desk) (waits : number ∈ desk.pending) :
    number < desk.nextNumber := by
  obtain ⟨⟨posted, known, rfl⟩, -⟩ := (queued.pending number).mp waits
  exact (queued.counted posted known).2

theorem Queued.joins (queued : Queued events desk) (request : PromptRequest)
    (fresh : ∀ number, after.nextNumber ≤ number → ¬ after.Knows number)
    (unread : after.unread = desk.unread ++ [⟨desk.nextNumber, request⟩])
    (pending : after.pending = desk.pending ++ [desk.nextNumber])
    (next : after.nextNumber = desk.nextNumber + 1) :
    Queued (events ++ [.posted ⟨desk.nextNumber, request⟩]) after := by
  have line : handed (events ++ [.posted ⟨desk.nextNumber, request⟩]) ++ after.unread =
      handed events ++ desk.unread ++ [⟨desk.nextNumber, request⟩] := by
    rw [handed_snoc, unread, ← List.append_assoc]
    simp [Event.handed?]
  refine ⟨fresh, ?_, ?_, ?_, ?_, ?_, ?_⟩
  · intro posted known
    rw [next]
    rcases List.mem_append.mp known with old | new
    · have counted := queued.counted posted old
      omega
    · cases List.mem_singleton.mp new
      exact ⟨queued.positive, Nat.lt_succ_self _⟩
  · rw [line]
    refine List.pairwise_append.mpr ⟨queued.increasing, List.pairwise_singleton _ _, ?_⟩
    intro posted member other new
    rw [List.mem_singleton.mp new]
    exact (queued.counted posted (queued.posted posted member)).2
  · rw [line]
    intro posted member
    rcases List.mem_append.mp member with old | new
    · exact List.mem_append_left _ (queued.posted posted old)
    · exact List.mem_append_right _ (by rw [List.mem_singleton.mp new]; exact List.mem_cons_self)
  · intro other member number withdraws
    rw [next]
    rcases List.mem_append.mp member with old | new
    · exact Nat.lt_succ_of_lt (queued.withdrew other old number withdraws)
    · rw [List.mem_singleton.mp new] at withdraws
      cases withdraws
  · intro number
    have never : (Event.posted ⟨desk.nextNumber, request⟩).withdrawn? ≠ some number := nofun
    rw [pending, List.mem_append, List.mem_singleton, queued.pending, unwithdrawn_snoc]
    constructor
    · rintro (⟨⟨posted, known, rfl⟩, still⟩ | rfl)
      · exact ⟨⟨posted, List.mem_append_left _ known, rfl⟩, still, never⟩
      -- the number is new, so nothing that was withdrawn so far had it
      · refine ⟨⟨_, List.mem_append_right _ List.mem_cons_self, rfl⟩, ?_, never⟩
        exact fun other member same => Nat.lt_irrefl _ (queued.withdrew other member _ same)
    · rintro ⟨⟨posted, known, rfl⟩, still, -⟩
      rcases List.mem_append.mp known with old | new
      · exact .inl ⟨⟨posted, old, rfl⟩, still⟩
      · cases List.mem_singleton.mp new
        exact .inr rfl
  · rw [next]
    exact Nat.succ_pos _

theorem Queued.leaves (queued : Queued events desk) {posted : Posted}
    (fresh : ∀ number, after.nextNumber ≤ number → ¬ after.Knows number)
    (unread : desk.unread = posted :: after.unread) (pending : after.pending = desk.pending)
    (next : after.nextNumber = desk.nextNumber) :
    Queued (events ++ [.handedOut posted]) after := by
  have line : handed (events ++ [.handedOut posted]) ++ after.unread =
      handed events ++ desk.unread := by
    rw [handed_snoc, unread]
    simp [Event.handed?]
  have known (one : Posted) :
      .posted one ∈ events ++ [.handedOut posted] ↔ .posted one ∈ events := by simp
  refine ⟨fresh, ?_, line ▸ queued.increasing, ?_, ?_, ?_, next ▸ queued.positive⟩
  · intro one member
    rw [next]
    exact queued.counted one ((known one).mp member)
  · exact fun one member => (known one).mpr (queued.posted one (line ▸ member))
  · intro other member number withdraws
    rw [next]
    rcases List.mem_append.mp member with old | new
    · exact queued.withdrew other old number withdraws
    · rw [List.mem_singleton.mp new] at withdraws
      cases withdraws
  · intro number
    have never : (Event.handedOut posted).withdrawn? ≠ some number := nofun
    simp only [pending, queued.pending, known, unwithdrawn_snoc, never, not_false_eq_true,
      and_true, ne_eq]

theorem Step.queued (step : Step desk event after) (queued : Queued events desk) :
    Queued (events ++ [event]) after := by
  have fresh := step.fresh queued.fresh
  cases step.moves with
  | joins request posts unread pending next =>
      exact posts ▸ queued.joins request fresh unread pending next
  | leaves posted hands unread pending next => exact hands ▸ queued.leaves fresh unread pending next
  | forgets number posts hands withdraws unread pending next =>
      refine queued.frame fresh posts hands ?_ (unread ▸ withdrawn_sublist) next ?_
      · intro other withdraws'
        rcases withdraws with ⟨same, waits | knows⟩ | ⟨never, -⟩
        · cases same.symm.trans withdraws'
          exact queued.below waits
        · cases same.symm.trans withdraws'
          exact Nat.lt_of_not_le fun past => queued.fresh _ past knows
        · cases never.symm.trans withdraws'
      · intro other
        rw [pending, List.mem_filter]
        rcases withdraws with ⟨same, -⟩ | ⟨never, absent⟩
        · simp only [same, ne_eq, decide_not, Bool.not_eq_true', decide_eq_false_iff_not,
            Option.some.injEq, @eq_comm _ other]
        · rw [never]
          have apart : other ∈ desk.pending → other ≠ number := fun waits same => absent (same ▸ waits)
          simpa using apart
  | stays posts hands withdraws unread pending next =>
      refine queued.frame fresh posts hands ?_ (unread ▸ .refl _) next ?_
      · intro other withdraws'
        cases withdraws.symm.trans withdraws'
      · intro other
        simp [pending, withdraws]

theorem Run.queued (run : Run events desk) : Queued events desk := by
  induction run with
  | start =>
      exact ⟨fun _ _ => not_knows_start, nofun, .nil, nofun, nofun,
        fun _ => ⟨nofun, fun ⟨⟨_, known, _⟩, _⟩ => nomatch known⟩, Nat.one_pos⟩
  | step run step ih => exact step.queued ih

def HandedOut (events : List Event) (number : Nat) : Prop :=
  ∃ posted ∈ handed events, posted.number = number

structure Consistent (events : List Event) (desk : Desk) : Prop where
  waits : ∀ posted ∈ desk.unread, posted.number ∈ desk.pending
  listed : ∀ number ∈ desk.pending,
    (∃ posted ∈ desk.unread, posted.number = number) ∨ HandedOut events number

theorem handedOut_snoc :
    HandedOut (events ++ [event]) number ↔
      HandedOut events number ∨ ∃ posted, event = .handedOut posted ∧ posted.number = number := by
  unfold HandedOut
  rw [handed_snoc]
  cases event <;> simp [Event.handed?, or_and_right, exists_or]

theorem HandedOut.snoc (out : HandedOut events number) : HandedOut (events ++ [event]) number :=
  handedOut_snoc.mpr (.inl out)

theorem Consistent.forget (consistent : Consistent events desk) (increasing : Increasing desk.unread)
    (clear : ¬ desk.Shadowed number) (unread : after.unread = withdrawn number desk.unread)
    (pending : after.pending = desk.pending.filter (· ≠ number)) :
    Consistent (events ++ [event]) after := by
  rw [withdrawn_of_clear increasing clear] at unread
  refine ⟨?_, ?_⟩
  · intro posted member
    rw [unread, List.mem_filter] at member
    rw [pending, List.mem_filter]
    exact ⟨consistent.waits posted member.1, member.2⟩
  · intro other member
    rw [pending, List.mem_filter] at member
    rcases consistent.listed other member.1 with ⟨posted, among, rfl⟩ | out
    · exact .inl ⟨posted, unread ▸ List.mem_filter.mpr ⟨among, member.2⟩, rfl⟩
    · exact .inr out.snoc

theorem Consistent.joins (consistent : Consistent events desk) {request : PromptRequest}
    (unread : after.unread = desk.unread ++ [⟨desk.nextNumber, request⟩])
    (pending : after.pending = desk.pending ++ [desk.nextNumber]) :
    Consistent (events ++ [event]) after := by
  refine ⟨?_, ?_⟩
  · intro posted member
    rw [unread] at member
    rw [pending]
    rcases List.mem_append.mp member with old | new
    · exact List.mem_append_left _ (consistent.waits posted old)
    · cases List.mem_singleton.mp new
      exact List.mem_append_right _ List.mem_cons_self
  · intro number member
    rw [pending] at member
    rw [unread]
    rcases List.mem_append.mp member with old | new
    · rcases consistent.listed number old with ⟨posted, among, same⟩ | out
      · exact .inl ⟨posted, List.mem_append_left _ among, same⟩
      · exact .inr out.snoc
    · rw [List.mem_singleton.mp new]
      exact .inl ⟨_, List.mem_append_right _ List.mem_cons_self, rfl⟩

theorem Consistent.leaves (consistent : Consistent events desk) {posted : Posted}
    (unread : desk.unread = posted :: after.unread) (pending : after.pending = desk.pending) :
    Consistent (events ++ [.handedOut posted]) after := by
  refine ⟨?_, ?_⟩
  · intro other member
    rw [pending]
    exact consistent.waits other (unread ▸ List.mem_cons_of_mem _ member)
  · intro number member
    rw [pending] at member
    rcases consistent.listed number member with ⟨other, among, same⟩ | out
    · rw [unread] at among
      rcases List.mem_cons.mp among with rfl | later
      · exact .inr (handedOut_snoc.mpr (.inr ⟨other, rfl, same⟩))
      · exact .inl ⟨other, later, same⟩
    · exact .inr out.snoc

theorem Consistent.stays (consistent : Consistent events desk) (unread : after.unread = desk.unread)
    (pending : after.pending = desk.pending) : Consistent (events ++ [event]) after := by
  refine ⟨?_, ?_⟩
  · rw [unread, pending]
    exact consistent.waits
  · intro number member
    rw [pending] at member
    rw [unread]
    exact (consistent.listed number member).imp_right HandedOut.snoc

theorem Step.consistent_iff (step : Step desk event after) (queued : Queued events desk)
    (consistent : Consistent events desk) :
    Consistent (events ++ [event]) after ↔
      ∀ number, event.withdrawn? = some number → ¬ desk.Shadowed number := by
  have increasing : Increasing desk.unread := (List.pairwise_append.mp queued.increasing).2.1
  have unwithdrawing (never : event.withdrawn? = none)
      (agrees : Consistent (events ++ [event]) after) : Consistent (events ++ [event]) after ↔
        ∀ number, event.withdrawn? = some number → ¬ desk.Shadowed number := by
    refine ⟨fun _ _ withdraws => ?_, fun _ => agrees⟩
    cases never.symm.trans withdraws
  cases step.moves with
  | joins request posts unread pending next =>
      exact unwithdrawing (posts ▸ rfl) (consistent.joins unread pending)
  | leaves posted hands unread pending next =>
      exact unwithdrawing (hands ▸ rfl) (hands ▸ consistent.leaves unread pending)
  | forgets number posts hands withdraws unread pending next =>
      rcases withdraws with ⟨same, -⟩ | ⟨never, absent⟩
      · constructor
        · intro agrees other withdraws shadowed
          cases same.symm.trans withdraws
          -- the one that looks like it was taken out, so this one is unread and waits no longer
          obtain ⟨own, kept, rfl⟩ := mem_withdrawn_of_shadowed increasing shadowed
          have waits := agrees.waits own (unread ▸ kept)
          rw [pending, List.mem_filter] at waits
          simp at waits
        · exact fun clear => consistent.forget increasing (clear number same) unread pending
      · have clear : ¬ desk.Shadowed number := by
          rintro ⟨own, member, rfl, -⟩
          exact absent (consistent.waits own member)
        exact unwithdrawing never (consistent.forget increasing clear unread pending)
  | stays posts hands withdraws unread pending next =>
      exact unwithdrawing withdraws (consistent.stays unread pending)

def Agreed (events : List Event) : Prop :=
  ∀ before moment, before <+: events → Run before moment → Consistent before moment

def Unmistaken (events : List Event) : Prop :=
  ∀ before event moment after, before ++ [event] <+: events → Run before moment →
    Step moment event after → ∀ number, event.withdrawn? = some number → ¬ moment.Shadowed number

theorem agreed_iff : Agreed events ↔ Unmistaken events := by
  constructor
  · intro agreed before event moment after reached run step
    have earlier := agreed before moment ((List.prefix_append _ _).trans reached) run
    exact (step.consistent_iff run.queued earlier).mp (agreed _ after reached (run.step step))
  · intro unmistaken before moment reached run
    induction run with
    | start => exact ⟨nofun, nofun⟩
    | step run step ih =>
        have earlier := ih ((List.prefix_append _ _).trans reached)
        exact (step.consistent_iff run.queued earlier).mpr
          (unmistaken _ _ _ _ reached run step)

theorem Run.split {before rest : List Event} (run : Run (before ++ event :: rest) desk) :
    ∃ moment after, Run before moment ∧ Step moment event after := by
  generalize whole : before ++ event :: rest = events at run
  induction run generalizing rest with
  | start => simp at whole
  | step run step ih =>
      rcases List.eq_nil_or_concat rest with rfl | ⟨front, final, rfl⟩
      · obtain ⟨rfl, same⟩ := List.append_inj' whole rfl
        cases same
        exact ⟨_, _, run, step⟩
      · rw [List.concat_eq_append, ← List.cons_append, ← List.append_assoc] at whole
        exact ih (List.append_inj' whole rfl).1

theorem next_consistent (consistent : Consistent events desk) (increasing : Increasing desk.unread)
    {posted : Posted} (handed : desk.next = (some posted, after)) :
    posted.number ∈ desk.pending ∧
      ∀ number ∈ desk.pending, number < posted.number → HandedOut events number := by
  obtain ⟨unread, -⟩ := next_some handed
  refine ⟨consistent.waits posted (unread ▸ List.mem_cons_self), ?_⟩
  intro number waits earlier
  rcases consistent.listed number waits with ⟨other, among, rfl⟩ | out
  · unfold Increasing at increasing
    rw [unread] at among increasing
    rcases List.mem_cons.mp among with rfl | later
    · exact absurd earlier (Nat.lt_irrefl _)
    · exact absurd earlier (Nat.lt_asymm (List.rel_of_pairwise_cons increasing later))
  · exact out

theorem Increasing.length_le {numbers : List Posted} (increasing : Increasing numbers)
    (low : Nat) {high : Nat} (ordered : low ≤ high)
    (within : ∀ posted ∈ numbers, low ≤ posted.number ∧ posted.number < high) :
    low + numbers.length ≤ high := by
  induction numbers generalizing low with
  | nil => exact ordered
  | cons posted numbers ih =>
      have here := within posted List.mem_cons_self
      have onwards := ih increasing.of_cons (posted.number + 1) (by omega) fun other later =>
        ⟨List.rel_of_pairwise_cons increasing later, (within other (List.mem_cons_of_mem _ later)).2⟩
      rw [List.length_cons]
      omega

theorem countP_asks {more : List Event} (busy : .idled ∉ more) :
    more.countP Event.asks = (handed more).length := by
  unfold handed
  rw [List.length_filterMap_eq_countP]
  refine List.countP_congr fun event member => ?_
  cases event with
  | idled => exact absurd member busy
  | _ => exact Iff.rfl

section Waiting

variable {before more : List Event}

/-- Nobody who asked for a request went away with nothing while one waited to be handed out. -/
theorem idled_not_mem (run : Run (before ++ more) desk) (agreed : Agreed (before ++ more))
    (known : ∃ posted, .posted posted ∈ before ∧ posted.number = number)
    (waits : number ∈ desk.pending) (unread : ¬ HandedOut (before ++ more) number) :
    .idled ∉ more := by
  intro idle
  obtain ⟨front, rest, rfl⟩ := List.append_of_mem idle
  obtain ⟨posted, earlier, named⟩ := known
  have still := ((run.queued.pending number).mp waits).2
  rw [← List.append_assoc] at run agreed unread still
  obtain ⟨moment, after, early, step⟩ := run.split
  have pending : number ∈ moment.pending := (early.queued.pending number).mpr
    ⟨⟨posted, List.mem_append_left _ earlier, named⟩,
      fun event member => still event (List.mem_append_left _ member)⟩
  rcases (agreed _ moment (List.prefix_append _ _) early).listed number pending with
    ⟨one, among, -⟩ | ⟨one, out, same⟩
  · cases step with
    | idle nothing =>
        rw [(next_none nothing).1] at among
        cases among
  · exact unread ⟨one, handed_append .. ▸ List.mem_append_left _ out, same⟩

theorem handedOut_of_asks (run : Run (before ++ more) desk) (agreed : Agreed (before ++ more))
    (known : ∃ posted, .posted posted ∈ before ∧ posted.number = number)
    (waits : number ∈ desk.pending) (long : number ≤ more.countP Event.asks) :
    HandedOut (before ++ more) number := by
  refine Classical.byContradiction fun unread => ?_
  have asks := countP_asks (idled_not_mem run agreed known waits unread)
  obtain ⟨own, among, rfl⟩ :=
    ((agreed _ desk (List.prefix_refl _) run).listed number waits).resolve_right unread
  have queued := run.queued
  obtain ⟨increasing, -, across⟩ := List.pairwise_append.mp queued.increasing
  have positive := (queued.counted own (queued.posted own (List.mem_append_right _ among))).1
  have few := Increasing.length_le increasing 1 positive fun posted out =>
    ⟨(queued.counted posted (queued.posted posted (List.mem_append_left _ out))).1,
      across posted out own among⟩
  rw [handed_append, List.length_append] at few
  omega

end Waiting

/-- Requests are handed out in the order they were posted, each once at most. The unread ones and
those that wait agree at every moment just when no request is withdrawn while an earlier unread one
looks like it. In such a run what is handed out next is the first that waits and was not handed out,
and a request that goes on waiting is handed out. -/
theorem agreed_iff_unmistaken (run : Run events desk) :
    Increasing desk.unread ∧ Increasing (handed events) ∧
    (∀ posted ∈ handed events ++ desk.unread, .posted posted ∈ events) ∧
    (∀ number, number ∈ desk.pending ↔
      (∃ posted, .posted posted ∈ events ∧ posted.number = number) ∧
        ∀ event ∈ events, event.withdrawn? ≠ some number) ∧
    (Agreed events ↔ Unmistaken events) ∧
    (Unmistaken events →
      (∀ posted after, desk.next = (some posted, after) → posted.number ∈ desk.pending ∧
        ∀ number ∈ desk.pending, number < posted.number → HandedOut events number) ∧
      (∀ after, desk.next = (none, after) → ∀ number ∈ desk.pending, HandedOut events number) ∧
      (∀ number ∈ desk.pending, ∀ before more, events = before ++ more →
        (∃ posted, .posted posted ∈ before ∧ posted.number = number) →
          number ≤ more.countP Event.asks → HandedOut events number)) := by
  have queued := run.queued
  obtain ⟨out, unread, -⟩ := List.pairwise_append.mp queued.increasing
  refine ⟨unread, out, queued.posted, queued.pending, agreed_iff, fun unmistaken => ?_⟩
  have agreed := agreed_iff.mpr unmistaken
  have consistent := agreed _ _ (List.prefix_refl _) run
  refine ⟨fun posted after => next_consistent consistent unread, ?_, ?_⟩
  · intro after nothing number waits
    refine (consistent.listed number waits).resolve_left ?_
    rintro ⟨posted, among, -⟩
    rw [(next_none nothing).1] at among
    cases among
  · rintro number waits before more rfl known long
    exact handedOut_of_asks run agreed known waits long

def twins : List Event :=
  [.posted ⟨1, ⟨"> ", []⟩⟩, .posted ⟨2, ⟨"> ", []⟩⟩]

theorem run_twins : Run twins ((post {} ⟨"> ", []⟩).2.post ⟨"> ", []⟩).2 :=
  (Run.start.step (.post {} ⟨"> ", []⟩)).step (.post _ ⟨"> ", []⟩)

theorem agreed_iff_unmistaken_twins : Agreed twins := by
  refine (agreed_iff_unmistaken run_twins).2.2.2.2.1.mpr ?_
  intro before event moment after reached run step number withdraws
  have member : event ∈ twins := reached.subset (List.mem_append_right _ List.mem_cons_self)
  have never : ∀ other ∈ twins, other.withdrawn? = none := by decide
  cases (never event member).symm.trans withdraws

theorem disagrees_twins : ¬ ∀ events desk, Run events desk → Consistent events desk := by
  intro always
  have run := run_twins.step (.claim (some 2) none rfl)
  have waits := (always _ _ run).waits ⟨2, ⟨"> ", []⟩⟩ (by decide)
  revert waits
  decide

end ExScript.Desk
