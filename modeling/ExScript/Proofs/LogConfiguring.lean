import ExScript.Logging
import Mathlib.Data.List.Induction

/-!
The log over any number of configurations, some of them refused. What is remembered is the last
configuration that was accepted. Its sink is in force unless a call was refused after it: then no
sink is, and asking for the same configuration again is taken for done.
-/

namespace ExScript.Logging

structure Call where
  settings : Settings
  profile : Profile

namespace Call

def level (call : Call) : String :=
  call.profile.level call.settings

def pair (call : Call) : Profile × String :=
  (call.profile, call.level)

end Call

def sinkOf (pair : Profile × String) : Sink :=
  ⟨pair.1.sink, pair.2, pair.1.format⟩

def unconfigured (sinks : List Sink) : Logging := { sinks }

section Calls

variable (accepts : String → Bool)

def configureFor (logging : Logging) (call : Call) : Except String (List LogChange) × Logging :=
  logging.configure accepts call.settings call.profile

def after (logging : Logging) (calls : List Call) : Logging :=
  calls.foldl (fun logging call => (logging.configureFor accepts call).2) logging

def lastValid? (calls : List Call) : Option (Profile × String) :=
  (calls.reverse.find? fun call => accepts call.level).map Call.pair

/-- A call was refused when this was in force, and nothing else has been put in force since. -/
def Lapsed (calls : List Call) (pair : Profile × String) : Prop :=
  ∃ earlier refused later, calls = earlier ++ refused :: later ∧
    lastValid? accepts earlier = some pair ∧ accepts refused.level = false ∧
    ∀ call ∈ later, accepts call.level = true → call.pair = pair

end Calls

variable {accepts : String → Bool}

theorem after_snoc (logging : Logging) (calls : List Call) (call : Call) :
    logging.after accepts (calls ++ [call]) =
      ((logging.after accepts calls).configureFor accepts call).2 := by
  unfold after
  rw [List.foldl_append]
  rfl

theorem lastValid?_snoc (calls : List Call) (call : Call) :
    lastValid? accepts (calls ++ [call]) =
      if accepts call.level then some call.pair else lastValid? accepts calls := by
  unfold lastValid?
  by_cases valid : accepts call.level <;> simp [valid]

theorem lastValid?_accepted {calls : List Call} {pair : Profile × String}
    (last : lastValid? accepts calls = some pair) : accepts pair.2 = true := by
  obtain ⟨call, found, rfl⟩ := Option.map_eq_some_iff.mp last
  exact List.find?_some (p := fun call : Call => accepts call.level) found

theorem lastValid?_append {earlier later : List Call} {pair : Profile × String}
    (last : lastValid? accepts earlier = some pair)
    (same : ∀ call ∈ later, accepts call.level = true → call.pair = pair) :
    lastValid? accepts (earlier ++ later) = some pair := by
  induction later using List.reverseRecOn with
  | nil => rwa [List.append_nil]
  | append_singleton later call ih =>
      rw [← List.append_assoc, lastValid?_snoc]
      by_cases valid : accepts call.level = true
      · rw [if_pos valid, same call (by simp) valid]
      · rw [if_neg valid]
        exact ih fun other member => same other (List.mem_append_left _ member)

theorem Lapsed.last {calls : List Call} {pair : Profile × String}
    (lapsed : Lapsed accepts calls pair) : lastValid? accepts calls = some pair := by
  obtain ⟨earlier, refused, later, rfl, last, invalid, same⟩ := lapsed
  refine lastValid?_append last (List.forall_mem_cons.mpr ⟨fun valid => ?_, same⟩)
  rw [invalid] at valid
  cases valid

theorem lapsed_refused {calls : List Call} {call : Call} (invalid : accepts call.level = false)
    (pair : Profile × String) :
    Lapsed accepts (calls ++ [call]) pair ↔ lastValid? accepts calls = some pair := by
  constructor
  · intro lapsed
    have last := lapsed.last
    rwa [lastValid?_snoc, invalid, if_neg Bool.false_ne_true] at last
  · intro last
    exact ⟨calls, call, [], rfl, last, invalid, List.forall_mem_nil _⟩

theorem lapsed_valid {calls : List Call} {call : Call} (valid : accepts call.level = true)
    (pair : Profile × String) :
    Lapsed accepts (calls ++ [call]) pair ↔ call.pair = pair ∧ Lapsed accepts calls pair := by
  constructor
  · rintro ⟨earlier, refused, later, split, last, invalid, same⟩
    rcases List.eq_nil_or_concat later with rfl | ⟨between, final, rfl⟩
    · obtain ⟨-, only⟩ := List.append_inj' split rfl
      cases only
      rw [valid] at invalid
      cases invalid
    · rw [List.concat_eq_append] at split same
      obtain ⟨before, only⟩ := List.append_inj' (split.trans (by simp :
        _ = (earlier ++ refused :: between) ++ [final])) rfl
      cases only
      refine ⟨same call (by simp) valid, earlier, refused, between, before, last, invalid, ?_⟩
      exact fun other member => same other (List.mem_append_left _ member)
  · rintro ⟨own, earlier, refused, later, rfl, last, invalid, same⟩
    refine ⟨earlier, refused, later ++ [call], by simp, last, invalid, fun other member held => ?_⟩
    rcases List.mem_append.mp member with among | final
    · exact same other among held
    · rwa [List.mem_singleton.mp final]

theorem configureFor_same {logging : Logging} {call : Call}
    (same : logging.remembered = some call.pair) :
    logging.configureFor accepts call = (.ok [], logging) :=
  if_pos same

theorem configureFor_valid {logging : Logging} {call : Call}
    (other : logging.remembered ≠ some call.pair) (valid : accepts call.level = true) :
    logging.configureFor accepts call =
      (.ok [.remove, .add call.profile.sink call.level call.profile.format, .label],
        { sinks := [sinkOf call.pair], remembered := some call.pair }) :=
  (if_neg other).trans (if_pos valid)

theorem configureFor_refused {logging : Logging} {call : Call}
    (other : logging.remembered ≠ some call.pair) (invalid : accepts call.level = false) :
    logging.configureFor accepts call = (.error call.level, { logging with sinks := [] }) :=
  (if_neg other).trans (if_neg (by simp [← invalid, Call.level]))

structure Remembers (accepts : String → Bool) (calls : List Call) (logging : Logging) : Prop where
  remembered : logging.remembered = lastValid? accepts calls
  installed : ∀ pair, lastValid? accepts calls = some pair → ¬ Lapsed accepts calls pair →
    logging.sinks = [sinkOf pair]
  lapsed : ∀ pair, Lapsed accepts calls pair → logging.sinks = []

theorem Remembers.step {calls : List Call} {logging : Logging}
    (remembers : Remembers accepts calls logging) (call : Call) :
    Remembers accepts (calls ++ [call]) (logging.configureFor accepts call).2 := by
  by_cases same : logging.remembered = some call.pair
  · have last := remembers.remembered.symm.trans same
    have valid : accepts call.level = true := lastValid?_accepted last
    rw [configureFor_same same]
    constructor
    · rw [lastValid?_snoc, if_pos valid, same]
    · intro pair now kept
      rw [lastValid?_snoc, if_pos valid] at now
      cases now
      exact remembers.installed _ last fun before => kept ((lapsed_valid valid _).mpr ⟨rfl, before⟩)
    · intro pair lapsed
      exact remembers.lapsed pair ((lapsed_valid valid pair).mp lapsed).2
  · cases valid : accepts call.level with
    | true =>
        rw [configureFor_valid same valid]
        constructor
        · rw [lastValid?_snoc, if_pos valid]
        · intro pair now _
          rw [lastValid?_snoc, if_pos valid] at now
          cases now
          rfl
        -- something else was remembered before, so nothing of this configuration had lapsed
        · intro pair lapsed
          obtain ⟨rfl, before⟩ := (lapsed_valid valid pair).mp lapsed
          exact absurd (remembers.remembered.trans before.last) same
    | false =>
        have last : lastValid? accepts (calls ++ [call]) = lastValid? accepts calls := by
          rw [lastValid?_snoc, valid, if_neg Bool.false_ne_true]
        rw [configureFor_refused same valid]
        constructor
        · rw [last]
          exact remembers.remembered
        · intro pair now kept
          exact absurd ((lapsed_refused valid pair).mpr (last.symm.trans now)) kept
        · intro _ _
          rfl

theorem after_remembers (accepts : String → Bool) (sinks : List Sink) (calls : List Call) :
    Remembers accepts calls ((unconfigured sinks).after accepts calls) := by
  induction calls using List.reverseRecOn with
  | nil =>
      refine ⟨rfl, fun pair last _ => ?_, fun pair lapsed => ?_⟩
      · cases last
      · cases lapsed.last
  | append_singleton calls call ih =>
      rw [after_snoc]
      exact ih.step call

/-- How a call ends that comes after these, which have left the log as it is. -/
structure Configured (accepts : String → Bool) (before : List Call) (logging : Logging)
    (call : Call) : Prop where
  returns : (logging.configureFor accepts call).1.isOk = accepts call.level
  refused : accepts call.level = false →
    (logging.configureFor accepts call).2 = { logging with sinks := [] }
  remembered : accepts call.level = true →
    (logging.configureFor accepts call).2.remembered = some call.pair
  installed : accepts call.level = true →
    ((logging.configureFor accepts call).2.sinks = [sinkOf call.pair] ↔
      ¬ Lapsed accepts before call.pair)
  lapsed : Lapsed accepts before call.pair → (logging.configureFor accepts call).2.sinks = []

/-- After any calls, refused or not, a call is refused exactly for its level, and then no sink is
left. One that returns leaves its own sink and no other, unless a call was refused since this very
configuration was last carried through; then it leaves none. -/
theorem configured_unless_lapsed (accepts : String → Bool) (sinks : List Sink)
    (before : List Call) (call : Call) :
    Configured accepts before ((unconfigured sinks).after accepts before) call := by
  have remembers := after_remembers accepts sinks before
  generalize (unconfigured sinks).after accepts before = logging at remembers ⊢
  have behind := remembers.step call
  have other : accepts call.level = false → logging.remembered ≠ some call.pair := by
    intro invalid same
    have valid := lastValid?_accepted (remembers.remembered.symm.trans same)
    exact Bool.false_ne_true (invalid.symm.trans valid)
  have lapsed (gone : Lapsed accepts before call.pair) :
      (logging.configureFor accepts call).2.sinks = [] := by
    rw [configureFor_same (remembers.remembered.trans gone.last)]
    exact remembers.lapsed _ gone
  refine ⟨?_, fun invalid => ?_, fun valid => ?_, fun valid => ⟨fun held gone => ?_, ?_⟩, lapsed⟩
  · by_cases same : logging.remembered = some call.pair
    · rw [configureFor_same same]
      exact (lastValid?_accepted (remembers.remembered.symm.trans same)).symm
    · cases valid : accepts call.level with
      | true =>
          rw [configureFor_valid same valid]
          rfl
      | false =>
          rw [configureFor_refused same valid]
          rfl
  · rw [configureFor_refused (other invalid) invalid]
  · rw [behind.remembered, lastValid?_snoc, if_pos valid]
  · cases held.symm.trans (lapsed gone)
  · intro kept
    refine behind.installed _ (by rw [lastValid?_snoc, if_pos valid]) fun gone => ?_
    exact kept ((lapsed_valid valid _).mp gone).2

def usualLevels : List String :=
  ["TRACE", "DEBUG", "INFO", "SUCCESS", "WARNING", "ERROR", "CRITICAL"]

def atLevel (logLevel : String) : Call :=
  ⟨{ logLevel }, .standard⟩

theorem configured_sinkless :
    ¬ ∀ (accepts : String → Bool) (sinks : List Sink) (before : List Call) (call : Call),
      (((unconfigured sinks).after accepts before).configureFor accepts call).1.isOk = true →
        (((unconfigured sinks).after accepts before).configureFor accepts call).2.sinks =
          [sinkOf call.pair] := by
  intro installs
  have sinks := installs usualLevels.contains [] [atLevel "INFO", atLevel "NOPE"] (atLevel "INFO")
  cases sinks rfl

end ExScript.Logging
