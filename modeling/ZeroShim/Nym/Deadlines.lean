import ZeroShim.Config
import ZeroShim.Nym.Rotation

/-!
# Deadlines and the range of an instant

{lit}`Instant + Duration` panics where the sum has no room in 64-bit seconds.  The
durations come from the configuration, which takes every number of seconds.

Main results:

- Theorem {lit}`inRange_iff`: the configurations and moments under which every deadline is
  an instant.
- Theorem {lit}`held_of_runs`: the deadlines held along a run stay in range.
-/

namespace ZeroShim

open Library Nym

/-! ## Instants -/

/-- The first moment, in nanoseconds, whose seconds overflow. -/
def instantEnd : Nat := 9223372036854775808000000000

/-- {lit}`Instant + Duration`; none is a panic. -/
def instantAdd (now duration : Nat) : Option Nat :=
  if now + duration < instantEnd then some (now + duration) else none

theorem instantAdd_isSome (now duration : Nat) :
    (instantAdd now duration).isSome ↔ now + duration < instantEnd := by
  unfold instantAdd
  split_ifs with h
  · simp [h]
  · simp [h]

theorem instantAdd_eq {now duration moment : Nat} (h : instantAdd now duration = some moment) :
    moment = now + duration := by
  unfold instantAdd at h
  split_ifs at h
  exact (Option.some.inj h).symm

/-- Whole seconds have room exactly when the seconds have. -/
theorem add_seconds_lt_iff (now n : Nat) :
    now + seconds n < instantEnd ↔ now / seconds 1 + n < 2 ^ 63 := by
  unfold instantEnd seconds
  omega

theorem max_seconds (m n : Nat) : max (seconds m) (seconds n) = seconds (max m n) := by
  unfold seconds
  omega

/-! ## The additions -/

/-- The addition of {lit}`next_rotation`. -/
def nextRotationChecked (policy : RotationPolicy) (now : Nat) : Option (Option Nat) :=
  match policy.period with
  | none => some none
  | some period => (instantAdd now (max period policy.rebuildBackoff)).map some

/-- The addition of the deferral of a rotation that is due. -/
def deferralChecked (policy : RotationPolicy) (now : Nat) : Option Nat :=
  instantAdd now policy.effectiveDeferLimit

/-- The addition of an attempt of {lit}`each_target`. -/
def attemptChecked (timeout now : Nat) : Option Nat := instantAdd now timeout

/-- In range, the next rotation is the one without a bound on the instants. -/
theorem nextRotationChecked_eq {policy : RotationPolicy} {now : Nat} {next : Option Nat}
    (h : nextRotationChecked policy now = some next) : nextRotation policy now = next := by
  unfold nextRotationChecked at h
  unfold nextRotation
  cases hperiod : policy.period with
  | none =>
    rw [hperiod] at h
    exact Option.some.inj h
  | some period =>
    rw [hperiod] at h
    rcases Option.map_eq_some_iff.mp h with ⟨moment, hadd, rfl⟩
    rw [instantAdd_eq hadd]
    rfl

/-! ## Configurations -/

namespace Config

def rotationSecs (config : Config) : Option Nat := config.nymRotationSecs.map UInt64.toNat

def lookupSecs (config : Config) : Option Nat := config.lookupTimeoutSecs.map UInt64.toNat

def policy (config : Config) : RotationPolicy :=
  rotationPolicy config.rotationSecs config.lookupSecs

/-- The longest wait, in seconds, that is added to a moment. -/
def longestWait (config : Config) : Nat :=
  max (config.lookupSecs.getD 90) ((config.rotationSecs.map fun secs => max secs 90).getD 0)

theorem lookupTimeout_eq (config : Config) :
    lookupTimeout config.lookupSecs = seconds (config.lookupSecs.getD 90) := by
  cases config.lookupSecs <;> rfl

end Config

/-- No deadline computed at a moment panics.  Without a period no rotation comes due. -/
structure InRange (config : Config) (now : Nat) : Prop where
  rotation : (nextRotationChecked config.policy now).isSome
  deferral : config.policy.period ≠ none → (deferralChecked config.policy now).isSome
  attempt : (attemptChecked (lookupTimeout config.lookupSecs) now).isSome

theorem period_policy (config : Config) :
    config.policy.period = config.rotationSecs.map seconds := by
  unfold Config.policy rotationPolicy
  cases config.rotationSecs <;> rfl

/-- What is added to a moment for a rotation. -/
theorem waits_of_rotation {config : Config} {secs : Nat} (h : config.rotationSecs = some secs) :
    config.policy.rebuildBackoff = seconds 5 ∧
      config.policy.effectiveDeferLimit = seconds (max (config.lookupSecs.getD 90) 90) := by
  unfold Config.policy
  rw [h]
  refine ⟨rfl, ?_⟩
  rw [← max_seconds, ← Config.lookupTimeout_eq]
  rfl

/-- Every deadline is an instant exactly when the moment's seconds leave room for the longest
wait. -/
theorem inRange_iff (config : Config) (now : Nat) :
    InRange config now ↔ now / seconds 1 + config.longestWait < 2 ^ 63 := by
  have hattempt : (attemptChecked (lookupTimeout config.lookupSecs) now).isSome ↔
      now / seconds 1 + config.lookupSecs.getD 90 < 2 ^ 63 := by
    unfold attemptChecked
    rw [instantAdd_isSome, Config.lookupTimeout_eq, add_seconds_lt_iff]
  cases hsecs : config.rotationSecs with
  | none =>
    have hperiod : config.policy.period = none := by rw [period_policy, hsecs]; rfl
    have hlongest : config.longestWait = config.lookupSecs.getD 90 := by
      simp [Config.longestWait, hsecs]
    rw [hlongest, ← hattempt]
    constructor
    · exact fun h => h.attempt
    · intro h
      refine ⟨?_, fun hne => absurd hperiod hne, h⟩
      simp [nextRotationChecked, hperiod]
  | some secs =>
    have hperiod : config.policy.period = some (seconds secs) := by
      rw [period_policy, hsecs]
      rfl
    rcases waits_of_rotation hsecs with ⟨hbackoff, hlimit⟩
    have hrotation : (nextRotationChecked config.policy now).isSome ↔
        now / seconds 1 + max secs 5 < 2 ^ 63 := by
      unfold nextRotationChecked
      rw [hperiod]
      dsimp only
      rw [Option.isSome_map, instantAdd_isSome, hbackoff, max_seconds, add_seconds_lt_iff]
    have hdeferral : (deferralChecked config.policy now).isSome ↔
        now / seconds 1 + max (config.lookupSecs.getD 90) 90 < 2 ^ 63 := by
      unfold deferralChecked
      rw [instantAdd_isSome, hlimit, add_seconds_lt_iff]
    have hlongest : config.longestWait = max (config.lookupSecs.getD 90) (max secs 90) := by
      simp [Config.longestWait, hsecs]
    rw [hlongest]
    constructor
    · intro h
      have hr := hrotation.mp h.rotation
      have hd := hdeferral.mp (h.deferral (by simp [hperiod]))
      omega
    · intro h
      exact ⟨hrotation.mpr (by omega), fun _ => hdeferral.mpr (by omega),
        hattempt.mpr (by omega)⟩

/-! ## Along a run -/

/-- A deadline of the supervisor. -/
def Nym.Supervisor.Holds (s : Supervisor) (moment : Nat) : Prop :=
  s.rotateAt = some moment ∨ s.deferDeadline = some moment

/-- A deadline of the supervisor or of a lookup. -/
def Held (s : Supervised) (moment : Nat) : Prop :=
  s.supervisor.Holds moment ∨
    ∃ (i : Nat) (call : LookupCall), s.calls.lookups[i]? = some call ∧
      call.phase.deadline? = some moment

/-- Under a policy that adds no more than a bound, a step of the supervisor fixes deadlines
within the bound. -/
theorem holds_of_stepped {now inflight bound : Nat} {link link' : Link} {s s' : Supervisor}
    {o : List Supervisor.Observed}
    (h : Supervisor.Stepped now inflight link s s' link' o)
    (hperiod : ∀ period, s.policy.period = some period →
      max period s.policy.rebuildBackoff ≤ bound)
    (hdefer : s.policy.effectiveDeferLimit ≤ bound)
    (hheld : ∀ moment, s.Holds moment → moment ≤ now + bound) {moment : Nat}
    (hat : s'.Holds moment) : moment ≤ now + bound := by
  have hrestart : (s.restart now).Holds moment → moment ≤ now + bound := by
    intro hholds
    rcases hholds with hrotate | hdeferred
    · have hnext : nextRotation s.policy now = some moment := hrotate
      unfold nextRotation at hnext
      rcases Option.map_eq_some_iff.mp hnext with ⟨period, hsome, rfl⟩
      exact Nat.add_le_add_left (hperiod period hsome) now
    · cases hdeferred
  cases h with
  | signal | shutdown | hear | stopped | returned => exact hheld moment hat
  | rotate hphase hwake =>
    rcases hat with hrotate | hdeferred
    · rw [Supervisor.rotateAt_rotate] at hrotate
      exact hheld moment (.inl hrotate)
    · rw [Supervisor.deferDeadline_rotate] at hdeferred
      cases hdeferred
      unfold Supervisor.deadline
      cases hbefore : s.deferDeadline with
      | none => exact Nat.add_le_add_left hdefer now
      | some deadline => exact hheld deadline (.inr hbefore)
  | @asked cause commands hphase hreceiver hsend =>
    cases cause with
    | death => exact hheld moment hat
    | rotation => exact hrestart hat
  | rested hphase htill => exact hrestart hat

section Reachable

variable {config : Config} {s : Supervised} {t : List Supervised.Observed}

/-- The deadlines of the supervisor are within the longest wait of some moment that has
been. -/
theorem supervisor_held_of_runs
    (h : Runs Supervised.step (.initial config.rotationSecs config.lookupSecs) t s) {moment : Nat}
    (hat : s.supervisor.Holds moment) : moment ≤ s.calls.now + seconds config.longestWait := by
  cases hsecs : config.rotationSecs with
  | none =>
    rw [hsecs] at h
    have hnone := Supervised.unscheduled_of_runs h
    rcases hat with hrotate | hdeferred
    · rw [hnone.rotateAt] at hrotate
      contradiction
    · rw [hnone.deferDeadline] at hdeferred
      contradiction
  | some secs =>
    rcases waits_of_rotation hsecs with ⟨hbackoff, hlimit⟩
    have hlongest : config.longestWait = max (config.lookupSecs.getD 90) (max secs 90) := by
      simp [Config.longestWait, hsecs]
    have hperiod : ∀ period, config.policy.period = some period →
        max period config.policy.rebuildBackoff ≤ seconds config.longestWait := by
      intro period hsome
      rw [period_policy, hsecs] at hsome
      cases hsome
      rw [hbackoff, max_seconds, hlongest]
      unfold seconds
      omega
    have hdefer : config.policy.effectiveDeferLimit ≤ seconds config.longestWait := by
      rw [hlimit, hlongest]
      unfold seconds
      omega
    suffices hall : ∀ moment, s.supervisor.Holds moment →
        moment ≤ s.calls.now + seconds config.longestWait from hall moment hat
    refine h.invariant (P := fun _ s => ∀ moment, s.supervisor.Holds moment →
      moment ≤ s.calls.now + seconds config.longestWait) ?_ ?_
    · intro moment hholds
      rcases hholds with hrotate | hdeferred
      · have hnext : nextRotation config.policy 0 = some moment := hrotate
        unfold nextRotation at hnext
        rcases Option.map_eq_some_iff.mp hnext with ⟨period, hsome, rfl⟩
        exact Nat.add_le_add_left (hperiod period hsome) 0
      · cases hdeferred
    · intro t s e o s' hrun ih hstep moment hholds
      cases Supervised.stepped_of_step hstep with
      | calls hcalls =>
        exact Nat.le_trans (ih moment hholds)
          (Nat.add_le_add_right (Calls.now_step hcalls).1 _)
      | supervisor hsupervisor =>
        have hpolicy := Supervised.policy_of_runs hrun
        exact holds_of_stepped hsupervisor (hpolicy ▸ hperiod) (hpolicy ▸ hdefer) ih hholds
      | store | link => exact ih moment hholds

/-- The deadlines held along a run stay in range, as long as the clock, which read a moment
at the start, leaves room for the longest wait. -/
theorem held_of_runs {epoch : Nat}
    (h : Runs Supervised.step (.initial config.rotationSecs config.lookupSecs) t s)
    (hroom : (epoch + s.calls.now) / seconds 1 + config.longestWait < 2 ^ 63) {moment : Nat}
    (hat : Held s moment) : epoch + moment < instantEnd := by
  have hle : moment ≤ s.calls.now + seconds config.longestWait := by
    rcases hat with hsupervisor | ⟨i, call, hcall, hdeadline⟩
    · exact supervisor_held_of_runs h hsupervisor
    · have hwithin := Calls.deadline_of_runs (Supervised.calls_of_runs h) i call moment hcall
        hdeadline
      rw [Supervised.timeout_of_runs h, Config.lookupTimeout_eq] at hwithin
      apply Nat.le_trans hwithin
      unfold seconds Config.longestWait
      omega
  have hlt := (add_seconds_lt_iff (epoch + s.calls.now) config.longestWait).mpr hroom
  omega

end Reachable

/-- No deadline panics exactly when the moment's seconds leave room for the longest wait;
and along a run whose moments do, the deadlines of the supervisor and of the lookups are
instants. -/
theorem deadlines_inRange (config : Config) :
    (∀ now, InRange config now ↔ now / seconds 1 + config.longestWait < 2 ^ 63) ∧
    ∀ (epoch : Nat) (t : List Supervised.Observed) (s : Supervised),
      Runs Supervised.step (.initial config.rotationSecs config.lookupSecs) t s →
      (epoch + s.calls.now) / seconds 1 + config.longestWait < 2 ^ 63 →
      ∀ moment, Held s moment → epoch + moment < instantEnd :=
  ⟨inRange_iff config, fun _ _ _ h hroom _ hat => held_of_runs h hroom hat⟩

/-- A rotation each hour and a budget of two minutes for a lookup. -/
def hourlyConfig : Config :=
  ⟨none, ["identity.encryption@gateway"], true, some 3600, [], some 120⟩

/-- After an uptime of a million seconds its deadlines are instants, the first rotation's
among them. -/
theorem deadlines_inRange_hourly :
    InRange hourlyConfig (seconds 1000000) ∧
      ∃ (t : List Supervised.Observed) (s : Supervised) (moment : Nat),
        Runs Supervised.step (.initial hourlyConfig.rotationSecs hourlyConfig.lookupSecs) t s ∧
          Held s moment ∧ seconds 1000000 + moment < instantEnd := by
  have hroom : seconds 1000000 / seconds 1 + hourlyConfig.longestWait < 2 ^ 63 := by decide
  have hheld : Held (.initial hourlyConfig.rotationSecs hourlyConfig.lookupSecs)
      (seconds 3600) := .inl (.inl rfl)
  have hinstant := (deadlines_inRange hourlyConfig).2 (seconds 1000000) _ _ .refl hroom _ hheld
  exact ⟨((deadlines_inRange hourlyConfig).1 _).mpr hroom, _, _, _, .refl, hheld, hinstant⟩

/-- A period of as many seconds as the configuration takes: the supervisor panics as it
starts. -/
theorem deadlines_overflow :
    ¬ InRange ⟨none, ["identity.encryption@gateway"], true, some 18446744073709551615, [], none⟩
      0 := by
  intro h
  exact absurd h.rotation (by decide)

end ZeroShim
