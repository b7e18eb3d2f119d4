import ZeroShim.Library.Channel

/-!
# The supervisor

{lit}`run_supervisor`: it asks for a rebuild when the client died and when a rotation
is due.  Its steps are the stretches between its awaits; the clock, the published
count and the channels to the driver are handed to each step.  Durations are in
nanoseconds.

Main results:

- Theorem {lit}`stepped_of_step`: what a step can do.
- Theorem {lit}`rotating_of_asking`: a rotation is asked for by a supervisor that
  decided on it.
-/

namespace ZeroShim
namespace Nym

open Library

/-- The default budget of a lookup. -/
def requestTimeout : Nat := 90000000000

/-- How often a deferred rotation looks again. -/
def deferRecheck : Nat := 250000000

/-- What the driver reports. -/
inductive ClientEvent where
  | died
deriving DecidableEq, Repr

/-- What the driver is told. -/
inductive ClientCommand where
  | rebuild
  | disconnect
deriving DecidableEq, Repr

/-- The channels between the supervisor and the driver. -/
structure Link where
  events : Channel ClientEvent 8
  commands : Channel ClientCommand 8

def Link.empty : Link := ⟨.empty, .empty⟩

/-! ## Policy -/

/-- When the client's identity is rotated, and how patiently. -/
structure RotationPolicy where
  period : Option Nat
  deferLimit : Nat
  rebuildBackoff : Nat
deriving DecidableEq, Repr

namespace RotationPolicy

def never : RotationPolicy := ⟨none, requestTimeout, 5000000000⟩

def every (period : Nat) : RotationPolicy := { never with period := some period }

/-- The deferral a due rotation gets. -/
def effectiveDeferLimit (policy : RotationPolicy) : Nat := max policy.deferLimit requestTimeout

end RotationPolicy

/-- The next scheduled rotation, never sooner than the backoff. -/
def nextRotation (policy : RotationPolicy) (now : Nat) : Option Nat :=
  policy.period.map fun period => now + max period policy.rebuildBackoff

/-! ## The loop -/

/-- Why a rebuild is asked for. -/
inductive Cause where
  | death
  | rotation
deriving DecidableEq, Repr

namespace Supervisor

/-- Where the supervisor is. -/
inductive Phase where
  /-- In its {lit}`select!`, woken at a moment if at all. -/
  | watching (wake : Option Nat)
  /-- Sending {lit}`Rebuild`. -/
  | asking (cause : Cause)
  | backingOff (till : Nat)
  /-- Sending {lit}`Disconnect`. -/
  | disconnecting
  | returned
deriving DecidableEq, Repr

end Supervisor

/-- The supervisor and its locals. -/
structure Supervisor where
  policy : RotationPolicy
  rotateAt : Option Nat
  deferDeadline : Option Nat
  /-- The shutdown signal was given. -/
  shutdown : Bool
  phase : Supervisor.Phase
deriving DecidableEq, Repr

namespace Supervisor

/-- What a supervisor shows. -/
inductive Observed where
  | heard
  /-- A rotation came due, and waits for idleness no longer than a deadline. -/
  | due (deadline : Nat)
  /-- It goes ahead, having read a count. -/
  | rotating (inflight : Nat)
  /-- A {lit}`Rebuild` was accepted by the channel. -/
  | asked (cause : Cause)
  | stopped
  | returned
deriving DecidableEq, Repr

inductive Event where
  /-- The shutdown signal is given. -/
  | signal
  | shutdown
  | hear
  | wake
  /-- The {lit}`send` of a command completes. -/
  | sent
  | rested
deriving DecidableEq, Repr

/-- When the {lit}`select!` wakes by itself. -/
def wakeAt (s : Supervisor) (now : Nat) : Option Nat :=
  match s.deferDeadline, s.rotateAt with
  | some _, _ => some (now + deferRecheck)
  | none, some rotateAt => some rotateAt
  | none, none => none

/-- The head of the loop. -/
def watch (s : Supervisor) (now : Nat) : Supervisor :=
  { s with phase := .watching (s.wakeAt now) }

def start (policy : RotationPolicy) (now : Nat) : Supervisor :=
  watch ⟨policy, nextRotation policy now, none, false, .watching none⟩ now

/-- The rotation clock starts over. -/
def restart (s : Supervisor) (now : Nat) : Supervisor :=
  watch { s with rotateAt := nextRotation s.policy now, deferDeadline := none } now

/-- The supervisor returns, and drops its ends of the channels. -/
def leave (s : Supervisor) (link : Link) : Supervisor × Link × List Observed :=
  ({ s with phase := .returned }, ⟨link.events.dropReceiver, link.commands.dropSenders⟩,
    [.returned])

/-- The deadline of the rotation that is due, fixed when it comes due. -/
def deadline (s : Supervisor) (now : Nat) : Nat :=
  s.deferDeadline.getD (now + s.policy.effectiveDeferLimit)

/-- A rotation comes due where none was. -/
def comesDue (s : Supervisor) (now : Nat) : List Observed :=
  if s.deferDeadline = none then [.due (s.deadline now)] else []

/-- The wake: rotate, unless requests are in flight and the deadline has not passed. -/
def rotate (s : Supervisor) (now inflight : Nat) : Supervisor × List Observed :=
  let s' := { s with deferDeadline := some (s.deadline now) }
  if inflight ≠ 0 ∧ now < s.deadline now then (s'.watch now, s.comesDue now)
  else ({ s' with phase := .asking .rotation }, s.comesDue now ++ [.rotating inflight])

/-- What follows a {lit}`Rebuild` that was sent. -/
def afterAsking (s : Supervisor) (now : Nat) : Cause → Supervisor
  | .death => { s with phase := .backingOff (now + s.policy.rebuildBackoff) }
  | .rotation => s.restart now

/-- One step, at a moment and under a published count. -/
def step (now inflight : Nat) (link : Link) (s : Supervisor) (e : Event) :
    Option (Supervisor × Link × List Observed) :=
  match s.phase, e with
  | _, .signal => some ({ s with shutdown := true }, link, [])
  | .watching _, .shutdown =>
    if s.shutdown then some ({ s with phase := .disconnecting }, link, []) else none
  | .backingOff _, .shutdown =>
    if s.shutdown then some ({ s with phase := .disconnecting }, link, []) else none
  | .watching _, .hear =>
    match link.events.recv with
    | .item .died events =>
      some ({ s with phase := .asking .death }, { link with events := events }, [.heard])
    | .ended => some (s.leave link)
    | .pending => none
  | .watching (some wake), .wake =>
    if wake ≤ now then
      some ((s.rotate now inflight).1, link, (s.rotate now inflight).2)
    else none
  | .asking cause, .sent =>
    if link.commands.receiver then
      match link.commands.send .rebuild with
      | some commands =>
        some (s.afterAsking now cause, { link with commands := commands }, [.asked cause])
      | none => none
    else some (s.leave link)
  | .backingOff till, .rested => if till ≤ now then some (s.restart now, link, []) else none
  | .disconnecting, .sent =>
    if link.commands.receiver then
      match link.commands.send .disconnect with
      | some commands =>
        some ((s.leave link).1, ⟨link.events.dropReceiver, commands.dropSenders⟩,
          [.stopped, .returned])
      | none => none
    else some (s.leave link)
  | _, _ => none

/-! ## What a step can do -/

/-- The effects of a step. -/
inductive Stepped (now inflight : Nat) (link : Link) (s : Supervisor) :
    Supervisor → Link → List Observed → Prop where
  | signal : Stepped now inflight link s { s with shutdown := true } link []
  | shutdown : s.phase ≠ .returned → s.shutdown = true →
      Stepped now inflight link s { s with phase := .disconnecting } link []
  | hear {wake events} : s.phase = .watching wake → link.events.recv = .item .died events →
      Stepped now inflight link s { s with phase := .asking .death }
        { link with events := events } [.heard]
  | rotate {wake} : s.phase = .watching (some wake) → wake ≤ now →
      Stepped now inflight link s (s.rotate now inflight).1 link (s.rotate now inflight).2
  | asked {cause commands} : s.phase = .asking cause → link.commands.receiver = true →
      link.commands.send .rebuild = some commands →
      Stepped now inflight link s (s.afterAsking now cause)
        { link with commands := commands } [.asked cause]
  | rested {till} : s.phase = .backingOff till → till ≤ now →
      Stepped now inflight link s (s.restart now) link []
  | stopped {commands} : s.phase = .disconnecting → link.commands.receiver = true →
      link.commands.send .disconnect = some commands →
      Stepped now inflight link s { s with phase := .returned }
        ⟨link.events.dropReceiver, commands.dropSenders⟩ [.stopped, .returned]
  | returned : s.phase ≠ .returned →
      Stepped now inflight link s (s.leave link).1 (s.leave link).2.1 (s.leave link).2.2

theorem stepped_of_step {now inflight : Nat} {link link' : Link} {s s' : Supervisor} {e : Event}
    {o : List Observed} (h : s.step now inflight link e = some (s', link', o)) :
    Stepped now inflight link s s' link' o := by
  unfold step at h
  split at h
  · cases h
    exact .signal
  · next wake hphase =>
    split_ifs at h with hshutdown
    cases h
    exact .shutdown (by simp [hphase]) hshutdown
  · next till hphase =>
    split_ifs at h with hshutdown
    cases h
    exact .shutdown (by simp [hphase]) hshutdown
  · next wake hphase =>
    split at h
    · next events hrecv =>
      cases h
      exact .hear hphase hrecv
    · cases h
      exact .returned (by simp [hphase])
    · cases h
  · next wake hphase =>
    split_ifs at h with hwake
    cases h
    exact .rotate hphase hwake
  · next cause hphase =>
    split_ifs at h with hreceiver
    · split at h
      · next commands hsend =>
        cases h
        exact .asked hphase hreceiver hsend
      · cases h
    · cases h
      exact .returned (by simp [hphase])
  · next till hphase =>
    split_ifs at h with htill
    cases h
    exact .rested hphase htill
  · next hphase =>
    split_ifs at h with hreceiver
    · split at h
      · next commands hsend =>
        cases h
        exact .stopped hphase hreceiver hsend
      · cases h
    · cases h
      exact .returned (by simp [hphase])
  · cases h

/-! ## The locals along a step -/

section Locals

variable (s : Supervisor) (now inflight : Nat)

@[simp] theorem policy_watch : (s.watch now).policy = s.policy := rfl

@[simp] theorem deferDeadline_watch : (s.watch now).deferDeadline = s.deferDeadline := rfl

@[simp] theorem policy_restart : (s.restart now).policy = s.policy := rfl

@[simp] theorem deferDeadline_restart : (s.restart now).deferDeadline = none := rfl

@[simp] theorem policy_rotate : (s.rotate now inflight).1.policy = s.policy := by
  unfold rotate
  split_ifs <;> rfl

@[simp] theorem rotateAt_rotate : (s.rotate now inflight).1.rotateAt = s.rotateAt := by
  unfold rotate
  split_ifs <;> rfl

@[simp] theorem deferDeadline_rotate :
    (s.rotate now inflight).1.deferDeadline = some (s.deadline now) := by
  unfold rotate
  split_ifs <;> rfl

end Locals

/-- The policy never changes. -/
theorem policy_of_stepped {now inflight : Nat} {link link' : Link} {s s' : Supervisor}
    {o : List Observed} (h : Stepped now inflight link s s' link' o) : s'.policy = s.policy := by
  cases h with
  | rotate hphase hwake => exact policy_rotate s now inflight
  | @asked cause commands hphase hreceiver hsend => cases cause <;> rfl
  | signal | shutdown | hear | rested | stopped | returned => rfl

/-- Where nothing is scheduled, the supervisor never wakes by itself. -/
structure Unscheduled (s : Supervisor) : Prop where
  period : s.policy.period = none
  rotateAt : s.rotateAt = none
  deferDeadline : s.deferDeadline = none
  wake : ∀ wake, s.phase ≠ .watching (some wake)

theorem unscheduled_watch {s : Supervisor} (now : Nat) (hperiod : s.policy.period = none)
    (hrotate : s.rotateAt = none) (hdefer : s.deferDeadline = none) :
    Unscheduled (s.watch now) :=
  ⟨hperiod, hrotate, hdefer, by simp [watch, wakeAt, hrotate, hdefer]⟩

theorem unscheduled_restart {s : Supervisor} (now : Nat) (hperiod : s.policy.period = none) :
    Unscheduled (s.restart now) :=
  unscheduled_watch now hperiod (by simp [nextRotation, hperiod]) rfl

theorem Unscheduled.step {now inflight : Nat} {link link' : Link} {s s' : Supervisor}
    {o : List Observed} (h : Unscheduled s) (hstep : Stepped now inflight link s s' link' o) :
    Unscheduled s' ∧ ∀ deadline, .due deadline ∉ o := by
  cases hstep with
  | rotate hphase hwake => exact absurd hphase (h.wake _)
  | @asked cause commands hphase hreceiver hsend =>
    cases cause with
    | death => exact ⟨⟨h.period, h.rotateAt, h.deferDeadline, by simp [afterAsking]⟩, by simp⟩
    | rotation => exact ⟨unscheduled_restart now h.period, by simp⟩
  | rested hphase htill => exact ⟨unscheduled_restart now h.period, by simp⟩
  | signal => exact ⟨⟨h.period, h.rotateAt, h.deferDeadline, h.wake⟩, by simp⟩
  | shutdown | hear | stopped | returned =>
    exact ⟨⟨h.period, h.rotateAt, h.deferDeadline, by simp [leave]⟩, by simp [leave]⟩

/-- A rotation came due with a deadline, unless it was overtaken by a death or asked for. -/
def Deferring (deadline : Nat) (s : Supervisor) : Prop :=
  s.deferDeadline = some deadline ∨
    s.deferDeadline = none ∧ s.phase ≠ .asking .rotation

/-- What comes due has its deadline fixed, at a whole deferral from then. -/
theorem due_of_stepped {now inflight deadline : Nat} {link link' : Link} {s s' : Supervisor}
    {o : List Observed} (h : Stepped now inflight link s s' link' o)
    (hdue : .due deadline ∈ o) :
    deadline = now + s.policy.effectiveDeferLimit ∧ s'.deferDeadline = some deadline ∧
      link' = link ∧ (s'.phase = .asking .rotation → inflight = 0 ∨ deadline ≤ now) := by
  cases h with
  | rotate hphase hwake =>
    have hcomes : .due deadline ∈ s.comesDue now := by
      unfold rotate at hdue
      split_ifs at hdue
      · exact hdue
      · simpa using hdue
    unfold comesDue at hcomes
    split_ifs at hcomes with hnone
    · simp only [List.mem_singleton, Observed.due.injEq] at hcomes
      have hlimit : s.deadline now = now + s.policy.effectiveDeferLimit := by
        simp [Supervisor.deadline, hnone]
      refine ⟨hcomes.trans hlimit, ?_, rfl, ?_⟩
      · rw [deferDeadline_rotate, hcomes]
      · intro hasking
        unfold rotate at hasking
        split_ifs at hasking with hwait
        · cases hasking
        · omega
    · cases hcomes
  | signal | shutdown | hear | asked | rested | stopped | returned => simp [leave] at hdue

/-- Until another rotation comes due, the deadline stands, and a rotation goes ahead only
once it has passed or nothing is in flight. -/
theorem Deferring.step {now inflight deadline : Nat} {link link' : Link} {s s' : Supervisor}
    {o : List Observed} (h : Deferring deadline s)
    (hstep : Stepped now inflight link s s' link' o) (hsame : ∀ other, .due other ∉ o) :
    Deferring deadline s' ∧
      (s'.phase = .asking .rotation →
        s.phase = .asking .rotation ∨ deadline ≤ now ∨ inflight = 0) := by
  cases hstep with
  | rotate hphase hwake =>
    rcases h with hfixed | ⟨hnone, -⟩
    · have hdeadline : s.deadline now = deadline := by simp [Supervisor.deadline, hfixed]
      refine ⟨.inl (by rw [deferDeadline_rotate, hdeadline]), fun hasking => ?_⟩
      unfold rotate at hasking
      split_ifs at hasking with hwait
      · cases hasking
      · omega
    · refine absurd ?_ (hsame (s.deadline now))
      unfold rotate comesDue
      split_ifs <;> simp
  | @asked cause commands hphase hreceiver hsend =>
    cases cause with
    | death =>
      exact ⟨h.imp_right fun hnone => ⟨hnone.1, by simp [afterAsking]⟩, by simp [afterAsking]⟩
    | rotation =>
      exact ⟨.inr ⟨rfl, by simp [afterAsking, restart, watch]⟩,
        by simp [afterAsking, restart, watch]⟩
  | rested hphase htill =>
    exact ⟨.inr ⟨rfl, by simp [restart, watch]⟩, by simp [restart, watch]⟩
  | signal => exact ⟨h, fun hasking => .inl hasking⟩
  | shutdown | hear | stopped | returned =>
    exact ⟨h.imp_right fun hnone => ⟨hnone.1, by simp [leave]⟩, by simp [leave]⟩

/-- Going ahead before the deadline needs idleness. -/
theorem rotating_of_stepped {now inflight n : Nat} {link link' : Link} {s s' : Supervisor}
    {o : List Observed} (h : Stepped now inflight link s s' link' o) (hmem : .rotating n ∈ o) :
    n = inflight ∧ (now < s.deadline now → n = 0) := by
  cases h with
  | rotate hphase hwake =>
    have hcomes : .rotating n ∉ s.comesDue now := by
      unfold comesDue
      split_ifs <;> simp
    unfold rotate at hmem
    split_ifs at hmem with hwait
    · exact absurd hmem hcomes
    · rw [List.mem_append] at hmem
      rcases hmem with hmem | hmem
      · exact absurd hmem hcomes
      · simp only [List.mem_singleton, Observed.rotating.injEq] at hmem
        omega
  | signal | shutdown | hear | asked | rested | stopped | returned => simp [leave] at hmem

/-- The deadline of a rotation that comes due and goes ahead in one step. -/
theorem deadline_of_due {now inflight deadline : Nat} {link link' : Link} {s s' : Supervisor}
    {o : List Observed} (h : Stepped now inflight link s s' link' o)
    (hdue : .due deadline ∈ o) : s.deadline now = deadline := by
  rcases due_of_stepped h hdue with ⟨-, hfixed, -⟩
  cases h with
  | rotate hphase hwake => simpa using hfixed
  | signal | shutdown | hear | asked | rested | stopped | returned => simp [leave] at hdue

/-- The deadline of one that goes ahead later. -/
theorem Deferring.deadline_eq {now inflight deadline n : Nat} {link link' : Link}
    {s s' : Supervisor} {o : List Observed} (h : Deferring deadline s)
    (hstep : Stepped now inflight link s s' link' o) (hmem : .rotating n ∈ o)
    (hsame : ∀ other, .due other ∉ o) : s.deadline now = deadline := by
  cases hstep with
  | rotate hphase hwake =>
    rcases h with hfixed | ⟨hnone, -⟩
    · simp [Supervisor.deadline, hfixed]
    · refine absurd ?_ (hsame (s.deadline now))
      unfold rotate comesDue
      split_ifs <;> simp
  | signal | shutdown | hear | asked | rested | stopped | returned => simp [leave] at hmem

/-- A supervisor asks for a rotation once it went ahead with one. -/
theorem rotating_of_asking {now inflight : Nat} {link link' : Link} {s s' : Supervisor}
    {o : List Observed} (h : Stepped now inflight link s s' link' o)
    (hasking : s'.phase = .asking .rotation) :
    (s.phase = .asking .rotation ∧ ∀ deadline, .due deadline ∉ o) ∨ .rotating inflight ∈ o := by
  cases h with
  | rotate hphase hwake =>
    refine .inr ?_
    unfold rotate at hasking ⊢
    split_ifs at hasking ⊢
    · cases hasking
    · simp
  | @asked cause commands hphase hreceiver hsend =>
    cases cause <;> simp [afterAsking, restart, watch] at hasking
  | signal => exact .inl ⟨hasking, by simp⟩
  | shutdown | hear | rested | stopped | returned => simp [leave, restart, watch] at hasking

/-- A rebuild for a rotation is sent by a supervisor that went ahead with one. -/
theorem asking_of_asked {now inflight : Nat} {link link' : Link} {s s' : Supervisor}
    {cause : Cause} {o : List Observed} (h : Stepped now inflight link s s' link' o)
    (hmem : .asked cause ∈ o) : s.phase = .asking cause := by
  cases h with
  | asked hphase hreceiver hsend =>
    simp only [List.mem_singleton, Observed.asked.injEq] at hmem
    rw [hmem]
    exact hphase
  | rotate hphase hwake =>
    unfold rotate comesDue at hmem
    split_ifs at hmem <;> simp at hmem
  | signal | shutdown | hear | rested | stopped | returned => simp [leave] at hmem

end Supervisor

end Nym
end ZeroShim
