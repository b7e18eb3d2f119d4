import ZeroShim.Nym.Pacing

/-!
# The linkage window

How long a client may keep its identity: in a run where ready timers fire before time
passes and commands find room, the time since the last rebuild is bounded whatever the
in-flight count does.

Main results:

- Theorem {lit}`within_step`: what a step keeps of the schedule, relative to the last rebuild.
- Theorem {lit}`deferral_of_runs`: the deadline of a due rotation is fixed when it comes due.
- Theorem {lit}`goesOn_of_running`: nothing but a shutdown holds the clock up for good.
- Theorem {lit}`window_bounded`: the window is bounded, and deferring never extends it.
-/

namespace ZeroShim
namespace Nym

open Library

/-! ## A due rotation -/

namespace Supervisor

/-- The deadline of a due rotation stands. -/
def Stands (deadline : Nat) (s : Supervisor) : Prop :=
  s.deferDeadline = some deadline ∧ ∀ till, s.phase ≠ .backingOff till

section Moves

variable {now inflight deadline : Nat} {link link' : Link} {s s' : Supervisor} {e : Event}
  {o : List Observed}

theorem phase_rotate (s : Supervisor) (now inflight till : Nat) :
    (s.rotate now inflight).1.phase ≠ .backingOff till := by
  unfold rotate
  split_ifs <;> simp [watch]

/-- It stands until a rebuild is sent. -/
theorem Stands.moves (h : Stands deadline s) (hmoves : Moves now inflight link s e s' link' o)
    (ho : ∀ cause, .asked cause ∉ o) : Stands deadline s' := by
  rcases h with ⟨hdeadline, hphase⟩
  cases hmoves with
  | wake hwatching hmoment =>
    refine ⟨?_, fun till => phase_rotate s now inflight till⟩
    rw [deferDeadline_rotate, Supervisor.deadline, hdeadline]
    rfl
  | @asked cause commands hasking hreceiver hsend => exact absurd (by simp) (ho cause)
  | rested hbacking htill => exact absurd hbacking (hphase _)
  | signal => exact ⟨hdeadline, hphase⟩
  | shutdown | hear | ended | stopped | refused => exact ⟨hdeadline, by simp [leave]⟩

/-- What comes due has its deadline fixed, a whole deferral later. -/
theorem stands_of_due (hmoves : Moves now inflight link s e s' link' o)
    (hdue : .due deadline ∈ o) :
    deadline = now + s.policy.effectiveDeferLimit ∧ Stands deadline s' := by
  cases hmoves with
  | wake hwatching hmoment =>
    have hrotates : Stepped now inflight link s (s.rotate now inflight).1 link
        (s.rotate now inflight).2 := .rotate hwatching hmoment
    rcases due_of_stepped hrotates hdue with ⟨hlimit, hfixed, -⟩
    exact ⟨hlimit, hfixed, fun till => phase_rotate s now inflight till⟩
  | signal | shutdown | hear | ended | asked | stopped | refused | rested =>
    simp [leave] at hdue

end Moves

end Supervisor

namespace Timed

/-! ## Timely runs -/

/-- Time may pass: no timer is overtaken, and nothing is ready to be sent. -/
def prompt (s : Timed) (d : Nat) : Bool :=
  match s.supervisor.phase with
  | .watching (some moment) => s.now + d ≤ moment
  | .watching none => true
  | .asking _ => d = 0
  | .backingOff till => s.now + d ≤ till
  | .disconnecting => d = 0
  | .returned => true

/-- The command channel has room, ready timers fire before time passes, and the shutdown
signal is not given. -/
def timely (s : Timed) (e : Event) : Bool :=
  s.link.commands.queue.length + s.link.commands.reserved < 8 &&
    match e with
    | .pass d => prompt s d
    | .supervisor _ .signal => false
    | _ => true

/-- The steps of a timely run. -/
abbrev timelyStep : Transition Timed Event Observed :=
  guarded step fun s e => timely s e = true

/-- When the last rebuild was sent, or the start. -/
def lastRebuild (t : List Observed) : Nat :=
  t.foldl (fun last x => if x.sight.asks = none then last else x.time) 0

@[simp] theorem lastRebuild_nil : lastRebuild [] = 0 := rfl

theorem lastRebuild_append {t o : List Observed} (ho : ∀ x ∈ o, x.sight.asks = none) :
    lastRebuild (t ++ o) = lastRebuild t := by
  unfold lastRebuild
  rw [List.foldl_append]
  generalize t.foldl _ 0 = last
  induction o with
  | nil => rfl
  | cons x o ih =>
    rw [List.foldl_cons, if_pos (ho x List.mem_cons_self)]
    exact ih fun y hy => ho y (List.mem_cons_of_mem x hy)

@[simp] theorem lastRebuild_asked (t : List Observed) (time : Nat) (cause : Cause) :
    lastRebuild (t ++ [⟨time, .supervisor (.asked cause)⟩]) = time := by
  unfold lastRebuild
  rw [List.foldl_append]
  rfl

/-! ## The schedule -/

/-- How long after a rebuild the next rotation is due at the latest. -/
def dueWithin (policy : RotationPolicy) (period : Nat) : Nat :=
  policy.rebuildBackoff + max period policy.rebuildBackoff

/-- How long after a rebuild the next one is sent at the latest. -/
def windowBound (policy : RotationPolicy) (period : Nat) : Nat :=
  dueWithin policy period + policy.effectiveDeferLimit + deferRecheck

/-- The schedule of a supervisor that listens: the next rotation, or the deadline of the one
that is due, relative to the last rebuild. -/
def Scheduled (policy : RotationPolicy) (period last now : Nat) (s : Supervisor)
    (wake : Option Nat) : Prop :=
  ∃ moment, wake = some moment ∧ now ≤ moment ∧
    (s.deferDeadline = none ∧ moment ≤ last + dueWithin policy period ∨
      ∃ deadline, s.deferDeadline = some deadline ∧
        deadline ≤ last + dueWithin policy period + policy.effectiveDeferLimit ∧
        moment ≤ deadline + deferRecheck)

/-- Where the supervisor is between two rebuilds. -/
def Within (policy : RotationPolicy) (period : Nat) (t : List Observed) (s : Timed) : Prop :=
  match s.supervisor.phase with
  | .watching wake => Scheduled policy period (lastRebuild t) s.now s.supervisor wake
  | .asking _ => s.now ≤ lastRebuild t + windowBound policy period
  | .backingOff till => s.now ≤ till ∧ till = lastRebuild t + policy.rebuildBackoff
  | .disconnecting => False
  | .returned => ∃ time, ⟨time, .lost⟩ ∈ t

theorem Scheduled.le {policy : RotationPolicy} {period last now : Nat} {s : Supervisor}
    {wake : Option Nat} (h : Scheduled policy period last now s wake) :
    now ≤ last + windowBound policy period := by
  rcases h with ⟨moment, -, hnow, hdue⟩
  unfold windowBound
  cases hdue with
  | inl hnext =>
    have hmoment := hnext.2
    omega
  | inr hdeferred =>
    rcases hdeferred with ⟨deadline, -, hdeadline, hmoment⟩
    omega

/-- The window that {lit}`Within` bounds. -/
theorem Within.le {policy : RotationPolicy} {period : Nat} {t : List Observed} {s : Timed}
    (h : Within policy period t s) : s.now ≤ lastRebuild t + windowBound policy period ∨
      s.supervisor.phase = .returned ∧ ∃ time, ⟨time, .lost⟩ ∈ t := by
  unfold Within at h
  cases hphase : s.supervisor.phase with
  | watching wake =>
    rw [hphase] at h
    exact .inl h.le
  | asking cause =>
    rw [hphase] at h
    exact .inl h
  | backingOff till =>
    rw [hphase] at h
    refine .inl ?_
    have hnow := h.1
    have htill := h.2
    unfold windowBound dueWithin
    omega
  | disconnecting =>
    rw [hphase] at h
    exact h.elim
  | returned =>
    rw [hphase] at h
    exact .inr ⟨rfl, h⟩

/-- A clock that starts over schedules the next rotation. -/
theorem scheduled_restart {policy : RotationPolicy} {period last now : Nat} {s : Supervisor}
    (hpolicy : s.policy = policy) (hperiod : policy.period = some period)
    (hnow : now ≤ last + policy.rebuildBackoff) :
    Scheduled policy period last now (s.restart now) ((s.restart now).wakeAt now) := by
  refine ⟨now + max period policy.rebuildBackoff, ?_, Nat.le_add_right _ _, .inl ⟨rfl, ?_⟩⟩
  · simp [Supervisor.restart, Supervisor.watch, Supervisor.wakeAt, nextRotation, hpolicy, hperiod]
  · unfold dueWithin
    omega

/-- A wake goes ahead, or waits for a deadline that was fixed when the rotation came due. -/
theorem scheduled_rotate {policy : RotationPolicy} {period last now inflight : Nat}
    {s : Supervisor} (hpolicy : s.policy = policy)
    (h : Scheduled policy period last now s (some now))
    (hwait : inflight ≠ 0 ∧ now < s.deadline now) :
    Scheduled policy period last now (s.rotate now inflight).1 (some (now + deferRecheck)) := by
  refine ⟨now + deferRecheck, rfl, Nat.le_add_right _ _, .inr ⟨s.deadline now, ?_, ?_, ?_⟩⟩
  · exact Supervisor.deferDeadline_rotate s now inflight
  · rcases h with ⟨moment, hmoment, -, hdue⟩
    cases hmoment
    cases hdue with
    | inl hnext =>
      rcases hnext with ⟨hnone, hle⟩
      rw [Supervisor.deadline, hnone, hpolicy]
      exact Nat.add_le_add_right hle _
    | inr hdeferred =>
      rcases hdeferred with ⟨deadline, hsome, hle, -⟩
      rw [Supervisor.deadline, hsome]
      exact hle
  · have hlt := hwait.2
    omega

/-! ## What goes with it -/

/-- The driver returned where its channel ends are gone. -/
def DriverKept (t : List Observed) (link : Link) : Prop :=
  link.events.senders = false ∨ link.commands.receiver = false → ∃ time, ⟨time, .lost⟩ ∈ t

theorem DriverKept.append {t : List Observed} {link link' : Link} (h : DriverKept t link)
    (hsenders : link'.events.senders = link.events.senders)
    (hreceiver : link'.commands.receiver = link.commands.receiver) (o : List Observed) :
    DriverKept (t ++ o) link' := by
  intro hgone
  rw [hsenders, hreceiver] at hgone
  rcases h hgone with ⟨time, hlost⟩
  exact ⟨time, List.mem_append_left o hlost⟩

/-- The supervisor does not touch the driver's ends. -/
theorem ends_of_moves {now inflight : Nat} {link link' : Link} {s s' : Supervisor}
    {e : Supervisor.Event} {o : List Supervisor.Observed}
    (h : Supervisor.Moves now inflight link s e s' link' o) :
    link'.events.senders = link.events.senders ∧
      link'.commands.receiver = link.commands.receiver := by
  cases h with
  | hear hphase hrecv => exact ⟨(Channel.of_recv hrecv).2.2.1, rfl⟩
  | asked hphase hreceiver hsend => exact ⟨rfl, (Channel.of_send hsend).2.2.2⟩
  | stopped hphase hreceiver hsend => exact ⟨rfl, (Channel.of_send hsend).2.2.2⟩
  | signal | shutdown | ended | wake | refused | rested => exact ⟨rfl, rfl⟩

theorem driverKept_of_runs {policy : RotationPolicy} {s : Timed} {t : List Observed}
    (h : Runs step (start policy) t s) : DriverKept t s.link := by
  refine h.invariant (P := fun t s => DriverKept t s.link) ?_ ?_
  · intro hgone
    cases hgone with
    | inl hsenders => cases hsenders
    | inr hreceiver => cases hreceiver
  · intro t s e o s' _ ih hstep
    cases stepped_of_step hstep with
    | pass he => exact ih.append rfl rfl _
    | supervisor he hmoves =>
      rcases ends_of_moves hmoves with ⟨hsenders, hreceiver⟩
      exact ih.append hsenders hreceiver _
    | link hsenders hreceiver => exact ih.append hsenders hreceiver _
    | lost => exact fun _ => ⟨s.now, by simp⟩

/-- No shutdown is seen where none is signalled. -/
theorem shutdown_of_timely {policy : RotationPolicy} {s : Timed} {t : List Observed}
    (h : Runs timelyStep (start policy) t s) : s.supervisor.shutdown = false := by
  refine h.always (P := fun s => s.supervisor.shutdown = false) rfl ?_
  intro s e o s' ih hstep
  rcases of_guarded hstep with ⟨htimely, hstep⟩
  cases stepped_of_step hstep with
  | @supervisor inflight e' supervisor link o he hmoves =>
    cases hmoves with
    | signal =>
      rw [he] at htimely
      simp [timely] at htimely
    | wake hphase hmoment =>
      unfold Supervisor.rotate
      split_ifs <;> exact ih
    | @asked cause commands hphase hreceiver hsend => cases cause <;> exact ih
    | shutdown | hear | ended | stopped | refused | rested => exact ih
  | pass | link | lost => exact ih

/-! ## One step -/

section Step

variable {policy : RotationPolicy} {period : Nat} {s s' : Timed} {t o : List Observed}
  {e : Event}

/-- Time passes no further than the schedule. -/
theorem Within.pass (h : Within policy period t s) {d : Nat} (hprompt : prompt s d = true) :
    Within policy period t { s with now := s.now + d } := by
  unfold prompt at hprompt
  unfold Within at h ⊢
  dsimp only
  cases hphase : s.supervisor.phase with
  | watching wake =>
    rw [hphase] at h hprompt
    rcases h with ⟨moment, rfl, -, hdue⟩
    exact ⟨moment, rfl, by simpa using hprompt, hdue⟩
  | asking cause =>
    rw [hphase] at h hprompt
    have hzero : d = 0 := by simpa using hprompt
    rw [hzero]
    exact h
  | backingOff till =>
    rw [hphase] at h hprompt
    exact ⟨by simpa using hprompt, h.2⟩
  | disconnecting =>
    rw [hphase] at h
    exact h
  | returned =>
    rw [hphase] at h
    exact h

/-- What asks for nothing leaves the schedule where the phase stays. -/
theorem Within.append (h : Within policy period t s)
    (hsupervisor : s'.supervisor = s.supervisor) (hnow : s'.now = s.now)
    (ho : ∀ x ∈ o, x.sight.asks = none) : Within policy period (t ++ o) s' := by
  unfold Within at h ⊢
  rw [hsupervisor, hnow, lastRebuild_append ho]
  cases hphase : s.supervisor.phase with
  | returned =>
    rw [hphase] at h
    rcases h with ⟨time, hlost⟩
    exact ⟨time, List.mem_append_left o hlost⟩
  | watching | asking | backingOff | disconnecting =>
    rw [hphase] at h
    exact h

/-- What a step keeps of the schedule. -/
theorem within_step (hpolicy : s.supervisor.policy = policy)
    (hperiod : policy.period = some period) (hkept : DriverKept t s.link)
    (hshutdown : s.supervisor.shutdown = false) (h : Within policy period t s)
    (htimely : timely s e = true) (hstep : Stepped s e s' o) :
    Within policy period (t ++ o) s' := by
  cases hstep with
  | @pass d he =>
    rw [he] at htimely
    rw [List.append_nil]
    simp only [timely, Bool.and_eq_true] at htimely
    exact h.pass htimely.2
  | link hsenders hreceiver => exact h.append rfl rfl (by simp)
  | lost => exact h.append rfl rfl (by simp [Sight.asks])
  | @supervisor inflight e' supervisor link o he hmoves =>
    cases hmoves with
    | signal =>
      rw [he] at htimely
      simp [timely] at htimely
    | shutdown hphase hgiven =>
      rw [hshutdown] at hgiven
      cases hgiven
    | @hear wake events hphase hrecv =>
      unfold Within at h ⊢
      rw [hphase] at h
      rw [lastRebuild_append (asks_shown (by simp))]
      exact h.le
    | @ended wake hphase hrecv =>
      rcases hkept (.inl (Channel.of_recv_ended hrecv).2) with ⟨time, hlost⟩
      exact ⟨time, List.mem_append_left _ hlost⟩
    | @wake moment hphase hmoment =>
      unfold Within at h
      rw [hphase] at h
      have hnow : moment = s.now := by
        rcases h with ⟨other, hother, hle, -⟩
        cases hother
        exact Nat.le_antisymm hmoment hle
      have hlast := lastRebuild_append (t := t) (@asks_shown s.now .wake _
        (asked_notMem_rotate s.supervisor s.now inflight))
      unfold Within
      rw [hlast]
      by_cases hwait : inflight ≠ 0 ∧ s.now < s.supervisor.deadline s.now
      · have hscheduled := scheduled_rotate hpolicy (hnow ▸ h) hwait
        rw [Supervisor.rotate, if_pos hwait] at hscheduled ⊢
        exact hscheduled
      · rw [Supervisor.rotate, if_neg hwait]
        exact h.le
    | @asked cause commands hphase hreceiver hsend =>
      unfold Within
      cases cause with
      | death =>
        dsimp only [Supervisor.afterAsking]
        rw [hpolicy]
        exact ⟨Nat.le_add_right _ _, by simp [shown, announce]⟩
      | rotation =>
        have hscheduled : Scheduled policy period s.now s.now (s.supervisor.restart s.now)
            ((s.supervisor.restart s.now).wakeAt s.now) :=
          scheduled_restart hpolicy hperiod (Nat.le_add_right _ _)
        have hlast : lastRebuild (t ++ (shown .sent [.asked .rotation]).map
            (Observed.mk s.now)) = s.now := lastRebuild_asked t s.now .rotation
        rw [hlast]
        exact hscheduled
    | stopped hphase hreceiver hsend =>
      unfold Within at h
      rw [hphase] at h
      exact h.elim
    | refused hphase hreceiver =>
      rcases hkept (.inr hreceiver) with ⟨time, hlost⟩
      exact ⟨time, List.mem_append_left _ hlost⟩
    | @rested till hphase htill =>
      unfold Within at h ⊢
      rw [hphase] at h
      rw [lastRebuild_append (asks_shown (by simp))]
      have hnow := h.1
      have hrested := h.2
      have hbefore : s.now ≤ lastRebuild t + policy.rebuildBackoff := by omega
      exact scheduled_restart hpolicy hperiod hbefore

end Step

/-! ## What holds the clock up -/

/-- The steps of the supervisor alone, under one count. -/
abbrev ownStep (inflight : Nat) : Transition Timed Supervisor.Event Observed :=
  fun s e => timelyStep s (.supervisor inflight e)

/-- Where commands find room, the supervisor by itself comes to let time pass, or sends a
rebuild, whatever count it reads. -/
def GoesOn (s : Timed) : Prop :=
  s.link.commands.queue.length + s.link.commands.reserved < 8 →
  ∀ inflight, ∃ o s', Runs (ownStep inflight) s o s' ∧
    (prompt s' 1 = true ∨ ∃ x ∈ o, x.sight.asks ≠ none)

section GoesOn

variable {s s' : Timed} {o : List Observed}

theorem ownStep_eq {inflight : Nat} {e : Supervisor.Event} {supervisor : Supervisor} {link : Link}
    {o : List Supervisor.Observed}
    (hroom : s.link.commands.queue.length + s.link.commands.reserved < 8) (he : e ≠ .signal)
    (h : s.supervisor.step s.now inflight s.link e = some (supervisor, link, o)) :
    ownStep inflight s e =
      some ({ s with supervisor, link }, (shown e o).map (Observed.mk s.now)) := by
  have htimely : timely s (.supervisor inflight e) = true := by
    cases e <;> simp_all [timely]
  simp [guarded, htimely, step, h]

theorem goesOn_of_prompt (h : prompt s 1 = true) : GoesOn s :=
  fun _ _ => ⟨[], s, .refl, .inl h⟩

/-- A rebuild that is asked for is sent, unless nobody is left to take it. -/
theorem goesOn_asking {cause : Cause} (hphase : s.supervisor.phase = .asking cause) :
    GoesOn s := by
  intro hroom inflight
  cases hreceiver : s.link.commands.receiver with
  | true =>
    have hsend : ∃ commands, s.link.commands.send .rebuild = some commands := by
      simp [Channel.send, hroom]
    rcases hsend with ⟨commands, hsend⟩
    have hstep : s.supervisor.step s.now inflight s.link .sent =
        some (s.supervisor.afterAsking s.now cause, { s.link with commands }, [.asked cause]) := by
      simp [Supervisor.step, hphase, hreceiver, hsend]
    refine ⟨_, _, .single (ownStep_eq hroom (by simp) hstep), .inr ?_⟩
    exact ⟨⟨s.now, .supervisor (.asked cause)⟩, by simp [shown, announce], by simp [Sight.asks]⟩
  | false =>
    have hstep : s.supervisor.step s.now inflight s.link .sent =
        some (s.supervisor.leave s.link) := by
      simp [Supervisor.step, hphase, hreceiver]
    exact ⟨_, _, .single (ownStep_eq hroom (by simp) hstep), .inl rfl⟩

/-- What goes on from a state goes on from the one before it. -/
theorem GoesOn.before {inflight : Nat} {e : Supervisor.Event}
    (hstep : ownStep inflight s e = some (s', o)) (h : GoesOn s') (hlink : s'.link = s.link)
    (hroom : s.link.commands.queue.length + s.link.commands.reserved < 8) :
    ∃ o s', Runs (ownStep inflight) s o s' ∧
      (prompt s' 1 = true ∨ ∃ x ∈ o, x.sight.asks ≠ none) := by
  rcases h (by rw [hlink]; exact hroom) inflight with ⟨o', s'', hrun, hdone⟩
  refine ⟨_, _, (Runs.single hstep).trans hrun, hdone.imp_right ?_⟩
  rintro ⟨x, hx, hasks⟩
  exact ⟨x, List.mem_append_right _ hx, hasks⟩

/-- A wake that is due defers the rotation or goes ahead with it. -/
theorem goesOn_watching {wake : Option Nat} (hphase : s.supervisor.phase = .watching wake) :
    GoesOn s := by
  cases wake with
  | none => exact goesOn_of_prompt (by simp [prompt, hphase])
  | some moment =>
    by_cases hearly : s.now + 1 ≤ moment
    · exact goesOn_of_prompt (by simp [prompt, hphase, hearly])
    · intro hroom inflight
      have hdue : moment ≤ s.now := Nat.le_of_lt_succ (Nat.lt_of_not_le hearly)
      have hstep : s.supervisor.step s.now inflight s.link .wake =
          some ((s.supervisor.rotate s.now inflight).1, s.link,
            (s.supervisor.rotate s.now inflight).2) := by
        simp [Supervisor.step, hphase, hdue]
      have hown := ownStep_eq hroom (show Supervisor.Event.wake ≠ .signal by simp) hstep
      refine GoesOn.before hown ?_ rfl hroom
      unfold Supervisor.rotate
      split_ifs with hwait
      · refine goesOn_of_prompt ?_
        simp [prompt, Supervisor.watch, Supervisor.wakeAt, deferRecheck]
      · exact goesOn_asking rfl

/-- Short of a shutdown nothing holds the clock up for good. -/
theorem goesOn_of_running (hrunning : s.supervisor.phase ≠ .disconnecting) : GoesOn s := by
  cases hphase : s.supervisor.phase with
  | watching wake => exact goesOn_watching hphase
  | asking cause => exact goesOn_asking hphase
  | backingOff till =>
    by_cases hearly : s.now + 1 ≤ till
    · exact goesOn_of_prompt (by simp [prompt, hphase, hearly])
    · intro hroom inflight
      have hdue : till ≤ s.now := Nat.le_of_lt_succ (Nat.lt_of_not_le hearly)
      have hstep : s.supervisor.step s.now inflight s.link .rested =
          some (s.supervisor.restart s.now, s.link, []) := by
        simp [Supervisor.step, hphase, hdue]
      have hown := ownStep_eq hroom (show Supervisor.Event.rested ≠ .signal by simp) hstep
      exact GoesOn.before hown (goesOn_watching rfl) rfl hroom
  | disconnecting => exact absurd hphase hrunning
  | returned => exact goesOn_of_prompt (by simp [prompt, hphase])

end GoesOn

/-! ## Along a run -/

section Reachable

variable {policy : RotationPolicy} {period : Nat} {s : Timed} {t : List Observed}

theorem within_of_timely (hperiod : policy.period = some period)
    (h : Runs timelyStep (start policy) t s) : Within policy period t s := by
  refine h.invariant (P := Within policy period) ?_ ?_
  · refine ⟨max period policy.rebuildBackoff, ?_, Nat.zero_le _, .inl ⟨rfl, ?_⟩⟩
    · simp [Supervisor.wakeAt, nextRotation, hperiod]
    · simp only [lastRebuild_nil, dueWithin]
      omega
  · intro t s e o s' hrun ih hstep
    rcases of_guarded hstep with ⟨htimely, hstep⟩
    exact within_step (policy_of_runs hrun.of_guarded) hperiod
      (driverKept_of_runs hrun.of_guarded) (shutdown_of_timely hrun) ih htimely
      (stepped_of_step hstep)

/-- The deadline of a due rotation, and that it stands until a rebuild is sent. -/
def Deferral (policy : RotationPolicy) (t : List Observed) (s : Timed) : Prop :=
  ∀ before after moment deadline,
    t = before ++ ⟨moment, .supervisor (.due deadline)⟩ :: after →
    deadline = moment + policy.effectiveDeferLimit ∧
      ((∀ x ∈ after, x.sight.asks = none) → Supervisor.Stands deadline s.supervisor)

/-- The deadline of a due rotation is fixed when it comes due. -/
theorem deferral_of_runs (h : Runs step (start policy) t s) : Deferral policy t s := by
  apply h.invariant (P := Deferral policy) (by simp [Deferral])
  intro t s e o s' hrun ih hstep before after moment deadline hsplit
  cases split_of_append hsplit with
  | inl hold =>
    rcases hold with ⟨rest, ht, rfl⟩
    rcases ih before rest moment deadline ht with ⟨hdeadline, hstands⟩
    refine ⟨hdeadline, fun hquiet => ?_⟩
    have hbefore := hstands fun x hx => hquiet x (List.mem_append_left o hx)
    cases stepped_of_step hstep with
    | @supervisor inflight e' supervisor link o he hmoves =>
      apply hbefore.moves hmoves
      intro cause hasked
      have hnone := hquiet ⟨s.now, .supervisor (.asked cause)⟩ (by simp [shown, hasked])
      cases hnone
    | pass | link | lost => exact hbefore
  | inr hnew =>
    rcases hnew with ⟨front, -, ho⟩
    have hmem : ⟨moment, .supervisor (.due deadline)⟩ ∈ o := by simp [ho]
    have hstepped := stepped_of_step hstep
    have htime := (time_of_stepped hstepped).2 _ hmem
    cases hstepped with
    | pass he => cases hmem
    | link hsenders hreceiver => cases hmem
    | lost => simp at hmem
    | @supervisor inflight e' supervisor link o he hmoves =>
      have hdue : .due deadline ∈ o := by
        cases (mem_shown hmem).2 with
        | inl hannounced => cases e' <;> simp [announce] at hannounced
        | inr heffect =>
          rcases heffect with ⟨x, hx, hsight⟩
          cases hsight
          exact hx
      rcases Supervisor.stands_of_due hmoves hdue with ⟨hdeadline, hstands⟩
      dsimp only at htime
      rw [policy_of_runs hrun, ← htime] at hdeadline
      exact ⟨hdeadline, fun _ => hstands⟩

/-- The window is bounded whatever the in-flight count does, the deadline of a due rotation is
not pushed back, and a supervisor that holds the clock up lets it go on or asks for a
rebuild. -/
theorem window_bounded (hperiod : policy.period = some period)
    (h : Runs timelyStep (start policy) t s) :
    (s.now - lastRebuild t ≤ policy.rebuildBackoff + max period policy.rebuildBackoff +
        policy.effectiveDeferLimit + deferRecheck ∨
      s.supervisor.phase = .returned ∧ ∃ time, ⟨time, .lost⟩ ∈ t) ∧
    Deferral policy t s ∧ GoesOn s := by
  have hwithin := within_of_timely hperiod h
  refine ⟨?_, deferral_of_runs h.of_guarded, goesOn_of_running ?_⟩
  · apply hwithin.le.imp_left
    intro hle
    unfold windowBound dueWithin at hle
    omega
  · intro hstopping
    unfold Within at hwithin
    rw [hstopping] at hwithin
    exact hwithin

end Reachable

/-- A rotation that comes due while a request is in flight, is looked at again, and goes ahead
as soon as none is. -/
def deferredRotation : List Event :=
  [.pass 3600000000000, .supervisor 1 .wake, .pass 250000000, .supervisor 1 .wake,
    .pass 250000000, .supervisor 0 .wake, .supervisor 0 .sent, .obey, .pass 3600000000000]

/-- The window of a rotation that was deferred twice, and of the one after it. -/
theorem window_bounded_deferred :
    ∃ t s, Runs timelyStep (start hourly) t s ∧
      rebuildTimes t = [3600500000000] ∧ s.now = 7200500000000 ∧
      s.now - 3600500000000 ≤ 5000000000 + 3600000000000 + 90000000000 + 250000000 ∧
      Deferral hourly t s ∧ GoesOn s := by
  have hrun : ∃ t s, Runs timelyStep (start hourly) t s ∧ rebuildTimes t = [3600500000000] ∧
      lastRebuild t = 3600500000000 ∧ s.now = 7200500000000 ∧ s.supervisor.phase ≠ .returned :=
    ⟨_, _, @Runs.of_execute _ _ _ timelyStep _ _ _ deferredRotation rfl, by decide, rfl, rfl,
      by decide⟩
  rcases hrun with ⟨t, s, hrun, htimes, hlast, hnow, hphase⟩
  rcases window_bounded rfl hrun with ⟨hbound, hdeferral, hgoes⟩
  refine ⟨t, s, hrun, htimes, hnow, ?_, hdeferral, hgoes⟩
  cases hbound with
  | inl hle =>
    rw [hlast] at hle
    exact Nat.le_trans hle (by decide)
  | inr hreturned => exact absurd hreturned.1 hphase

end Timed

end Nym
end ZeroShim
