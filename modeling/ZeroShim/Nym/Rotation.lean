import ZeroShim.Nym.Lookup
import ZeroShim.Nym.Supervisor

/-!
# Rotations and waiting lookups

The calls and the supervisor over one clock, with the count of pending requests that
the transport loop publishes and the policy that {lit}`build_nym_transport` derives
from the configuration.  The supervisor is a task of its own, so it may run between a
turn of the loop and the store of its count.  The driver, at the far end of the
supervisor's channels, does what it likes.

Main results:

- Theorem {lit}`inflight_of_runs`: the count is that of the pending requests.
- Theorem {lit}`deadline_of_runs`: no attempt outlives its budget.
- Theorem {lit}`rotation_spares`: a rotation waits for the lookups that were waiting
  when it came due, as long as the count it then reads knows of them.
- Theorem {lit}`rotation_strands`: where it does not, or the channel is full, a rotation
  does not wait.
-/

namespace ZeroShim
namespace Nym

open Library Wire Transport

/-! ## The policy -/

/-- Seconds, in nanoseconds. -/
def seconds (n : Nat) : Nat := n * 1000000000

/-- How long a submission waits to be handed over. -/
def submitDispatchTimeout : Nat := seconds 5

/-- The budget of a lookup, as configured. -/
def lookupTimeout (secs : Option Nat) : Nat := (secs.map seconds).getD requestTimeout

/-- The rotation policy, derived from the configured period and the budget. -/
def rotationPolicy (rotationSecs lookupTimeoutSecs : Option Nat) : RotationPolicy :=
  match rotationSecs with
  | some secs =>
    { RotationPolicy.every (seconds secs) with deferLimit := lookupTimeout lookupTimeoutSecs }
  | none => .never

/-- A rotation that comes due is deferred for a whole budget. -/
theorem lookupTimeout_le {rotationSecs : Option Nat} (lookupTimeoutSecs : Option Nat)
    (h : rotationSecs ≠ none) :
    lookupTimeout lookupTimeoutSecs ≤
      (rotationPolicy rotationSecs lookupTimeoutSecs).effectiveDeferLimit := by
  cases rotationSecs with
  | none => exact absurd rfl h
  | some secs => exact Nat.le_max_left _ _

/-! ## The published count -/

namespace Transport

theorem inflight_publish (s : Transport) (c : Correlator) :
    (publish s c).1.inflight = (publish s c).1.pending.size := by
  unfold publish
  split_ifs
  · rfl
  · rfl

theorem inflight_of_runs {s : Transport} {t : List Nym.Observed} (h : Runs step initial t s) :
    s.inflight = s.pending.size := by
  refine h.always (P := fun s => s.inflight = s.pending.size) rfl ?_
  intro s e o s' ih hstep
  cases stepped_of_step hstep with
  | turn hturn =>
    rcases turn_cases hturn with ⟨c, hc, ⟨-, rfl, rfl⟩ | ⟨s₁, c₁, o₁, harm, rfl, rfl⟩⟩
    · rfl
    · exact inflight_publish _ _
  | accept haccept =>
    rcases of_accept haccept with ⟨-, -, -, hcorrelator, -, -, hinflight, -⟩
    rw [hinflight, ih, pending, pending, hcorrelator]
  | abandon slot => exact ih
  | inbound hinbound =>
    rcases of_inbound hinbound with ⟨fromMixnet, -, rfl⟩
    exact ih
  | quiet hquiet => rw [hquiet.inflight, ih, pending, pending, hquiet.correlator]

/-! ## A request that left the queue -/

/-- The request on a channel is accepted and no longer queued. -/
structure Departed (s : Transport) (slot : Nat) : Prop where
  opened : slot < s.oneshots.opened
  queue : ∀ request ∈ s.requests.queue, request.waiter.slot ≠ slot

/-- It does not come back, and a sender that is gone stays gone. -/
theorem departed_step {s s' : Transport} {e : Event} {o : List Nym.Observed} {slot : Nat}
    (h : s.step e = some (s', o)) (hdeparted : Departed s slot) :
    Departed s' slot ∧
      ((s.oneshots.cell slot).sender = false → (s'.oneshots.cell slot).sender = false) := by
  cases stepped_of_step h with
  | turn hturn =>
    have htracks := tracks_turn hturn
    refine ⟨⟨?_, ?_⟩, fun hgone => (htracks.sender slot).mpr (.inl hgone)⟩
    · rw [htracks.opened]
      exact hdeparted.opened
    · intro request hmem
      exact hdeparted.queue request ((emitted_turn hturn).1 request hmem)
  | @accept _ parcel request haccept =>
    rcases of_accept haccept with ⟨hrequest, hqueue, honeshots, -⟩
    rcases Calls.cell_accept haccept hdeparted.opened with ⟨hopened, hcell⟩
    refine ⟨⟨?_, ?_⟩, fun hgone => by rw [hcell]; exact hgone⟩
    · rw [hopened]
      exact Nat.lt_succ_of_lt hdeparted.opened
    · intro other hmem
      rw [hqueue, List.mem_append, List.mem_singleton] at hmem
      rcases hmem with hmem | rfl
      · exact hdeparted.queue other hmem
      · rw [hrequest, Calls.slot_request]
        exact Nat.ne_of_gt hdeparted.opened
  | abandon other =>
    refine ⟨⟨hdeparted.opened, hdeparted.queue⟩, fun hgone => ?_⟩
    by_cases hsame : slot = other
    · subst hsame
      simpa [Transport.abandon, Oneshots.dropReceiver, Oneshots.change, Oneshot.dropReceiver]
        using hgone
    · rw [Calls.cell_abandon_of_ne hsame]
      exact hgone
  | inbound hinbound =>
    rcases of_inbound hinbound with ⟨fromMixnet, -, rfl⟩
    exact ⟨⟨hdeparted.opened, hdeparted.queue⟩, id⟩
  | quiet hquiet =>
    refine ⟨⟨?_, ?_⟩, ?_⟩
    · rw [hquiet.oneshots]
      exact hdeparted.opened
    · rw [hquiet.queue]
      exact hdeparted.queue
    · rw [hquiet.oneshots]
      exact id

theorem departed_runs {s s' : Transport} {t : List Nym.Observed} {slot : Nat}
    (h : Runs step s t s') (hdeparted : Departed s slot) :
    Departed s' slot ∧
      ((s.oneshots.cell slot).sender = false → (s'.oneshots.cell slot).sender = false) := by
  refine h.always (P := fun s' => Departed s' slot ∧
    ((s.oneshots.cell slot).sender = false → (s'.oneshots.cell slot).sender = false))
    ⟨hdeparted, id⟩ ?_
  intro s₁ e o s₂ ih hstep
  rcases departed_step hstep ih.1 with ⟨hnext, hgone⟩
  exact ⟨hnext, fun h => hgone (ih.2 h)⟩

/-- A pending request is not queued any more. -/
theorem departed_of_pending {s : Transport} {t : List Nym.Observed}
    (h : Runs step initial t s) {nonce : Nonce} {waiter : Waiter}
    (hpending : s.pending.lookup nonce = some waiter) : Departed s waiter.slot := by
  have hnodup : (slots s.located).Nodup := by
    refine Multiset.nodup_of_le (slots_le ?_) (slots_accepted_nodup h)
    rw [← located_total h]
    exact Multiset.le_add_right _ _
  have hentry : waiter.slot ∈ slots s.pending.entries :=
    mem_slots.mpr ⟨⟨nonce, waiter⟩, by
      rw [FiniteMap.entries_of_lookup hpending]
      exact Multiset.mem_cons_self _ _, rfl⟩
  constructor
  · apply (follows_of_runs h).lt_opened
    refine Multiset.mem_of_le (slots_le ?_) hentry
    rw [← located_total h, located, add_assoc]
    exact (Multiset.le_add_right _ _).trans (Multiset.le_add_left _ _)
  · intro request hmem hslot
    rw [located, slots_add] at hnodup
    have hqueued : waiter.slot ∈ slots s.queued :=
      mem_slots.mpr ⟨request.ticket, Multiset.mem_coe.mpr (List.mem_map_of_mem hmem), hslot⟩
    exact (Multiset.disjoint_left.mp (Multiset.nodup_add.mp hnodup).2.2) hqueued hentry

/-- With nothing pending, a request that left the queue is at its end. -/
theorem sender_of_idle {s : Transport} {t : List Nym.Observed} (h : Runs step initial t s)
    (hidle : s.inflight = 0) {slot : Nat} (hdeparted : Departed s slot) :
    (s.oneshots.cell slot).sender = false := by
  have hfollows := follows_of_runs h
  have hempty : s.pending = ∅ := by
    rw [inflight_of_runs h] at hidle
    exact FiniteMap.size_eq_zero.mp hidle
  have haccepted : slot ∈ slots (total Observed.acceptedTickets t) := by
    rw [hfollows.slots]
    exact Multiset.mem_range.mpr hdeparted.opened
  rw [← located_total h, located, hempty, slots_add, slots_add, Multiset.mem_add,
    Multiset.mem_add] at haccepted
  rcases haccepted with (hqueued | hpending) | hended
  · rcases mem_slots.mp hqueued with ⟨ticket, hmem, hslot⟩
    rcases List.mem_map.mp (Multiset.mem_coe.mp hmem) with ⟨request, hrequest, rfl⟩
    exact absurd hslot (hdeparted.queue request hrequest)
  · rcases mem_slots.mp hpending with ⟨ticket, hmem, -⟩
    simp at hmem
  · exact (hfollows.sender slot hdeparted.opened).mpr hended

end Transport

/-! ## Deadlines -/

namespace Calls

/-- Time passes, and the handle keeps its budget. -/
theorem now_step {s s' : Calls} {e : Event} {o : List Observed} (h : s.step e = some (s', o)) :
    s.now ≤ s'.now ∧ s'.handle.timeout = s.handle.timeout := by
  cases stepped_of_step h with
  | tick d => exact ⟨Nat.le_add_right _ _, rfl⟩
  | startLookup hash =>
    refine ⟨Nat.le_refl _, ?_⟩
    simp only [LookupCall.begin]
    split_ifs <;> rfl
  | setTargets | turn | takeFrame | inbound | loseDriver | startSubmit | submit | lookup =>
    exact ⟨Nat.le_refl _, rfl⟩

theorem now_runs {s s' : Calls} {t : List Observed} (h : Runs step s t s') :
    s.now ≤ s'.now ∧ s'.handle.timeout = s.handle.timeout := by
  refine h.always (P := fun s' => s.now ≤ s'.now ∧ s'.handle.timeout = s.handle.timeout)
    ⟨Nat.le_refl _, rfl⟩ ?_
  intro s₁ e o s₂ ih hstep
  rcases now_step hstep with ⟨hnow, htimeout⟩
  exact ⟨Nat.le_trans ih.1 hnow, htimeout.trans ih.2⟩

/-- Every attempt under way ends within a budget from now. -/
def WithinBudget (s : Calls) : Prop :=
  ∀ (i : Nat) (call : LookupCall) (deadline : Nat), s.lookups[i]? = some call →
    call.phase.deadline? = some deadline → deadline ≤ s.now + s.handle.timeout

theorem WithinBudget.step {s s' : Calls} {e : Event} {o : List Observed} (h : WithinBudget s)
    (hstep : s.step e = some (s', o)) : WithinBudget s' := by
  rcases now_step hstep with ⟨hnow, htimeout⟩
  intro i call deadline hcall hdeadline
  have later {deadline : Nat} (hle : deadline ≤ s.now + s.handle.timeout) :
      deadline ≤ s'.now + s'.handle.timeout := by omega
  rcases lookups_step hstep i with ⟨hsame, -⟩ | ⟨-, hash, hbegin, -⟩ |
    ⟨before, transport, after, hbefore, hafter, hstepped⟩
  · exact later (h i call deadline (hsame ▸ hcall) hdeadline)
  · rw [hbegin] at hcall
    cases hcall
    simp [deadline?_begin] at hdeadline
  · rw [hafter] at hcall
    cases hcall
    rcases deadline?_of_stepped hstepped hdeadline with hold | hnew
    · exact later (h i before deadline hbefore hold)
    · exact later (Nat.le_of_eq hnew)

/-- No attempt outlives its budget. -/
theorem deadline_of_runs {timeout dispatchTimeout : Nat} {s : Calls} {t : List Observed}
    (h : Runs step (initial timeout dispatchTimeout) t s) : WithinBudget s := by
  refine h.always (P := WithinBudget) ?_ fun hbudget hstep => hbudget.step hstep
  intro i call deadline hcall
  simp [initial] at hcall

/-- Attempts that are awaited and whose channel was open before a moment end by then. -/
def Bounded (s : Calls) (opened bound : Nat) : Prop :=
  ∀ i deadline nonce slot, Awaits s i deadline nonce slot → slot < opened → deadline ≤ bound

/-- What is awaited now was awaited before, or is on a channel just opened. -/
theorem Bounded.step {s s' : Calls} {e : Event} {o : List Observed} {opened bound : Nat}
    (h : Bounded s opened bound) (hopened : opened ≤ s.transport.oneshots.opened)
    (hstep : s.step e = some (s', o)) : Bounded s' opened bound := by
  intro i deadline nonce slot hawaits hslot
  rcases awaits_step hstep hawaits with ⟨hbefore, -⟩ |
    ⟨call, attempt, parcel, request, -, -, haccept, -, rfl, -⟩
  · exact h i deadline nonce slot hbefore hslot
  · rcases of_accept haccept with ⟨hrequest, -⟩
    rw [hrequest, slot_request] at hslot
    exact absurd hopened (Nat.not_le_of_lt hslot)

end Calls

/-! ## The calls and the supervisor -/

/-- The calls, the supervisor, and the supervisor's channels to the driver. -/
structure Supervised where
  calls : Calls
  /-- The count that the supervisor loads. -/
  published : Nat
  supervisor : Supervisor
  link : Link

namespace Supervised

/-- What a run shows. -/
inductive Observed where
  | calls (o : Calls.Observed)
  | supervisor (o : Supervisor.Observed)

/-- What can happen next. -/
inductive Event where
  | calls (e : Calls.Event)
  /-- The count of the transport loop's last turn gets to where the supervisor loads it. -/
  | store
  | supervisor (e : Supervisor.Event)
  /-- The driver reports a death. -/
  | died
  /-- The driver receives a command. -/
  | obey
  /-- The driver returns. -/
  | loseDriver

/-- Everything as {lit}`build_nym_transport` sets it up. -/
def initial (rotationSecs lookupTimeoutSecs : Option Nat) : Supervised where
  calls := .initial (lookupTimeout lookupTimeoutSecs) submitDispatchTimeout
  published := 0
  supervisor := .start (rotationPolicy rotationSecs lookupTimeoutSecs) 0
  link := .empty

/-- One step. -/
def step (s : Supervised) : Event → Option (Supervised × List Observed)
  | .calls e =>
    (s.calls.step e).map fun out => ({ s with calls := out.1 }, out.2.map .calls)
  | .store => some ({ s with published := s.calls.transport.inflight }, [])
  | .supervisor e =>
    (s.supervisor.step s.calls.now s.published s.link e).map fun out =>
      ({ s with supervisor := out.1, link := out.2.1 }, out.2.2.map .supervisor)
  | .died =>
    if s.link.events.receiver = true ∧ s.link.events.senders = true then
      match s.link.events.send .died with
      | some events => some ({ s with link := { s.link with events := events } }, [])
      | none => none
    else none
  | .obey =>
    match s.link.commands.recv with
    | .item _ commands => some ({ s with link := { s.link with commands := commands } }, [])
    | _ => none
  | .loseDriver =>
    some ({ s with link := ⟨s.link.events.dropSenders, s.link.commands.dropReceiver⟩ }, [])

/-- The effects of a step. -/
inductive Stepped (s : Supervised) : Supervised → List Observed → Prop where
  | calls {e calls o} : s.calls.step e = some (calls, o) →
      Stepped s { s with calls := calls } (o.map .calls)
  | store : Stepped s { s with published := s.calls.transport.inflight } []
  | supervisor {supervisor link o} :
      Supervisor.Stepped s.calls.now s.published s.link s.supervisor supervisor link o →
      Stepped s { s with supervisor := supervisor, link := link } (o.map .supervisor)
  | link (link) : Stepped s { s with link := link } []

theorem stepped_of_step {s s' : Supervised} {e : Event} {o : List Observed}
    (h : s.step e = some (s', o)) : Stepped s s' o := by
  cases e with
  | calls e =>
    rcases Option.map_eq_some_iff.mp h with ⟨⟨calls, o'⟩, hstep, heq⟩
    cases heq
    exact .calls hstep
  | store =>
    cases h
    exact .store
  | supervisor e =>
    rcases Option.map_eq_some_iff.mp h with ⟨⟨supervisor, link, o'⟩, hstep, heq⟩
    cases heq
    exact .supervisor (Supervisor.stepped_of_step hstep)
  | died =>
    simp only [step] at h
    split_ifs at h
    split at h <;> cases h
    exact .link _
  | obey =>
    simp only [step] at h
    split at h <;> cases h
    exact .link _
  | loseDriver =>
    cases h
    exact .link _

def Observed.calls? : Observed → Option Calls.Observed
  | .calls o => some o
  | _ => none

def callsTrace (t : List Observed) : List Calls.Observed := t.filterMap Observed.calls?

/-- The calls under the supervisor make one of their own runs. -/
theorem calls_runs {s s' : Supervised} {t : List Observed} (h : Runs step s t s') :
    Runs Calls.step s.calls (callsTrace t) s'.calls := by
  refine Runs.simulate Supervised.calls Observed.calls? ?_ h
  intro s e o s' hstep
  cases stepped_of_step hstep with
  | @calls e calls o hcalls =>
    have hsame : (o.map Observed.calls).filterMap Observed.calls? = o := by
      simp [Observed.calls?, List.filterMap_map, Function.comp_def]
    rw [hsame]
    exact .single hcalls
  | @supervisor supervisor link o hstepped =>
    have hnone : (o.map Observed.supervisor).filterMap Observed.calls? = [] := by
      simp [Observed.calls?, List.filterMap_map, Function.comp_def]
    rw [hnone]
    exact .refl
  | store | link => exact .refl

/-! ## Along a run -/

section Reachable

variable {rotationSecs lookupTimeoutSecs : Option Nat} {s : Supervised} {t : List Observed}

theorem calls_of_runs (h : Runs step (initial rotationSecs lookupTimeoutSecs) t s) :
    Runs Calls.step (.initial (lookupTimeout lookupTimeoutSecs) submitDispatchTimeout)
      (callsTrace t) s.calls :=
  calls_runs h

theorem transport_of_runs (h : Runs step (initial rotationSecs lookupTimeoutSecs) t s) :
    Runs Transport.step .initial (Calls.transportTrace (callsTrace t)) s.calls.transport :=
  Calls.transport_runs (calls_of_runs h)

/-- The budget is the configured one. -/
theorem timeout_of_runs (h : Runs step (initial rotationSecs lookupTimeoutSecs) t s) :
    s.calls.handle.timeout = lookupTimeout lookupTimeoutSecs :=
  (Calls.now_runs (calls_of_runs h)).2

theorem policy_of_runs (h : Runs step (initial rotationSecs lookupTimeoutSecs) t s) :
    s.supervisor.policy = rotationPolicy rotationSecs lookupTimeoutSecs := by
  refine h.always (P := fun s =>
    s.supervisor.policy = rotationPolicy rotationSecs lookupTimeoutSecs) rfl ?_
  intro s e o s' ih hstep
  cases stepped_of_step hstep with
  | calls | store | link => exact ih
  | supervisor hstepped => exact (Supervisor.policy_of_stepped hstepped).trans ih

/-- Without a configured period no rotation ever comes due. -/
theorem unscheduled_of_runs (h : Runs step (initial none lookupTimeoutSecs) t s) :
    s.supervisor.Unscheduled := by
  refine h.always (P := fun s => s.supervisor.Unscheduled) ?_ ?_
  · exact Supervisor.unscheduled_watch 0 rfl rfl rfl
  · intro s e o s' ih hstep
    cases stepped_of_step hstep with
    | calls | store | link => exact ih
    | supervisor hstepped => exact (ih.step hstepped).1

/-- A rotation that comes due is deferred for a whole budget. -/
theorem budget_of_due (h : Runs step (initial rotationSecs lookupTimeoutSecs) t s)
    {now inflight deadline : Nat} {link link' : Link} {supervisor : Supervisor}
    {o : List Supervisor.Observed}
    (hstepped : Supervisor.Stepped now inflight link s.supervisor supervisor link' o)
    (hdue : .due deadline ∈ o) :
    now + lookupTimeout lookupTimeoutSecs ≤ deadline := by
  cases rotationSecs with
  | none => exact absurd hdue (((unscheduled_of_runs h).step hstepped).2 deadline)
  | some secs =>
    rcases Supervisor.due_of_stepped hstepped hdue with ⟨rfl, -⟩
    rw [policy_of_runs h]
    exact Nat.add_le_add_left (lookupTimeout_le lookupTimeoutSecs (Option.some_ne_none secs)) now

end Reachable

/-- A lookup waits for its reply on a channel. -/
def StillWaits (s : Supervised) (i deadline slot : Nat) : Prop :=
  ∃ nonce, Calls.Awaits s.calls i deadline nonce slot ∧
    s.calls.transport.oneshots.poll slot = .pending

/-- Since a rotation came due: its deadline stands, and when it goes ahead the request on
a channel that was pending then is at its end, or out of time. -/
structure Spared (deadline bound slot : Nat) (s : Supervised) : Prop where
  departed : Departed s.calls.transport slot
  bounded : Calls.Bounded s.calls (slot + 1) bound
  deferring : s.supervisor.Deferring deadline
  /-- The count stored is zero only at the end of the request. -/
  idle : s.published = 0 → (s.calls.transport.oneshots.cell slot).sender = false
  asking : s.supervisor.phase = .asking .rotation →
    deadline ≤ s.calls.now ∨ (s.calls.transport.oneshots.cell slot).sender = false

/-- Every step of the calls, the supervisor or the driver keeps it so. -/
theorem Spared.step {rotationSecs lookupTimeoutSecs : Option Nat} {s s' : Supervised}
    {t o : List Observed} {deadline bound slot : Nat}
    (hrun : Runs Supervised.step (initial rotationSecs lookupTimeoutSecs) t s)
    (h : Spared deadline bound slot s) (hstepped : Stepped s s' o)
    (hsame : ∀ other, .supervisor (.due other) ∉ o) : Spared deadline bound slot s' := by
  cases hstepped with
  | calls hcalls =>
    obtain ⟨hdeparted, hgone⟩ :=
      departed_runs (Calls.transport_runs (.single hcalls)) h.departed
    refine ⟨hdeparted, h.bounded.step h.departed.opened hcalls, h.deferring,
      fun hidle => hgone (h.idle hidle), fun hasking => ?_⟩
    rcases h.asking hasking with hpassed | hended
    · exact .inl (Nat.le_trans hpassed (Calls.now_step hcalls).1)
    · exact .inr (hgone hended)
  | store =>
    exact ⟨h.departed, h.bounded, h.deferring,
      fun hidle => sender_of_idle (transport_of_runs hrun) hidle h.departed, h.asking⟩
  | @supervisor supervisor link o hsupervisor =>
    have hsame' : ∀ other, .due other ∉ o := fun other hmem =>
      hsame other (List.mem_map_of_mem hmem)
    rcases h.deferring.step hsupervisor hsame' with ⟨hdeferring, hasking⟩
    refine ⟨h.departed, h.bounded, hdeferring, h.idle, fun hnext => ?_⟩
    rcases hasking hnext with hbefore | hpassed | hidle
    · exact h.asking hbefore
    · exact .inl hpassed
    · exact .inr (h.idle hidle)
  | link link => exact ⟨h.departed, h.bounded, h.deferring, h.idle, h.asking⟩

/-- When a rotation comes due and reads a count, it holds of every channel pending then. -/
theorem spared_of_due {rotationSecs lookupTimeoutSecs : Option Nat} {s s' : Supervised}
    {t o : List Observed} {deadline : Nat} {nonce : Nonce} {waiter : Waiter}
    (hrun : Runs Supervised.step (initial rotationSecs lookupTimeoutSecs) t s)
    (hstepped : Stepped s s' o) (hdue : .supervisor (.due deadline) ∈ o)
    (hcount : s.published ≠ 0)
    (hpending : s.calls.transport.pending.lookup nonce = some waiter) :
    Spared deadline deadline waiter.slot s' := by
  cases hstepped with
  | calls | store | link => simp at hdue
  | @supervisor supervisor link o hsupervisor =>
    have hmem : .due deadline ∈ o := by simpa using hdue
    rcases Supervisor.due_of_stepped hsupervisor hmem with ⟨-, hfixed, -, hasking⟩
    have hbudget := budget_of_due hrun hsupervisor hmem
    have hdeparted := departed_of_pending (transport_of_runs hrun) hpending
    refine ⟨hdeparted, ?_, .inl hfixed, fun hidle => absurd hidle hcount, fun hnext => ?_⟩
    · intro i other nonce slot hawaits _
      rcases hawaits with ⟨call, attempt, hcall, hphase⟩
      have hwithin := Calls.deadline_of_runs (calls_of_runs hrun) i call other hcall
        (by rw [hphase]; rfl)
      rw [timeout_of_runs hrun] at hwithin
      exact Nat.le_trans hwithin hbudget
    · exact .inl ((hasking hnext).resolve_left hcount)

/-- What holds at the start of a run in which no other rotation comes due, and is kept by
every step, holds at its end. -/
theorem spared_runs {rotationSecs lookupTimeoutSecs : Option Nat} {s₂ s₃ : Supervised}
    {t₁ t₂ : List Observed} {deadline bound slot : Nat}
    (h₁ : Runs Supervised.step (initial rotationSecs lookupTimeoutSecs) t₁ s₂)
    (h : Spared deadline bound slot s₂) (h₂ : Runs Supervised.step s₂ t₂ s₃)
    (hsame : ∀ other, .supervisor (.due other) ∉ t₂) : Spared deadline bound slot s₃ := by
  refine h₂.invariant (P := fun t s => (∀ other, .supervisor (.due other) ∉ t) →
    Spared deadline bound slot s) (fun _ => h) ?_ hsame
  intro t s e o s' hrun ih hstep hsame
  refine (ih fun other hmem => hsame other (List.mem_append_left _ hmem)).step
    (h₁.trans hrun) (stepped_of_step hstep) fun other hmem => ?_
  exact hsame other (List.mem_append_right _ hmem)

/-- Since a rotation came due: it asks for a rebuild before its deadline only once it has
gone ahead on a count of zero. -/
structure Decided (deadline : Nat) (shown : List Observed) (s : Supervised) : Prop where
  deferring : s.supervisor.Deferring deadline
  asking : s.supervisor.phase = .asking .rotation →
    deadline ≤ s.calls.now ∨ .supervisor (.rotating 0) ∈ shown

/-- Going ahead fixes it. -/
theorem rotating_zero {now inflight deadline : Nat} {link link' : Link} {supervisor : Supervisor}
    {supervisor' : Supervisor} {o : List Supervisor.Observed}
    (h : Supervisor.Stepped now inflight link supervisor supervisor' link' o)
    (hrotating : .rotating inflight ∈ o) (hdeadline : supervisor.deadline now = deadline) :
    deadline ≤ now ∨ .supervisor (.rotating 0) ∈ o.map Observed.supervisor := by
  rcases Nat.lt_or_ge now deadline with hearly | hpassed
  · have hidle := (Supervisor.rotating_of_stepped h hrotating).2 (hdeadline.symm ▸ hearly)
    exact .inr (List.mem_map_of_mem (hidle ▸ hrotating))
  · exact .inl hpassed

theorem Decided.step {s s' : Supervised} {o shown : List Observed} {deadline : Nat}
    (h : Decided deadline shown s) (hstepped : Stepped s s' o)
    (hsame : ∀ other, .supervisor (.due other) ∉ o) : Decided deadline (shown ++ o) s' := by
  have before (hasking : s.supervisor.phase = .asking .rotation) :
      deadline ≤ s.calls.now ∨ .supervisor (.rotating 0) ∈ shown ++ o :=
    (h.asking hasking).imp_right (List.mem_append_left _)
  cases hstepped with
  | calls hcalls =>
    exact ⟨h.deferring, fun hasking =>
      (before hasking).imp_left fun hpassed => Nat.le_trans hpassed (Calls.now_step hcalls).1⟩
  | store | link => exact ⟨h.deferring, before⟩
  | @supervisor supervisor link o hsupervisor =>
    have hsame' : ∀ other, .due other ∉ o := fun other hmem =>
      hsame other (List.mem_map_of_mem hmem)
    refine ⟨(h.deferring.step hsupervisor hsame').1, fun hasking => ?_⟩
    rcases Supervisor.rotating_of_asking hsupervisor hasking with ⟨hbefore, -⟩ | hrotating
    · exact before hbefore
    · exact (rotating_zero hsupervisor hrotating
        (h.deferring.deadline_eq hsupervisor hrotating hsame')).imp_right
          (List.mem_append_right _)

theorem decided_of_due {s s' : Supervised} {o : List Observed} {deadline : Nat}
    (hstepped : Stepped s s' o) (hdue : .supervisor (.due deadline) ∈ o) :
    Decided deadline o s' := by
  cases hstepped with
  | calls | store | link => simp at hdue
  | @supervisor supervisor link o hsupervisor =>
    have hmem : .due deadline ∈ o := by simpa using hdue
    refine ⟨.inl (Supervisor.due_of_stepped hsupervisor hmem).2.1, fun hasking => ?_⟩
    rcases Supervisor.rotating_of_asking hsupervisor hasking with ⟨-, hnone⟩ | hrotating
    · exact absurd hmem (hnone deadline)
    · exact rotating_zero hsupervisor hrotating (Supervisor.deadline_of_due hsupervisor hmem)

theorem decided_runs {s₂ s₃ : Supervised} {o t₂ : List Observed} {deadline : Nat}
    (h : Decided deadline o s₂) (h₂ : Runs Supervised.step s₂ t₂ s₃)
    (hsame : ∀ other, .supervisor (.due other) ∉ t₂) : Decided deadline (o ++ t₂) s₃ := by
  refine h₂.invariant (P := fun t s => (∀ other, .supervisor (.due other) ∉ t) →
    Decided deadline (o ++ t) s) (fun _ => (List.append_nil o).symm ▸ h) ?_ hsame
  intro t s e o' s' _ ih hstep hsame
  rw [← List.append_assoc]
  exact (ih fun other hmem => hsame other (List.mem_append_left _ hmem)).step
    (stepped_of_step hstep) fun other hmem => hsame other (List.mem_append_right _ hmem)

/-! ## A rotation waits for the lookups that were waiting -/

/-- Of the rotation that came due in a state, in a step with what it showed, and with a
deadline: what holds in a state reached since, in a run with what it showed. -/
structure Spares (s₁ : Supervised) (o₁ : List Observed) (deadline : Nat) (t₂ : List Observed)
    (s : Supervised) : Prop where
  /-- When its rebuild is sent, no lookup that was pending is waiting with time left: if the
  count read as it came due was not a zero stored before that lookup was registered. -/
  waiting : s₁.published ≠ 0 → ∀ e s' o nonce slot i other, s.step e = some (s', o) →
    .supervisor (.asked .rotation) ∈ o →
    s₁.calls.transport.pending.lookup nonce = some (.lookup slot) →
    StillWaits s' i other slot → other ≤ s'.calls.now
  /-- It goes ahead before its deadline only when the published count is zero. -/
  idle : ∀ e s' o n, s.step e = some (s', o) → .supervisor (.rotating n) ∈ o →
    (∀ other, .supervisor (.due other) ∉ o) →
    n = s.published ∧ (s.calls.now < deadline → n = 0)
  /-- Also at the moment it comes due. -/
  atOnce : ∀ n, .supervisor (.rotating n) ∈ o₁ → n = s₁.published ∧
    (s₁.calls.now < deadline → n = 0)
  /-- Its rebuild is sent before its deadline only after it went ahead so. -/
  sent : ∀ e s' o, s.step e = some (s', o) → .supervisor (.asked .rotation) ∈ o →
    s.calls.now < deadline → .supervisor (.rotating 0) ∈ o₁ ++ t₂

/-- Under any configuration and any schedule of attempts, replies, sweeps and deaths, a
rotation waits for the lookups that were waiting when it came due. -/
theorem rotation_spares {rotationSecs lookupTimeoutSecs : Option Nat} {s₁ s₂ s₃ : Supervised}
    {e₁ : Event} {t₁ o₁ t₂ : List Observed} {deadline : Nat}
    (h₁ : Runs step (initial rotationSecs lookupTimeoutSecs) t₁ s₁)
    (hstep : s₁.step e₁ = some (s₂, o₁)) (hdue : .supervisor (.due deadline) ∈ o₁)
    (h₂ : Runs step s₂ t₂ s₃) (hsame : ∀ other, .supervisor (.due other) ∉ t₂) :
    Spares s₁ o₁ deadline t₂ s₃ := by
  have hstepped := stepped_of_step hstep
  have hdecided := decided_runs (decided_of_due hstepped hdue) h₂ hsame
  constructor
  · intro hcount e s₄ o nonce slot i other hnext hasked hpending hwaits
    have hspared := spared_runs (h₁.snoc hstep)
      (spared_of_due h₁ hstepped hdue hcount hpending) h₂ hsame
    rcases hwaits with ⟨nonce', hawaits, hpoll⟩
    cases stepped_of_step hnext with
    | calls | store | link => simp at hasked
    | supervisor hsupervisor =>
      have hasking := Supervisor.asking_of_asked hsupervisor (by simpa using hasked)
      have hbound := hspared.bounded i other nonce' slot hawaits (Nat.lt_succ_self slot)
      rcases hspared.asking hasking with hpassed | hended
      · exact Nat.le_trans hbound hpassed
      · change (s₃.calls.transport.oneshots.cell slot).sender = false at hended
        rw [(Oneshots.poll_eq_pending.mp hpoll).2] at hended
        cases hended
  · intro e s₄ o n hnext hrotating hnodue
    cases stepped_of_step hnext with
    | calls | store | link => simp at hrotating
    | @supervisor supervisor link o hsupervisor =>
      obtain ⟨hcount, hidle⟩ :=
        Supervisor.rotating_of_stepped hsupervisor (by simpa using hrotating)
      have hdeadline := hdecided.deferring.deadline_eq hsupervisor
        (by simpa using hrotating) fun other hmem => hnodue other (List.mem_map_of_mem hmem)
      exact ⟨hcount, fun hearly => hidle (hdeadline.symm ▸ hearly)⟩
  · intro n hrotating
    cases hstepped with
    | calls | store | link => simp at hrotating
    | supervisor hsupervisor =>
      obtain ⟨hcount, hidle⟩ :=
        Supervisor.rotating_of_stepped hsupervisor (by simpa using hrotating)
      have hdeadline := Supervisor.deadline_of_due hsupervisor (by simpa using hdue)
      exact ⟨hcount, fun hearly => hidle (hdeadline.symm ▸ hearly)⟩
  · intro e s₄ o hnext hasked hearly
    cases stepped_of_step hnext with
    | calls | store | link => simp at hasked
    | supervisor hsupervisor =>
      have hasking := Supervisor.asking_of_asked hsupervisor (by simpa using hasked)
      exact (hdecided.asking hasking).resolve_left (Nat.not_le_of_lt hearly)

/-- A lookup is pending when a rotation comes due, which goes ahead at its deadline. -/
theorem rotation_spares_oneLookup :
    ∃ t₁ s₁ s₂ o₁ t₂ s₃ s₄, Runs step (initial (some 60) none) t₁ s₁ ∧
      s₁.step (.supervisor .wake) = some (s₂, o₁) ∧ Runs step s₂ t₂ s₃ ∧
      s₁.published = 1 ∧ s₃.step (.supervisor .sent) = some (s₄, [.supervisor (.asked .rotation)]) ∧
      Spares s₁ o₁ (seconds 150) t₂ s₃ := by
  obtain ⟨t₁, s₁, h₁, hcount, s₂, o₁, hwake, rfl, t₂, s₃, h₂, rfl, s₄, hsent⟩ :
      ∃ t₁ s₁, execute step (initial (some 60) none)
          [.calls (.setTargets 1), .calls (.startLookup []),
            .calls (.lookup 0 (.build (List.Vector.replicate 16 0))),
            .calls (.lookup 0 .dispatch), .calls (.turn .reserve), .store,
            .calls (.turn .receive), .store, .calls (.tick (seconds 60))] = some (s₁, t₁) ∧
        s₁.published = 1 ∧
        ∃ s₂ o₁, step s₁ (.supervisor .wake) = some (s₂, o₁) ∧
          o₁ = [.supervisor (.due (seconds 150))] ∧
          ∃ t₂ s₃, execute step s₂ [.calls (.tick (seconds 90)), .supervisor .wake] =
              some (s₃, t₂) ∧ t₂ = [.supervisor (.rotating 1)] ∧
            ∃ s₄, step s₃ (.supervisor .sent) = some (s₄, [.supervisor (.asked .rotation)]) :=
    ⟨_, _, rfl, rfl, _, _, rfl, rfl, _, _, rfl, rfl, _, rfl⟩
  have hspares := rotation_spares (Runs.of_execute h₁) hwake (List.mem_singleton.mpr rfl)
    (Runs.of_execute h₂) (by simp)
  exact ⟨_, _, _, _, _, _, _, Runs.of_execute h₁, hwake, Runs.of_execute h₂, hcount, hsent,
    hspares⟩

/-- A rotation comes due between the turn that registers a lookup and the store of its count,
and its rebuild is sent while the lookup waits with time left.  One that went ahead on a count
of zero has its rebuild sent before its deadline under a count of one. -/
theorem rotation_strands :
    (∃ t₁ s₁ s₂ o₁ s₃ nonce slot other, Runs step (initial (some 60) none) t₁ s₁ ∧
      s₁.step (.supervisor .wake) = some (s₂, o₁) ∧
      .supervisor (.due (seconds 150)) ∈ o₁ ∧
      s₁.calls.transport.pending.lookup nonce = some (.lookup slot) ∧
      s₂.step (.supervisor .sent) = some (s₃, [.supervisor (.asked .rotation)]) ∧
      StillWaits s₃ 0 other slot ∧ s₃.calls.now < other) ∧
    ∃ t s s', Runs step (initial (some 60) none) t s ∧
      s.step (.supervisor .sent) = some (s', [.supervisor (.asked .rotation)]) ∧
      s.supervisor.deferDeadline = some (seconds 150) ∧ s.calls.now < seconds 150 ∧
      s.published = 1 := by
  constructor
  · have hrun := Runs.of_execute (show execute step (initial (some 60) none)
      [.calls (.setTargets 1), .calls (.startLookup []),
        .calls (.lookup 0 (.build (List.Vector.replicate 16 0))),
        .calls (.lookup 0 .dispatch), .calls (.turn .reserve), .store,
        .calls (.tick (seconds 60)), .calls (.turn .receive)] =
      some (_, _) from rfl)
    exact ⟨_, _, _, [.supervisor (.due (seconds 150)), .supervisor (.rotating 0)], _,
      .replicate 16 0, 0, seconds 90, hrun, rfl, by simp, rfl, rfl,
      ⟨.replicate 16 0, ⟨_, 0, rfl, rfl⟩, rfl⟩, by decide⟩
  · have hrun := Runs.of_execute (show execute step (initial (some 60) none)
      [.calls (.setTargets 1), .calls (.startLookup []),
        .calls (.lookup 0 (.build (List.Vector.replicate 16 0))),
        .calls (.tick (seconds 60)), .supervisor .wake, .calls (.lookup 0 .dispatch),
        .calls (.turn .reserve), .store, .calls (.turn .receive), .store] =
      some (_, _) from rfl)
    exact ⟨_, _, _, hrun, rfl, rfl, by decide, rfl⟩

end Supervised

end Nym
end ZeroShim
