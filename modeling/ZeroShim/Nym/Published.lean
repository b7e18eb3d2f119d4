import ZeroShim.Nym.Rotation

/-!
# The published count

What {lit}`run_transport` publishes after each turn of its loop, against the requests that
were emitted, unanswered and still wanted; and the clock that turns the loop while anything
is pending.

Main results:

- Theorem {lit}`emitted_total`: the emitted requests are those pending and those that
  ended.
- Theorem {lit}`inflight_of_turn`: the count that a turn publishes.
- Theorem {lit}`inflight_exact`: the count along every run, and when the loop turns.
-/

namespace ZeroShim
namespace Nym

open Library Wire

@[simp] def Observed.emittedTickets : Observed → Multiset Ticket
  | .emitted request => {request.ticket}
  | _ => 0

namespace Transport

/-! ## The emitted requests -/

/-- The arms that turn the loop conserve the requests pending. -/
theorem pending_of_turned {s s' : Transport} {c c' : Correlator} {o : List Observed}
    (h : Turned s c s' c' o) :
    c'.pending.entries + total Observed.endedTickets o =
      c.pending.entries + total Observed.emittedTickets o := by
  cases h with
  | @receive request requests toMixnet hpermit hrecv hsend =>
    have hover := entries_overwritten c.pending request.nonce
    simp only [FiniteMap.entries_insert, total_cons, total_nil, Observed.endedTickets,
      Observed.answeredTickets, Observed.sweptTickets, Observed.replacedTickets,
      Observed.droppedTickets, Observed.emittedTickets, ← Multiset.singleton_add, zero_add,
      add_zero]
    rw [← hover, Request.ticket]
    abel
  | @deliver bytes fromMixnet firing hrecv hcarried hlookup =>
    simp only [FiniteMap.entries_of_lookup hlookup, total_cons, total_nil,
      Observed.endedTickets, Observed.answeredTickets, Observed.sweptTickets,
      Observed.replacedTickets, Observed.droppedTickets, Observed.emittedTickets,
      ← Multiset.singleton_add, add_zero, Firing.ticket]
    abel
  | reserve | close | ignore | timer => simp

/-- A turn after which the loop goes on. -/
theorem endTurn_of_running {s : Transport} {c : Correlator}
    (h : (endTurn s c).1.correlator ≠ none) :
    (endTurn s c).1.pending = c.pending.retain s.listening ∧
      (endTurn s c).2 = [.swept (c.pending.removed s.listening)] := by
  refine ⟨pending_endTurn s c, ?_⟩
  simp only [endTurn, publish] at h ⊢
  split_ifs at h ⊢
  · exact absurd rfl h
  · rfl

theorem pending_turn {s s' : Transport} {a : Arm} {o : List Observed}
    (h : s.turn a = some (s', o)) (hrunning : s'.correlator ≠ none) :
    s'.pending.entries + total Observed.endedTickets o =
      s.pending.entries + total Observed.emittedTickets o := by
  rcases turn_cases h with ⟨c, hc, ⟨-, rfl, rfl⟩ | ⟨s₁, c₁, o₁, harm, rfl, rfl⟩⟩
  · exact absurd rfl hrunning
  · rcases endTurn_of_running hrunning with ⟨hpending, hswept⟩
    have hturned := pending_of_turned (turned_of_arm harm)
    have hsplit := FiniteMap.entries_retain_add s₁.listening c₁.pending
    have hbefore : s.pending = c.pending := by simp [pending, hc]
    rw [hpending, hswept, hbefore]
    simp only [total_append, total_cons, total_nil, Observed.endedTickets,
      Observed.answeredTickets, Observed.sweptTickets, Observed.replacedTickets,
      Observed.droppedTickets, Observed.emittedTickets, add_zero, zero_add] at hturned ⊢
    rw [← hturned, ← hsplit]
    abel

/-- Only a turn of the loop changes what is pending, emits a request or ends one. -/
theorem of_not_turn {s s' : Transport} {e : Event} {o : List Observed}
    (h : s.step e = some (s', o)) (hturn : ∀ a, e ≠ .turn a) :
    s'.correlator = s.correlator ∧ total Observed.endedTickets o = 0 ∧
      total Observed.emittedTickets o = 0 := by
  cases e with
  | turn a => exact absurd rfl (hturn a)
  | accept parcel =>
    rcases Option.map_eq_some_iff.mp h with ⟨⟨s₁, request⟩, haccept, heq⟩
    cases heq
    exact ⟨(of_accept haccept).2.2.2.1, by simp, by simp⟩
  | inbound message =>
    rcases Option.map_eq_some_iff.mp h with ⟨s₁, hinbound, heq⟩
    cases heq
    rcases of_inbound hinbound with ⟨fromMixnet, -, rfl⟩
    exact ⟨rfl, by simp, by simp⟩
  | takeFrame =>
    rcases Option.map_eq_some_iff.mp h with ⟨⟨out, s₁⟩, htake, heq⟩
    cases heq
    rcases of_takeFrame htake with ⟨toMixnet, -, rfl⟩
    exact ⟨rfl, rfl, rfl⟩
  | abandon | closeRequests | loseDriver =>
    cases h
    exact ⟨rfl, rfl, rfl⟩

/-- While the loop runs, the emitted requests are those pending and those that ended. -/
theorem emitted_total {s : Transport} {t : List Observed} (h : Runs step initial t s)
    (hrunning : s.correlator ≠ none) :
    s.pending.entries + total Observed.endedTickets t = total Observed.emittedTickets t := by
  refine h.invariant (P := fun t s => s.correlator ≠ none →
    s.pending.entries + total Observed.endedTickets t = total Observed.emittedTickets t)
    (fun _ => rfl) ?_ hrunning
  intro t s e o s' _ ih hstep hrunning
  rw [total_append, total_append]
  cases e with
  | turn a =>
    rcases turn_cases hstep with ⟨c, hc, -⟩
    have hbefore := ih (by simp [hc])
    rw [← hbefore, add_right_comm, ← pending_turn hstep hrunning]
    abel
  | accept | abandon | closeRequests | takeFrame | inbound | loseDriver =>
    rcases of_not_turn hstep (by simp) with ⟨hcorrelator, hended, hemitted⟩
    rw [hended, hemitted, add_zero, add_zero, pending, hcorrelator]
    exact ih (hcorrelator ▸ hrunning)

/-! ## The count that a turn publishes -/

/-- The emitted requests that are unanswered and whose caller holds its receiver. -/
def awaited (t : List Observed) (s : Transport) : Multiset Ticket :=
  (total Observed.emittedTickets t).filter fun ticket =>
    ticket ∉ total Observed.answeredTickets t ∧ s.listening ticket.2 = true

/-- Those that no later request displaced under its nonce. -/
def wanted (t : List Observed) (s : Transport) : Multiset Ticket :=
  (awaited t s).filter fun ticket => ticket ∉ total Observed.replacedTickets t

/-- Where no two requests share a nonce, none is displaced. -/
theorem wanted_of_distinct {s : Transport} {t : List Observed} (h : Runs step initial t s)
    (hnonces : (nonces t).Nodup) : wanted t s = awaited t s := by
  rw [wanted, replaced_eq_zero h hnonces]
  exact Multiset.filter_eq_self.mpr fun ticket _ => Multiset.notMem_zero ticket

/-- No request is emitted twice. -/
theorem emitted_nodup {s : Transport} {t : List Observed} (h : Runs step initial t s)
    (hrunning : s.correlator ≠ none) : (total Observed.emittedTickets t).Nodup := by
  apply Multiset.Nodup.of_map (fun e : Ticket => e.2.slot)
  refine Multiset.nodup_of_le (slots_le ?_) (slots_accepted_nodup h)
  rw [← emitted_total h hrunning, ← located_total h, located, add_assoc]
  exact Multiset.le_add_left _ _

/-- While the loop runs, and where every pending caller listens, what is pending is what is
wanted. -/
theorem wanted_eq_pending {s : Transport} {t : List Observed} (h : Runs step initial t s)
    (hrunning : s.correlator ≠ none)
    (hlistening : ∀ ticket ∈ s.pending.entries, s.listening ticket.2 = true) :
    wanted t s = s.pending.entries := by
  have hemitted := emitted_total h hrunning
  have hnodup := emitted_nodup h hrunning
  rw [total_ended, dropped_eq_zero h hrunning, add_zero] at hemitted
  rw [← hemitted] at hnodup
  have hapart := (Multiset.nodup_add.mp hnodup).2.2
  have hpending : ∀ ticket ∈ s.pending.entries, ticket ∉ total Observed.replacedTickets t ∧
      ticket ∉ total Observed.answeredTickets t ∧ s.listening ticket.2 = true := by
    intro ticket hmem
    have hended := Multiset.disjoint_left.mp hapart hmem
    simp only [Multiset.mem_add, not_or] at hended
    exact ⟨hended.2, hended.1.1, hlistening ticket hmem⟩
  have hgone : ∀ ticket ∈ total Observed.answeredTickets t + total Observed.sweptTickets t +
      total Observed.replacedTickets t, ¬ (ticket ∉ total Observed.replacedTickets t ∧
        ticket ∉ total Observed.answeredTickets t ∧ s.listening ticket.2 = true) := by
    intro ticket hmem hwanted
    simp only [Multiset.mem_add] at hmem
    rcases hmem with (hanswered | hswept) | hreplaced
    · exact hwanted.2.1 hanswered
    · have hreceiver := (follows_of_runs h).swept ticket.2.slot (mem_slots.mpr ⟨_, hswept, rfl⟩)
      simpa [listening, Oneshots.isClosed, hreceiver] using hwanted.2.2
    · exact hwanted.1 hreplaced
  rw [wanted, awaited, Multiset.filter_filter, ← hemitted, Multiset.filter_add,
    Multiset.filter_eq_self.mpr hpending, Multiset.filter_eq_nil.mpr hgone, add_zero]

/-- After a turn every pending caller listens. -/
theorem listening_of_turn {s s' : Transport} {a : Arm} {o : List Observed}
    (h : s.turn a = some (s', o)) (hrunning : s'.correlator ≠ none) :
    ∀ ticket ∈ s'.pending.entries, s'.listening ticket.2 = true := by
  intro ticket hmem
  rcases turn_cases h with ⟨c, hc, ⟨-, rfl, rfl⟩ | ⟨s₁, c₁, o₁, harm, rfl, rfl⟩⟩
  · exact absurd rfl hrunning
  · rw [pending_endTurn] at hmem
    have hlistens : s₁.listening ticket.2 = true := (Multiset.mem_filter.mp hmem).2
    have hreceiver := (tracks_endTurn s₁ c₁).receiver ticket.2.slot
    simpa [listening, Oneshots.isClosed, hreceiver] using hlistens

/-- The count that a turn publishes is that of the requests still wanted. -/
theorem inflight_of_turn {s s' : Transport} {t o : List Observed} {a : Arm}
    (h : Runs step initial t s) (hturn : s.step (.turn a) = some (s', o))
    (hrunning : s'.correlator ≠ none) :
    s'.inflight = Multiset.card (wanted (t ++ o) s') := by
  have hafter := h.snoc hturn
  rw [inflight_of_runs hafter, wanted_eq_pending hafter hrunning
    (listening_of_turn hturn hrunning), FiniteMap.size]

end Transport

/-! ## The clock -/

/-- {lit}`SWEEP_INTERVAL`. -/
def sweepInterval : Nat := seconds 1

/-- The transport and a clock. -/
structure TimedTransport where
  now : Nat
  /-- When the loop last came to its {lit}`select!`. -/
  since : Nat
  transport : Transport

namespace TimedTransport

open Transport

inductive Event where
  | tick (d : Nat)
  | transport (e : Transport.Event)

def initial : TimedTransport := ⟨0, 0, .initial⟩

/-- When the loop is next at its {lit}`select!`: after a turn, now. -/
def sinceAfter (s : TimedTransport) : Transport.Event → Nat
  | .turn _ => s.now
  | _ => s.since

/-- The sleep of the timer arm has ended. -/
def rested (s : TimedTransport) : Transport.Event → Bool
  | .turn .timer => s.since + sweepInterval ≤ s.now
  | _ => true

/-- One step. -/
def step (s : TimedTransport) : Event → Option (TimedTransport × List Nym.Observed)
  | .tick d => some ({ s with now := s.now + d }, [])
  | .transport e =>
    if s.rested e then
      (s.transport.step e).map fun out => (⟨s.now, s.sinceAfter e, out.1⟩, out.2)
    else none

/-- The timer arm can complete. -/
def due (s : TimedTransport) : Bool := (s.step (.transport (.turn .timer))).isSome

/-- The runtime polls a loop whose sleep has ended before the clock goes on. -/
def punctual (s : TimedTransport) : Event → Bool
  | .tick d => (List.range d).all fun waited => !{ s with now := s.now + waited }.due
  | .transport _ => true

theorem of_step {s s' : TimedTransport} {e : Transport.Event} {o : List Nym.Observed}
    (h : s.step (.transport e) = some (s', o)) :
    s'.now = s.now ∧ s'.since = s.sinceAfter e ∧
      s.transport.step e = some (s'.transport, o) := by
  unfold step at h
  dsimp only at h
  split_ifs at h
  rcases Option.map_eq_some_iff.mp h with ⟨⟨transport, o'⟩, hstep, heq⟩
  cases heq
  exact ⟨rfl, rfl, hstep⟩

/-- The transport under the clock makes one of its own runs. -/
theorem transport_runs {s : TimedTransport} {t : List Nym.Observed}
    (h : Runs step initial t s) : Runs Transport.step .initial t s.transport := by
  rw [← @List.filterMap_some _ t]
  refine Runs.simulate transport some ?_ h
  intro s e o s' hstep
  rw [List.filterMap_some]
  cases e with
  | tick d =>
    cases hstep
    exact .refl
  | transport e => exact .single (of_step hstep).2.2

/-! ## How often the loop turns -/

/-- The timer arm completes once its sleep has ended. -/
theorem step_timer {s : TimedTransport} {out : Transport × List Nym.Observed}
    (helapsed : s.since + sweepInterval ≤ s.now) (hturn : s.transport.turn .timer = some out) :
    s.step (.transport (.turn .timer)) = some (⟨s.now, s.now, out.1⟩, out.2) := by
  simp [step, rested, helapsed, sinceAfter, Transport.step, hturn]

/-- While anything is pending, the timer arm can complete once its sleep has ended. -/
theorem due_of_elapsed {s : TimedTransport} (hpending : s.transport.pending.size ≠ 0)
    (helapsed : s.since + sweepInterval ≤ s.now) : s.due = true := by
  cases hc : s.transport.correlator with
  | none =>
    rw [pending, hc] at hpending
    exact absurd rfl hpending
  | some c =>
    have harmed : c.pending.size ≠ 0 := by simpa [pending, hc] using hpending
    have hturn : s.transport.turn .timer = some (endTurn s.transport c) := by
      simp [turn, hc, arm, harmed]
    rw [due, step_timer helapsed hturn]
    rfl

/-- The clock is free to go on up to the end of the sleep. -/
theorem tick_of_asleep {s : TimedTransport} {d : Nat}
    (h : s.now + d ≤ s.since + sweepInterval) :
    guarded step (fun s e => s.punctual e = true) s (.tick d) =
      some ({ s with now := s.now + d }, []) := by
  apply if_pos
  apply List.all_eq_true.mpr
  intro waited hmem
  have hwaited := List.mem_range.mp hmem
  have hasleep : ¬ s.since + sweepInterval ≤ s.now + waited := by omega
  simp [due, step, rested, hasleep]

/-- While anything is pending, the loop last turned no more than an interval ago. -/
theorem since_of_runs {s : TimedTransport} {t : List Nym.Observed}
    (h : Runs (guarded step fun s e => s.punctual e = true) initial t s)
    (hpending : s.transport.pending.size ≠ 0) : s.now ≤ s.since + sweepInterval := by
  refine h.always (P := fun s => s.transport.pending.size ≠ 0 →
    s.now ≤ s.since + sweepInterval) (fun _ => Nat.zero_le _) ?_ hpending
  intro s e o s' ih hguarded hpending
  rcases of_guarded hguarded with ⟨hpunctual, hstep⟩
  cases e with
  | tick d =>
    cases hstep
    have hbefore := ih hpending
    -- past the end of the sleep, the clock passed a moment at which the timer was due
    by_contra hlate
    have hwaited : s.since + sweepInterval - s.now < d := Nat.sub_lt_left_of_lt_add hbefore
      (Nat.lt_of_not_le hlate)
    have hdue := due_of_elapsed
      (s := { s with now := s.now + (s.since + sweepInterval - s.now) }) hpending
      (Nat.le_of_eq (Nat.add_sub_of_le hbefore).symm)
    have hnone := List.all_eq_true.mp hpunctual _ (List.mem_range.mpr hwaited)
    simp [hdue] at hnone
  | transport e =>
    rcases of_step hstep with ⟨hnow, hsince, htransport⟩
    rw [hnow, hsince]
    cases e with
    | turn a => exact Nat.le_add_right _ _
    | accept | abandon | closeRequests | takeFrame | inbound | loseDriver =>
      rcases of_not_turn htransport (by simp) with ⟨hcorrelator, -, -⟩
      rw [pending, hcorrelator] at hpending
      exact ih hpending

/-! ## The count along a run -/

/-- What the published count says. -/
structure Exact (t : List Nym.Observed) (s : TimedTransport) : Prop where
  /-- After a turn it is the number of the requests still wanted. -/
  counts : ∀ {a s' o}, s.step (.transport (.turn a)) = some (s', o) →
    s'.transport.correlator ≠ none →
    s'.transport.inflight = Multiset.card (wanted (t ++ o) s'.transport)
  distinct : (nonces t).Nodup → wanted t s.transport = awaited t s.transport
  /-- It is always that of what is pending, and nothing answered is pending. -/
  pending : s.transport.inflight = s.transport.pending.size
  unanswered : ∀ ticket ∈ total Observed.answeredTickets t,
    ticket ∉ s.transport.pending.entries
  timer : s.transport.pending.size ≠ 0 → s.since + sweepInterval ≤ s.now → s.due = true
  returned : s.transport.correlator = none → s.transport.inflight = 0

theorem unanswered_of_runs {s : Transport} {t : List Observed}
    (h : Runs Transport.step Transport.initial t s) :
    ∀ ticket ∈ total Observed.answeredTickets t, ticket ∉ s.pending.entries := by
  intro ticket hanswered hpending
  by_cases hrunning : s.correlator = none
  · rw [Transport.pending, hrunning] at hpending
    exact absurd hpending (Multiset.notMem_zero ticket)
  · have hnodup := emitted_nodup h hrunning
    rw [← emitted_total h hrunning] at hnodup
    apply Multiset.disjoint_left.mp (Multiset.nodup_add.mp hnodup).2.2 hpending
    rw [total_ended]
    simp only [Multiset.mem_add]
    exact .inl (.inl (.inl hanswered))

theorem exact_of_runs {s : TimedTransport} {t : List Nym.Observed}
    (h : Runs step initial t s) : Exact t s where
  counts hstep := inflight_of_turn (transport_runs h) (of_step hstep).2.2
  distinct := wanted_of_distinct (transport_runs h)
  pending := inflight_of_runs (transport_runs h)
  unanswered := unanswered_of_runs (transport_runs h)
  timer := due_of_elapsed
  returned hreturned := by
    rw [inflight_of_runs (transport_runs h), Transport.pending, hreturned]
    rfl

/-- The published count is exact in every run, however the events interleave: after each
turn it is the number of the requests that were emitted, are unanswered and were not
displaced, and whose caller listens. -/
theorem inflight_exact :
    (∀ t s, Runs step initial t s → Exact t s) ∧
      ∀ t s, Runs (guarded step fun s e => s.punctual e = true) initial t s →
        s.transport.pending.size ≠ 0 → s.now ≤ s.since + sweepInterval :=
  ⟨fun _ _ => exact_of_runs, fun _ _ => since_of_runs⟩

/-- Two requests wait and the first caller gives up: the timer's turn counts the other. -/
theorem inflight_exact_abandoned :
    ∃ t s s' o, Runs (guarded step fun s e => s.punctual e = true) initial t s ∧
      s.transport.inflight = 2 ∧ s.step (.transport (.turn .timer)) = some (s', o) ∧
      s'.transport.inflight = 1 ∧ Multiset.card (wanted (t ++ o) s'.transport) = 1 ∧
      Exact t s ∧ s.now ≤ s.since + sweepInterval := by
  have hwaiting := Runs.of_execute (show
    execute (guarded step fun s e => s.punctual e = true) initial
      [.transport (.accept sampleParcels.1), .transport (.turn .reserve),
        .transport (.turn .receive), .transport (.accept sampleParcels.2),
        .transport (.turn .reserve), .transport (.turn .receive),
        .transport (.abandon 0)] = some (_, _) from rfl)
  have hrun := hwaiting.snoc (tick_of_asleep (d := seconds 1) (Nat.le_refl _))
  have hexact := inflight_exact.1 _ _ hrun.of_guarded
  refine ⟨_, _, _, _, hrun, rfl, step_timer (Nat.le_refl _) rfl, rfl, ?_, hexact,
    inflight_exact.2 _ _ hrun nofun⟩
  exact (hexact.counts (step_timer (Nat.le_refl _) rfl) nofun).symm

/-- Two requests under one nonce: the second displaces the first, whose caller has not
dropped its receiver, and is counted alone. -/
theorem inflight_displaced :
    ¬ ∀ t s, Runs step initial t s → ∀ a s' o,
      s.step (.transport (.turn a)) = some (s', o) → s'.transport.correlator ≠ none →
      s'.transport.inflight = Multiset.card (awaited (t ++ o) s'.transport) := by
  intro h
  have hrun := Runs.of_execute (show execute step initial
    [.transport (.accept sampleParcels.1), .transport (.turn .reserve),
      .transport (.turn .receive), .transport (.accept sampleParcels.1),
      .transport (.turn .reserve)] = some (_, _) from rfl)
  have hcount := h _ _ hrun .receive _ _ rfl (Option.some_ne_none _)
  exact absurd hcount (by decide)

end TimedTransport

end Nym
end ZeroShim
