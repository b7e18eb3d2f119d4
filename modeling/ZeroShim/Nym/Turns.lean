import ZeroShim.Library.Budget
import ZeroShim.Nym.Published

/-!
# How often the transport loop turns

The loop never spins: what turns it is a request, an inbound message, the end of a channel or
its timer.  A potential of the state pays for the turns still to come, and what callers and the
driver bring in pays for the others; the timer is paid for by the clock.

Main results:

- Theorems {lit}`Transport.workBudget` and {lit}`TimedTransport.restBudget`: what a turn is
  paid with.
- Theorem {lit}`turns_bounded`: how often the loop turns between any two moments.
- Theorem {lit}`abandoned_swept`: how long it keeps a waiter whose caller went away.
-/

namespace ZeroShim
namespace Nym

open Library Wire

/-- The turns that a running loop has left besides those for requests and messages: its next
permit, the end of the requests and its own. -/
def Correlator.spare (c : Correlator) : Nat :=
  (if c.permit then 0 else 1) + (if c.requestsOpen then 1 else 0) + 1

namespace Transport

/-! ## Turns that work -/

/-- Turns of the loop other than its timer's. -/
def works : Event → Nat
  | .turn .timer => 0
  | .turn _ => 1
  | _ => 0

/-- The turns that an event from outside is good for: a request's permit and its receipt, and
a message. -/
def brings : Event → Nat
  | .accept _ => 2
  | .inbound _ => 1
  | _ => 0

/-- The turns that what is queued and a loop are good for. -/
def workWith (s : Transport) (c : Correlator) : Nat :=
  2 * s.requests.queue.length + s.fromMixnet.queue.length + c.spare

/-- The turns that the state is good for: once the loop has returned, none. -/
def work (s : Transport) : Nat :=
  match s.correlator with
  | some c => s.workWith c
  | none => 0

theorem work_endTurn_le (s : Transport) (c : Correlator) :
    (endTurn s c).1.work ≤ s.workWith c := by
  unfold endTurn sweep publish
  dsimp only
  split_ifs
  · exact Nat.zero_le _
  · exact Nat.le_refl _

theorem workWith_receiveMessage {s s' : Transport} {c c' : Correlator} {o : List Observed}
    {bytes : Bytes} {fromMixnet : Channel Bytes 32}
    (hrecv : s.fromMixnet.recv = .item bytes fromMixnet)
    (h : receiveMessage s c bytes fromMixnet = .turn s' c' o) :
    1 + s'.workWith c' ≤ s.workWith c := by
  have hqueue := Channel.queue_of_recv hrecv
  have hshorter : s.fromMixnet.queue.length = fromMixnet.queue.length + 1 := by
    rw [hqueue, List.length_cons]
  unfold receiveMessage at h
  split_ifs at h
  · cases h
    simp only [workWith, hshorter]
    omega
  · split at h
    all_goals
      cases h
      simp only [workWith, hshorter, Correlator.spare]
      omega

/-- An arm that turns the loop is paid for. -/
theorem workWith_of_arm {s s' : Transport} {c c' : Correlator} {a : Arm} {o : List Observed}
    (h : arm s c a = some (.turn s' c' o)) :
    works (.turn a) + s'.workWith c' ≤ s.workWith c := by
  cases a with
  | reserve =>
    simp only [arm] at h
    split_ifs at h with hguard hreceiver
    · split at h
      · cases h
        simp [works, workWith, Correlator.spare, hguard.1]
        omega
      · cases h
    · cases h
  | receive =>
    simp only [arm] at h
    split_ifs at h with hguard
    · split at h
      · next request requests hrecv =>
        have hqueue := Channel.queue_of_recv hrecv
        split at h
        · cases h
          simp [works, workWith, Correlator.spare, hguard.1, hqueue]
          omega
        · cases h
      · cases h
        simp [works, workWith, Correlator.spare, hguard.2]
        omega
      · cases h
  | message =>
    simp only [arm] at h
    split at h
    · next bytes fromMixnet hrecv => exact workWith_receiveMessage hrecv (Option.some.inj h)
    · cases h
    · cases h
  | timer =>
    simp only [arm] at h
    split_ifs at h
    cases h
    exact Nat.le_of_eq (Nat.zero_add _)

theorem works_le_one (e : Event) : works e ≤ 1 := by
  unfold works
  split <;> omega

/-- A turn of the loop is paid for. -/
theorem work_of_turn {s s' : Transport} {a : Arm} {o : List Observed}
    (h : s.turn a = some (s', o)) : works (.turn a) + s'.work ≤ s.work := by
  rcases turn_cases h with ⟨c, hc, ⟨harm, rfl, rfl⟩ | ⟨s₁, c₁, o₁, harm, rfl, rfl⟩⟩
  · have hreturns : (leave s c).1.work = 0 := rfl
    have hpaid : 1 ≤ s.work := by
      simp only [work, hc, workWith, Correlator.spare]
      omega
    rw [hreturns]
    exact (works_le_one _).trans hpaid
  · have hend := work_endTurn_le s₁ c₁
    have hpaid := workWith_of_arm harm
    have hbefore : s.work = s.workWith c := by simp [work, hc]
    omega

/-- Requests and messages pay for the turns of the loop. -/
theorem workBudget : Budget step works brings work where
  pays := by
    intro s e s' o h
    cases e with
    | turn a =>
      have hpaid := work_of_turn h
      simpa [brings] using hpaid
    | accept parcel =>
      rcases Option.map_eq_some_iff.mp h with ⟨⟨s₁, request⟩, haccept, heq⟩
      cases heq
      rcases of_accept haccept with ⟨-, hqueue, -, hcorrelator, -, hinbound, -, -⟩
      simp only [works, brings, work, workWith, hcorrelator, hqueue, hinbound,
        List.length_append, List.length_singleton]
      cases s.correlator with
      | none => exact Nat.zero_le _
      | some c => dsimp only; omega
    | inbound message =>
      rcases Option.map_eq_some_iff.mp h with ⟨s₁, hinbound, heq⟩
      cases heq
      rcases of_inbound hinbound with ⟨fromMixnet, hsend, rfl⟩
      simp only [works, brings, work, workWith, Channel.queue_of_send hsend,
        List.length_append, List.length_singleton]
      cases s.correlator with
      | none => exact Nat.zero_le _
      | some c => dsimp only; omega
    | takeFrame =>
      rcases Option.map_eq_some_iff.mp h with ⟨⟨out, s₁⟩, htake, heq⟩
      cases heq
      rcases of_takeFrame htake with ⟨toMixnet, -, rfl⟩
      exact Nat.le_of_eq (Nat.zero_add _)
    | abandon | closeRequests | loseDriver =>
      cases h
      exact Nat.le_of_eq (Nat.zero_add _)

/-- What is queued is bounded, and with it the work. -/
theorem work_le (s : Transport) : s.work ≤ 99 := by
  have hrequests := s.requests.bounded
  have hmessages := s.fromMixnet.bounded
  unfold work
  split
  · simp only [workWith, Correlator.spare]
    split_ifs <;> omega
  · omega

end Transport

namespace TimedTransport

open Transport

/-! ## Turns of the timer -/

def isTurn : Event → Bool
  | .transport (.turn _) => true
  | _ => false

def isTimer : Event → Bool
  | .transport (.turn .timer) => true
  | _ => false

def isAccept : Event → Bool
  | .transport (.accept _) => true
  | _ => false

def isInbound : Event → Bool
  | .transport (.inbound _) => true
  | _ => false

/-- The time that passes in an event. -/
def passes : Event → Nat
  | .tick d => d
  | .transport _ => 0

/-- The sleep that a turn of the timer takes. -/
def sleeps (e : Event) : Nat := if isTimer e then sweepInterval else 0

/-- How much of the timer's sleep has passed. -/
def slept (s : TimedTransport) : Nat := min (s.now - s.since) sweepInterval

/-- The clock pays for the turns of the timer. -/
theorem restBudget : Budget step sleeps passes slept where
  pays := by
    intro s e s' o h
    cases e with
    | tick d =>
      cases h
      simp only [sleeps, isTimer, passes, slept, Bool.false_eq_true, if_false]
      omega
    | transport e =>
      rcases of_step h with ⟨hnow, hsince, -⟩
      simp only [slept, hnow, hsince, passes]
      cases e with
      | turn a =>
        cases a with
        | timer =>
          have hrested : s.rested (.turn .timer) = true := by
            by_contra hearly
            simp [step, hearly] at h
          simp only [rested, decide_eq_true_eq] at hrested
          simp only [sleeps, isTimer, if_true, sinceAfter]
          omega
        | reserve | receive | message => simp [sleeps, isTimer, sinceAfter]
      | accept | abandon | closeRequests | takeFrame | inbound | loseDriver =>
        simp [sleeps, isTimer, sinceAfter]

/-- The turns that work, and the requests and messages that pay for them. -/
def onTransport (f : Transport.Event → Nat) : Event → Nat
  | .tick _ => 0
  | .transport e => f e

theorem workBudget :
    Budget step (onTransport works) (onTransport brings) fun s => s.transport.work where
  pays := by
    intro s e s' o h
    cases e with
    | tick d =>
      cases h
      exact Nat.le_of_eq (Nat.zero_add _)
    | transport e => exact Transport.workBudget.pays (of_step h).2.2

/-! ## Between two moments -/

theorem countP_turns (es : List Event) :
    es.countP isTurn = (es.map (onTransport works)).sum + es.countP isTimer := by
  induction es with
  | nil => rfl
  | cons e es ih =>
    rw [List.countP_cons, List.countP_cons, List.map_cons, List.sum_cons, ih]
    rcases e with d | e
    · simp [isTurn, isTimer, onTransport]
    · cases e with
      | turn a => cases a <;> simp [isTurn, isTimer, onTransport, works] <;> omega
      | accept | abandon | closeRequests | takeFrame | inbound | loseDriver =>
        simp [isTurn, isTimer, onTransport, works]

theorem sum_brings (es : List Event) :
    (es.map (onTransport brings)).sum = 2 * es.countP isAccept + es.countP isInbound := by
  induction es with
  | nil => rfl
  | cons e es ih =>
    rw [List.countP_cons, List.countP_cons, List.map_cons, List.sum_cons, ih]
    rcases e with d | e
    · simp [isAccept, isInbound, onTransport]
    · cases e <;> simp [isAccept, isInbound, onTransport, brings] <;> omega

theorem now_of_step {s s' : TimedTransport} {e : Event} {o : List Nym.Observed}
    (h : step s e = some (s', o)) : s'.now = s.now + passes e := by
  cases e with
  | tick d =>
    cases h
    rfl
  | transport e => exact (of_step h).1

/-- Between any two moments, and from any state, the loop turns twice for a request, once for
an inbound message, once an interval for its timer, and a hundred times more at most for what
was under way: it never spins. -/
theorem turns_bounded {s s' : TimedTransport} {es : List Event} {t : List Nym.Observed}
    (h : execute step s es = some (s', t)) :
    es.countP isTurn ≤ 2 * es.countP isAccept + es.countP isInbound +
      (s'.now - s.now) / sweepInterval + 100 := by
  have hwork := workBudget.total_le h
  have hbound := s.transport.work_le
  have hpassed : s'.now - s.now = (es.map passes).sum := by
    rw [measure_of_execute h now_of_step, Nat.add_sub_cancel_left]
  have htimer : es.countP isTimer ≤ (s'.now - s.now) / sweepInterval + 1 := by
    rw [hpassed]
    exact restBudget.paced (by decide) (Nat.min_le_right _ _) h
  rw [sum_brings] at hwork
  rw [countP_turns]
  omega

/-- A request is accepted, handed over and swept: three turns. -/
theorem turns_bounded_swept :
    ∃ es s t, execute step initial es = some (s, t) ∧ es.countP isTurn = 3 ∧
      es.countP isTurn ≤ 2 * es.countP isAccept + es.countP isInbound +
        (s.now - initial.now) / sweepInterval + 100 := by
  have hrun : execute step initial
      [.transport (.accept sampleParcels.1), .transport (.turn .reserve),
        .transport (.turn .receive), .transport (.abandon 0), .tick (seconds 1)] =
      some (_, _) := rfl
  have hswept := execute_snoc hrun (step_timer (Nat.le_refl _) rfl)
  exact ⟨_, _, _, hswept, rfl, turns_bounded hswept⟩

/-! ## What a caller that went away leaves behind -/

/-- The receiver of a reply channel that was opened is gone. -/
def Abandoned (slot : Nat) (s : Transport) : Prop :=
  slot < s.oneshots.opened ∧ s.oneshots.isClosed slot = true

/-- A receiver that is gone stays gone. -/
theorem abandoned_of_stepped {slot : Nat} {s s' : Transport} {o : List Nym.Observed}
    (h : Abandoned slot s) (hstep : Stepped s s' o) : Abandoned slot s' := by
  rcases h with ⟨hopened, hclosed⟩
  unfold Abandoned Oneshots.isClosed at *
  cases hstep with
  | turn hturn =>
    have htracks := tracks_turn hturn
    rw [htracks.opened, htracks.receiver]
    exact ⟨hopened, hclosed⟩
  | accept haccept =>
    rw [(of_accept haccept).2.2.1]
    have hother : slot ≠ s.oneshots.opened := Nat.ne_of_lt hopened
    refine ⟨Nat.lt_succ_of_lt hopened, ?_⟩
    simpa [Oneshots.openNext, Function.update_of_ne hother] using hclosed
  | abandon other =>
    refine ⟨hopened, ?_⟩
    by_cases hsame : slot = other
    · simp [abandon, Oneshots.dropReceiver, Oneshots.change, hsame, Oneshot.dropReceiver]
    · simpa [abandon, Oneshots.dropReceiver, Oneshots.change, Function.update_of_ne hsame]
        using hclosed
  | inbound hinbound =>
    rcases of_inbound hinbound with ⟨fromMixnet, -, rfl⟩
    exact ⟨hopened, hclosed⟩
  | quiet hquiet =>
    rw [hquiet.oneshots]
    exact ⟨hopened, hclosed⟩

/-- No waiter of the abandoned slot is pending, unless the loop has not turned since. -/
structure Swept (slot : Nat) (moment : Nat) (s : TimedTransport) : Prop where
  abandoned : Abandoned slot s.transport
  pending : moment < s.since → ∀ ticket ∈ s.transport.pending.entries, ticket.2.slot ≠ slot

theorem Swept.step {slot moment : Nat} {s s' : TimedTransport} {e : Event}
    {o : List Nym.Observed} (h : Swept slot moment s) (hstep : step s e = some (s', o)) :
    Swept slot moment s' := by
  cases e with
  | tick d =>
    cases hstep
    exact ⟨h.abandoned, h.pending⟩
  | transport e =>
    rcases of_step hstep with ⟨-, hsince, htransport⟩
    have habandoned := abandoned_of_stepped h.abandoned (stepped_of_step htransport)
    refine ⟨habandoned, fun hlater ticket hmem hslot => ?_⟩
    cases e with
    | turn a =>
      -- after a turn every pending caller listens
      by_cases hrunning : s'.transport.correlator = none
      · rw [Transport.pending, hrunning] at hmem
        exact absurd hmem (Multiset.notMem_zero ticket)
      · have hlistens := listening_of_turn htransport hrunning ticket hmem
        rw [← hslot] at habandoned
        simp [listening, habandoned.2] at hlistens
    | accept | abandon | closeRequests | takeFrame | inbound | loseDriver =>
      rcases of_not_turn htransport (by simp) with ⟨hcorrelator, -, -⟩
      rw [Transport.pending, hcorrelator] at hmem
      rw [hsince] at hlater
      exact h.pending hlater ticket hmem hslot

/-- The loop came to its {lit}`select!` in the past. -/
theorem since_le_now {s : TimedTransport} {t : List Nym.Observed} (h : Runs step initial t s) :
    s.since ≤ s.now := by
  refine h.always (P := fun s => s.since ≤ s.now) (Nat.le_refl _) ?_
  intro s e o s' hle hstep
  cases e with
  | tick d =>
    cases hstep
    exact hle.trans (Nat.le_add_right _ _)
  | transport e =>
    rcases of_step hstep with ⟨hnow, hsince, -⟩
    rw [hnow, hsince]
    cases e with
    | turn a => exact Nat.le_refl _
    | accept | abandon | closeRequests | takeFrame | inbound | loseDriver => exact hle

/-- A waiter whose caller went away is gone from the map once the loop's sleep has passed,
whatever else keeps the loop busy, and it does not come back. -/
theorem abandoned_swept {s s' : TimedTransport} {t t' : List Nym.Observed} {slot : Nat}
    (h : Runs (guarded step fun s e => s.punctual e = true) initial t s)
    (h' : Runs (guarded step fun s e => s.punctual e = true) s t' s')
    (habandoned : Abandoned slot s.transport) (helapsed : s.now + sweepInterval < s'.now) :
    ∀ ticket ∈ s'.transport.pending.entries, ticket.2.slot ≠ slot := by
  intro ticket hmem
  have hpending : s'.transport.pending.size ≠ 0 :=
    Nat.ne_of_gt (Multiset.card_pos_iff_exists_mem.mpr ⟨ticket, hmem⟩)
  have hrecent := since_of_runs (h.trans h') hpending
  have hbefore := since_le_now h.of_guarded
  have hstart : Swept slot s.now s := by
    refine ⟨habandoned, fun hlater => absurd hlater (Nat.not_lt.mpr hbefore)⟩
  have hswept := h'.always (P := Swept slot s.now) hstart
    fun hswept hguarded => hswept.step (of_guarded hguarded).2
  exact hswept.pending (by omega) ticket hmem

/-- The loop sleeps, turns for its timer and sleeps on. -/
theorem sleep_run {s : TimedTransport} (hnow : s.now = s.since)
    {out : Transport × List Nym.Observed} (hturn : s.transport.turn .timer = some out) :
    Runs (guarded step fun s e => s.punctual e = true) s out.2
      ⟨s.now + sweepInterval + 1, s.now + sweepInterval, out.1⟩ := by
  have hasleep : s.now + sweepInterval ≤ s.since + sweepInterval := by rw [hnow]
  have hrested : s.since + sweepInterval ≤ s.now + sweepInterval := by rw [hnow]
  have hslept := Runs.single (tick_of_asleep hasleep)
  have htimer : guarded step (fun s e => s.punctual e = true)
      ⟨s.now + sweepInterval, s.since, s.transport⟩ (.transport (.turn .timer)) =
      some (⟨s.now + sweepInterval, s.now + sweepInterval, out.1⟩, out.2) :=
    (if_pos rfl).trans (step_timer hrested hturn)
  have hlast := tick_of_asleep (d := 1)
    (s := ⟨s.now + sweepInterval, s.now + sweepInterval, out.1⟩)
    (Nat.add_le_add_left (by decide) _)
  simpa using (hslept.snoc htimer).snoc hlast

/-- Two requests wait and the first caller gives up: after an interval only the other's waiter
is left. -/
theorem abandoned_swept_first :
    ∃ t s t' s', Runs (guarded step fun s e => s.punctual e = true) initial t s ∧
      Runs (guarded step fun s e => s.punctual e = true) s t' s' ∧
      s.transport.pending.size = 2 ∧ s'.transport.pending.size = 1 ∧
      ∀ ticket ∈ s'.transport.pending.entries, ticket.2.slot ≠ 0 := by
  obtain ⟨t, s, out, hrun, hnow, habandoned, hturn, htwo, hone⟩ :
      ∃ t s out, Runs (guarded step fun s e => s.punctual e = true) initial t s ∧
        s.now = s.since ∧ Abandoned 0 s.transport ∧ s.transport.turn .timer = some out ∧
        s.transport.pending.size = 2 ∧ out.1.pending.size = 1 :=
    ⟨_, _, _, Runs.of_execute (show
      execute (guarded step fun s e => s.punctual e = true) initial
        [.transport (.accept sampleParcels.1), .transport (.turn .reserve),
          .transport (.turn .receive), .transport (.accept sampleParcels.2),
          .transport (.turn .reserve), .transport (.turn .receive),
          .transport (.abandon 0)] = some (_, _) from rfl),
      rfl, ⟨Nat.zero_lt_two, rfl⟩, rfl, rfl, rfl⟩
  have hrest := sleep_run hnow hturn
  exact ⟨t, s, _, _, hrun, hrest, htwo, hone,
    abandoned_swept hrun hrest habandoned (Nat.lt_succ_self _)⟩

end TimedTransport

end Nym
end ZeroShim
