import ZeroShim.Nym.Lookup
import ZeroShim.Nym.Submit

/-!
# How long a caller waits

Calls over a transport that may accept nothing and answer nothing.  A call is polled as soon
as it can go on, and at its deadline at the latest; otherwise time passes as it likes.

Main results:

- Theorem {lit}`submit_within`: a submission is over when its dispatch timeout is.
- Theorem {lit}`lookup_within`: a lookup is over when a timeout for each address is.
- Theorem {lit}`calls_bounded`: both, and no call that is due is stuck.
-/

namespace ZeroShim
namespace Nym

open Library Wire Transport

def SubmitCall.isOver (call : SubmitCall) : Bool :=
  match call.phase with
  | .returned _ | .cancelled => true
  | _ => false

def LookupCall.isOver (call : LookupCall) : Bool :=
  match call.phase with
  | .returned _ | .cancelled => true
  | _ => false

namespace Calls

section Step

variable {s s' : Calls} {e : Event} {o : List Observed} {i : Nat}

/-! ## Submissions -/

/-- A submission that is not over has not seen its deadline pass. -/
def SubmitWithin (deadline : Nat) (i : Nat) (s : Calls) : Prop :=
  ∃ call, s.submits[i]? = some call ∧ call.deadline = deadline ∧
    (call.isOver = false → s.now ≤ deadline)

theorem deadline_of_submit {transport transport' : Transport} {now : Nat}
    {call call' : SubmitCall} {log : List SubmitObserved}
    (h : SubmitCall.Stepped transport now call transport' call' log) :
    call'.deadline = call.deadline ∧ (call'.isOver = false → call.isOver = false) := by
  cases h with
  | frame hphase =>
    refine ⟨rfl, fun _ => ?_⟩
    simp [SubmitCall.isOver, hphase]
  | dispatch hphase haccept =>
    refine ⟨?_, fun _ => ?_⟩
    · unfold SubmitCall.handed SubmitCall.advance
      dsimp only
      split_ifs <;> rfl
    · simp [SubmitCall.isOver, hphase]
  | refuse | closed | elapsed | cancel => exact ⟨rfl, nofun⟩

theorem SubmitWithin.step {deadline : Nat} (h : SubmitWithin deadline i s)
    (hpunctual : s.punctual e = true) (hstep : s.step e = some (s', o)) :
    SubmitWithin deadline i s' := by
  rcases h with ⟨call, hcall, hdeadline, hwithin⟩
  rcases now_of_step hstep with ⟨d, rfl, rfl⟩ | hnow
  · have hallows := submit_allows hpunctual hcall
    refine ⟨call, hcall, hdeadline, fun hover => ?_⟩
    unfold SubmitCall.allows at hallows
    unfold SubmitCall.isOver at hover
    cases hphase : call.phase with
    | framing target => simp [hphase] at hallows
    | sending target parcel =>
      simp only [hphase, decide_eq_true_eq] at hallows
      exact hallows.trans (Nat.le_of_eq hdeadline)
    | returned | cancelled => simp [hphase] at hover
  · rcases submits_step hstep i with ⟨hsame, -⟩ | ⟨hnone, -⟩ |
      ⟨before, transport, after, hbefore, hafter, hstepped⟩
    · rw [hnow.symm] at hwithin
      exact ⟨call, hsame ▸ hcall, hdeadline, hwithin⟩
    · rw [hnone] at hcall
      cases hcall
    · obtain rfl := Option.some.inj (hcall.symm.trans hbefore)
      rcases deadline_of_submit hstepped with ⟨hsame, hrunning⟩
      refine ⟨after, hafter, hsame.trans hdeadline, fun hover => ?_⟩
      rw [hnow]
      exact hwithin (hrunning hover)

/-- A submission is over when its dispatch timeout is. -/
theorem submit_within {s₁ : Calls} {tx : Bytes} {t : List Observed}
    (hstart : s.step (.startSubmit tx) = some (s₁, o))
    (h : Runs (guarded step fun s e => s.punctual e = true) s₁ t s') :
    ∃ call, s'.submits[s.submits.length]? = some call ∧
      (call.isOver = false → s'.now ≤ s.now + s.handle.dispatchTimeout) := by
  have hfirst : SubmitWithin (s.now + s.handle.dispatchTimeout) s.submits.length s₁ := by
    cases hstart
    refine ⟨(SubmitCall.start s.handle s.now tx).1, by simp, ?_, fun _ => Nat.le_add_right _ _⟩
    unfold SubmitCall.start
    split_ifs <;> rfl
  have hlast := h.always (P := SubmitWithin (s.now + s.handle.dispatchTimeout) s.submits.length)
    hfirst fun hwithin hguarded =>
      hwithin.step (of_guarded hguarded).1 (of_guarded hguarded).2
  rcases hlast with ⟨call, hcall, -, hwithin⟩
  exact ⟨call, hcall, hwithin⟩

/-! ## Lookups -/

/-- An attempt of a lookup ends within as many timeouts as attempts have begun. -/
def AttemptWithin (began timeout now : Nat) (call : LookupCall) : Prop :=
  match call.phase with
  | .building attempt => attempt < call.targets ∧ now ≤ began + attempt * timeout
  | .sending attempt deadline _ | .awaiting attempt deadline _ _ =>
    attempt < call.targets ∧ now ≤ deadline ∧ deadline ≤ began + (attempt + 1) * timeout
  | _ => True

theorem attemptWithin_expire {began timeout now attempt : Nat} {call : LookupCall}
    (h : now ≤ began + (attempt + 1) * timeout) :
    AttemptWithin began timeout now (call.expire attempt now).1 := by
  unfold LookupCall.expire
  by_cases hnext : attempt + 1 < call.targets
  · simp only [hnext, if_true]
    exact ⟨hnext, h⟩
  · simp only [hnext, if_false]
    trivial

theorem AttemptWithin.step {handle : NymHandle} {transport transport' : Transport}
    {began now : Nat} {call call' : LookupCall} {log : List LookupObserved}
    (h : AttemptWithin began handle.timeout now call)
    (hstep : LookupCall.Stepped handle transport now call transport' call' log) :
    AttemptWithin began handle.timeout now call' := by
  unfold AttemptWithin at h
  cases hstep with
  | build hphase =>
    simp only [hphase] at h
    refine ⟨h.1, Nat.le_add_right _ _, ?_⟩
    rw [Nat.add_mul, Nat.one_mul, ← Nat.add_assoc]
    exact Nat.add_le_add_right h.2 _
  | dispatch hphase =>
    simp only [hphase] at h
    exact h
  | full hphase | silent hphase =>
    simp only [hphase] at h
    exact attemptWithin_expire (h.2.1.trans h.2.2)
  | refuse | closed | reply | gone | cancel | cancelAwaiting => trivial

theorem targets_of_lookup {handle : NymHandle} {transport transport' : Transport} {now : Nat}
    {call call' : LookupCall} {log : List LookupObserved}
    (h : LookupCall.Stepped handle transport now call transport' call' log) :
    call'.targets = call.targets := by
  cases h with
  | full | silent =>
    unfold LookupCall.expire
    dsimp only
    split_ifs <;> rfl
  | build | dispatch | refuse | closed | reply | gone | cancel | cancelAwaiting => rfl

/-- A lookup that began at a moment keeps within its timeouts. -/
def LookupWithin (began timeout targets : Nat) (i : Nat) (s : Calls) : Prop :=
  s.handle.timeout = timeout ∧ ∃ call, s.lookups[i]? = some call ∧ call.targets = targets ∧
    AttemptWithin began timeout s.now call

theorem LookupWithin.step {began timeout targets : Nat} (h : LookupWithin began timeout targets i s)
    (hpunctual : s.punctual e = true) (hstep : s.step e = some (s', o)) :
    LookupWithin began timeout targets i s' := by
  rcases h with ⟨htimeout, call, hcall, htargets, hwithin⟩
  refine ⟨(timeouts_of_step hstep).1.trans htimeout, ?_⟩
  rcases now_of_step hstep with ⟨d, rfl, rfl⟩ | hnow
  · have hallows := lookup_allows hpunctual hcall
    refine ⟨call, hcall, htargets, ?_⟩
    unfold LookupCall.allows at hallows
    unfold AttemptWithin at hwithin ⊢
    cases hphase : call.phase with
    | building attempt => simp [hphase] at hallows
    | sending attempt deadline parcel =>
      simp only [hphase, decide_eq_true_eq] at hallows hwithin
      exact ⟨hwithin.1, hallows, hwithin.2.2⟩
    | awaiting attempt deadline nonce slot =>
      simp only [hphase, decide_eq_true_eq] at hallows hwithin
      exact ⟨hwithin.1, hallows, hwithin.2.2⟩
    | returned | cancelled => trivial
  · rw [hnow]
    rcases lookups_step hstep i with ⟨hsame, -⟩ | ⟨hnone, -⟩ |
      ⟨before, transport, after, hbefore, hafter, hstepped⟩
    · exact ⟨call, hsame ▸ hcall, htargets, hwithin⟩
    · rw [hnone] at hcall
      cases hcall
    · obtain rfl := Option.some.inj (hcall.symm.trans hbefore)
      subst htimeout
      exact ⟨after, hafter, (targets_of_lookup hstepped).trans htargets, hwithin.step hstepped⟩

/-- What is left of the timeouts of a lookup that is not over. -/
theorem AttemptWithin.le {began timeout now : Nat} {call : LookupCall}
    (h : AttemptWithin began timeout now call) (hover : call.isOver = false) :
    now ≤ began + call.targets * timeout := by
  have later {attempt : Nat} (hlt : attempt < call.targets) :
      began + (attempt + 1) * timeout ≤ began + call.targets * timeout :=
    Nat.add_le_add_left (Nat.mul_le_mul_right _ hlt) _
  unfold AttemptWithin at h
  unfold LookupCall.isOver at hover
  cases hphase : call.phase with
  | building attempt =>
    simp only [hphase] at h
    have hless : attempt * timeout ≤ (attempt + 1) * timeout :=
      Nat.mul_le_mul_right _ (Nat.le_succ _)
    exact (h.2.trans (Nat.add_le_add_left hless _)).trans (later h.1)
  | sending | awaiting =>
    simp only [hphase] at h
    exact (h.2.1.trans h.2.2).trans (later h.1)
  | returned | cancelled => simp [hphase] at hover

/-- A lookup is over when a timeout for each address is. -/
theorem lookup_within {s₁ : Calls} {hash : Bytes} {t : List Observed}
    (hstart : s.step (.startLookup hash) = some (s₁, o))
    (h : Runs (guarded step fun s e => s.punctual e = true) s₁ t s') :
    ∃ call, s'.lookups[s.lookups.length]? = some call ∧
      (call.isOver = false → s'.now ≤ s.now + s.handle.targets * s.handle.timeout) := by
  have hfirst : LookupWithin s.now s.handle.timeout s.handle.targets s.lookups.length s₁ := by
    refine ⟨(timeouts_of_step hstart).1, ?_⟩
    cases hstart
    refine ⟨(LookupCall.begin s.handle hash).2.1, by simp, ?_, ?_⟩
    · unfold LookupCall.begin
      dsimp only
      split_ifs <;> rfl
    · unfold LookupCall.begin AttemptWithin
      by_cases hnone : s.handle.targets = 0
      · simp only [hnone, if_true]
        trivial
      · simp only [hnone, if_false]
        exact ⟨Nat.pos_of_ne_zero hnone, Nat.le_add_right _ _⟩
  have hlast := h.always
    (P := LookupWithin s.now s.handle.timeout s.handle.targets s.lookups.length) hfirst
    fun hwithin hguarded => hwithin.step (of_guarded hguarded).1 (of_guarded hguarded).2
  rcases hlast with ⟨-, call, hcall, htargets, hwithin⟩
  refine ⟨call, hcall, fun hover => ?_⟩
  rw [← htargets]
  exact hwithin.le hover

end Step

/-! ## Nothing is stuck -/

section Moves

variable {timeout dispatchTimeout : Nat} {s : Calls} {t : List Observed} {i : Nat}

theorem submit_enabled {call : SubmitCall} {e : SubmitEvent} (hcall : s.submits[i]? = some call)
    (h : (call.step s.transport s.now e).isSome = true) :
    ∃ s' o, s.step (.submit i e) = some (s', o) := by
  rcases Option.isSome_iff_exists.mp h with ⟨out, hstep⟩
  exact ⟨_, _, step_submit hcall hstep⟩

theorem lookup_enabled {call : LookupCall} {e : LookupEvent} (hcall : s.lookups[i]? = some call)
    (h : (call.step s.handle s.transport s.now e).isSome = true) :
    ∃ s' o, s.step (.lookup i e) = some (s', o) := by
  rcases Option.isSome_iff_exists.mp h with ⟨out, hstep⟩
  simp [step, hcall, hstep]

/-- A submission that holds the clock up can go on. -/
theorem submit_moves {call : SubmitCall} (hcall : s.submits[i]? = some call)
    (hdue : call.allows (s.now + 1) = false) :
    ∃ e s' o, s.step (.submit i e) = some (s', o) := by
  unfold SubmitCall.allows at hdue
  cases hphase : call.phase with
  | framing target =>
    refine ⟨.frame (List.Vector.replicate 16 0), submit_enabled hcall ?_⟩
    by_cases hbudget : call.tx.length ≤ maxNymTxBytes
    · simp [SubmitCall.step, hphase, SubmitCall.frame, encodeSubmit_eq hbudget]
    · simp [SubmitCall.step, hphase, SubmitCall.frame, encodeSubmit_over hbudget]
  | sending target parcel =>
    simp only [hphase, decide_eq_false_iff_not] at hdue
    have hdeadline : call.deadline ≤ s.now := Nat.le_of_lt_succ (Nat.lt_of_not_le hdue)
    refine ⟨.elapsed, submit_enabled hcall ?_⟩
    simp [SubmitCall.step, hphase, hdeadline]
  | returned | cancelled => simp [hphase] at hdue

/-- What a waiting lookup finds in its channel is a lookup's reply. -/
theorem reply_of_waits (h : Runs step (initial timeout dispatchTimeout) t s) {slot : Nat}
    {nonce : Nonce} (hwaits : Waits t s i nonce slot) {a : Answer}
    (hvalue : (s.transport.oneshots.cell slot).value = some a) : ∃ reply, a = .lookup reply := by
  have htransport := transport_runs h
  rcases hwaits.since with ⟨t₁, t₂, request, rfl, -, hwaiter, -, hsince⟩
  rcases hsince a hvalue with ⟨firing, message, hfired, hslot, hanswer⟩
  have hmem : .transport (.fired firing message) ∈ t₁ ++ .lookup i (.handed request) :: t₂ :=
    List.mem_append_right _ (List.mem_cons_of_mem _ hfired)
  have hfiredT := mem_transportTrace.mpr hmem
  rcases (heard_of_runs htransport).fired firing message hfiredT with ⟨-, hcarried⟩
  rcases accepted_of_fired htransport hfiredT with ⟨other, hother, -, hotherWaiter⟩
  have haccepted : .accepted request ∈ transportTrace _ :=
    mem_transportTrace.mpr (accepted_of_lookup_handed h (i := i) (by simp))
  have hticket := ticket_unique htransport hother haccepted
    (by rw [hotherWaiter, hslot, hwaiter]; rfl)
  have hwait : firing.waiter = .lookup slot := by
    have hsame : other.waiter = request.waiter := by
      simpa [Request.ticket] using congrArg Sigma.snd hticket
    rw [← hotherWaiter, hsame, hwaiter]
  subst hanswer
  cases hkind : firing.answer with
  | ack kind => simp [Firing.CarriedBy, hwait, hkind] at hcarried
  | lookup reply => exact ⟨reply, rfl⟩

/-- A lookup that holds the clock up can go on. -/
theorem lookup_moves (h : Runs step (initial timeout dispatchTimeout) t s) {call : LookupCall}
    (hcall : s.lookups[i]? = some call) (hdue : call.allows (s.now + 1) = false) :
    ∃ e s' o, s.step (.lookup i e) = some (s', o) := by
  unfold LookupCall.allows at hdue
  have due {deadline : Nat} (hlate : ¬ s.now + 1 ≤ deadline) : deadline ≤ s.now :=
    Nat.le_of_lt_succ (Nat.lt_of_not_le hlate)
  cases hphase : call.phase with
  | building attempt =>
    refine ⟨.build (List.Vector.replicate 16 0), lookup_enabled hcall ?_⟩
    by_cases hbudget : call.hash.length ≤ maxLookupHashBytes
    · simp [LookupCall.step, hphase, LookupCall.build, encodeLookup_eq hbudget]
    · simp [LookupCall.step, hphase, LookupCall.build, encodeLookup_over hbudget]
  | sending attempt deadline parcel =>
    simp only [hphase, decide_eq_false_iff_not] at hdue
    -- a receiver that is gone is noticed first
    cases hreceiver : s.transport.requests.receiver with
    | true =>
      refine ⟨.elapsed, lookup_enabled hcall ?_⟩
      simp [LookupCall.step, hphase, hreceiver, due hdue]
    | false =>
      refine ⟨.closed, lookup_enabled hcall ?_⟩
      simp [LookupCall.step, hphase, hreceiver]
  | awaiting attempt deadline nonce slot =>
    simp only [hphase, decide_eq_false_iff_not] at hdue
    have hwaits := (waiting_of_runs h).waits i deadline nonce slot ⟨call, attempt, hcall, hphase⟩
    cases hpoll : s.transport.oneshots.poll slot with
    | ready a =>
      have hvalue : (s.transport.oneshots.cell slot).value = some a :=
        Oneshots.poll_eq_ready.mp hpoll
      obtain ⟨reply, rfl⟩ := reply_of_waits h hwaits hvalue
      refine ⟨.poll, lookup_enabled hcall ?_⟩
      simp [LookupCall.step, hphase, hpoll]
    | gone =>
      refine ⟨.poll, lookup_enabled hcall ?_⟩
      simp [LookupCall.step, hphase, hpoll]
    | pending =>
      refine ⟨.elapsed, lookup_enabled hcall ?_⟩
      simp [LookupCall.step, hphase, hpoll, due hdue]
  | returned | cancelled => simp [hphase] at hdue

end Moves

/-! ## The bound -/

/-- How long callers wait, from a moment on. -/
structure WaitBounded (s : Calls) : Prop where
  /-- A submission is over when the dispatch timeout is. -/
  submits : ∀ tx o s₁ t s', s.step (.startSubmit tx) = some (s₁, o) →
    Runs (guarded step fun s e => s.punctual e = true) s₁ t s' →
    ∃ call, s'.submits[s.submits.length]? = some call ∧
      (call.isOver = false → s'.now ≤ s.now + s.handle.dispatchTimeout)
  /-- A lookup is over when a timeout for each address is. -/
  lookups : ∀ hash o s₁ t s', s.step (.startLookup hash) = some (s₁, o) →
    Runs (guarded step fun s e => s.punctual e = true) s₁ t s' →
    ∃ call, s'.lookups[s.lookups.length]? = some call ∧
      (call.isOver = false → s'.now ≤ s.now + s.handle.targets * s.handle.timeout)
  /-- What holds the clock up can go on. -/
  submitMoves : ∀ (i : Nat) (call : SubmitCall), s.submits[i]? = some call →
    call.allows (s.now + 1) = false → ∃ e s' o, s.step (.submit i e) = some (s', o)
  lookupMoves : ∀ (i : Nat) (call : LookupCall), s.lookups[i]? = some call →
    call.allows (s.now + 1) = false → ∃ e s' o, s.step (.lookup i e) = some (s', o)

/-- Whatever the transport, the mixnet and the other callers do, nobody waits longer than that,
and no call that is due is stuck. -/
theorem calls_bounded {timeout dispatchTimeout : Nat} {s : Calls} {t : List Observed}
    (h : Runs step (initial timeout dispatchTimeout) t s) : WaitBounded s where
  submits _ _ _ _ _ hstart hrun := submit_within hstart hrun
  lookups _ _ _ _ _ hstart hrun := lookup_within hstart hrun
  submitMoves _ _ hcall hdue := submit_moves hcall hdue
  lookupMoves _ _ hcall hdue := lookup_moves h hcall hdue

/-- A lookup of two addresses that answer nothing takes the two timeouts it may. -/
theorem calls_bounded_silent :
    ∃ t s o s₁ t' s' call, Runs step (initial 90000 5000) t s ∧ WaitBounded s ∧
      s.step (.startLookup []) = some (s₁, o) ∧
      Runs (guarded step fun s e => s.punctual e = true) s₁ t' s' ∧
      s'.lookups[0]? = some call ∧ call.isOver = false ∧ s'.now = s.now + 2 * 90000 := by
  have hstart : execute step (initial 90000 5000) [.setTargets 2] = some (_, _) := rfl
  have hrun : execute (guarded step fun s e => s.punctual e = true)
      ⟨0, ⟨90000, 5000, 2, 1⟩, .initial, [], [⟨[], 2, 0, .transportGone, .building 0⟩]⟩
      [.lookup 0 (.build (List.Vector.replicate 16 0)), .lookup 0 .dispatch, .tick 90000,
        .lookup 0 .elapsed, .lookup 0 (.build (List.Vector.replicate 16 1)),
        .lookup 0 .dispatch, .tick 90000] = some (_, _) := rfl
  exact ⟨_, _, _, _, _, _, _, Runs.of_execute hstart, calls_bounded (Runs.of_execute hstart), rfl,
    Runs.of_execute hrun, rfl, rfl, rfl⟩

end Calls
end Nym
end ZeroShim
