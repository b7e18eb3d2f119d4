import ZeroShim.Nym.Accounting

/-!
# What a reply channel says

The reply channel of an accepted request follows the request's fate: its sender is
gone exactly when the request ended, a value is in it only if it was fired, and it is
swept only after its receiver went away.

Main results:

- Theorem {lit}`tracks_turn`: what a turn of the loop does to every reply channel.
- Theorem {lit}`follows_of_runs`: the reply channels follow the books on every run.
-/

namespace ZeroShim
namespace Nym

open Library Wire

namespace Transport

/-! ## One turn -/

/-- The observations {lit}`o` account for what happened to the reply channels. -/
structure Tracks (before after : Oneshots Answer) (o : List Observed) : Prop where
  opened : after.opened = before.opened
  receiver : ∀ i, (after.cell i).receiver = (before.cell i).receiver
  sender : ∀ i, (after.cell i).sender = false ↔
    (before.cell i).sender = false ∨ i ∈ slots (total Observed.endedTickets o)
  value : ∀ i, (after.cell i).value = (before.cell i).value ∨
    ∃ firing message, .fired firing message ∈ o ∧ firing.waiter.slot = i ∧
      (after.cell i).value = some firing.answer
  answered : ∀ i ∈ slots (total Observed.answeredTickets o), (before.cell i).receiver = true →
    (after.cell i).value ≠ none

theorem Tracks.refl (os : Oneshots Answer) : Tracks os os [] where
  opened := rfl
  receiver _ := rfl
  sender _ := by simp
  value _ := .inl rfl
  answered := by simp

theorem Tracks.value_ne_none {before after : Oneshots Answer} {o : List Observed}
    (h : Tracks before after o) {i : Nat} (hi : (before.cell i).value ≠ none) :
    (after.cell i).value ≠ none := by
  rcases h.value i with hsame | ⟨firing, message, -, -, hvalue⟩
  · rwa [hsame]
  · simp [hvalue]

theorem Tracks.trans {before middle after : Oneshots Answer} {o o' : List Observed}
    (h : Tracks before middle o) (h' : Tracks middle after o') :
    Tracks before after (o ++ o') where
  opened := h'.opened.trans h.opened
  receiver i := (h'.receiver i).trans (h.receiver i)
  sender i := by
    rw [h'.sender, h.sender, total_append, slots_add, Multiset.mem_add, or_assoc]
  value i := by
    rcases h'.value i with hsame | ⟨firing, message, hmem, hslot, hvalue⟩
    · rcases h.value i with hfirst | ⟨firing, message, hmem, hslot, hvalue⟩
      · exact .inl (hsame.trans hfirst)
      · exact .inr ⟨firing, message, List.mem_append_left _ hmem, hslot, hsame.trans hvalue⟩
    · exact .inr ⟨firing, message, List.mem_append_right _ hmem, hslot, hvalue⟩
  answered i hi hreceiver := by
    rw [total_append, slots_add, Multiset.mem_add] at hi
    rcases hi with hi | hi
    · exact h'.value_ne_none (h.answered i hi hreceiver)
    · exact h'.answered i hi ((h.receiver i).trans hreceiver)

/-- Dropping senders is accounted for by an observation of just those requests. -/
theorem tracks_dropSenders (os : Oneshots Answer) (tickets : Multiset Ticket)
    {o : List Observed} (hended : total Observed.endedTickets o = tickets)
    (hanswered : total Observed.answeredTickets o = 0) :
    Tracks os (os.dropSenders (slots tickets)) o where
  opened := rfl
  receiver i := os.receiver_dropSenders i _
  sender i := by
    unfold Oneshots.dropSenders
    by_cases hi : i ∈ slots tickets <;> simp [hi, hended, Oneshot.dropSender]
  value i := .inl (os.value_dropSenders i _)
  answered := by simp [hanswered]

theorem tracks_fire (os : Oneshots Answer) (firing : Firing) (message : Bytes) :
    Tracks os (os.fire firing.waiter.slot firing.answer) [.fired firing message] where
  opened := rfl
  receiver i := by
    by_cases hi : i = firing.waiter.slot
    · subst hi
      simp [Oneshots.fire, Oneshots.change, Oneshot.fire]
    · simp [Oneshots.fire, Oneshots.change, hi]
  sender i := by
    by_cases hi : i = firing.waiter.slot
    · subst hi
      simp [Oneshots.fire, Oneshots.change, Oneshot.fire, mem_slots, Firing.ticket]
    · simp [Oneshots.fire, Oneshots.change, hi, mem_slots, Firing.ticket, Ne.symm hi]
  value i := by
    by_cases hi : i = firing.waiter.slot
    · subst hi
      by_cases hreceiver : (os.cell firing.waiter.slot).receiver = true
      · exact .inr ⟨firing, message, by simp, rfl, by
          simp [Oneshots.fire, Oneshots.change, Oneshot.fire, hreceiver]⟩
      · simp [Oneshots.fire, Oneshots.change, Oneshot.fire, hreceiver]
    · simp [Oneshots.fire, Oneshots.change, hi]
  answered i hi hreceiver := by
    have hslot : i = firing.waiter.slot := by
      simpa [mem_slots, Firing.ticket, eq_comm] using hi
    subst hslot
    simp [Oneshots.fire, Oneshots.change, Oneshot.fire, hreceiver]

theorem tracks_leave (s : Transport) (c : Correlator) :
    Tracks s.oneshots (leave s c).1.oneshots (leave s c).2 :=
  tracks_dropSenders _ _ (ended_leave s c) (by simp [leave])

theorem tracks_publish (s : Transport) (c : Correlator) :
    Tracks s.oneshots (publish s c).1.oneshots (publish s c).2 := by
  unfold publish
  split_ifs
  · exact tracks_leave s c
  · exact .refl _

theorem tracks_endTurn (s : Transport) (c : Correlator) :
    Tracks s.oneshots (endTurn s c).1.oneshots (endTurn s c).2 := by
  have hsweep : Tracks s.oneshots (sweep s c).1.oneshots (sweep s c).2.2 :=
    tracks_dropSenders _ _ (by simp [sweep]) (by simp [sweep])
  exact hsweep.trans (tracks_publish _ _)

theorem tracks_of_turned {s s' : Transport} {c c' : Correlator} {o : List Observed}
    (h : Turned s c s' c' o) : Tracks s.oneshots s'.oneshots o := by
  cases h with
  | reserve hpermit hreserve => exact .refl _
  | receive hpermit hrecv hsend =>
    exact tracks_dropSenders _ _ (by simp) (by simp)
  | close hrecv => exact .refl _
  | deliver hrecv hcarried hlookup => exact tracks_fire _ _ _
  | ignore hrecv => exact .refl _
  | timer => exact .refl _

/-- What a turn of the loop does to every reply channel. -/
theorem tracks_turn {s s' : Transport} {a : Arm} {o : List Observed}
    (h : s.turn a = some (s', o)) : Tracks s.oneshots s'.oneshots o := by
  rcases turn_cases h with ⟨c, hc, ⟨-, rfl, rfl⟩ | ⟨s₁, c₁, o₁, harm, rfl, rfl⟩⟩
  · exact tracks_leave s c
  · exact (tracks_of_turned (turned_of_arm harm)).trans (tracks_endTurn s₁ c₁)

/-! ## What is swept -/

theorem swept_publish (s : Transport) (c : Correlator) :
    total Observed.sweptTickets (publish s c).2 = 0 := by
  unfold publish
  split_ifs <;> simp [leave]

theorem swept_of_turned {s s' : Transport} {c c' : Correlator} {o : List Observed}
    (h : Turned s c s' c' o) : total Observed.sweptTickets o = 0 := by
  cases h <;> simp

/-- A turn sweeps only waiters whose receiver is gone. -/
theorem swept_turn {s s' : Transport} {a : Arm} {o : List Observed}
    (h : s.turn a = some (s', o)) {i : Nat}
    (hi : i ∈ slots (total Observed.sweptTickets o)) : (s.oneshots.cell i).receiver = false := by
  rcases turn_cases h with ⟨c, hc, ⟨-, rfl, rfl⟩ | ⟨s₁, c₁, o₁, harm, rfl, rfl⟩⟩
  · simp [leave] at hi
  · have hturned := turned_of_arm harm
    rw [total_append, swept_of_turned hturned, zero_add] at hi
    simp only [endTurn, total_append, swept_publish, add_zero] at hi
    rcases mem_slots.mp hi with ⟨e, he, rfl⟩
    have hclosed : s₁.listening e.2 = false :=
      (FiniteMap.mem_removed.mp (by simpa [sweep] using he)).2
    rw [← (tracks_of_turned hturned).receiver]
    simpa [listening, Oneshots.isClosed] using hclosed

/-! ## Along a run -/

/-- The reply channels agree with the trace. -/
structure Follows (t : List Observed) (s : Transport) : Prop where
  slots : slots (total Observed.acceptedTickets t) = Multiset.range s.oneshots.opened
  sender : ∀ i < s.oneshots.opened, (s.oneshots.cell i).sender = false ↔
    i ∈ Transport.slots (total Observed.endedTickets t)
  value : ∀ i < s.oneshots.opened, ∀ a, (s.oneshots.cell i).value = some a →
    ∃ firing message, .fired firing message ∈ t ∧ firing.waiter.slot = i ∧ a = firing.answer
  answered : ∀ i ∈ Transport.slots (total Observed.answeredTickets t),
    (s.oneshots.cell i).receiver = true → (s.oneshots.cell i).value ≠ none
  swept : ∀ i ∈ Transport.slots (total Observed.sweptTickets t),
    (s.oneshots.cell i).receiver = false

theorem follows_initial : Follows [] initial where
  slots := rfl
  sender i hi := absurd hi (Nat.not_lt_zero i)
  value i hi := absurd hi (Nat.not_lt_zero i)
  answered := by simp
  swept := by simp

/-- Requests that ended were accepted. -/
theorem ended_le_accepted {s : Transport} {t : List Observed} (h : Runs step initial t s) :
    total Observed.endedTickets t ≤ total Observed.acceptedTickets t := by
  rw [← located_total h]
  exact Multiset.le_add_left _ _

theorem Follows.lt_opened {s : Transport} {t : List Observed} (h : Follows t s) {i : Nat}
    (hi : i ∈ Transport.slots (total Observed.acceptedTickets t)) : i < s.oneshots.opened := by
  rw [h.slots] at hi
  exact Multiset.mem_range.mp hi

theorem Follows.turn {s s' : Transport} {t o : List Observed} {a : Arm} (h : Follows t s)
    (hturn : s.turn a = some (s', o)) : Follows (t ++ o) s' := by
  have htracks := tracks_turn hturn
  constructor
  · rw [total_append, accepted_turn hturn, add_zero, h.slots, htracks.opened]
  · intro i hi
    rw [htracks.opened] at hi
    rw [htracks.sender, h.sender i hi, total_append, slots_add, Multiset.mem_add]
  · intro i hi a hvalue
    rw [htracks.opened] at hi
    rcases htracks.value i with hsame | ⟨firing, message, hmem, hslot, hfired⟩
    · rcases h.value i hi a (hsame ▸ hvalue) with ⟨firing, message, hmem, hslot, hanswer⟩
      exact ⟨firing, message, List.mem_append_left _ hmem, hslot, hanswer⟩
    · rw [hfired] at hvalue
      exact ⟨firing, message, List.mem_append_right _ hmem, hslot, (Option.some.inj hvalue).symm⟩
  · intro i hi hreceiver
    rw [htracks.receiver] at hreceiver
    rw [total_append, slots_add, Multiset.mem_add] at hi
    rcases hi with hi | hi
    · exact htracks.value_ne_none (h.answered i hi hreceiver)
    · exact htracks.answered i hi hreceiver
  · intro i hi
    rw [total_append, slots_add, Multiset.mem_add] at hi
    rw [htracks.receiver]
    rcases hi with hi | hi
    · exact h.swept i hi
    · exact swept_turn hturn hi

theorem Follows.accept {s s' : Transport} {t : List Observed} {parcel : Parcel}
    {request : Request} (hended : total Observed.endedTickets t ≤ total Observed.acceptedTickets t)
    (h : Follows t s) (haccept : s.accept parcel = some (s', request)) :
    Follows (t ++ [.accepted request]) s' := by
  rcases of_accept haccept with ⟨hrequest, -, honeshots, -⟩
  have hslot : request.waiter.slot = s.oneshots.opened := by
    rw [hrequest]
    cases hkind : parcel.kind <;> simp [Parcel.request, hkind, RequestKind.waiter, Waiter.slot]
  have hlt {i : Nat} (hi : i ∈ Transport.slots (total Observed.endedTickets t)) :
      i < s.oneshots.opened :=
    h.lt_opened (Multiset.mem_of_le (slots_le hended) hi)
  have hopened : s'.oneshots.opened = s.oneshots.opened + 1 := by rw [honeshots]; rfl
  have hcell {i : Nat} (hi : i < s.oneshots.opened) :
      s'.oneshots.cell i = s.oneshots.cell i := by
    rw [honeshots]
    exact Function.update_of_ne (Nat.ne_of_lt hi) _ _
  have hnew : s'.oneshots.cell s.oneshots.opened = .fresh := by
    rw [honeshots]
    exact Function.update_self _ _ _
  constructor
  · rw [hopened, Multiset.range_succ, ← h.slots, total_append, slots_add, add_comm,
      ← Multiset.singleton_add]
    simp [Transport.slots, hslot]
  · intro i hi
    simp only [total_append, total_cons, total_nil, Observed.endedTickets,
      Observed.answeredTickets, Observed.sweptTickets, Observed.replacedTickets,
      Observed.droppedTickets, add_zero]
    rcases Nat.lt_succ_iff_lt_or_eq.mp (hopened ▸ hi) with hold | rfl
    · rw [hcell hold]
      exact h.sender i hold
    · rw [hnew]
      refine iff_of_false (by simp [Oneshot.fresh]) fun hi => ?_
      exact absurd (hlt hi) (Nat.lt_irrefl _)
  · intro i hi a hvalue
    rcases Nat.lt_succ_iff_lt_or_eq.mp (hopened ▸ hi) with hold | rfl
    · rw [hcell hold] at hvalue
      rcases h.value i hold a hvalue with ⟨firing, message, hmem, hfired⟩
      exact ⟨firing, message, List.mem_append_left _ hmem, hfired⟩
    · rw [hnew] at hvalue
      cases hvalue
  · intro i hi
    have hi : i ∈ Transport.slots (total Observed.answeredTickets t) := by simpa using hi
    rw [hcell (hlt (Multiset.mem_of_le (slots_le (answered_le_ended t)) hi))]
    exact h.answered i hi
  · intro i hi
    have hi : i ∈ Transport.slots (total Observed.sweptTickets t) := by simpa using hi
    rw [hcell (hlt (Multiset.mem_of_le (slots_le (swept_le_ended t)) hi))]
    exact h.swept i hi

theorem Follows.abandon {s : Transport} {t : List Observed} (h : Follows t s) (slot : Nat) :
    Follows t (s.abandon slot) := by
  have hcell (i : Nat) : ((s.abandon slot).oneshots.cell i).value = (s.oneshots.cell i).value ∧
      ((s.abandon slot).oneshots.cell i).sender = (s.oneshots.cell i).sender ∧
      (((s.abandon slot).oneshots.cell i).receiver = true →
        (s.oneshots.cell i).receiver = true) := by
    by_cases hi : i = slot
    · subst hi
      simp [Transport.abandon, Oneshots.dropReceiver, Oneshots.change, Oneshot.dropReceiver]
    · simp [Transport.abandon, Oneshots.dropReceiver, Oneshots.change, hi]
  constructor
  · exact h.slots
  · intro i hi
    rw [(hcell i).2.1]
    exact h.sender i hi
  · intro i hi a hvalue
    rw [(hcell i).1] at hvalue
    exact h.value i hi a hvalue
  · intro i hi hreceiver
    rw [(hcell i).1]
    exact h.answered i hi ((hcell i).2.2 hreceiver)
  · intro i hi
    by_contra hreceiver
    have hlive := (hcell i).2.2 (by simpa using hreceiver)
    rw [h.swept i hi] at hlive
    cases hlive

/-- A step that touches neither the reply channels nor the tallies. -/
theorem Follows.congr {s s' : Transport} {t o : List Observed} (h : Follows t s)
    (honeshots : s'.oneshots = s.oneshots) (haccepted : total Observed.acceptedTickets o = 0)
    (hended : total Observed.endedTickets o = 0) : Follows (t ++ o) s' := by
  have hanswered : total Observed.answeredTickets o = 0 :=
    Multiset.le_zero.mp (hended ▸ answered_le_ended o)
  have hswept : total Observed.sweptTickets o = 0 :=
    Multiset.le_zero.mp (hended ▸ swept_le_ended o)
  constructor
  · rw [total_append, haccepted, add_zero, honeshots]
    exact h.slots
  · rw [total_append, hended, add_zero, honeshots]
    exact h.sender
  · intro i hi a hvalue
    rw [honeshots] at hi hvalue
    rcases h.value i hi a hvalue with ⟨firing, message, hmem, hfired⟩
    exact ⟨firing, message, List.mem_append_left _ hmem, hfired⟩
  · rw [total_append, hanswered, add_zero, honeshots]
    exact h.answered
  · rw [total_append, hswept, add_zero, honeshots]
    exact h.swept

/-- The reply channels follow the books on every run. -/
theorem follows_of_runs {s : Transport} {t : List Observed} (h : Runs step initial t s) :
    Follows t s := by
  apply h.invariant follows_initial
  intro t s e o s' hrun ih hstep
  cases stepped_of_step hstep with
  | turn hturn => exact ih.turn hturn
  | accept haccept => exact ih.accept (ended_le_accepted hrun) haccept
  | abandon slot => simpa using ih.abandon slot
  | inbound hinbound =>
    rcases of_inbound hinbound with ⟨fromMixnet, -, rfl⟩
    exact ih.congr rfl rfl rfl
  | quiet hquiet => exact ih.congr hquiet.oneshots rfl rfl

end Transport

end Nym
end ZeroShim
