import ZeroShim.Nym.Replies

/-!
# Safety of the correlator

Whatever arrives from the mixnet and whenever callers go away, no waiter is fired
twice or with another's reply, and no request is lost.

Main results:

- Theorem {lit}`transport_safe`: the safety of the transport loop, given distinct
  nonces.
-/

namespace ZeroShim
namespace Nym

open Library Wire

namespace Transport

/-! ## Where replies come from -/

/-- Every message in the inbound channel arrived, and every waiter fired was fired with
what an arrived message carries. -/
structure Heard (t : List Observed) (s : Transport) : Prop where
  queue : ∀ message ∈ s.fromMixnet.queue, .arrived message ∈ t
  fired : ∀ firing message, .fired firing message ∈ t →
    .arrived message ∈ t ∧ firing.CarriedBy message

theorem fromMixnet_publish {s : Transport} {c : Correlator} {message : Bytes}
    (h : message ∈ (publish s c).1.fromMixnet.queue) : message ∈ s.fromMixnet.queue := by
  unfold publish at h
  split_ifs at h
  · simp [leave] at h
  · exact h

theorem not_fired_publish {s : Transport} {c : Correlator} {firing : Firing} {message : Bytes} :
    .fired firing message ∉ (publish s c).2 := by
  unfold publish
  split_ifs <;> simp [leave]

/-- What a turn leaves in the inbound channel was there before, and a waiter it fires is
fired with the message at the head. -/
theorem heard_of_turned {s s' : Transport} {c c' : Correlator} {o : List Observed}
    (h : Turned s c s' c' o) :
    (∀ message ∈ s'.fromMixnet.queue, message ∈ s.fromMixnet.queue) ∧
      ∀ firing message, .fired firing message ∈ o →
        message ∈ s.fromMixnet.queue ∧ firing.CarriedBy message := by
  cases h with
  | reserve hpermit hreserve => simp
  | receive hpermit hrecv hsend => simp
  | close hrecv => simp
  | @deliver bytes fromMixnet firing hrecv hcarried hlookup =>
    have hqueue := Channel.queue_of_recv hrecv
    constructor
    · intro message hmem
      rw [hqueue]
      exact List.mem_cons_of_mem _ hmem
    · intro other message hmem
      simp only [List.mem_singleton, Observed.fired.injEq] at hmem
      rcases hmem with ⟨rfl, rfl⟩
      exact ⟨by simp [hqueue], hcarried⟩
  | ignore hrecv => simp +contextual [Channel.queue_of_recv hrecv]
  | timer => simp

theorem heard_turn {s s' : Transport} {a : Arm} {o : List Observed}
    (h : s.turn a = some (s', o)) :
    (∀ message ∈ s'.fromMixnet.queue, message ∈ s.fromMixnet.queue) ∧
      ∀ firing message, .fired firing message ∈ o →
        message ∈ s.fromMixnet.queue ∧ firing.CarriedBy message := by
  rcases turn_cases h with ⟨c, hc, ⟨-, rfl, rfl⟩ | ⟨s₁, c₁, o₁, harm, rfl, rfl⟩⟩
  · simp [leave]
  · rcases heard_of_turned (turned_of_arm harm) with ⟨hqueue, hfired⟩
    constructor
    · intro message hmem
      exact hqueue _ (fromMixnet_publish (s := (sweep s₁ c₁).1) hmem)
    · intro firing message hmem
      rcases List.mem_append.mp hmem with hmem | hmem
      · exact hfired firing message hmem
      · simp [endTurn, sweep, not_fired_publish] at hmem

theorem heard_of_runs {s : Transport} {t : List Observed} (h : Runs step initial t s) :
    Heard t s := by
  apply h.invariant (P := Heard) ⟨by simp [initial], by simp⟩
  intro t s e o s' _ ih hstep
  have keep {s' : Transport} {o : List Observed}
      (hqueue : ∀ message ∈ s'.fromMixnet.queue, message ∈ s.fromMixnet.queue)
      (hfired : ∀ firing message, .fired firing message ∈ o →
        message ∈ s.fromMixnet.queue ∧ firing.CarriedBy message) : Heard (t ++ o) s' := by
    constructor
    · intro message hmem
      exact List.mem_append_left _ (ih.queue message (hqueue message hmem))
    · intro firing message hmem
      rcases List.mem_append.mp hmem with hmem | hmem
      · rcases ih.fired firing message hmem with ⟨harrived, hcarried⟩
        exact ⟨List.mem_append_left _ harrived, hcarried⟩
      · rcases hfired firing message hmem with ⟨hmessage, hcarried⟩
        exact ⟨List.mem_append_left _ (ih.queue message hmessage), hcarried⟩
  cases stepped_of_step hstep with
  | turn hturn => exact keep (heard_turn hturn).1 (heard_turn hturn).2
  | accept haccept =>
    rcases of_accept haccept with ⟨-, -, -, -, -, hfromMixnet, -⟩
    exact keep (by simp [hfromMixnet]) (by simp)
  | abandon slot => exact keep (by simp [abandon]) (by simp)
  | @inbound _ message hinbound =>
    rcases of_inbound hinbound with ⟨fromMixnet, hsend, rfl⟩
    constructor
    · intro other hmem
      rw [Channel.queue_of_send hsend, List.mem_append, List.mem_singleton] at hmem
      rcases hmem with hmem | rfl
      · exact List.mem_append_left _ (ih.queue other hmem)
      · simp
    · intro firing other hmem
      have hmem : Observed.fired firing other ∈ t := by simpa using hmem
      rcases ih.fired firing other hmem with ⟨harrived, hcarried⟩
      exact ⟨List.mem_append_left _ harrived, hcarried⟩
  | quiet hquiet => exact keep (by simp [hquiet.inbound]) (by simp)

/-! ## Where frames come from -/

theorem requests_publish {s : Transport} {c : Correlator} {request : Request}
    (h : request ∈ (publish s c).1.requests.queue) : request ∈ s.requests.queue := by
  unfold publish at h
  split_ifs at h
  · simp [leave] at h
  · exact h

theorem not_emitted_publish {s : Transport} {c : Correlator} {request : Request} :
    .emitted request ∉ (publish s c).2 := by
  unfold publish
  split_ifs <;> simp [leave]

theorem emitted_of_turned {s s' : Transport} {c c' : Correlator} {o : List Observed}
    (h : Turned s c s' c' o) :
    (∀ request ∈ s'.requests.queue, request ∈ s.requests.queue) ∧
      ∀ request, .emitted request ∈ o → request ∈ s.requests.queue := by
  cases h with
  | receive hpermit hrecv hsend => simp +contextual [Channel.queue_of_recv hrecv]
  | reserve | close | deliver | ignore | timer => simp

/-- A turn emits only queued requests. -/
theorem emitted_turn {s s' : Transport} {a : Arm} {o : List Observed}
    (h : s.turn a = some (s', o)) :
    (∀ request ∈ s'.requests.queue, request ∈ s.requests.queue) ∧
      ∀ request, .emitted request ∈ o → request ∈ s.requests.queue := by
  rcases turn_cases h with ⟨c, hc, ⟨-, rfl, rfl⟩ | ⟨s₁, c₁, o₁, harm, rfl, rfl⟩⟩
  · simp [leave]
  · rcases emitted_of_turned (turned_of_arm harm) with ⟨hqueue, hemitted⟩
    constructor
    · intro request hmem
      exact hqueue _ (requests_publish (s := (sweep s₁ c₁).1) hmem)
    · intro request hmem
      rcases List.mem_append.mp hmem with hmem | hmem
      · exact hemitted request hmem
      · simp [endTurn, sweep, not_emitted_publish] at hmem

/-- What is queued or emitted was accepted. -/
theorem accepted_of_runs {s : Transport} {t : List Observed} (h : Runs step initial t s) :
    (∀ request ∈ s.requests.queue, .accepted request ∈ t) ∧
      ∀ request, .emitted request ∈ t → .accepted request ∈ t := by
  refine h.invariant (P := fun t s => (∀ request ∈ s.requests.queue, .accepted request ∈ t) ∧
      ∀ request, .emitted request ∈ t → .accepted request ∈ t) (by simp [initial]) ?_
  rintro t s e o s' - ⟨hqueue, hemitted⟩ hstep
  cases stepped_of_step hstep with
  | turn hturn =>
    rcases emitted_turn hturn with ⟨hkept, hsent⟩
    constructor
    · intro request hmem
      exact List.mem_append_left _ (hqueue request (hkept request hmem))
    · intro request hmem
      rcases List.mem_append.mp hmem with hmem | hmem
      · exact List.mem_append_left _ (hemitted request hmem)
      · exact List.mem_append_left _ (hqueue request (hsent request hmem))
  | accept haccept =>
    rcases of_accept haccept with ⟨-, happend, -⟩
    constructor
    · intro other hmem
      rw [happend, List.mem_append, List.mem_singleton] at hmem
      rcases hmem with hmem | rfl
      · exact List.mem_append_left _ (hqueue other hmem)
      · simp
    · intro other hmem
      have hmem : Observed.emitted other ∈ t := by simpa using hmem
      exact List.mem_append_left _ (hemitted other hmem)
  | abandon slot => simpa using ⟨hqueue, hemitted⟩
  | inbound hinbound =>
    rcases of_inbound hinbound with ⟨fromMixnet, -, rfl⟩
    simpa using ⟨hqueue, hemitted⟩
  | quiet hquiet => simpa [hquiet.queue] using ⟨hqueue, hemitted⟩

/-! ## Distinct nonces -/

/-- The nonces of the requests accepted. -/
def nonces (t : List Observed) : Multiset Nonce :=
  (total Observed.acceptedTickets t).map Sigma.fst

theorem nonces_append (t o : List Observed) : nonces (t ++ o) = nonces t + nonces o := by
  simp [nonces]

theorem replaced_publish (s : Transport) (c : Correlator) :
    total Observed.replacedTickets (publish s c).2 = 0 := by
  unfold publish
  split_ifs <;> simp [leave]

/-- A turn that overwrites a waiter receives a request with a pending nonce. -/
theorem replaced_turn {s s' : Transport} {a : Arm} {o : List Observed}
    (h : s.turn a = some (s', o)) (hdistinct : (s.located.map Sigma.fst).Nodup) :
    total Observed.replacedTickets o = 0 := by
  rcases turn_cases h with ⟨c, hc, ⟨-, rfl, rfl⟩ | ⟨s₁, c₁, o₁, harm, rfl, rfl⟩⟩
  · simp [leave]
  · have hend : total Observed.replacedTickets (endTurn s₁ c₁).2 = 0 := by
      simp [endTurn, sweep, replaced_publish]
    rw [total_append, hend, add_zero]
    cases turned_of_arm harm with
    | @receive request requests toMixnet hpermit hrecv hsend =>
      have hover : overwritten c.pending request.nonce = 0 := by
        unfold overwritten
        cases hlookup : c.pending.lookup request.nonce with
        | none => rfl
        | some waiter =>
          rw [located_of_some hc, held, queued, Channel.queue_of_recv hrecv,
            FiniteMap.entries_of_lookup hlookup] at hdistinct
          simp at hdistinct
      simp [hover]
    | reserve | close | deliver | ignore | timer => simp

/-- With distinct nonces no waiter is ever overwritten. -/
theorem replaced_eq_zero {s : Transport} {t : List Observed} (h : Runs step initial t s)
    (hnonces : (nonces t).Nodup) : total Observed.replacedTickets t = 0 := by
  refine h.invariant (P := fun t _ => (nonces t).Nodup →
    total Observed.replacedTickets t = 0) (fun _ => rfl) ?_ hnonces
  intro t s e o s' hrun ih hstep hnodup
  rw [nonces_append] at hnodup
  have hbefore : (nonces t).Nodup := Multiset.nodup_of_le (Multiset.le_add_right _ _) hnodup
  rw [total_append, ih hbefore, zero_add]
  cases stepped_of_step hstep with
  | turn hturn =>
    refine replaced_turn hturn (Multiset.nodup_of_le (Multiset.map_le_map ?_) hbefore)
    rw [← located_total hrun]
    exact Multiset.le_add_right _ _
  | accept haccept => simp
  | abandon slot => rfl
  | inbound hinbound => simp
  | quiet hquiet => rfl

/-! ## The end of the loop -/

theorem dropped_of_turned {s s' : Transport} {c c' : Correlator} {o : List Observed}
    (h : Turned s c s' c' o) : total Observed.droppedTickets o = 0 := by
  cases h <;> simp

/-- A turn that drops requests is the loop's last. -/
theorem dropped_turn {s s' : Transport} {a : Arm} {o : List Observed}
    (h : s.turn a = some (s', o)) (hrunning : s'.correlator ≠ none) :
    total Observed.droppedTickets o = 0 := by
  rcases turn_cases h with ⟨c, hc, ⟨-, rfl, rfl⟩ | ⟨s₁, c₁, o₁, harm, rfl, rfl⟩⟩
  · exact absurd rfl hrunning
  · rw [total_append, dropped_of_turned (turned_of_arm harm), zero_add]
    simp only [endTurn, publish] at hrunning ⊢
    split_ifs at hrunning ⊢
    · exact absurd rfl hrunning
    · simp [sweep]

/-- Requests are dropped only when the loop returns. -/
theorem dropped_eq_zero {s : Transport} {t : List Observed} (h : Runs step initial t s)
    (hrunning : s.correlator ≠ none) : total Observed.droppedTickets t = 0 := by
  refine h.invariant (P := fun t s => s.correlator ≠ none →
    total Observed.droppedTickets t = 0) (fun _ => rfl) ?_ hrunning
  intro t s e o s' _ ih hstep hrunning
  rw [total_append]
  cases stepped_of_step hstep with
  | turn hturn =>
    rcases turn_cases hturn with ⟨c, hc, -⟩
    rw [ih (by simp [hc]), dropped_turn hturn hrunning, add_zero]
  | accept haccept =>
    rcases of_accept haccept with ⟨-, -, -, hcorrelator, -⟩
    simp [ih (hcorrelator ▸ hrunning)]
  | abandon slot => simp [ih hrunning]
  | inbound hinbound =>
    rcases of_inbound hinbound with ⟨fromMixnet, -, rfl⟩
    simp [ih hrunning]
  | quiet hquiet => simp [ih (hquiet.correlator ▸ hrunning)]

/-- The request channel is open exactly while the loop runs, and nothing is queued once
it has returned. -/
structure Gated (s : Transport) : Prop where
  receiver : s.requests.receiver = true ↔ s.correlator ≠ none
  queue : s.correlator = none → s.requests.queue = []

theorem gated_leave (s : Transport) (c : Correlator) : Gated (leave s c).1 :=
  ⟨by simp [leave], by simp [leave]⟩

theorem gated_publish {s : Transport} (c : Correlator) (h : s.requests.receiver = true) :
    Gated (publish s c).1 := by
  unfold publish
  split_ifs
  · exact gated_leave s c
  · exact ⟨by simpa using h, by simp⟩

theorem receiver_of_turned {s s' : Transport} {c c' : Correlator} {o : List Observed}
    (h : Turned s c s' c' o) : s'.requests.receiver = s.requests.receiver := by
  cases h with
  | receive hpermit hrecv hsend => exact (Channel.of_recv hrecv).2.2.2
  | reserve | close | deliver | ignore | timer => rfl

theorem gated_of_runs {s : Transport} {t : List Observed} (h : Runs step initial t s) :
    Gated s := by
  apply h.always ⟨by simp [initial, Channel.empty], by simp [initial]⟩
  intro s e o s' ih hstep
  cases stepped_of_step hstep with
  | turn hturn =>
    rcases turn_cases hturn with ⟨c, hc, ⟨-, rfl, rfl⟩ | ⟨s₁, c₁, o₁, harm, rfl, rfl⟩⟩
    · exact gated_leave s c
    · apply gated_publish _
      have hopen : s.requests.receiver = true := ih.receiver.mpr (by simp [hc])
      exact (receiver_of_turned (turned_of_arm harm)).trans hopen
  | accept haccept =>
    rcases of_accept haccept with ⟨-, hqueue, -, hcorrelator, -, -, -, hreceiver⟩
    refine ⟨by rw [hreceiver, hcorrelator]; exact ih.receiver, fun hnone => ?_⟩
    rw [hcorrelator] at hnone
    have hclosed : s.requests.receiver ≠ true := fun hopen => ih.receiver.mp hopen hnone
    unfold accept at haccept
    rw [if_neg fun hboth => hclosed hboth.1] at haccept
    cases haccept
  | abandon slot => exact ⟨ih.receiver, ih.queue⟩
  | inbound hinbound =>
    rcases of_inbound hinbound with ⟨fromMixnet, -, rfl⟩
    exact ⟨ih.receiver, ih.queue⟩
  | quiet hquiet =>
    exact ⟨by rw [hquiet.receiver, hquiet.correlator]; exact ih.receiver,
      by rw [hquiet.queue, hquiet.correlator]; exact ih.queue⟩

/-- Once the loop has returned, every reply channel has lost its sender. -/
theorem sender_of_returned {s : Transport} {t : List Observed} (h : Runs step initial t s)
    (hreturned : s.correlator = none) {i : Nat} (hi : i < s.oneshots.opened) :
    (s.oneshots.cell i).sender = false := by
  have hfollows := follows_of_runs h
  have hlocated : s.located = 0 := by
    simp [located, queued, pending, hreturned, (gated_of_runs h).queue hreturned]
  have hbooks := located_total h
  rw [hlocated, zero_add] at hbooks
  rw [hfollows.sender i hi, hbooks, hfollows.slots]
  exact Multiset.mem_range.mpr hi

/-- With distinct nonces a live receiver loses its sender unanswered only when the loop
returns. -/
theorem returned_of_gone {s : Transport} {t : List Observed} (h : Runs step initial t s)
    (hnonces : (nonces t).Nodup) {i : Nat} (hi : i < s.oneshots.opened)
    (hreceiver : (s.oneshots.cell i).receiver = true) (hgone : s.oneshots.poll i = .gone) :
    s.correlator = none := by
  have hfollows := follows_of_runs h
  have hcell : (s.oneshots.cell i).value = none ∧ (s.oneshots.cell i).sender = false :=
    Oneshots.poll_eq_gone.mp hgone
  have hended := (hfollows.sender i hi).mp hcell.2
  rw [total_ended, replaced_eq_zero h hnonces, add_zero, slots_add, slots_add, Multiset.mem_add,
    Multiset.mem_add] at hended
  rcases hended with (hanswered | hswept) | hdropped
  · exact absurd hcell.1 (hfollows.answered i hanswered hreceiver)
  · rw [hfollows.swept i hswept] at hreceiver
    cases hreceiver
  · by_contra hrunning
    rw [dropped_eq_zero h hrunning] at hdropped
    simp at hdropped

/-! ## Messages that answer nothing -/

theorem pending_publish (s : Transport) (c : Correlator) :
    (publish s c).1.pending = c.pending := by
  unfold publish
  split_ifs with hdone
  · rw [FiniteMap.size_eq_zero.mp hdone.2]
    rfl
  · rfl

theorem pending_endTurn (s : Transport) (c : Correlator) :
    (endTurn s c).1.pending = c.pending.retain s.listening :=
  pending_publish _ _

theorem answered_publish (s : Transport) (c : Correlator) :
    total Observed.answeredTickets (publish s c).2 = 0 := by
  unfold publish
  split_ifs <;> simp [leave]

/-- A message that answers nothing pending leaves the pending map as it was, up to the
sweep. -/
theorem turn_ignored {s s' : Transport} {o : List Observed} {message : Bytes}
    {rest : List Bytes} (hqueue : s.fromMixnet.queue = message :: rest)
    (hignored : Ignored s.pending message) (h : s.turn .message = some (s', o)) :
    s'.pending = s.pending.retain s.listening ∧ total Observed.answeredTickets o = 0 := by
  rcases turn_cases h with ⟨c, hc, ⟨harm, -, -⟩ | ⟨s₁, c₁, o₁, harm, rfl, rfl⟩⟩
  · simp only [arm] at harm
    split at harm
    · next bytes fromMixnet hrecv =>
      unfold receiveMessage at harm
      split_ifs at harm
      · cases harm
      · split at harm <;> cases harm
    · next hrecv => simp [(Channel.of_recv_ended hrecv).1] at hqueue
    · cases harm
  · have hpending : s.pending = c.pending := by simp [pending, hc]
    rw [hpending] at hignored ⊢
    have hturn : s₁.listening = s.listening ∧ c₁.pending = c.pending ∧ o₁ = [] := by
      simp only [arm] at harm
      split at harm
      · next bytes fromMixnet hrecv =>
        have hhead : bytes = message := by
          have := Channel.queue_of_recv hrecv
          rw [hqueue] at this
          exact (List.cons.inj this).1.symm
        subst hhead
        unfold receiveMessage at harm
        rw [deliver_ignored hignored] at harm
        split_ifs at harm <;> cases harm <;> exact ⟨rfl, rfl, rfl⟩
      · cases harm
      · cases harm
    rcases hturn with ⟨hlistening, hsame, rfl⟩
    rw [pending_endTurn, hlistening, hsame]
    exact ⟨rfl, by simp [endTurn, sweep, answered_publish]⟩

/-! ## Safety -/

/-- What the correlator guarantees of a trace and the state it led to. -/
structure Safe (t : List Observed) (s : Transport) : Prop where
  /-- No reply channel is fired twice. -/
  firedOnce : (slots (total Observed.answeredTickets t)).Nodup
  /-- A waiter is fired with what an inbound message of its kind carries under the nonce
  of its own request. -/
  firedOwn : ∀ firing message, .fired firing message ∈ t →
    .arrived message ∈ t ∧ firing.CarriedBy message ∧
      ∃ request, .accepted request ∈ t ∧ request.nonce = firing.nonce ∧
        request.waiter = firing.waiter
  /-- Every accepted request is queued, pending, answered, swept or dropped. -/
  account : total Observed.acceptedTickets t = s.queued + s.pending.entries +
    total Observed.answeredTickets t + total Observed.sweptTickets t +
    total Observed.droppedTickets t
  /-- And it is only one of these. -/
  distinct : (total Observed.acceptedTickets t).Nodup
  /-- What is dropped is dropped when the loop returns. -/
  droppedAtExit : total Observed.droppedTickets t ≠ 0 → s.correlator = none
  /-- What is swept has no listener. -/
  sweptClosed : ∀ e ∈ total Observed.sweptTickets t, s.oneshots.isClosed e.2.slot = true
  /-- What answers nothing pending changes nothing but the sweep. -/
  ignores : ∀ message rest s' o, s.fromMixnet.queue = message :: rest →
    Ignored s.pending message → s.step (.turn .message) = some (s', o) →
    s'.pending = s.pending.retain s.listening ∧ total Observed.answeredTickets o = 0

theorem slots_accepted_nodup {s : Transport} {t : List Observed} (h : Runs step initial t s) :
    (slots (total Observed.acceptedTickets t)).Nodup := by
  rw [(follows_of_runs h).slots]
  exact Multiset.nodup_range _

theorem accepted_of_fired {s : Transport} {t : List Observed} (h : Runs step initial t s)
    {firing : Firing} {message : Bytes} (hfired : .fired firing message ∈ t) :
    ∃ request, .accepted request ∈ t ∧ request.nonce = firing.nonce ∧
      request.waiter = firing.waiter := by
  have hanswered : firing.ticket ∈ total Observed.answeredTickets t :=
    (mem_total _ _).mpr ⟨_, hfired, by simp⟩
  have haccepted := Multiset.mem_of_le ((answered_le_ended t).trans (ended_le_accepted h)) hanswered
  rcases (mem_total _ _).mp haccepted with ⟨o, hmem, ho⟩
  cases o with
  | accepted request =>
    have heq : firing.ticket = request.ticket := by simpa using ho
    exact ⟨request, hmem, (congrArg Sigma.fst heq).symm, by
      simpa [Firing.ticket, Request.ticket] using (congrArg Sigma.snd heq).symm⟩
  | arrived | emitted | fired | replaced | swept | dropped => simp at ho

/-- Given distinct nonces, the transport is safe on every run: for every interleaving
of accepted requests, arbitrary inbound messages, callers going away, driver capacity,
closing of the channel and sweeps. -/
theorem transport_safe {s : Transport} {t : List Observed} (h : Runs step initial t s)
    (hnonces : (nonces t).Nodup) : Safe t s where
  firedOnce := Multiset.nodup_of_le
    (slots_le ((answered_le_ended t).trans (ended_le_accepted h))) (slots_accepted_nodup h)
  firedOwn firing message hfired := by
    rcases (heard_of_runs h).fired firing message hfired with ⟨harrived, hcarried⟩
    exact ⟨harrived, hcarried, accepted_of_fired h hfired⟩
  account := by
    rw [← located_total h, total_ended, replaced_eq_zero h hnonces, located]
    abel
  distinct := Multiset.Nodup.of_map _ hnonces
  droppedAtExit := not_imp_comm.mp (dropped_eq_zero h)
  sweptClosed e he := by
    have hreceiver := (follows_of_runs h).swept e.2.slot (mem_slots.mpr ⟨e, he, rfl⟩)
    simp [Oneshots.isClosed, hreceiver]
  ignores _ _ _ _ hqueue hignored hstep := turn_ignored hqueue hignored hstep

/-- A lookup and a submission, with the nonces of all zeros and of all ones. -/
def sampleParcels : Parcel × Parcel :=
  (⟨List.Vector.replicate 16 0, [], lookupReplySurbs, .lookup, 0⟩,
    ⟨List.Vector.replicate 16 1, [], submitReplySurbs, .submit, 0⟩)

def sampleAck (nonce : Nonce) : Bytes := padTo ackBytes (ackLayout (nonce, .accepted))

/-- An acknowledgement under the lookup's nonce fires nothing, one under the submission's
fires it, and the lookup is dropped when the driver goes away. -/
theorem transport_safe_twoRequests :
    ∃ t s, Runs step initial t s ∧ Multiset.card (nonces t) = 2 ∧
      .arrived (sampleAck sampleParcels.1.nonce) ∈ t ∧
      total Observed.answeredTickets t = {(sampleParcels.2.request 1).ticket} ∧
      total Observed.droppedTickets t = {(sampleParcels.1.request 0).ticket} ∧ Safe t s := by
  have hrun := Runs.of_execute (show execute step initial
    [.accept sampleParcels.1, .accept sampleParcels.2, .turn .reserve, .turn .receive,
      .turn .reserve, .turn .receive, .inbound (sampleAck sampleParcels.1.nonce),
      .inbound (sampleAck sampleParcels.2.nonce), .turn .message, .turn .message,
      .loseDriver, .turn .message] = some (_, _) from rfl)
  exact ⟨_, _, hrun, rfl, List.mem_of_getElem? (i := 10) rfl, rfl, rfl,
    transport_safe hrun (by decide)⟩

end Transport

end Nym
end ZeroShim
