import ZeroShim.Nym.Calls
import ZeroShim.Nym.Safety

/-!
# Submissions are honest

A submission's verdict says whether a request of its was accepted, whatever the request
channel does and however many other calls there are.

Main results:

- Theorem {lit}`submit_honest`: what a submission that returned has done, and what can
  still come of it.
-/

namespace ZeroShim
namespace Nym

open Library Wire Transport

namespace Calls

/-! ## The log of one submission -/

/-- The requests a submission handed over. -/
def handedOf (log : List SubmitObserved) : List Request :=
  log.filterMap SubmitObserved.handed?

def SubmitObserved.drawn? : SubmitObserved → Option Nonce
  | .drawn nonce => some nonce
  | _ => none

/-- The nonces a submission drew. -/
def drawnOf (log : List SubmitObserved) : List Nonce :=
  log.filterMap SubmitObserved.drawn?

/-- The channel closed on the submission, or its deadline passed. -/
def Stopped (deadline : Nat) (log : List SubmitObserved) : Prop :=
  .closed ∈ log ∨ ∃ now, deadline ≤ now ∧ .elapsed now ∈ log

/-- What a submission that returned has done. -/
inductive SubmitOutcome (call : SubmitCall) (log : List SubmitObserved) :
    Except NymError Unit → Prop where
  | sent : 0 < call.dispatched → call.tx.length ≤ maxNymTxBytes →
      (call.dispatched < call.targets → Stopped call.deadline log) → SubmitOutcome call log (.ok ())
  | noTarget : call.targets = 0 → SubmitOutcome call log (.error .transportGone)
  | unsent : call.dispatched = 0 → 0 < call.targets → call.tx.length ≤ maxNymTxBytes →
      Stopped call.deadline log → SubmitOutcome call log (.error .transportGone)
  | tooLarge : call.dispatched = 0 → 0 < call.targets → maxNymTxBytes < call.tx.length →
      SubmitOutcome call log (.error (.encode (.txTooLarge call.tx.length maxNymTxBytes)))

/-- The log agrees with where the submission is. -/
def PhaseTells (call : SubmitCall) (log : List SubmitObserved) : Prop :=
  match call.phase with
  | .framing target =>
    call.dispatched = target ∧ target < call.targets ∧
      drawnOf log = (handedOf log).map Request.nonce
  | .sending target parcel =>
    call.dispatched = target ∧ target < call.targets ∧
      drawnOf log = (handedOf log).map Request.nonce ++ [parcel.nonce] ∧
      encodeSubmit parcel.nonce call.tx = .ok parcel.frame ∧
      parcel.replySurbs = submitReplySurbs ∧ parcel.kind = .submit ∧ parcel.target = target
  | .returned result => SubmitOutcome call log result
  | .cancelled => True

/-- A request carries a transaction for a target as a submission frames it. -/
structure Carries (tx : Bytes) (request : Request) : Prop where
  decode : decodeSubmit request.frame = .ok (request.nonce, tx)
  replySurbs : request.replySurbs = submitReplySurbs
  isAck : request.waiter.isAck = true

/-- The log agrees with the submission. -/
structure SubmitTells (call : SubmitCall) (log : List SubmitObserved) : Prop where
  targets : (handedOf log).map Request.target = List.range call.dispatched
  le : call.dispatched ≤ call.targets
  carries : ∀ request ∈ handedOf log, Carries call.tx request
  nonces : (handedOf log).map Request.nonce <+: drawnOf log
  phase : PhaseTells call log

theorem length_handed {call : SubmitCall} {log : List SubmitObserved}
    (h : SubmitTells call log) : (handedOf log).length = call.dispatched := by
  simpa using congrArg List.length h.targets

/-- What a submission may encode, it may send. -/
theorem encodeSubmit_budget {nonce : Nonce} {tx frame : Bytes}
    (h : encodeSubmit nonce tx = .ok frame) : tx.length ≤ maxNymTxBytes :=
  (submit_fixedFrame.encode_isOk (nonce, tx)).mp ⟨frame, h⟩

theorem encodeSubmit_refuses {nonce : Nonce} {tx : Bytes} {err : WireError}
    (h : encodeSubmit nonce tx = .error (.raised err)) :
    err = .txTooLarge tx.length maxNymTxBytes ∧ maxNymTxBytes < tx.length := by
  by_cases hbudget : tx.length ≤ maxNymTxBytes
  · rw [encodeSubmit_eq hbudget] at h
    cases h
  · rw [encodeSubmit_over hbudget] at h
    cases h
    exact ⟨rfl, Nat.lt_of_not_le hbudget⟩

/-- Observations after the hand-offs leave the hand-offs and the draws alone. -/
theorem SubmitTells.quiet {call call' : SubmitCall} {log o : List SubmitObserved}
    (h : SubmitTells call log) (htx : call'.tx = call.tx)
    (htargets : call'.targets = call.targets) (hdispatched : call'.dispatched = call.dispatched)
    (hhanded : handedOf o = []) (hphase : PhaseTells call' (log ++ o)) :
    SubmitTells call' (log ++ o) where
  targets := by
    simp only [handedOf, List.filterMap_append] at hhanded ⊢
    rw [hhanded, List.append_nil, hdispatched]
    exact h.targets
  le := by
    rw [hdispatched, htargets]
    exact h.le
  carries := by
    simp only [handedOf, List.filterMap_append] at hhanded ⊢
    rw [hhanded, List.append_nil, htx]
    exact h.carries
  nonces := by
    simp only [handedOf, drawnOf, List.filterMap_append] at hhanded ⊢
    rw [hhanded, List.append_nil]
    exact h.nonces.trans (List.prefix_append _ _)
  phase := hphase

theorem submitTells_start (handle : NymHandle) (now : Nat) (tx : Bytes) :
    SubmitTells (SubmitCall.start handle now tx).1 (SubmitCall.start handle now tx).2 := by
  unfold SubmitCall.start
  by_cases htargets : handle.targets = 0
  · simp only [htargets, if_true]
    exact ⟨rfl, Nat.zero_le _, by simp [handedOf, SubmitCall.finish, SubmitObserved.handed?],
      List.nil_prefix, .noTarget rfl⟩
  · simp only [htargets, if_false]
    exact ⟨rfl, Nat.zero_le _, by simp [handedOf, SubmitObserved.handed?], List.nil_prefix, rfl,
      Nat.pos_of_ne_zero htargets, rfl⟩

/-- A submission that stops in {lit}`send` returns its verdict. -/
theorem SubmitTells.stop {call : SubmitCall} {log : List SubmitObserved} {x : SubmitObserved}
    {target : Nat} {parcel : Parcel} (h : SubmitTells call log)
    (hsending : call.phase = .sending target parcel) (hx : SubmitObserved.handed? x = none)
    (hstopped : Stopped call.deadline [x]) :
    SubmitTells { call with phase := .returned call.verdict }
      (log ++ [x, .returned call.verdict]) := by
  have hphase := h.phase
  simp only [PhaseTells, hsending] at hphase
  rcases hphase with ⟨htarget, hlt, -, hencode, -⟩
  have hbudget := encodeSubmit_budget hencode
  have hstop (y : SubmitObserved) : Stopped call.deadline (log ++ [x, y]) := by
    rcases hstopped with hclosed | ⟨now, hnow, helapsed⟩
    · rw [List.mem_singleton] at hclosed
      exact .inl (by simp [hclosed])
    · rw [List.mem_singleton] at helapsed
      exact .inr ⟨now, hnow, by simp [helapsed]⟩
  have hreturned : SubmitObserved.handed? (.returned call.verdict) = none := rfl
  refine h.quiet rfl rfl rfl (by simp [handedOf, hx, hreturned]) ?_
  simp only [PhaseTells]
  have hverdict := hstop (.returned call.verdict)
  unfold SubmitCall.verdict at hverdict ⊢
  split_ifs at hverdict ⊢ with hsent
  · exact .sent hsent hbudget fun _ => hverdict
  · exact .unsent (Nat.eq_zero_of_not_pos hsent) (Nat.zero_lt_of_lt hlt) hbudget hverdict

/-- A hand-off carries the transaction, so what carries one is within budget. -/
theorem Carries.budget {tx : Bytes} {request : Request} (h : Carries tx request) :
    tx.length ≤ maxNymTxBytes :=
  ((decodeSubmit_eq_ok_iff request.frame (request.nonce, tx)).mp h.decode).2.1

/-- A request that is framed but over budget is the first of its submission. -/
theorem SubmitTells.none_of_over {call : SubmitCall} {log : List SubmitObserved}
    (h : SubmitTells call log) (hover : maxNymTxBytes < call.tx.length) :
    call.dispatched = 0 := by
  rw [← length_handed h, List.length_eq_zero_iff, List.eq_nil_iff_forall_not_mem]
  intro request hmem
  exact absurd (h.carries request hmem).budget (Nat.not_le_of_lt hover)

/-- The log after a hand-off, before the loop goes on. -/
theorem SubmitTells.hand {call : SubmitCall} {log : List SubmitObserved} {target slot : Nat}
    {parcel : Parcel} (h : SubmitTells call log)
    (hsending : call.phase = .sending target parcel) :
    SubmitTells (call.handed target (parcel.request slot)).1
      (log ++ (call.handed target (parcel.request slot)).2) := by
  have hphase := h.phase
  simp only [PhaseTells, hsending] at hphase
  rcases hphase with ⟨htarget, hlt, hdrawn, hencode, hsurbs, hkind, hparcel⟩
  have hcarries : Carries call.tx (parcel.request slot) := by
    refine ⟨submit_fixedFrame.decode_encode (parcel.nonce, call.tx) _ hencode, hsurbs, ?_⟩
    simp [Parcel.request, hkind, RequestKind.waiter, Waiter.isAck]
  have hlog (o : List SubmitObserved) (ho : handedOf o = []) :
      handedOf (log ++ .handed (parcel.request slot) :: o) =
        handedOf log ++ [parcel.request slot] := by
    simp only [handedOf, List.filterMap_append] at ho ⊢
    simp [ho, SubmitObserved.handed?]
  have hdraws (o : List SubmitObserved) (ho : drawnOf o = []) :
      drawnOf (log ++ .handed (parcel.request slot) :: o) = drawnOf log := by
    simp only [drawnOf, List.filterMap_append] at ho ⊢
    simp [ho, List.filterMap_cons, SubmitObserved.drawn?]
  have hnonces : (handedOf log ++ [parcel.request slot]).map Request.nonce = drawnOf log := by
    rw [hdrawn, List.map_append]
    rfl
  have htargets : (handedOf log ++ [parcel.request slot]).map Request.target =
      List.range (call.dispatched + 1) := by
    rw [List.map_append, h.targets, List.range_succ]
    simp [Parcel.request, hparcel, htarget]
  have hall : ∀ request ∈ handedOf log ++ [parcel.request slot], Carries call.tx request := by
    intro request hmem
    rcases List.mem_append.mp hmem with hmem | hmem
    · exact h.carries request hmem
    · rw [List.mem_singleton] at hmem
      exact hmem ▸ hcarries
  have hle : call.dispatched + 1 ≤ call.targets := by omega
  simp only [SubmitCall.handed, SubmitCall.advance]
  split_ifs with hnext
  · have hempty := hlog [] rfl
    have hdrawn' := hdraws [] rfl
    constructor
    · rw [hempty]
      exact htargets
    · exact hle
    · rw [hempty]
      exact hall
    · rw [hempty, hdrawn', hnonces]
    · exact ⟨by simp [htarget], hnext, by rw [hempty, hdrawn', hnonces]⟩
  · have hempty := hlog [.returned (.ok ())] rfl
    have hdrawn' := hdraws [.returned (.ok ())] rfl
    have hverdict :
        SubmitCall.verdict { call with dispatched := call.dispatched + 1 } = .ok () := by
      simp [SubmitCall.verdict]
    simp only [SubmitCall.finish, hverdict]
    constructor
    · rw [hempty]
      exact htargets
    · exact hle
    · rw [hempty]
      exact hall
    · rw [hempty, hdrawn', hnonces]
    · have hend : ¬ call.dispatched + 1 < call.targets := by omega
      exact .sent (Nat.succ_pos _) (encodeSubmit_budget hencode) fun hshort => absurd hshort hend

/-- Every step of a submission keeps its log in agreement with it. -/
theorem SubmitTells.step {s s' : Transport} {now : Nat} {call call' : SubmitCall}
    {log o : List SubmitObserved} (h : SubmitTells call log)
    (hstep : SubmitCall.Stepped s now call s' call' o) : SubmitTells call' (log ++ o) := by
  cases hstep with
  | @frame target nonce frame hframing hencode =>
    have hphase := h.phase
    simp only [PhaseTells, hframing] at hphase
    rcases hphase with ⟨htarget, hlt, hdrawn⟩
    refine h.quiet rfl rfl rfl rfl ⟨htarget, hlt, ?_, hencode, rfl, rfl, rfl⟩
    simp only [drawnOf, handedOf, List.filterMap_append] at hdrawn ⊢
    simp [hdrawn, List.filterMap_cons, SubmitObserved.drawn?, SubmitObserved.handed?]
  | @refuse target nonce err hframing hencode =>
    have hphase := h.phase
    simp only [PhaseTells, hframing] at hphase
    rcases encodeSubmit_refuses hencode with ⟨rfl, hover⟩
    refine h.quiet rfl rfl rfl rfl ?_
    exact .tooLarge (h.none_of_over hover) (Nat.zero_lt_of_lt hphase.2.1) hover
  | @dispatch target parcel s₁ request hsending haccept =>
    rcases of_accept haccept with ⟨hrequest, -⟩
    rw [hrequest]
    exact h.hand hsending
  | closed hsending hclosed => exact h.stop hsending rfl (.inl (by simp))
  | elapsed hsending hdeadline =>
    exact h.stop hsending rfl (.inr ⟨now, hdeadline, by simp⟩)
  | cancel => exact h.quiet rfl rfl rfl rfl trivial

/-! ## Along a run -/

/-- What a step does to one submission and its log. -/
theorem submits_step {s s' : Calls} {e : Event} {o : List Observed}
    (h : s.step e = some (s', o)) (i : Nat) :
    (s'.submits[i]? = s.submits[i]? ∧ submitLog i o = []) ∨
      (s.submits[i]? = none ∧ ∃ tx, s'.submits[i]? = some (SubmitCall.start s.handle s.now tx).1 ∧
        submitLog i o = (SubmitCall.start s.handle s.now tx).2) ∨
      ∃ call transport call', s.submits[i]? = some call ∧ s'.submits[i]? = some call' ∧
        SubmitCall.Stepped s.transport s.now call transport call' (submitLog i o) := by
  cases stepped_of_step h with
  | tick | setTargets => exact .inl ⟨rfl, rfl⟩
  | turn | takeFrame | inbound | loseDriver => exact .inl ⟨rfl, submitLog_map i _⟩
  | startSubmit tx =>
    rcases Nat.lt_trichotomy i s.submits.length with hlt | rfl | hgt
    · refine .inl ⟨List.getElem?_append_left hlt, ?_⟩
      rw [submitLog_ofSubmit, if_neg (Nat.ne_of_gt hlt)]
    · refine .inr (.inl ⟨by simp, tx, by simp, ?_⟩)
      rw [submitLog_ofSubmit, if_pos rfl]
    · refine .inl ⟨?_, ?_⟩
      · rw [List.getElem?_eq_none (Nat.le_of_lt hgt), List.getElem?_eq_none (by simp; omega)]
      · rw [submitLog_ofSubmit, if_neg (Nat.ne_of_lt hgt)]
  | @submit j e call transport call' o' hcall hsubmit =>
    rw [submitLog_ofSubmit]
    by_cases hji : j = i
    · subst hji
      have hlt : j < s.submits.length := (List.getElem?_eq_some_iff.mp hcall).1
      refine .inr (.inr ⟨call, transport, call', hcall, by simp [hlt], ?_⟩)
      rw [if_pos rfl]
      exact hsubmit
    · rw [if_neg hji]
      exact .inl ⟨by simp [hji], rfl⟩
  | startLookup | lookup => exact .inl ⟨rfl, submitLog_ofLookup _ _ _⟩

/-- On every run each submission agrees with its log. -/
theorem submitTells_of_runs {timeout dispatchTimeout : Nat} {s : Calls} {t : List Observed}
    (h : Runs step (initial timeout dispatchTimeout) t s) (i : Nat) :
    (s.submits[i]? = none → submitLog i t = []) ∧
      ∀ call, s.submits[i]? = some call → SubmitTells call (submitLog i t) := by
  refine h.invariant (P := fun t s => (s.submits[i]? = none → submitLog i t = []) ∧
    ∀ call, s.submits[i]? = some call → SubmitTells call (submitLog i t))
    ⟨fun _ => rfl, by simp [initial]⟩ ?_
  rintro t s e o s' - ⟨hnone, htells⟩ hstep
  rw [submitLog_append]
  rcases submits_step hstep i with ⟨hsame, hlog⟩ | ⟨hnew, tx, hstart, hlog⟩ |
    ⟨call, transport, call', hcall, hcall', hstepped⟩
  · rw [hsame, hlog, List.append_nil]
    exact ⟨hnone, htells⟩
  · rw [hstart, hlog, hnone hnew, List.nil_append]
    refine ⟨fun h => absurd h (by simp), ?_⟩
    rintro call ⟨⟩
    exact submitTells_start s.handle s.now tx
  · rw [hcall']
    refine ⟨fun h => absurd h (by simp), ?_⟩
    rintro _ ⟨⟩
    exact (htells call hcall).step hstepped

/-! ## What comes of a submission -/

/-- A request was handed over by a call. -/
def HandedBy (t : List Observed) (request : Request) : Prop :=
  ∃ i, .submit i (.handed request) ∈ t ∨ .lookup i (.handed request) ∈ t

theorem handedOf_submitLog {t : List Observed} {i : Nat} {request : Request} :
    request ∈ handedOf (submitLog i t) ↔ .submit i (.handed request) ∈ t := by
  unfold handedOf submitLog
  rw [List.filterMap_filterMap, List.mem_filterMap]
  constructor
  · rintro ⟨o, hmem, ho⟩
    cases o with
    | submit j x =>
      by_cases hji : j = i
      · subst hji
        cases x <;> simp [Observed.submit?, SubmitObserved.handed?] at ho
        exact ho ▸ hmem
      · simp [Observed.submit?, hji] at ho
    | transport | lookup => simp [Observed.submit?] at ho
  · intro hmem
    exact ⟨_, hmem, by simp [Observed.submit?, SubmitObserved.handed?]⟩

/-- The observations of a call hand over what they show accepted. -/
theorem handedBy_of_ofSubmit {i : Nat} {o : List SubmitObserved} {request : Request}
    (h : .transport (.accepted request) ∈ o.flatMap (ofSubmit i)) :
    HandedBy (o.flatMap (ofSubmit i)) request := by
  rcases List.mem_flatMap.mp h with ⟨x, hmem, hx⟩
  cases x with
  | handed other =>
    obtain rfl : request = other := by simpa [ofSubmit] using hx
    exact ⟨i, .inl (List.mem_flatMap.mpr ⟨_, hmem, by simp [ofSubmit]⟩)⟩
  | began | drawn | closed | elapsed | returned => simp [ofSubmit] at hx

theorem handedBy_of_ofLookup {i : Nat} {o : List LookupObserved} {request : Request}
    (h : .transport (.accepted request) ∈ o.flatMap (ofLookup i)) :
    HandedBy (o.flatMap (ofLookup i)) request := by
  rcases List.mem_flatMap.mp h with ⟨x, hmem, hx⟩
  cases x with
  | handed other =>
    obtain rfl : request = other := by simpa [ofLookup] using hx
    exact ⟨i, .inr (List.mem_flatMap.mpr ⟨_, hmem, by simp [ofLookup]⟩)⟩
  | began | minted | timedOut | replied | gone | returned => simp [ofLookup] at hx

theorem not_accepted_of_transport {s s' : Transport} {e : Transport.Event}
    {o : List Nym.Observed} (h : s.step e = some (s', o)) (he : ∀ parcel, e ≠ .accept parcel)
    (request : Request) : .accepted request ∉ o := by
  intro hmem
  cases e with
  | turn a =>
    have hticket : request.ticket ∈ total Nym.Observed.acceptedTickets o :=
      (mem_total _ _).mpr ⟨_, hmem, by simp⟩
    rw [accepted_turn h] at hticket
    simp at hticket
  | accept parcel => exact he parcel rfl
  | abandon | closeRequests | loseDriver =>
    cases h
    simp at hmem
  | takeFrame | inbound =>
    rcases Option.map_eq_some_iff.mp h with ⟨x, -, heq⟩
    cases heq
    simp at hmem

/-- Every request the transport accepted was handed over by a call. -/
theorem handedBy_of_accepted {timeout dispatchTimeout : Nat} {s : Calls} {t : List Observed}
    (h : Runs step (initial timeout dispatchTimeout) t s) {request : Request}
    (haccepted : .transport (.accepted request) ∈ t) : HandedBy t request := by
  have weaken {t o : List Observed} (h : HandedBy o request) : HandedBy (t ++ o) request := by
    rcases h with ⟨i, hi⟩
    exact ⟨i, hi.imp (List.mem_append_right _) (List.mem_append_right _)⟩
  refine h.invariant (P := fun t _ => .transport (.accepted request) ∈ t → HandedBy t request)
    (by simp) ?_ haccepted
  intro t s e o s' _ ih hstep hmem
  rcases List.mem_append.mp hmem with hmem | hmem
  · rcases ih hmem with ⟨i, hi⟩
    exact ⟨i, hi.imp (List.mem_append_left _) (List.mem_append_left _)⟩
  apply weaken
  cases stepped_of_step hstep with
  | tick | setTargets => cases hmem
  | turn htransport | takeFrame htransport | inbound htransport | loseDriver htransport =>
    have hmem : Nym.Observed.accepted request ∈ _ := mem_transportTrace.mpr hmem
    rw [transportTrace_map] at hmem
    exact absurd hmem (not_accepted_of_transport htransport (by simp) request)
  | startSubmit | submit => exact handedBy_of_ofSubmit hmem
  | startLookup | lookup => exact handedBy_of_ofLookup hmem

/-- A request handed over is one the transport accepted. -/
theorem accepted_of_handed {timeout dispatchTimeout : Nat} {s : Calls} {t : List Observed}
    (h : Runs step (initial timeout dispatchTimeout) t s) {i : Nat} {request : Request}
    (hhanded : .submit i (.handed request) ∈ t) : .transport (.accepted request) ∈ t := by
  have here {j : Nat} {o : List SubmitObserved}
      (hmem : .submit i (.handed request) ∈ o.flatMap (ofSubmit j)) :
      .transport (.accepted request) ∈ o.flatMap (ofSubmit j) := by
    rcases List.mem_flatMap.mp hmem with ⟨x, hx, hmem⟩
    refine List.mem_flatMap.mpr ⟨x, hx, ?_⟩
    cases x <;> simp_all [ofSubmit]
  refine h.invariant (P := fun t _ => .submit i (.handed request) ∈ t →
    .transport (.accepted request) ∈ t) (by simp) ?_ hhanded
  intro t s e o s' _ ih hstep hmem
  rcases List.mem_append.mp hmem with hmem | hmem
  · exact List.mem_append_left _ (ih hmem)
  apply List.mem_append_right
  have hlog : .handed request ∈ submitLog i o :=
    List.mem_filterMap.mpr ⟨_, hmem, by simp [Observed.submit?]⟩
  cases stepped_of_step hstep with
  | tick | setTargets => cases hmem
  | turn | takeFrame | inbound | loseDriver => simp at hmem
  | startSubmit | submit => exact here hmem
  | startLookup | lookup =>
    rw [submitLog_ofLookup] at hlog
    cases hlog

/-- What a submission that returned guarantees of the trace. -/
structure SubmitHonest (t : List Observed) (i : Nat) (call : SubmitCall)
    (result : Except NymError Unit) : Prop where
  /-- Success says that the transport accepted a request. -/
  ok_iff : result = .ok () ↔ handedOf (submitLog i t) ≠ []
  accepted : ∀ request ∈ handedOf (submitLog i t), .transport (.accepted request) ∈ t
  /-- The accepted requests are for the first targets, one each. -/
  targets : (handedOf (submitLog i t)).map Request.target =
    List.range (handedOf (submitLog i t)).length
  le : (handedOf (submitLog i t)).length ≤ call.targets
  /-- Each carries exactly the transaction, under the nonce drawn for it. -/
  carries : ∀ request ∈ handedOf (submitLog i t), Carries call.tx request
  fresh : (handedOf (submitLog i t)).map Request.nonce <+: drawnOf (submitLog i t)
  /-- A framed transaction misses a target only when the channel closed or the deadline
  passed. -/
  short : call.tx.length ≤ maxNymTxBytes →
    (handedOf (submitLog i t)).length < call.targets → Stopped call.deadline (submitLog i t)
  /-- The size error says that the transaction is over budget. -/
  tooLarge_iff : result = .error (.encode (.txTooLarge call.tx.length maxNymTxBytes)) ↔
    0 < call.targets ∧ maxNymTxBytes < call.tx.length
  encode : ∀ err, result = .error (.encode err) →
    err = .txTooLarge call.tx.length maxNymTxBytes
  /-- Every frame emitted is of a request that some call handed over, and none is of a
  submission that failed. -/
  emitted : ∀ request, .transport (.emitted request) ∈ t → HandedBy t request
  silent : result ≠ .ok () → ∀ request, .transport (.emitted request) ∈ t →
    .submit i (.handed request) ∉ t

/-- A submission's verdict is right, and its effects are atomic, on every run: for any
transaction, any number of targets and any behaviour of the request channel. -/
theorem submit_honest {timeout dispatchTimeout : Nat} {s : Calls} {t : List Observed}
    (h : Runs step (initial timeout dispatchTimeout) t s) {i : Nat} {call : SubmitCall}
    {result : Except NymError Unit} (hcall : s.submits[i]? = some call)
    (hreturned : call.phase = .returned result) : SubmitHonest t i call result := by
  have htells := (submitTells_of_runs h i).2 call hcall
  have hlength := length_handed htells
  have houtcome : SubmitOutcome call (submitLog i t) result := by
    simpa [PhaseTells, hreturned] using htells.phase
  have hsent : handedOf (submitLog i t) ≠ [] ↔ 0 < call.dispatched := by
    rw [← hlength, List.length_pos_iff]
  have hok : result = .ok () ↔ handedOf (submitLog i t) ≠ [] := by
    rw [hsent]
    cases houtcome with
    | sent hpos => simpa using hpos
    | noTarget htargets => simpa using Nat.le_zero.mp (htargets ▸ htells.le)
    | unsent hzero => simpa using hzero
    | tooLarge hzero => simpa using hzero
  have htransport := transport_runs h
  constructor
  · exact hok
  · intro request hmem
    exact accepted_of_handed h (handedOf_submitLog.mp hmem)
  · rw [hlength]
    exact htells.targets
  · rw [hlength]
    exact htells.le
  · exact htells.carries
  · exact htells.nonces
  · intro hbudget hshort
    rw [hlength] at hshort
    cases houtcome with
    | sent hpos hfits hstopped => exact hstopped hshort
    | noTarget htargets => omega
    | unsent hzero hpos hfits hstopped => exact hstopped
    | tooLarge hzero hpos hover => omega
  · cases houtcome with
    | sent hpos hfits hstopped => simpa using fun _ => hfits
    | noTarget htargets => simp [htargets]
    | unsent hzero hpos hfits hstopped => simpa using fun _ => hfits
    | tooLarge hzero hpos hover => simpa using ⟨hpos, hover⟩
  · rintro err rfl
    cases houtcome with
    | tooLarge hzero hpos hover => rfl
  · intro request hemitted
    have haccepted := (accepted_of_runs htransport).2 request (mem_transportTrace.mpr hemitted)
    exact handedBy_of_accepted h (mem_transportTrace.mp haccepted)
  · intro hfailed request _ hhanded
    have hnone : handedOf (submitLog i t) = [] := by
      by_contra hsome
      exact hfailed (hok.mpr hsome)
    have hmem := handedOf_submitLog.mpr hhanded
    rw [hnone] at hmem
    cases hmem

/-- A transaction for three addresses is sent to the first before the deadline passes. -/
theorem submit_honest_interrupted :
    ∃ t s call, Runs step (initial 90000 5000) t s ∧ s.submits[0]? = some call ∧
      call.tx = [1, 2, 3] ∧ call.targets = 3 ∧
      (handedOf (submitLog 0 t)).map Request.target = [0] ∧ SubmitHonest t 0 call (.ok ()) := by
  have hframe (nonce : Nonce) : ∃ frame, encodeSubmit nonce [1, 2, 3] = .ok frame :=
    ⟨_, encodeSubmit_eq (by rw [maxNymTxBytes_eq]; decide)⟩
  obtain ⟨first, hfirst⟩ := hframe (.replicate 16 0)
  obtain ⟨second, hsecond⟩ := hframe (.replicate 16 1)
  have hstart := Runs.of_execute (show execute step (initial 90000 5000)
    [.setTargets 3, .startSubmit [1, 2, 3]] =
      some (⟨0, ⟨90000, 5000, 3, 0⟩, .initial, [⟨[1, 2, 3], 3, 5000, 0, .framing 0⟩], []⟩,
        [.submit 0 (.began 3)]) from rfl)
  have hframed := hstart.snoc (step_submit (show [_][0]? = some _ from rfl)
    (SubmitCall.step_frame rfl hfirst))
  have hsent := hframed.snoc (e := .submit 0 .dispatch) (show _ = some (_, _) from rfl)
  have hagain := hsent.snoc (step_submit (show [_][0]? = some _ from rfl)
    (SubmitCall.step_frame rfl hsecond))
  have hlate := hagain.snoc (e := .tick 5000) rfl
  have hended := hlate.snoc (step_submit (show [_][0]? = some _ from rfl)
    (SubmitCall.step_elapsed rfl (show 5000 ≤ 5000 from Nat.le_refl _)))
  exact ⟨_, _, _, hended, rfl, rfl, rfl, rfl, submit_honest hended rfl rfl⟩

end Calls

end Nym
end ZeroShim
