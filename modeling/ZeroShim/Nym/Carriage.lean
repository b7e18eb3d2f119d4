import ZeroShim.Nym.Lifecycle
import ZeroShim.Nym.Outbound
import ZeroShim.Nym.SizeHiding

/-!
# What leaves over the mixnet

Everything that the SDK is ever handed, over whole runs of the outbound path: the frames of
the calls, each to the hub address under its target, and probes to the client's own address.

Main results:

- Theorem {lit}`aimed_of_runs`: every request is for an address that the driver holds.
- Theorem {lit}`lined_of_runs`: every frame on its way has one place.
- Theorem {lit}`handedOver_exact`: what the SDK is handed.
- Theorem {lit}`submitted_accounted`: where the frames of a submission that succeeded are.
-/

namespace ZeroShim
namespace Nym

open Library Wire Transport

namespace Outbound

/-! ## What the SDK is handed -/

/-- A message handed to the SDK, whether it took or refused it: that of a frame, or a probe. -/
def Observed.message? : Observed → Option SdkMessage
  | .driver (.handed _ message _) => some message
  | .driver (.probed _ message _) => some message
  | _ => none

/-- Where a request comes from: a call handed it over, with what it is about. -/
inductive Origin (t : List Observed) (s : Outbound) (request : Request) : Prop where
  | submit {i : Nat} {call : SubmitCall} : s.calls.submits[i]? = some call →
      .submit i (.handed request) ∈ callsTrace t → Calls.Carries call.tx request →
      request.frame.length = frameBytes → Origin t s request
  | lookup {i : Nat} {call : LookupCall} : s.calls.lookups[i]? = some call →
      .lookup i (.handed request) ∈ callsTrace t → Calls.AsksFor call.hash request →
      request.frame.length = lookupBytes → Origin t s request

/-- What a message handed to the SDK is. -/
inductive HandedOver (hubAddresses : List Recipient) (t : List Observed) (s : Outbound)
    (message : SdkMessage) : Prop where
  /-- The frame of a call's request, for the hub address under its target, with as many SURBs
  as every frame of its kind. -/
  | frame (request : Request) : Origin t s request →
      hubAddresses[request.target]? = some message.recipient →
      message.bytes = request.frame → message.surbs = request.replySurbs →
      HandedOver hubAddresses t s message
  /-- An empty message from a client to itself. -/
  | probe (client : Client) : .driver (.connected client) ∈ t →
      message = ⟨client.address, [], 0⟩ → HandedOver hubAddresses t s message

/-! ## Targets -/

/-- A lookup that goes on asks one of so many addresses. -/
def LookupAims (n : Nat) (call : LookupCall) : Prop :=
  call.targets ≤ n ∧
    match call.phase with
    | .building _ => 0 < call.targets
    | .sending _ _ parcel => parcel.target < call.targets
    | _ => True

theorem lookupAims_begin {handle : NymHandle} {n : Nat} (h : handle.targets ≤ n) (hash : Bytes) :
    LookupAims n (LookupCall.begin handle hash).2.1 := by
  unfold LookupCall.begin
  by_cases hnone : handle.targets = 0
  · simp only [hnone, if_true]
    exact ⟨Nat.zero_le n, trivial⟩
  · simp only [hnone, if_false]
    exact ⟨h, Nat.pos_of_ne_zero hnone⟩

theorem lookupAims_expire {call : LookupCall} {n : Nat} (h : LookupAims n call)
    (attempt now : Nat) : LookupAims n (call.expire attempt now).1 := by
  unfold LookupCall.expire
  by_cases hnext : attempt + 1 < call.targets
  · simp only [hnext, if_true]
    exact ⟨h.1, Nat.zero_lt_of_lt hnext⟩
  · simp only [hnext, if_false]
    exact ⟨h.1, trivial⟩

theorem LookupAims.step {handle : NymHandle} {s s' : Transport} {now n : Nat}
    {call call' : LookupCall} {o : List LookupObserved} (h : LookupAims n call)
    (hstep : LookupCall.Stepped handle s now call s' call' o) :
    LookupAims n call' ∧ ∀ request, .handed request ∈ o → request.target < n := by
  refine ⟨?_, ?_⟩
  · cases hstep with
    | build hphase hencode =>
      have hpos : 0 < call.targets := by simpa [LookupAims, hphase] using h.2
      exact ⟨h.1, Nat.mod_lt _ hpos⟩
    | full | silent => exact lookupAims_expire h _ _
    | refuse | dispatch | closed | reply | gone | cancel | cancelAwaiting =>
      exact ⟨h.1, trivial⟩
  · intro request hmem
    obtain ⟨attempt, deadline, parcel, slot, hphase, rfl⟩ :=
      Calls.handed_of_lookupStepped hstep hmem
    have htarget : parcel.target < call.targets := by simpa [LookupAims, hphase] using h.2
    exact htarget.trans_le h.1

theorem targets_of_submit {s s' : Transport} {now : Nat} {call call' : SubmitCall}
    {o : List SubmitObserved} (h : SubmitCall.Stepped s now call s' call' o) :
    call'.targets = call.targets := by
  cases h with
  | dispatch hphase haccept =>
    unfold SubmitCall.handed SubmitCall.advance
    dsimp only
    split_ifs <;> rfl
  | frame | refuse | closed | elapsed | cancel => rfl

/-- The handle and its calls ask for the addresses there are. -/
structure Aimed (n : Nat) (t : List Calls.Observed) (s : Calls) : Prop where
  targets : s.handle.targets ≤ n
  submits : ∀ (i : Nat) (call : SubmitCall), s.submits[i]? = some call → call.targets ≤ n
  lookups : ∀ (i : Nat) (call : LookupCall), s.lookups[i]? = some call → LookupAims n call
  handed : ∀ (i : Nat) request, .handed request ∈ Calls.lookupLog i t → request.target < n

/-- The count a handle loads moves only when the driver publishes it. -/
theorem targets_of_calls {s s' : Calls} {e : Calls.Event} {o : List Calls.Observed}
    (hdriven : isDriven e = false) (h : s.step e = some (s', o)) :
    s'.handle.targets = s.handle.targets := by
  cases Calls.stepped_of_step h with
  | startLookup hash =>
    unfold LookupCall.begin
    split_ifs <;> rfl
  | setTargets | takeFrame | inbound | loseDriver => cases hdriven
  | tick | turn | startSubmit | submit | lookup => rfl

theorem Aimed.calls {n : Nat} {t o : List Calls.Observed} {s s' : Calls} {e : Calls.Event}
    (h : Aimed n t s) (hdriven : isDriven e = false) (hstep : s.step e = some (s', o)) :
    Aimed n (t ++ o) s' := by
  constructor
  · rw [targets_of_calls hdriven hstep]
    exact h.targets
  · intro i call hcall
    rcases Calls.submits_step hstep i with ⟨hsame, -⟩ | ⟨-, tx, hstart, -⟩ |
      ⟨before, transport, after, hbefore, hafter, hstepped⟩
    · exact h.submits i call (hsame ▸ hcall)
    · obtain rfl := Option.some.inj (hcall.symm.trans hstart)
      unfold SubmitCall.start
      split_ifs <;> exact h.targets
    · obtain rfl := Option.some.inj (hcall.symm.trans hafter)
      rw [targets_of_submit hstepped]
      exact h.submits i before hbefore
  · intro i call hcall
    rcases Calls.lookups_step hstep i with ⟨hsame, -⟩ | ⟨-, hash, hbegin, -⟩ |
      ⟨before, transport, after, hbefore, hafter, hstepped⟩
    · exact h.lookups i call (hsame ▸ hcall)
    · obtain rfl := Option.some.inj (hcall.symm.trans hbegin)
      exact lookupAims_begin h.targets hash
    · obtain rfl := Option.some.inj (hcall.symm.trans hafter)
      exact ((h.lookups i before hbefore).step hstepped).1
  · intro i request hmem
    rw [Calls.lookupLog_append] at hmem
    rcases List.mem_append.mp hmem with hmem | hmem
    · exact h.handed i request hmem
    rcases Calls.lookups_step hstep i with ⟨-, hlog⟩ | ⟨-, hash, -, hlog⟩ |
      ⟨before, transport, after, hbefore, -, hstepped⟩
    · rw [hlog] at hmem
      cases hmem
    · rw [hlog] at hmem
      unfold LookupCall.begin at hmem
      split_ifs at hmem <;> simp [LookupCall.finish] at hmem
    · exact ((h.lookups i before hbefore).step hstepped).2 request hmem

section Runs

variable {policy : RotationPolicy} {hubAddresses : List Recipient} {gateways : List String}
  {timeout dispatchTimeout : Nat} {s : Outbound} {t : List Observed}

theorem hubAddresses_of_runs
    (h : Runs step (initial policy hubAddresses gateways timeout dispatchTimeout) t s) :
    s.driver.hubAddresses = hubAddresses := by
  refine h.always (P := fun s => s.driver.hubAddresses = hubAddresses) rfl ?_
  intro s e o s' ih hstep
  cases stepped_of_step hstep with
  | driver hdriver =>
    exact (Driver.hubAddresses_of_stepped (Driver.stepped_of_step hdriver)).trans ih
  | calls | store | supervisor => exact ih

/-- Every request is for an address that the driver holds. -/
theorem aimed_of_runs
    (h : Runs step (initial policy hubAddresses gateways timeout dispatchTimeout) t s) :
    Aimed hubAddresses.length (callsTrace t) s.calls := by
  refine h.invariant (P := fun t s => Aimed hubAddresses.length (callsTrace t) s.calls) ?_ ?_
  · exact ⟨Nat.zero_le _, by simp [initial, Calls.initial], by simp [initial, Calls.initial],
      by simp [callsTrace, Calls.lookupLog]⟩
  intro t s e o s' hrun ih hstep
  rw [callsTrace_append]
  cases stepped_of_step hstep with
  | calls hdriven hcalls =>
    rw [callsTrace_calls]
    exact ih.calls hdriven hcalls
  | @driver e driver ports o hdriver =>
    have hquiet (i : Nat) :
        Calls.lookupLog i (callsTrace t ++ callsTrace ((s.passedOn e).map .arrived ++
          o.map .driver)) = Calls.lookupLog i (callsTrace t) := by
      rw [Calls.lookupLog_append, callsTrace_append, callsTrace_arrived, callsTrace_driver,
        List.append_nil, Calls.lookupLog_map, List.append_nil]
    refine ⟨?_, ih.submits, ih.lookups, fun i request hmem => ?_⟩
    · have haddresses := hubAddresses_of_runs hrun
      unfold withDriver targetsAfter
      cases e with
      | start unixNow => exact Nat.le_of_eq (congrArg List.length haddresses)
      | built | tick | command | takeFrame | sent | arrive | delivered | reported
      | disconnected => exact ih.targets
    · rw [hquiet] at hmem
      exact ih.handed i request hmem
  | store => exact (List.append_nil (callsTrace t)).symm ▸ ih
  | supervisor hsupervisor =>
    rw [callsTrace_supervisor, List.append_nil]
    exact ih

/-! ## Frames -/

theorem running_of_runs
    (h : Runs step (initial policy hubAddresses gateways timeout dispatchTimeout) t s)
    (hrunning : s.driver.phase ≠ .returned) : Dispatch.Running s.dispatch := by
  rcases (joined_of_runs h hrunning).running with ⟨c, hc, -⟩
  refine ⟨fun hnone => ?_, hrunning⟩
  rw [dispatch, hc] at hnone
  cases hnone

/-- Every frame on its way has one place. -/
theorem lined_of_runs
    (h : Runs step (initial policy hubAddresses gateways timeout dispatchTimeout) t s)
    (hrunning : s.driver.phase ≠ .returned) :
    Dispatch.Lined hubAddresses (dispatchTrace t) s.dispatch := by
  refine h.invariant (P := fun t s => s.driver.phase ≠ .returned →
    Dispatch.Lined hubAddresses (dispatchTrace t) s.dispatch)
    (fun _ => ⟨rfl, rfl, rfl, rfl, rfl⟩) ?_ hrunning
  intro t s e o s' hrun ih hstep hrunning
  have hstepped := dispatch_of_step hstep
  have hafter := running_of_runs (hrun.snoc hstep) hrunning
  rw [dispatchTrace_append]
  exact (ih (Dispatch.running_of_stepped hstepped hafter).driver).step hstepped hafter

/-- A driver that has not returned had not returned before. -/
theorem running_of_step {e : Event} {s' : Outbound} {o : List Observed}
    (hstep : s.step e = some (s', o)) (hrunning : s'.driver.phase ≠ .returned) :
    s.driver.phase ≠ .returned := by
  cases stepped_of_step hstep with
  | calls | store | supervisor => exact hrunning
  | driver hdriver => exact Driver.running_of_stepped (Driver.stepped_of_step hdriver)

/-- Only a driver that goes on settles a frame otherwise than by a teardown. -/
theorem running_of_settled {ports ports' : Driver.Ports} {d d' : Driver} {e : Driver.Event}
    {o : List Driver.Observed} (h : Driver.Stepped ports d e d' ports' o) {out : OutFrame}
    {fate : Fate} (hmem : (out, fate) ∈ Driver.settled o) (hfate : fate ≠ .abandoned) :
    d'.phase ≠ .returned := by
  cases h with
  | @sent client accepted inFlight hphase hinFlight =>
    cases inFlight <;> simp [Driver.endSend, hphase]
  | leaveTold | leave | disconnectedLast =>
    simp [Driver.leave] at hmem
    exact absurd hmem.2.symm hfate
  | reportSilence hphase hreport | report hphase hreport =>
    obtain ⟨rfl, ⟨events, -, -, rfl, rfl⟩ | ⟨-, rfl, rfl⟩⟩ := Driver.of_report hreport <;>
      simp at hmem
  | rebuild | die => simp [Driver.rebuild, Driver.die]
  | start | tick | disconnect | stop | takeFrame | receive | passOn | rebuildAgain
  | disconnected | connect | fail =>
    simp [Driver.stop, Driver.request, Driver.connect, Driver.fail] at hmem

/-- What is settled otherwise than by a teardown is the frame of an accepted request. -/
theorem accepted_of_settled
    (h : Runs step (initial policy hubAddresses gateways timeout dispatchTimeout) t s)
    {out : OutFrame} {fate : Fate} (hmem : (out, fate) ∈ Dispatch.settled (dispatchTrace t))
    (hfate : fate ≠ .abandoned) :
    ∃ request ∈ Dispatch.accepted (dispatchTrace t), request.outFrame = out := by
  refine h.invariant (P := fun t _ => (out, fate) ∈ Dispatch.settled (dispatchTrace t) →
    ∃ request ∈ Dispatch.accepted (dispatchTrace t), request.outFrame = out)
    (fun hmem => by simp [Dispatch.settled, Dispatch.driverTrace, dispatchTrace] at hmem) ?_ hmem
  intro t s e o s' hrun ih hstep hmem
  rw [dispatchTrace_append, Dispatch.settled_append] at hmem
  rcases List.mem_append.mp hmem with hmem | hnew
  · rcases ih hmem with ⟨request, haccepted, hout⟩
    refine ⟨request, ?_, hout⟩
    rw [dispatchTrace_append, Dispatch.accepted_append]
    exact List.mem_append_left _ haccepted
  · cases stepped_of_step hstep with
    | calls hdriven hcalls =>
      rw [dispatchTrace_calls, Dispatch.settled, Dispatch.driverTrace_transport] at hnew
      cases hnew
    | store => cases hnew
    | supervisor hsupervisor =>
      rw [dispatchTrace_supervisor] at hnew
      cases hnew
    | driver hdriverStep =>
      have hdriver := Driver.stepped_of_step hdriverStep
      rw [dispatchTrace_append, dispatchTrace_arrived, dispatchTrace_driver, List.nil_append,
        Dispatch.settled, Dispatch.driverTrace_driver] at hnew
      have hrunning := running_of_settled hdriver hnew hfate
      rcases List.getElem?_of_mem hmem with ⟨i, hi⟩
      rw [← Dispatch.settled_append, ← dispatchTrace_append] at hi
      rcases (lined_of_runs (hrun.snoc hstep) hrunning).accepted_of_settled hi with
        ⟨request, hrequest, hout⟩
      exact ⟨request, List.mem_of_getElem? hrequest, hout⟩

/-- What is settled shows why, unless it is dropped as the driver returns. -/
theorem settledAt_of_runs
    (h : Runs step (initial policy hubAddresses gateways timeout dispatchTimeout) t s)
    {i : Nat} {out : OutFrame} {fate : Fate}
    (hrunning : fate = .abandoned → s.driver.phase ≠ .returned)
    (hsettled : (Dispatch.settled (dispatchTrace t))[i]? = some (out, fate)) :
    Dispatch.SettledAt hubAddresses (dispatchTrace t) i out fate := by
  refine h.invariant (P := fun t s => (fate = .abandoned → s.driver.phase ≠ .returned) →
    (Dispatch.settled (dispatchTrace t))[i]? = some (out, fate) →
      Dispatch.SettledAt hubAddresses (dispatchTrace t) i out fate)
    (fun _ hsettled => by simp [Dispatch.settled, Dispatch.driverTrace, dispatchTrace] at hsettled)
    ?_ hrunning hsettled
  intro t s e o s' hrun ih hstep hrunning hsettled
  have hstepped := dispatch_of_step hstep
  rw [dispatchTrace_append] at hsettled ⊢
  refine Dispatch.settledAt_append hstepped (hubAddresses_of_runs hrun) hrunning ?_ hsettled
  apply ih
  intro hfate
  exact running_of_step hstep (hrunning hfate)

/-- What the SDK was handed, and what it answered, is what was settled. -/
theorem handed_of_runs
    (h : Runs step (initial policy hubAddresses gateways timeout dispatchTimeout) t s) :
    Dispatch.handed (dispatchTrace t) =
      (Dispatch.settled (dispatchTrace t)).filterMap (Driver.answered hubAddresses) := by
  refine h.invariant (P := fun t _ => Dispatch.handed (dispatchTrace t) =
    (Dispatch.settled (dispatchTrace t)).filterMap (Driver.answered hubAddresses)) rfl ?_
  intro t s e o s' hrun ih hstep
  have hnew := Dispatch.handed_of_stepped (dispatch_of_step hstep)
  rw [show s.dispatch.driver.hubAddresses = hubAddresses from hubAddresses_of_runs hrun] at hnew
  rw [dispatchTrace_append, Dispatch.handed_append, Dispatch.settled_append,
    List.filterMap_append, ih, hnew]

/-! ## Origins -/

theorem accepted_of_dispatch {request : Request}
    (h : request ∈ Dispatch.accepted (dispatchTrace t)) :
    .transport (.accepted request) ∈ callsTrace t := by
  rcases List.mem_filterMap.mp h with ⟨x, hx, hrequest⟩
  rcases List.mem_filterMap.mp hx with ⟨y, hy, hdispatch⟩
  refine List.mem_filterMap.mpr ⟨y, hy, ?_⟩
  cases y with
  | calls o =>
    cases o with
    | transport o =>
      cases hdispatch
      cases o <;> cases hrequest
      rfl
    | submit | lookup => cases hdispatch
  | driver o =>
    cases hdispatch
    cases hrequest
  | arrived | supervisor => cases hdispatch

/-- Every request that the transport accepted comes from a call. -/
theorem origin_of_accepted
    (h : Runs step (initial policy hubAddresses gateways timeout dispatchTimeout) t s)
    {request : Request} (haccepted : .transport (.accepted request) ∈ callsTrace t) :
    Origin t s request := by
  have hcalls := calls_runs h
  rcases Calls.handedBy_of_accepted hcalls haccepted with ⟨i, hhanded | hhanded⟩
  · have hmem : .handed request ∈ Calls.submitLog i (callsTrace t) :=
      List.mem_filterMap.mpr ⟨_, hhanded, by simp [Calls.Observed.submit?]⟩
    rcases Calls.submitTells_of_runs hcalls i with ⟨hnone, htells⟩
    cases hcall : s.calls.submits[i]? with
    | none =>
      rw [hnone hcall] at hmem
      cases hmem
    | some call =>
      have hlog := Calls.handedOf_submitLog.mpr hhanded
      rcases Calls.submit_framed hcalls i request hmem with ⟨tx, hencode⟩
      exact .submit hcall hhanded ((htells call hcall).carries request hlog)
        (submit_fixedFrame.length_encode (request.nonce, tx) _ hencode)
  · have hmem := Calls.mem_lookupLog.mpr hhanded
    cases hcall : s.calls.lookups[i]? with
    | none =>
      rw [(Calls.lookupTells_of_runs rfl hcalls i).1 hcall] at hmem
      cases hmem
    | some call =>
      rcases Calls.lookup_framed hcalls i request hmem with ⟨hash, hencode⟩
      exact .lookup hcall hhanded
        ((Calls.lookupAsks_of_runs hcalls i call hcall).handed request hmem)
        (lookup_fixedFrame.length_encode (request.nonce, hash) _ hencode)

/-- It is for an address that the driver holds. -/
theorem target_lt
    (h : Runs step (initial policy hubAddresses gateways timeout dispatchTimeout) t s)
    {request : Request} (haccepted : .transport (.accepted request) ∈ callsTrace t) :
    request.target < hubAddresses.length := by
  have haimed := aimed_of_runs h
  cases origin_of_accepted h haccepted with
  | @submit i call hcall hhanded =>
    have htells := (Calls.submitTells_of_runs (calls_runs h) i).2 call hcall
    have hmem : request.target ∈ List.range call.dispatched := by
      rw [← htells.targets]
      exact List.mem_map_of_mem (Calls.handedOf_submitLog.mpr hhanded)
    exact ((List.mem_range.mp hmem).trans_le htells.le).trans_le (haimed.submits i call hcall)
  | @lookup i call hcall hhanded =>
    exact haimed.handed i request (Calls.mem_lookupLog.mpr hhanded)

/-! ## Probes -/

/-- A client is held because it was connected, now or before. -/
theorem held_of_linked {link link' : Link} {d d' : Driver} {e : Driver.Event}
    {o : List Driver.Observed} (h : Driver.Linked link d e d' link' o) {client : Client}
    (hheld : d'.phase.client? = some client) :
    d.phase.client? = some client ∨ .connected client ∈ o := by
  cases h with
  | quiet hbuilt hkept => exact .inl (hkept client hheld)
  | connect hbuilding hbuilt hclient =>
    obtain rfl := Option.some.inj (hclient.symm.trans hheld)
    exact .inr (by simp)
  | report hreceiver hsend hbuilt hkept => exact .inl (hkept client hheld).2
  | rebuild hrecv hbuilt hkept | disconnect hrecv hbuilt hkept => exact .inl (hkept client hheld)
  | leave hreturned =>
    rw [hreturned] at hheld
    cases hheld

/-- The loop's locals are those of the client held. -/
theorem bound_of_runs
    (h : Runs step (initial policy hubAddresses gateways timeout dispatchTimeout) t s) :
    Driver.Bound s.driver := by
  refine h.always (P := fun s => Driver.Bound s.driver) (Driver.bound_of_none rfl rfl) ?_
  intro s e o s' ih hstep
  cases stepped_of_step hstep with
  | calls | store | supervisor => exact ih
  | driver hdriver => exact Driver.bound_of_stepped ih (Driver.stepped_of_step hdriver)

/-- A probe goes from the client that is served to itself. -/
theorem probe_of_stepped {ports ports' : Driver.Ports} {d d' : Driver} {e : Driver.Event}
    {o : List Driver.Observed} (hbound : Driver.Bound d)
    (h : Driver.Stepped ports d e d' ports' o) {sender : Nat} {message : SdkMessage}
    {accepted : Bool} (hmem : .probed sender message accepted ∈ o) :
    ∃ client, d.phase.client? = some client ∧
      message = Driver.probeMessage client.address := by
  cases h with
  | @sent client accepted' inFlight hphase hinFlight =>
    rcases hbound.inFlight inFlight hinFlight with ⟨held, hheld, hthrough⟩
    rw [hphase] at hheld
    obtain rfl : client = held := Option.some.inj hheld
    cases inFlight with
    | frame sender' out =>
      rcases List.mem_append.mp hmem with hmem | hmem
      · exact absurd rfl (Driver.forall_handOver _ _ _ _
          (p := fun x => x ≠ .probed sender message accepted) (by simp) _ hmem)
      · simp at hmem
    | probe sender' own =>
      rcases hthrough with ⟨-, rfl⟩
      simp only [Driver.endSend, List.mem_singleton, Driver.Observed.probed.injEq] at hmem
      exact ⟨client, by rw [hphase]; rfl, hmem.2.1⟩
  | leaveTold | leave | disconnectedLast => simp [Driver.leave, Driver.drop] at hmem
  | reportSilence hphase hreport | report hphase hreport =>
    obtain ⟨-, ⟨events, -, -, -, rfl⟩ | ⟨-, -, rfl⟩⟩ := Driver.of_report hreport <;>
      simp at hmem
  | rebuild | die => simp [Driver.rebuild, Driver.die, Driver.drop] at hmem
  | start | tick | disconnect | stop | takeFrame | receive | passOn | rebuildAgain | disconnected
  | connect | fail =>
    simp [Driver.stop, Driver.request, Driver.connect, Driver.fail] at hmem

/-- A client that is held was connected. -/
theorem held_of_runs
    (h : Runs step (initial policy hubAddresses gateways timeout dispatchTimeout) t s) :
    ∀ client, s.driver.phase.client? = some client → .driver (.connected client) ∈ t := by
  refine h.invariant (P := fun t s => ∀ client, s.driver.phase.client? = some client →
    .driver (.connected client) ∈ t) ?_ ?_
  · intro client hheld
    simp [initial, Driver.initial, Driver.Phase.client?] at hheld
  intro t s e o s' hrun ih hstep client hheld
  cases stepped_of_step hstep with
  | calls | store | supervisor => exact List.mem_append_left _ (ih client hheld)
  | driver hdriver =>
    have hlinked := Driver.linked_of_stepped (Driver.stepped_of_step hdriver)
    rcases held_of_linked hlinked hheld with hbefore | hconnected
    · exact List.mem_append_left _ (ih client hbefore)
    · exact List.mem_append_right _ (List.mem_append_right _ (List.mem_map_of_mem hconnected))

/-- A probe goes from a connected client to itself. -/
theorem probes_of_runs
    (h : Runs step (initial policy hubAddresses gateways timeout dispatchTimeout) t s)
    {sender : Nat} {message : SdkMessage} {accepted : Bool}
    (hmem : .driver (.probed sender message accepted) ∈ t) :
    ∃ client, .driver (.connected client) ∈ t ∧
      message = Driver.probeMessage client.address := by
  refine h.invariant (P := fun t _ => .driver (.probed sender message accepted) ∈ t →
    ∃ client, .driver (.connected client) ∈ t ∧ message = Driver.probeMessage client.address)
    (fun hmem => by simp at hmem) ?_ hmem
  intro t s e o s' hrun ih hstep hmem
  rcases List.mem_append.mp hmem with hmem | hmem
  · rcases ih hmem with ⟨client, hconnected, hmessage⟩
    exact ⟨client, List.mem_append_left _ hconnected, hmessage⟩
  cases stepped_of_step hstep with
  | calls | store | supervisor => simp at hmem
  | @driver e driver ports o hdriver =>
    have hnew : .probed sender message accepted ∈ o := by simpa using hmem
    rcases probe_of_stepped (bound_of_runs hrun) (Driver.stepped_of_step hdriver) hnew with
      ⟨client, hclient, hmessage⟩
    exact ⟨client, List.mem_append_left _ (held_of_runs hrun client hclient), hmessage⟩

/-! ## A submission and a probe -/

theorem step_calls {s : Outbound} {e : Calls.Event} {calls : Calls} {o : List Calls.Observed}
    (hdriven : isDriven e = false) (h : s.calls.step e = some (calls, o)) :
    s.step (.calls e) = some ({ s with calls := calls }, o.map .calls) := by
  simp [step, hdriven, h]

/-- Whatever the framing of an empty transaction, its frame goes to the hub, and the probe
after it to the client itself. -/
theorem sentOnce_runs {frame : Bytes}
    (hframe : encodeSubmit (List.Vector.replicate 16 0) [] = .ok frame) :
    ∃ t s, Runs step (initial .never ["hub"] [] 90000 5000) t s ∧
      s.driver.phase ≠ .returned ∧
      t.filterMap Observed.message? = [⟨"hub", frame, submitReplySurbs⟩, ⟨"self", [], 0⟩] ∧
      ∃ call, s.calls.submits[0]? = some call ∧ call.phase = .returned (.ok ()) := by
  have hstart : execute step (initial .never ["hub"] [] 90000 5000)
      [.driver (.start 0), .driver (.built (some "self")), .calls (.startSubmit [])] =
        some (_, _) := rfl
  have hframed := execute_snoc hstart (step_calls (e := .submit 0 (.frame _)) rfl
    (Calls.step_submit (show [_][0]? = some _ from rfl) (SubmitCall.step_frame rfl hframe)))
  have hsent := execute_snoc hframed (e := .calls (.submit 0 .dispatch))
    (show _ = some (_, _) from rfl)
  have hroom := execute_snoc hsent (e := .calls (.turn .reserve)) (show _ = some (_, _) from rfl)
  have hgone := execute_snoc hroom (e := .calls (.turn .receive)) (show _ = some (_, _) from rfl)
  have htaken := execute_snoc hgone (e := .driver .takeFrame) (show _ = some (_, _) from rfl)
  have hpassed := execute_snoc htaken (e := .driver (.sent true)) (show _ = some (_, _) from rfl)
  have hticked := execute_snoc hpassed (e := .driver .tick) (show _ = some (_, _) from rfl)
  have hprobed := execute_snoc hticked (e := .driver (.sent true)) (show _ = some (_, _) from rfl)
  exact ⟨_, _, Runs.of_execute hprobed, nofun, rfl, _, rfl, rfl⟩

/-! ## Nothing else leaves -/

theorem settled_of_mem {out : OutFrame} {fate : Fate} (h : .driver (.settled out fate) ∈ t) :
    (out, fate) ∈ Dispatch.settled (dispatchTrace t) := by
  have hdispatch : .driver (.settled out fate) ∈ dispatchTrace t :=
    List.mem_filterMap.mpr ⟨_, h, rfl⟩
  exact List.mem_filterMap.mpr ⟨_, Dispatch.mem_driverTrace.mpr hdispatch, rfl⟩

/-- No frame is without an address. -/
theorem addressed_of_runs
    (h : Runs step (initial policy hubAddresses gateways timeout dispatchTimeout) t s)
    (out : OutFrame) : (out, .unaddressed) ∉ Dispatch.settled (dispatchTrace t) := by
  intro hmem
  rcases accepted_of_settled h hmem nofun with ⟨request, hrequest, rfl⟩
  rcases List.getElem?_of_mem hmem with ⟨i, hsettled⟩
  have hat := settledAt_of_runs h (show Fate.unaddressed = .abandoned → _ by simp) hsettled
  have hnone := hat.unaddressed
  have hlt := target_lt h (accepted_of_dispatch hrequest)
  rw [List.getElem?_eq_none_iff] at hnone
  exact absurd hlt (Nat.not_lt_of_le hnone)

/-- What the SDK answers is the message of the frame, for the address under its target. -/
theorem of_answered {out : OutFrame} {fate : Fate} {message : SdkMessage} {accepted : Bool}
    {i : Nat} (hat : Dispatch.SettledAt hubAddresses (dispatchTrace t) i out fate)
    (h : Driver.answered hubAddresses (out, fate) = some (message, accepted)) :
    hubAddresses[out.target]? = some message.recipient ∧ message.bytes = out.frame ∧
      message.surbs = out.replySurbs := by
  rcases hat with ⟨-, before, -, -, -, htold⟩
  cases htold with
  | passed haddress =>
    cases h
    exact ⟨haddress, rfl, rfl⟩
  | refused haddress =>
    simp only [Driver.answered, haddress, Option.map_some] at h
    cases h
    exact ⟨haddress, rfl, rfl⟩
  | unaddressed | abandoned => cases h

/-- What the SDK was handed for a frame is that of a call's request. -/
theorem origin_of_handed
    (h : Runs step (initial policy hubAddresses gateways timeout dispatchTimeout) t s)
    {sender : Nat} {message : SdkMessage} {accepted : Bool}
    (hmem : .driver (.handed sender message accepted) ∈ t) :
    ∃ request, Origin t s request ∧ hubAddresses[request.target]? = some message.recipient ∧
      message.bytes = request.frame ∧ message.surbs = request.replySurbs := by
  have hhanded : (message, accepted) ∈ Dispatch.handed (dispatchTrace t) := by
    have hdispatch : .driver (.handed sender message accepted) ∈ dispatchTrace t :=
      List.mem_filterMap.mpr ⟨_, hmem, rfl⟩
    exact List.mem_filterMap.mpr ⟨_, Dispatch.mem_driverTrace.mpr hdispatch, rfl⟩
  rw [handed_of_runs h] at hhanded
  rcases List.mem_filterMap.mp hhanded with ⟨⟨out, fate⟩, hsettled, hanswered⟩
  have hfate : fate ≠ .abandoned := by
    rintro rfl
    cases hanswered
  rcases accepted_of_settled h hsettled hfate with ⟨request, hrequest, rfl⟩
  rcases List.getElem?_of_mem hsettled with ⟨i, hi⟩
  have hat := settledAt_of_runs h (fun habandoned => absurd habandoned hfate) hi
  exact ⟨request, origin_of_accepted h (accepted_of_dispatch hrequest), of_answered hat hanswered⟩

/-- A frame that the SDK took is that of a call's request. -/
theorem origin_of_passed
    (h : Runs step (initial policy hubAddresses gateways timeout dispatchTimeout) t s)
    {out : OutFrame} {message : SdkMessage}
    (hpassed : .driver (.settled out (.passed message)) ∈ t) :
    ∃ request, Origin t s request ∧ hubAddresses[request.target]? = some message.recipient ∧
      message.bytes = request.frame ∧ message.surbs = request.replySurbs := by
  have hmem := settled_of_mem hpassed
  rcases accepted_of_settled h hmem nofun with ⟨request, hrequest, rfl⟩
  rcases List.getElem?_of_mem hmem with ⟨i, hsettled⟩
  have hat := settledAt_of_runs h (show Fate.passed message = .abandoned → _ by simp) hsettled
  exact ⟨request, origin_of_accepted h (accepted_of_dispatch hrequest), hat.passed⟩

/-- On every run, whatever the SDK is handed is the frame of a call's request, for the hub
address under its target, or a probe of a client to itself; and no frame is without an
address. -/
theorem handedOver_exact
    (h : Runs step (initial policy hubAddresses gateways timeout dispatchTimeout) t s) :
    (∀ x ∈ t, ∀ message, x.message? = some message → HandedOver hubAddresses t s message) ∧
      ∀ out, .driver (.settled out .unaddressed) ∉ t := by
  constructor
  · intro x hx message hmessage
    unfold Observed.message? at hmessage
    split at hmessage
    · cases hmessage
      rcases origin_of_handed h hx with ⟨request, horigin, haddress, hbytes, hsurbs⟩
      exact .frame request horigin haddress hbytes hsurbs
    · cases hmessage
      rcases probes_of_runs h hx with ⟨client, hconnected, hprobe⟩
      exact .probe client hconnected hprobe
    · cases hmessage
  · exact fun out hmem => addressed_of_runs h out (settled_of_mem hmem)

/-- A submission and a probe. -/
theorem handedOver_exact_sentOnce :
    ∃ t s message, Runs step (initial .never ["hub"] [] 90000 5000) t s ∧
      t.filterMap Observed.message? = [message, ⟨"self", [], 0⟩] ∧
      (∀ x ∈ t, ∀ message, x.message? = some message → HandedOver ["hub"] t s message) ∧
        ∀ out, .driver (.settled out .unaddressed) ∉ t := by
  obtain ⟨frame, hframe⟩ : ∃ frame, encodeSubmit (List.Vector.replicate 16 0) [] = .ok frame :=
    ⟨_, encodeSubmit_eq (Nat.zero_le _)⟩
  rcases sentOnce_runs hframe with ⟨t, s, hrun, -, hmessages, -⟩
  exact ⟨t, s, _, hrun, hmessages, handedOver_exact hrun⟩

/-! ## Where an accepted frame is -/

/-- Where the frame of the request accepted at a place is.  What was settled there shows why: the
answer of the SDK, or the report of the teardown that dropped it, comes right before. -/
inductive Placed (hubAddresses : List Recipient) (t : List Observed) (s : Outbound) (k : Nat)
    (request : Request) : Prop where
  /-- With the SDK, which accepted it, for the hub address under its target. -/
  | passed (message : SdkMessage) :
      Dispatch.SettledAt hubAddresses (dispatchTrace t) k request.outFrame (.passed message) →
      hubAddresses[request.target]? = some message.recipient → message.bytes = request.frame →
      message.surbs = request.replySurbs → Placed hubAddresses t s k request
  /-- Refused by the SDK. -/
  | refused : Dispatch.SettledAt hubAddresses (dispatchTrace t) k request.outFrame .refused →
      Placed hubAddresses t s k request
  /-- Dropped with the client that was sending it, as that was reported. -/
  | abandoned : Dispatch.SettledAt hubAddresses (dispatchTrace t) k request.outFrame .abandoned →
      Placed hubAddresses t s k request
  /-- In flight through the client that is held. -/
  | inFlight (client : Client) : k = (Dispatch.settled (dispatchTrace t)).length →
      s.driver.phase.client? = some client →
      s.driver.inFlight = some (.frame client.number request.outFrame) →
      Placed hubAddresses t s k request
  /-- Queued for the driver. -/
  | queued (j : Nat) : k = (Dispatch.taken (dispatchTrace t)).length + j →
      s.calls.transport.toMixnet.queue[j]? = some request.outFrame →
      Placed hubAddresses t s k request
  /-- Queued for the loop. -/
  | waiting (j : Nat) : k = (Dispatch.emitted (dispatchTrace t)).length + j →
      s.calls.transport.requests.queue[j]? = some request → Placed hubAddresses t s k request

/-- A frame that is in flight goes through the client that is held. -/
theorem inFlight_of_sending {d : Driver} (hbound : Driver.Bound d) {out : OutFrame} {j : Nat}
    (h : d.sending[j]? = some out) :
    j = 0 ∧ ∃ client, d.phase.client? = some client ∧
      d.inFlight = some (.frame client.number out) := by
  have hlt : j < d.sending.length := (List.getElem?_eq_some_iff.mp h).1
  have hzero : j = 0 := Nat.lt_one_iff.mp (hlt.trans_le (Driver.length_sending d))
  subst hzero
  refine ⟨rfl, ?_⟩
  unfold Driver.sending at h
  split at h
  · next sender frame hinFlight =>
    obtain rfl : frame = out := Option.some.inj h
    rcases hbound.inFlight _ hinFlight with ⟨client, hsends, rfl⟩
    exact ⟨client, Driver.client?_of_sends? hsends, hinFlight⟩
  · cases h

/-- Every accepted request is somewhere: its frame with the SDK, refused or dropped, on its way,
or itself still queued. -/
theorem placed_of_runs
    (h : Runs step (initial policy hubAddresses gateways timeout dispatchTimeout) t s)
    (hrunning : s.driver.phase ≠ .returned) {k : Nat} {request : Request}
    (hplace : (Dispatch.accepted (dispatchTrace t))[k]? = some request) :
    Placed hubAddresses t s k request := by
  have hlined := lined_of_runs h hrunning
  rw [hlined.requests] at hplace
  by_cases hemitted : k < (Dispatch.emitted (dispatchTrace t)).length
  · rw [List.getElem?_append_left hemitted] at hplace
    have hframe : ((Dispatch.emitted (dispatchTrace t)).map Request.outFrame)[k]? =
        some request.outFrame := by simp [hplace]
    rw [hlined.frames] at hframe
    by_cases htaken : k < (Dispatch.taken (dispatchTrace t)).length
    · rw [List.getElem?_append_left htaken, hlined.sending] at hframe
      by_cases hsettled : k < ((Dispatch.settled (dispatchTrace t)).map Prod.fst).length
      · rw [List.getElem?_append_left hsettled, List.getElem?_map] at hframe
        rcases Option.map_eq_some_iff.mp hframe with ⟨⟨out, fate⟩, hfate, rfl⟩
        have hat := settledAt_of_runs h (fun _ => hrunning) hfate
        cases fate with
        | passed message =>
          rcases hat.passed with ⟨haddress, hbytes, hsurbs⟩
          exact .passed message hat haddress hbytes hsurbs
        | refused => exact .refused hat
        | unaddressed =>
          exact absurd (List.mem_of_getElem? hfate) (addressed_of_runs h request.outFrame)
        | abandoned => exact .abandoned hat
      · rw [List.getElem?_append_right (Nat.le_of_not_lt hsettled)] at hframe
        rcases inFlight_of_sending (bound_of_runs h) hframe with
          ⟨hzero, client, hclient, hinFlight⟩
        rw [List.length_map] at hsettled hzero
        exact .inFlight client (by omega) hclient hinFlight
    · rw [List.getElem?_append_right (Nat.le_of_not_lt htaken)] at hframe
      exact .queued _ (by omega) hframe
  · rw [List.getElem?_append_right (Nat.le_of_not_lt hemitted)] at hplace
    exact .waiting _ (by omega) hplace

/-! ## What became of a submission -/

/-- What a step shows a submission hand over is what it shows accepted, or nothing. -/
theorem handedOf_step {s s' : Calls} {e : Calls.Event} {o : List Calls.Observed}
    (h : s.step e = some (s', o)) (i : Nat) :
    (Calls.handedOf (Calls.submitLog i o)).Sublist
      (Dispatch.accepted ((Calls.transportTrace o).map .transport)) := by
  have own (j : Nat) (o : List SubmitObserved) :
      (Calls.handedOf (Calls.submitLog i (o.flatMap (Calls.ofSubmit j)))).Sublist
        (Dispatch.accepted
          ((Calls.transportTrace (o.flatMap (Calls.ofSubmit j))).map .transport)) := by
    have haccepted (requests : List Request) :
        Dispatch.accepted ((requests.map .accepted).map .transport) = requests := by
      induction requests with
      | nil => rfl
      | cons request requests ih => simpa using ih
    rw [Calls.submitLog_ofSubmit, Calls.transportTrace_ofSubmit, haccepted]
    split_ifs
    · exact List.Sublist.refl _
    · exact List.nil_sublist _
  cases Calls.stepped_of_step h with
  | tick | setTargets => exact List.nil_sublist _
  | turn | takeFrame | inbound | loseDriver =>
    rw [Calls.submitLog_map]
    exact List.nil_sublist _
  | startSubmit | submit => exact own _ _
  | startLookup | lookup =>
    rw [Calls.submitLog_ofLookup]
    exact List.nil_sublist _

/-- What a submission handed over has its places among the accepted requests. -/
theorem handedOf_of_runs
    (h : Runs step (initial policy hubAddresses gateways timeout dispatchTimeout) t s) (i : Nat) :
    (Calls.handedOf (Calls.submitLog i (callsTrace t))).Sublist
      (Dispatch.accepted (dispatchTrace t)) := by
  refine h.invariant (P := fun t _ => (Calls.handedOf (Calls.submitLog i (callsTrace t))).Sublist
    (Dispatch.accepted (dispatchTrace t))) (List.nil_sublist _) ?_
  intro t s e o s' _ ih hstep
  have happend : Calls.handedOf (Calls.submitLog i (callsTrace (t ++ o))) =
      Calls.handedOf (Calls.submitLog i (callsTrace t)) ++
        Calls.handedOf (Calls.submitLog i (callsTrace o)) := by
    rw [callsTrace_append, Calls.submitLog_append]
    exact List.filterMap_append
  rw [happend, dispatchTrace_append, Dispatch.accepted_append]
  refine ih.append ?_
  cases stepped_of_step hstep with
  | calls hdriven hcalls =>
    rw [callsTrace_calls, dispatchTrace_calls]
    exact handedOf_step hcalls i
  | driver hdriver =>
    rw [callsTrace_append, callsTrace_arrived, callsTrace_driver, List.append_nil,
      Calls.submitLog_map]
    exact List.nil_sublist _
  | store => exact List.nil_sublist _
  | supervisor hsupervisor =>
    rw [callsTrace_supervisor]
    exact List.nil_sublist _

/-- What is left of a submission that succeeded. -/
structure Accounted (hubAddresses : List Recipient) (t : List Observed) (s : Outbound) (i : Nat)
    (call : SubmitCall) : Prop where
  /-- It handed requests over for the first targets, one each, and at least one. -/
  targets : (Calls.handedOf (Calls.submitLog i (callsTrace t))).map Request.target =
    List.range call.dispatched
  some : 0 < call.dispatched
  /-- It missed a target only when the channel closed or its deadline passed. -/
  short : call.dispatched < call.targets →
    Calls.Stopped call.deadline (Calls.submitLog i (callsTrace t))
  /-- Each has a place of its own among the accepted requests, in order, -/
  places : (Calls.handedOf (Calls.submitLog i (callsTrace t))).Sublist
    (Dispatch.accepted (dispatchTrace t))
  /-- and what is at a place there is somewhere. -/
  placed : ∀ (k : Nat) (request : Request),
    (Dispatch.accepted (dispatchTrace t))[k]? = .some request →
      Placed hubAddresses t s k request

theorem accounted_of_outcome
    (h : Runs step (initial policy hubAddresses gateways timeout dispatchTimeout) t s)
    (hrunning : s.driver.phase ≠ .returned) {i : Nat} {call : SubmitCall}
    (htells : Calls.SubmitTells call (Calls.submitLog i (callsTrace t)))
    (houtcome : Calls.SubmitOutcome call (Calls.submitLog i (callsTrace t)) (.ok ())) :
    Accounted hubAddresses t s i call := by
  cases houtcome with
  | sent hpos hbudget hshort =>
    exact ⟨htells.targets, hpos, hshort, handedOf_of_runs h i,
      fun k request => placed_of_runs h hrunning⟩

/-- While the driver runs, every frame of a submission that succeeded is with the SDK, was
refused, was dropped with a report, or is on its way: none is lost in silence, whatever the
mixnet, the supervisor and the other calls do. -/
theorem submitted_accounted
    (h : Runs step (initial policy hubAddresses gateways timeout dispatchTimeout) t s)
    (hrunning : s.driver.phase ≠ .returned) {i : Nat} {call : SubmitCall}
    (hcall : s.calls.submits[i]? = some call) (hreturned : call.phase = .returned (.ok ())) :
    Accounted hubAddresses t s i call := by
  have htells := (Calls.submitTells_of_runs (calls_runs h) i).2 call hcall
  have houtcome : Calls.SubmitOutcome call (Calls.submitLog i (callsTrace t)) (.ok ()) := by
    simpa [Calls.PhaseTells, hreturned] using htells.phase
  exact accounted_of_outcome h hrunning htells houtcome

/-- A submission whose frame the SDK took. -/
theorem submitted_accounted_sentOnce :
    ∃ t s call, Runs step (initial .never ["hub"] [] 90000 5000) t s ∧
      s.calls.submits[0]? = some call ∧ Accounted ["hub"] t s 0 call := by
  obtain ⟨frame, hframe⟩ : ∃ frame, encodeSubmit (List.Vector.replicate 16 0) [] = .ok frame :=
    ⟨_, encodeSubmit_eq (Nat.zero_le _)⟩
  rcases sentOnce_runs hframe with ⟨t, s, hrun, hrunning, -, call, hcall, hreturned⟩
  exact ⟨t, s, call, hrun, hcall, submitted_accounted hrun hrunning hcall hreturned⟩

end Runs

end Outbound
end Nym
end ZeroShim
