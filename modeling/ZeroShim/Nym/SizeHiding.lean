import ZeroShim.Proxy.Lookups

/-!
# Transactions of different sizes look alike

What anyone sees of a submission depends on its transaction only in the payload and the
length field of its frames.  Blanking both commutes with every step of the calls, so two
runs that differ in the transactions submitted are one run once blanked.

Main results:

- Theorem {lit}`step_blanked`: blanking commutes with a step.
- Theorem {lit}`framed_of_runs`: what is emitted is a frame that is zero after its payload.
- Theorem {lit}`size_hidden`: no size shows, over either transport and in either direction.
-/

namespace ZeroShim
namespace Nym

open Library Wire Transport

/-! ## Blanking -/

/-- A submit frame without its length field and payload; other frames are shorter and stay
as they are. -/
def blankFrame (frame : Bytes) : Bytes :=
  if frame.length = frameBytes then frame.take 20 ++ zeros (frameBytes - 20) else frame

/-- A transaction that fits a frame, without its bytes. -/
def blankTx (tx : Bytes) : Bytes := if tx.length ≤ maxNymTxBytes then [] else tx

/-- Blanking keeps the length. -/
theorem length_blankFrame (frame : Bytes) : (blankFrame frame).length = frame.length := by
  unfold blankFrame
  split_ifs with hlen
  · rw [List.length_append, List.length_take, length_zeros, hlen]
    rfl
  · rfl

/-- The frame of a transaction is, blanked, the frame of none. -/
theorem encodeSubmit_blank (nonce : Nonce) {tx : Bytes} (h : tx.length ≤ maxNymTxBytes) :
    ∃ frame, encodeSubmit nonce tx = .ok frame ∧ frame.length = frameBytes ∧
      blankFrame frame = submitMagic ++ nonce.toList ++ zeros (frameBytes - 20) := by
  have hok : encodeSubmit nonce tx = _ := encodeSubmit_eq h
  have hlen : (padTo frameBytes (submitLayout (nonce, tx))).length = frameBytes :=
    submit_fixedFrame.length_encode (nonce, tx) _ hok
  refine ⟨_, hok, hlen, ?_⟩
  have hhead : (submitMagic ++ nonce.toList).length = 20 := by simp [submitMagic]
  unfold blankFrame
  rw [if_pos hlen]
  congr 1
  unfold padTo submitLayout
  simp only [List.append_assoc]
  rw [← List.append_assoc, List.take_append_of_le_length (by omega), ← hhead, List.take_length]

/-- Which is what the encoder makes of the blanked transaction. -/
theorem encodeSubmit_blankTx {nonce : Nonce} {tx frame : Bytes}
    (h : encodeSubmit nonce tx = .ok frame) :
    encodeSubmit nonce (blankTx tx) = .ok (blankFrame frame) := by
  have hbudget : tx.length ≤ maxNymTxBytes :=
    (submit_fixedFrame.encode_isOk (nonce, tx)).mp ⟨frame, h⟩
  rcases encodeSubmit_blank nonce hbudget with ⟨frame', hencode, -, hblank⟩
  rw [hencode] at h
  cases h
  unfold blankTx
  rw [if_pos hbudget, hblank, encodeSubmit_eq (Nat.zero_le _)]
  have hpadding : padTo frameBytes ((submitMagic ++ nonce.toList) ++ zeros 4) = _ :=
    padTo_append_zeros (by simp [submitMagic, frameBytes_eq])
  have hlen : (submitMagic ++ nonce.toList).length = 20 := by simp [submitMagic]
  have hlayout : submitLayout (nonce, []) = (submitMagic ++ nonce.toList) ++ zeros 4 := by
    have hzero : beBytes 4 0 = zeros 4 := by decide
    simp [submitLayout, hzero]
  rw [hlayout, hpadding, padTo, hlen]

/-- A transaction that does not fit is refused as it was. -/
theorem blankTx_of_raised {nonce : Nonce} {tx : Bytes} {err : WireError}
    (h : encodeSubmit nonce tx = .error (.raised err)) : blankTx tx = tx := by
  unfold blankTx
  rw [if_neg]
  intro hbudget
  rw [encodeSubmit_eq hbudget] at h
  cases h

/-- Lookup frames stay as they are. -/
theorem blankFrame_lookup {nonce : Nonce} {hash frame : Bytes}
    (h : encodeLookup nonce hash = .ok frame) : blankFrame frame = frame := by
  have hlen : frame.length = lookupBytes := lookup_fixedFrame.length_encode (nonce, hash) _ h
  unfold blankFrame
  rw [if_neg]
  rw [hlen]
  decide

/-- A request with its frame blanked. -/
def Request.blank (request : Request) : Request :=
  { request with frame := blankFrame request.frame }

/-- A frame on its way out, blanked. -/
def OutFrame.blank (out : OutFrame) : OutFrame := { out with frame := blankFrame out.frame }

namespace Transport

/-- A parcel with its frame blanked. -/
def Parcel.blank (parcel : Parcel) : Parcel :=
  { parcel with frame := blankFrame parcel.frame }

end Transport

/-- An observation with its frame blanked. -/
def Observed.blank : Observed → Observed
  | .accepted request => .accepted request.blank
  | .emitted request => .emitted request.blank
  | o => o

/-- The transport with every frame in its channels blanked. -/
def Transport.blank (s : Transport) : Transport :=
  { s with
    requests := s.requests.map Request.blank
    toMixnet := s.toMixnet.map OutFrame.blank }

@[simp] theorem ticket_blank (request : Request) : request.blank.ticket = request.ticket := rfl

@[simp] theorem nonce_blank (request : Request) : request.blank.nonce = request.nonce := rfl

@[simp] theorem waiter_blank (request : Request) : request.blank.waiter = request.waiter := rfl

@[simp] theorem outFrame_blank (request : Request) :
    request.blank.outFrame = request.outFrame.blank := rfl

/-! ## The transport does not look at frames -/

namespace Transport

variable (s : Transport) (c : Correlator)

/-- The queue of waiters does not depend on frames. -/
@[simp] theorem queued_blank : s.blank.queued = s.queued := by
  unfold queued
  simp only [Transport.blank, Channel.queue_map, List.map_map]
  rfl

theorem leave_blank :
    leave s.blank c = ((leave s c).1.blank, (leave s c).2.map Observed.blank) := by
  unfold leave
  rw [queued_blank]
  rfl

theorem publish_blank :
    publish s.blank c = ((publish s c).1.blank, (publish s c).2.map Observed.blank) := by
  unfold publish
  by_cases hend : c.requestsOpen = false ∧ c.pending.size = 0
  · rw [if_pos hend, if_pos hend]
    exact leave_blank s c
  · rw [if_neg hend, if_neg hend]
    rfl

/-- A sweep looks at waiters only. -/
theorem sweep_blank : sweep s.blank c =
    ((sweep s c).1.blank, (sweep s c).2.1, (sweep s c).2.2.map Observed.blank) := rfl

theorem endTurn_blank :
    endTurn s.blank c = ((endTurn s c).1.blank, (endTurn s c).2.map Observed.blank) := by
  unfold endTurn
  rw [sweep_blank]
  simp only [publish_blank, List.map_append]

/-- The outcome of a turn, with frames blanked. -/
def Outcome.blank : Outcome → Outcome
  | .turn s c o => .turn s.blank c (o.map Observed.blank)
  | .returned => .returned

theorem receiveMessage_blank (bytes : Bytes) (fromMixnet : Channel Bytes 32) :
    receiveMessage s.blank c bytes fromMixnet =
      (receiveMessage s c bytes fromMixnet).blank := by
  unfold receiveMessage
  by_cases hempty : bytes = []
  · rw [if_pos hempty, if_pos hempty]
    rfl
  · rw [if_neg hempty, if_neg hempty]
    rcases deliver c.pending bytes with ⟨pending, firing⟩
    cases firing <;> rfl

/-- No arm of the loop branches on a frame. -/
theorem arm_blank (a : Arm) : arm s.blank c a = (arm s c a).map Outcome.blank := by
  cases a with
  | reserve =>
    unfold arm
    by_cases hguard : c.permit = false ∧ c.requestsOpen = true
    · rw [if_pos hguard, if_pos hguard]
      have hreserve := s.toMixnet.reserve_map OutFrame.blank
      by_cases hreceiver : s.toMixnet.receiver = true
      · simp only [Transport.blank, Channel.receiver_map, hreceiver, if_true, hreserve]
        cases s.toMixnet.reserve <;> rfl
      · simp only [Transport.blank, Channel.receiver_map, hreceiver]
        rfl
    · rw [if_neg hguard, if_neg hguard]
      rfl
  | receive =>
    unfold arm
    by_cases hguard : c.permit = true ∧ c.requestsOpen = true
    · rw [if_pos hguard, if_pos hguard]
      have hrecv := s.requests.recv_map Request.blank
      simp only [Transport.blank, hrecv]
      cases s.requests.recv with
      | ended | pending => rfl
      | item request requests =>
        simp only [outFrame_blank, Channel.sendReserved_map]
        cases s.toMixnet.sendReserved request.outFrame <;> rfl
    · rw [if_neg hguard, if_neg hguard]
      rfl
  | message =>
    unfold arm
    have hsame : s.blank.fromMixnet = s.fromMixnet := rfl
    rw [hsame]
    cases s.fromMixnet.recv with
    | ended | pending => rfl
    | item bytes fromMixnet =>
      simp only [receiveMessage_blank]
      rfl
  | timer =>
    unfold arm
    split_ifs <;> rfl

/-- A turn moves frames without reading them. -/
theorem turn_blank (a : Arm) :
    s.blank.turn a = (s.turn a).map fun out => (out.1.blank, out.2.map Observed.blank) := by
  unfold turn
  have hsame : s.blank.correlator = s.correlator := rfl
  rw [hsame]
  cases s.correlator with
  | none => rfl
  | some c =>
    simp only [arm_blank]
    cases arm s c a with
    | none => rfl
    | some outcome =>
      cases outcome with
      | turn s' c' o => simp [Outcome.blank, endTurn_blank]
      | returned => simp [Outcome.blank, leave_blank]

/-- Accepting a parcel does not read its frame. -/
theorem accept_blank (parcel : Parcel) : s.blank.accept parcel.blank =
    (s.accept parcel).map fun out => (out.1.blank, out.2.blank) := by
  unfold accept
  have hopened : s.blank.oneshots = s.oneshots := rfl
  have hrequest : parcel.blank.request s.oneshots.opened =
      (parcel.request s.oneshots.opened).blank := rfl
  rw [hopened, hrequest]
  simp only [Transport.blank, Channel.receiver_map, Channel.senders_map, Channel.send_map]
  by_cases hends : s.requests.receiver = true ∧ s.requests.senders = true
  · rw [if_pos hends, if_pos hends]
    cases s.requests.send (parcel.request s.oneshots.opened) <;> rfl
  · rw [if_neg hends, if_neg hends]
    rfl

theorem takeFrame_blank : s.blank.takeFrame =
    s.takeFrame.map fun out => (out.1.blank, out.2.blank) := by
  unfold takeFrame
  have hrecv := s.toMixnet.recv_map OutFrame.blank
  simp only [Transport.blank, hrecv]
  cases s.toMixnet.recv <;> rfl

theorem inbound_blank (message : Bytes) :
    s.blank.inbound message = (s.inbound message).map Transport.blank := by
  unfold inbound
  have hsame : s.blank.fromMixnet = s.fromMixnet := rfl
  rw [hsame]
  split_ifs
  · cases s.fromMixnet.send message <;> rfl
  · rfl

/-- The events that calls cause in the transport, apart. -/
def Event.blank : Event → Event
  | .accept parcel => .accept parcel.blank
  | e => e

/-- A step of the transport commutes with blanking. -/
theorem step_blank (e : Event) :
    s.blank.step e.blank =
      (s.step e).map fun out => (out.1.blank, out.2.map Observed.blank) := by
  cases e with
  | turn a => exact turn_blank s a
  | accept parcel =>
    simp only [step, Event.blank, accept_blank, Option.map_map]
    rfl
  | takeFrame =>
    simp only [step, Event.blank, takeFrame_blank, Option.map_map]
    rfl
  | inbound message =>
    simp only [step, Event.blank, inbound_blank, Option.map_map]
    rfl
  | abandon | closeRequests | loseDriver => rfl

end Transport

/-! ## Nor do the calls -/

/-- A submission between attempts carries no frame. -/
def SubmitPhase.blank : SubmitPhase → SubmitPhase
  | .sending target parcel => .sending target parcel.blank
  | phase => phase

/-- A submission whose transaction and frame are blanked. -/
def SubmitCall.blank (call : SubmitCall) : SubmitCall :=
  { call with tx := blankTx call.tx, phase := call.phase.blank }

def SubmitObserved.blank : SubmitObserved → SubmitObserved
  | .handed request => .handed request.blank
  | o => o

/-- Where a lookup stands, with its frame blanked. -/
def LookupPhase.blank : LookupPhase → LookupPhase
  | .sending attempt deadline parcel => .sending attempt deadline parcel.blank
  | phase => phase

/-- A lookup whose frame is blanked. -/
def LookupCall.blank (call : LookupCall) : LookupCall := { call with phase := call.phase.blank }

def LookupObserved.blank : LookupObserved → LookupObserved
  | .handed request => .handed request.blank
  | o => o

/-- A submission starts alike for every transaction within the budget. -/
theorem SubmitCall.start_blank (handle : NymHandle) (now : Nat) (tx : Bytes) :
    SubmitCall.start handle now (blankTx tx) =
      ((SubmitCall.start handle now tx).1.blank,
        (SubmitCall.start handle now tx).2.map SubmitObserved.blank) := by
  unfold SubmitCall.start
  by_cases htargets : handle.targets = 0
  · simp only [htargets, if_true]
    rfl
  · simp only [htargets, if_false]
    rfl

/-- The frame of a blanked transaction is the blanked frame. -/
theorem SubmitCall.frame_blank (call : SubmitCall) (target : Nat) (nonce : Nonce) :
    call.blank.frame target nonce = (call.frame target nonce).map fun out =>
      (out.1.blank, out.2.map SubmitObserved.blank) := by
  unfold SubmitCall.frame
  have htx : call.blank.tx = blankTx call.tx := rfl
  rw [htx]
  cases hencode : encodeSubmit nonce call.tx with
  | ok frame =>
    rw [encodeSubmit_blankTx hencode]
    rfl
  | error trap =>
    cases trap with
    | outOfRange => exact absurd hencode (submit_fixedFrame.encode_inRange (nonce, call.tx))
    | raised err =>
      rw [blankTx_of_raised hencode, hencode]
      rfl

theorem SubmitCall.handed_blank (call : SubmitCall) (target : Nat) (request : Request) :
    call.blank.handed target request.blank =
      ((call.handed target request).1.blank,
        (call.handed target request).2.map SubmitObserved.blank) := by
  unfold SubmitCall.handed SubmitCall.advance
  by_cases hnext : target + 1 < call.targets
  · have hnext' : target + 1 < call.blank.targets := hnext
    simp only [hnext, hnext', if_true]
    rfl
  · have hnext' : ¬ target + 1 < call.blank.targets := hnext
    simp only [hnext, hnext', if_false]
    rfl

/-- A submission steps alike for transactions within the budget. -/
theorem SubmitCall.step_blank (s : Transport) (now : Nat) (call : SubmitCall) (e : SubmitEvent) :
    call.blank.step s.blank now e = (call.step s now e).map fun out =>
      (out.1.blank, out.2.1.blank, out.2.2.map SubmitObserved.blank) := by
  have hphase : call.blank.phase = call.phase.blank := rfl
  have hreceiver : s.blank.requests.receiver = s.requests.receiver := rfl
  unfold SubmitCall.step
  rw [hphase, hreceiver]
  cases hcall : call.phase with
  | framing target =>
    cases e with
    | frame nonce =>
      simp only [SubmitPhase.blank, SubmitCall.frame_blank, Option.map_map]
      rfl
    | cancel => rfl
    | dispatch | closed | elapsed => rfl
  | sending target parcel =>
    cases e with
    | dispatch =>
      simp only [SubmitPhase.blank, Transport.accept_blank]
      cases s.accept parcel with
      | none => rfl
      | some out =>
        simp only [Option.map_some, SubmitCall.handed_blank]
        rfl
    | closed =>
      simp only [SubmitPhase.blank]
      split_ifs <;> rfl
    | elapsed =>
      simp only [SubmitPhase.blank]
      have hdeadline : call.blank.deadline = call.deadline := rfl
      rw [hdeadline]
      split_ifs <;> rfl
    | cancel => rfl
    | frame nonce => rfl
  | returned | cancelled => cases e <;> rfl

/-- A lookup is built alike, whatever becomes of its frame. -/
theorem LookupCall.build_blank (handle : NymHandle) (now : Nat) (call : LookupCall)
    (attempt : Nat) (nonce : Nonce) :
    LookupCall.build handle now call.blank attempt nonce =
      (LookupCall.build handle now call attempt nonce).map fun out =>
        (out.1.blank, out.2.map LookupObserved.blank) := by
  unfold LookupCall.build
  have hhash : call.blank.hash = call.hash := rfl
  rw [hhash]
  cases hencode : encodeLookup nonce call.hash with
  | ok frame =>
    have hsame := blankFrame_lookup hencode
    simp [LookupCall.blank, LookupPhase.blank, Parcel.blank, hsame, LookupObserved.blank]
  | error trap => cases trap <;> rfl

theorem LookupCall.expire_blank (call : LookupCall) (attempt now : Nat) :
    call.blank.expire attempt now =
      ((call.expire attempt now).1.blank,
        (call.expire attempt now).2.map LookupObserved.blank) := by
  unfold LookupCall.expire
  by_cases hnext : attempt + 1 < call.targets
  · have hnext' : attempt + 1 < call.blank.targets := hnext
    simp only [hnext, hnext', if_true]
    rfl
  · have hnext' : ¬ attempt + 1 < call.blank.targets := hnext
    simp only [hnext, hnext', if_false]
    rfl

/-- A lookup steps without reading its frame. -/
theorem LookupCall.step_blank (handle : NymHandle) (s : Transport) (now : Nat)
    (call : LookupCall) (e : LookupEvent) :
    call.blank.step handle s.blank now e = (call.step handle s now e).map fun out =>
      (out.1.blank, out.2.1.blank, out.2.2.map LookupObserved.blank) := by
  have hphase : call.blank.phase = call.phase.blank := rfl
  have hreceiver : s.blank.requests.receiver = s.requests.receiver := rfl
  have honeshots : s.blank.oneshots = s.oneshots := rfl
  unfold LookupCall.step
  rw [hphase, hreceiver, honeshots]
  cases hcall : call.phase with
  | building attempt =>
    cases e with
    | build nonce =>
      simp only [LookupPhase.blank, LookupCall.build_blank, Option.map_map]
      rfl
    | dispatch | closed | elapsed | poll | cancel => rfl
  | sending attempt deadline parcel =>
    cases e with
    | dispatch =>
      simp only [LookupPhase.blank, Transport.accept_blank]
      cases s.accept parcel <;> rfl
    | closed =>
      simp only [LookupPhase.blank]
      split_ifs <;> rfl
    | elapsed =>
      simp only [LookupPhase.blank]
      split_ifs
      · rw [LookupCall.expire_blank]
        rfl
      · rfl
    | build | poll | cancel => rfl
  | awaiting attempt deadline nonce slot =>
    cases e with
    | poll =>
      simp only [LookupPhase.blank]
      cases s.oneshots.poll slot with
      | ready answer => cases answer <;> rfl
      | gone | pending => rfl
    | elapsed =>
      simp only [LookupPhase.blank]
      split_ifs
      · rw [LookupCall.expire_blank]
        rfl
      · rfl
    | build | dispatch | closed | cancel => rfl
  | returned | cancelled => cases e <;> rfl

/-! ## Nor does a run -/

namespace Calls

def Observed.blank : Observed → Observed
  | .transport o => .transport o.blank
  | .submit i o => .submit i o.blank
  | .lookup i o => .lookup i o.blank

def Event.blank : Event → Event
  | .startSubmit tx => .startSubmit (blankTx tx)
  | e => e

/-- The whole state, with transactions and frames blanked. -/
def blank (s : Calls) : Calls :=
  { s with
    transport := s.transport.blank
    submits := s.submits.map SubmitCall.blank
    lookups := s.lookups.map LookupCall.blank }

theorem ofSubmit_blank (i : Nat) (o : List SubmitObserved) :
    (o.map SubmitObserved.blank).flatMap (ofSubmit i) =
      (o.flatMap (ofSubmit i)).map Observed.blank := by
  induction o with
  | nil => rfl
  | cons x o ih =>
    rw [List.map_cons, List.flatMap_cons, List.flatMap_cons, List.map_append, ih]
    cases x <;> rfl

theorem ofLookup_blank (i : Nat) (o : List LookupObserved) :
    (o.map LookupObserved.blank).flatMap (ofLookup i) =
      (o.flatMap (ofLookup i)).map Observed.blank := by
  induction o with
  | nil => rfl
  | cons x o ih =>
    rw [List.map_cons, List.flatMap_cons, List.flatMap_cons, List.map_append, ih]
    cases x <;> rfl

/-- A step of the transport under the calls commutes with blanking. -/
theorem viaTransport_blank (s : Calls) (e : Transport.Event) :
    s.blank.viaTransport e.blank =
      (s.viaTransport e).map fun out => (out.1.blank, out.2.map Observed.blank) := by
  unfold viaTransport
  have htransport : s.blank.transport = s.transport.blank := rfl
  rw [htransport, Transport.step_blank]
  cases s.transport.step e with
  | none => rfl
  | some out =>
    simp only [Option.map_some, List.map_map]
    rfl

/-- Blanking commutes with a step. -/
theorem step_blanked (s : Calls) (e : Event) :
    s.blank.step e.blank =
      (s.step e).map fun out => (out.1.blank, out.2.map Observed.blank) := by
  cases e with
  | tick | setTargets => rfl
  | turn a => exact viaTransport_blank s (.turn a)
  | takeFrame => exact viaTransport_blank s .takeFrame
  | inbound message => exact viaTransport_blank s (.inbound message)
  | loseDriver => exact viaTransport_blank s .loseDriver
  | startSubmit tx =>
    have hhandle : s.blank.handle = s.handle := rfl
    have hnow : s.blank.now = s.now := rfl
    have hlength : s.blank.submits.length = s.submits.length := List.length_map _
    simp only [step, Event.blank, Option.map_some, hhandle, hnow, hlength,
      SubmitCall.start_blank, ofSubmit_blank]
    simp [blank]
  | startLookup hash =>
    have hhandle : s.blank.handle = s.handle := rfl
    have hlength : s.blank.lookups.length = s.lookups.length := List.length_map _
    have hbegin : ((LookupCall.begin s.handle hash).2.1.blank,
        (LookupCall.begin s.handle hash).2.2.map LookupObserved.blank) =
        (LookupCall.begin s.handle hash).2 := by
      unfold LookupCall.begin
      split_ifs <;> rfl
    rcases Prod.ext_iff.mp hbegin with ⟨hcall, hlog⟩
    simp only at hcall hlog
    simp only [step, Event.blank, Option.map_some, hhandle, hlength, ← ofLookup_blank, hlog]
    simp [blank, hcall]
  | submit i e =>
    have hcalls : s.blank.submits[i]? = s.submits[i]?.map SubmitCall.blank := by simp [blank]
    simp only [step, Event.blank, hcalls]
    cases s.submits[i]? with
    | none => rfl
    | some call =>
      have hstep := SubmitCall.step_blank s.transport s.now call e
      simp only [Option.map_some]
      have htransport : s.blank.transport = s.transport.blank := rfl
      have hnow : s.blank.now = s.now := rfl
      rw [htransport, hnow, hstep]
      cases call.step s.transport s.now e with
      | none => rfl
      | some out => simp [blank, ofSubmit_blank, List.map_set]
  | lookup i e =>
    have hcalls : s.blank.lookups[i]? = s.lookups[i]?.map LookupCall.blank := by simp [blank]
    simp only [step, Event.blank, hcalls]
    cases s.lookups[i]? with
    | none => rfl
    | some call =>
      have hstep := LookupCall.step_blank s.handle s.transport s.now call e
      simp only [Option.map_some]
      have htransport : s.blank.transport = s.transport.blank := rfl
      have hnow : s.blank.now = s.now := rfl
      have hhandle : s.blank.handle = s.handle := rfl
      rw [htransport, hnow, hhandle, hstep]
      cases call.step s.handle s.transport s.now e with
      | none => rfl
      | some out => simp [blank, ofLookup_blank, List.map_set]

/-- Two events that differ at most in the bytes of a transaction that fits a frame. -/
inductive SameButTx : Event → Event → Prop where
  | same (e : Event) : SameButTx e e
  | startSubmit {tx tx' : Bytes} : tx.length ≤ maxNymTxBytes → tx'.length ≤ maxNymTxBytes →
      SameButTx (.startSubmit tx) (.startSubmit tx')

/-- Events that differ in a transaction within the budget are blanked to one event. -/
theorem blank_eq_of_sameButTx {e e' : Event} (h : SameButTx e e') : e.blank = e'.blank := by
  cases h with
  | same => rfl
  | startSubmit hbudget hbudget' => simp [Event.blank, blankTx, hbudget, hbudget']

theorem map_blank_of_sameButTx {es es' : List Event} (h : List.Forall₂ SameButTx es es') :
    es.map Event.blank = es'.map Event.blank := by
  induction h with
  | nil => rfl
  | cons hhead _ ih => rw [List.map_cons, List.map_cons, blank_eq_of_sameButTx hhead, ih]

/-- Runs that differ in the transactions are the same run once blanked. -/
theorem execute_sameButTx {s s' : Calls} {es es' : List Event} {t : List Observed}
    (hsame : List.Forall₂ SameButTx es es') (h : execute step s es = some (s', t)) :
    ∃ s'' t', execute step s es' = some (s'', t') ∧
      t'.map Observed.blank = t.map Observed.blank := by
  have hleft := execute_map blank Event.blank Observed.blank step_blanked s es
  have hright := execute_map blank Event.blank Observed.blank step_blanked s es'
  rw [← map_blank_of_sameButTx hsame, hleft, h] at hright
  rcases Option.map_eq_some_iff.mp hright.symm with ⟨⟨s'', t'⟩, hexecute, heq⟩
  exact ⟨s'', t', hexecute, (Prod.mk.inj heq).2⟩

/-! ## What shows on the mixnet -/

/-- What the mixnet is shown of a request: its length, its reply SURBs and its target. -/
def shape (request : Request) : Nat × Nat × Nat :=
  (request.frame.length, request.replySurbs, request.target)

/-- What an observer sees of a request survives blanking. -/
@[simp] theorem shape_blank (request : Request) : shape request.blank = shape request := by
  simp [shape, Request.blank, length_blankFrame]

/-- The requests handed to the driver. -/
def Observed.emission? : Observed → Option Request
  | .transport (.emitted request) => some request
  | _ => none

def emissions (t : List Observed) : List Request := t.filterMap Observed.emission?

/-- The requests a submission handed over, blanked. -/
theorem handedOf_blank (i : Nat) (t : List Observed) :
    handedOf (submitLog i (t.map Observed.blank)) =
      (handedOf (submitLog i t)).map Request.blank := by
  unfold handedOf submitLog
  rw [List.filterMap_filterMap, List.filterMap_filterMap, List.filterMap_map, List.map_filterMap]
  apply List.filterMap_congr
  rintro x -
  cases x with
  | transport o => rfl
  | lookup j o => rfl
  | submit j o =>
    by_cases hji : j = i
    · cases o <;> simp [Observed.blank, Observed.submit?, hji, SubmitObserved.blank,
        SubmitObserved.handed?]
    · simp [Observed.blank, Observed.submit?, hji]

/-- The requests handed to the driver, blanked. -/
theorem emissions_blank (t : List Observed) :
    emissions (t.map Observed.blank) = (emissions t).map Request.blank := by
  unfold emissions
  rw [List.filterMap_map, List.map_filterMap]
  apply List.filterMap_congr
  rintro x -
  cases x with
  | transport o => cases o <;> rfl
  | submit j o => rfl
  | lookup j o => rfl

/-! ## What is emitted is framed -/

/-- Every request a submission hands over was framed for it. -/
theorem handed_of_submitStepped {s s' : Transport} {now : Nat} {call call' : SubmitCall}
    {o : List SubmitObserved} {request : Request}
    (h : SubmitCall.Stepped s now call s' call' o) (hmem : .handed request ∈ o) :
    ∃ target parcel slot, call.phase = .sending target parcel ∧
      request = parcel.request slot := by
  cases h with
  | @dispatch target parcel s₁ accepted hphase haccept =>
    rcases Transport.of_accept haccept with ⟨hrequest, -⟩
    refine ⟨target, parcel, s.oneshots.opened, hphase, ?_⟩
    rw [← hrequest]
    unfold SubmitCall.handed at hmem
    rcases List.mem_cons.mp hmem with heq | hmem
    · exact SubmitObserved.handed.inj heq
    · unfold SubmitCall.advance at hmem
      split_ifs at hmem <;> simp [SubmitCall.finish] at hmem
  | frame | refuse | closed | elapsed | cancel => simp at hmem

/-- What a submission hands over is its transaction, framed. -/
theorem submit_framed {timeout dispatchTimeout : Nat} {s : Calls} {t : List Observed}
    (h : Runs step (initial timeout dispatchTimeout) t s) (i : Nat) :
    ∀ request, .handed request ∈ submitLog i t →
      ∃ tx, encodeSubmit request.nonce tx = .ok request.frame := by
  refine h.invariant (P := fun t _ => ∀ request, .handed request ∈ submitLog i t →
    ∃ tx, encodeSubmit request.nonce tx = .ok request.frame) (by simp [submitLog]) ?_
  intro t s e o s' hrun ih hstep request hmem
  rw [submitLog_append] at hmem
  rcases List.mem_append.mp hmem with hmem | hmem
  · exact ih request hmem
  rcases submits_step hstep i with ⟨-, hlog⟩ | ⟨-, tx, -, hlog⟩ |
    ⟨call, transport, call', hcall, hcall', hstepped⟩
  · rw [hlog] at hmem
    cases hmem
  · rw [hlog] at hmem
    unfold SubmitCall.start at hmem
    split_ifs at hmem <;> simp [SubmitCall.finish] at hmem
  · rcases handed_of_submitStepped hstepped hmem with ⟨target, parcel, slot, hphase, rfl⟩
    have htells := ((submitTells_of_runs hrun i).2 call hcall).phase
    simp only [PhaseTells, hphase] at htells
    exact ⟨call.tx, htells.2.2.2.1⟩

/-- Every request a lookup hands over was framed for it. -/
theorem handed_of_lookupStepped {handle : NymHandle} {s s' : Transport} {now : Nat}
    {call call' : LookupCall} {o : List LookupObserved} {request : Request}
    (h : LookupCall.Stepped handle s now call s' call' o) (hmem : .handed request ∈ o) :
    ∃ attempt deadline parcel slot, call.phase = .sending attempt deadline parcel ∧
      request = parcel.request slot := by
  cases h with
  | @dispatch attempt deadline parcel s₁ accepted hphase haccept =>
    rcases Transport.of_accept haccept with ⟨hrequest, -⟩
    refine ⟨attempt, deadline, parcel, s.oneshots.opened, hphase, ?_⟩
    rw [← hrequest]
    exact LookupObserved.handed.inj (List.mem_singleton.mp hmem)
  | full | silent => rcases expire_shows hmem with heq | heq <;> cases heq
  | build | refuse | closed | reply | gone | cancel | cancelAwaiting => simp at hmem

/-- What a lookup hands over is its hash, framed. -/
theorem lookup_framed {timeout dispatchTimeout : Nat} {s : Calls} {t : List Observed}
    (h : Runs step (initial timeout dispatchTimeout) t s) (i : Nat) :
    ∀ request, .handed request ∈ lookupLog i t →
      ∃ hash, encodeLookup request.nonce hash = .ok request.frame := by
  refine h.invariant (P := fun t _ => ∀ request, .handed request ∈ lookupLog i t →
    ∃ hash, encodeLookup request.nonce hash = .ok request.frame) (by simp [lookupLog]) ?_
  intro t s e o s' hrun ih hstep request hmem
  rw [lookupLog_append] at hmem
  rcases List.mem_append.mp hmem with hmem | hmem
  · exact ih request hmem
  rcases lookups_step hstep i with ⟨-, hlog⟩ | ⟨-, hash, -, hlog⟩ |
    ⟨call, transport, call', hcall, hcall', hstepped⟩
  · rw [hlog] at hmem
    cases hmem
  · rw [hlog] at hmem
    unfold LookupCall.begin at hmem
    split_ifs at hmem <;> simp [LookupCall.finish] at hmem
  · obtain ⟨attempt, deadline, parcel, slot, hphase, rfl⟩ :=
      handed_of_lookupStepped hstepped hmem
    rcases (lookupAsks_of_runs hrun i call hcall).sending _ _ _ hphase with ⟨hencode, -⟩
    exact ⟨call.hash, hencode⟩

/-- A frame says how much of it is its payload, and is zero from there on. -/
inductive ZeroAfterPayload (nonce : Nonce) (frame : Bytes) : Prop where
  | submit (tx : Bytes) : decodeSubmit frame = .ok (nonce, tx) →
      frame.drop (submitHeaderBytes + tx.length) =
        zeros (frame.length - (submitHeaderBytes + tx.length)) → ZeroAfterPayload nonce frame
  | lookup (hash : Bytes) : decodeLookup frame = .ok (nonce, hash) →
      frame.drop (lookupHeaderBytes + hash.length) =
        zeros (frame.length - (lookupHeaderBytes + hash.length)) → ZeroAfterPayload nonce frame

/-- What is emitted is a frame that is zero after its payload. -/
theorem framed_of_runs {timeout dispatchTimeout : Nat} {s : Calls} {t : List Observed}
    (h : Runs step (initial timeout dispatchTimeout) t s) {request : Request}
    (hemitted : request ∈ emissions t) : ZeroAfterPayload request.nonce request.frame := by
  have hshown : .transport (.emitted request) ∈ t := by
    unfold emissions at hemitted
    rcases List.mem_filterMap.mp hemitted with ⟨x, hmem, hx⟩
    cases x with
    | transport o =>
      cases o with
      | emitted other =>
        cases hx
        exact hmem
      | accepted | arrived | fired | replaced | swept | dropped => cases hx
    | submit | lookup => cases hx
  have haccepted := (accepted_of_runs (transport_runs h)).2 request
    (mem_transportTrace.mpr hshown)
  rcases handedBy_of_accepted h (mem_transportTrace.mp haccepted) with ⟨i, hhanded | hhanded⟩
  · have hmem : .handed request ∈ submitLog i t :=
      List.mem_filterMap.mpr ⟨_, hhanded, by simp [Observed.submit?]⟩
    rcases submit_framed h i request hmem with ⟨tx, hencode⟩
    have hlen := submit_fixedFrame.length_encode (request.nonce, tx) _ hencode
    have hpadding := submit_fixedFrame.encode_padding (request.nonce, tx) _ hencode
    refine .submit tx (submit_fixedFrame.decode_encode (request.nonce, tx) _ hencode) ?_
    rw [hlen]
    exact hpadding
  · rcases lookup_framed h i request (mem_lookupLog.mpr hhanded) with ⟨hash, hencode⟩
    have hlen := lookup_fixedFrame.length_encode (request.nonce, hash) _ hencode
    have hpadding := lookup_fixedFrame.encode_padding (request.nonce, hash) _ hencode
    refine .lookup hash (lookup_fixedFrame.decode_encode (request.nonce, hash) _ hencode) ?_
    rw [hlen]
    exact hpadding

/-! ## No size shows -/

/-- What two runs that differ in transactions that fit a frame have in common. -/
structure SizesHidden (timeout dispatchTimeout : Nat) (es' : List Event)
    (t : List Observed) : Prop where
  /-- The other run goes the same way, and shows the same but for payloads and their length
  fields. -/
  runs : ∃ s' t', execute step (initial timeout dispatchTimeout) es' = some (s', t') ∧
    t'.map Observed.blank = t.map Observed.blank ∧
    (∀ i, (handedOf (submitLog i t')).map shape = (handedOf (submitLog i t)).map shape) ∧
    (emissions t').map shape = (emissions t).map shape
  /-- A frame is zero after its payload. -/
  padded : ∀ request ∈ emissions t, ZeroAfterPayload request.nonce request.frame

/-- Two submissions over HTTP under one nonce post bodies that differ only in payload and
length field. -/
def HttpHidden (codecs : Codecs) (world : World) (client : HubClient) (tx tx' : Bytes) : Prop :=
  ∃ frame frame', (client.submit codecs world tx).trace =
      [.hubRoundTrip (client.request "/" frame)] ∧
    (client.submit codecs world tx').trace = [.hubRoundTrip (client.request "/" frame')] ∧
    frame.length = frame'.length ∧ blankFrame frame = blankFrame frame' ∧
    frame.drop (submitHeaderBytes + tx.length) =
      zeros (frame.length - (submitHeaderBytes + tx.length))

/-- Two answers of the hub that fit a frame are framed in the same length, zero after what
they say. -/
def RepliesHidden (nonce nonce' : Nonce) (reply reply' : LookupReply) : Prop :=
  ∃ frame frame', encodeLookupReply nonce reply = .ok frame ∧
    encodeLookupReply nonce' reply' = .ok frame' ∧ frame.length = frame'.length ∧
    frame.drop (lookupReplyHeaderBytes + reply.txBytes.length) =
      zeros (frame.length - (lookupReplyHeaderBytes + reply.txBytes.length))

/-- A submission over HTTP is one round trip. -/
theorem trace_submitHttp {codecs : Codecs} {world : World} {client : HubClient}
    {tx frame : Bytes} (h : encodeSubmit world.submitNonce tx = .ok frame) :
    (client.submit codecs world tx).trace = [.hubRoundTrip (client.request "/" frame)] := by
  unfold HubClient.submit
  rw [h]
  simp only
  cases hround : (roundTrip world (client.request "/" frame) "hub submission timed out").result with
  | error failure =>
    rw [Traced.bind_of_error hround]
    rfl
  | ok answer =>
    rw [Traced.bind_of_ok hround, trace_roundTrip]
    by_cases hstatus : answer.1.status = 413
    · simp [hstatus]
    · simp only [hstatus, if_false]
      cases hparse : orErr (codecs.parseHubResponse answer.2) with
      | error failure =>
        rw [Traced.bind_of_error (e := failure) rfl]
        rfl
      | ok parsed =>
        rw [Traced.bind_of_ok (a := parsed) rfl]
        rfl

theorem http_hidden (codecs : Codecs) (world : World) (client : HubClient) {tx tx' : Bytes}
    (h : tx.length ≤ maxNymTxBytes) (h' : tx'.length ≤ maxNymTxBytes) :
    HttpHidden codecs world client tx tx' := by
  rcases encodeSubmit_blank world.submitNonce h with ⟨frame, hencode, hlen, hblank⟩
  rcases encodeSubmit_blank world.submitNonce h' with ⟨frame', hencode', hlen', hblank'⟩
  have hpadding := submit_fixedFrame.encode_padding (world.submitNonce, tx) _ hencode
  refine ⟨frame, frame', trace_submitHttp hencode, trace_submitHttp hencode', ?_, ?_, ?_⟩
  · rw [hlen, hlen']
  · rw [hblank, hblank']
  · rw [hlen]
    exact hpadding

theorem replies_hidden (nonce nonce' : Nonce) {reply reply' : LookupReply}
    (h : reply.txBytes.length ≤ maxLookupReplyTxBytes)
    (h' : reply'.txBytes.length ≤ maxLookupReplyTxBytes) :
    RepliesHidden nonce nonce' reply reply' := by
  rcases (lookupReply_fixedFrame.encode_isOk (nonce, reply)).mpr h with ⟨frame, hencode⟩
  rcases (lookupReply_fixedFrame.encode_isOk (nonce', reply')).mpr h' with ⟨frame', hencode'⟩
  have hlen := lookupReply_fixedFrame.length_encode (nonce, reply) _ hencode
  have hlen' := lookupReply_fixedFrame.length_encode (nonce', reply') _ hencode'
  have hpadding := lookupReply_fixedFrame.encode_padding (nonce, reply) _ hencode
  refine ⟨frame, frame', hencode, hencode', ?_, ?_⟩
  · rw [hlen, hlen']
  · rw [hlen]
    exact hpadding

/-- No size shows: not of a transaction that fits a frame, over either transport, and not of
an answer that does. -/
theorem size_hidden {timeout dispatchTimeout : Nat} {codecs : Codecs} {world : World}
    {client : HubClient} {nonce nonce' : Nonce} {s : Calls} {es es' : List Event}
    {t : List Observed} {tx tx' : Bytes} {reply reply' : LookupReply}
    (hsame : List.Forall₂ SameButTx es es')
    (hexecute : execute step (initial timeout dispatchTimeout) es = some (s, t))
    (htx : tx.length ≤ maxNymTxBytes) (htx' : tx'.length ≤ maxNymTxBytes)
    (hreply : reply.txBytes.length ≤ maxLookupReplyTxBytes)
    (hreply' : reply'.txBytes.length ≤ maxLookupReplyTxBytes) :
    SizesHidden timeout dispatchTimeout es' t ∧ HttpHidden codecs world client tx tx' ∧
      RepliesHidden nonce nonce' reply reply' := by
  refine ⟨⟨?_, ?_⟩, http_hidden codecs world client htx htx',
    replies_hidden nonce nonce' hreply hreply'⟩
  · rcases execute_sameButTx hsame hexecute with ⟨s', t', hother, hblank⟩
    have hshape : shape ∘ Request.blank = shape := funext shape_blank
    refine ⟨s', t', hother, hblank, ?_, ?_⟩
    · intro i
      have hlogs := congrArg (fun t => (handedOf (submitLog i t)).map shape) hblank
      simpa only [handedOf_blank, List.map_map, hshape] using hlogs
    · have hall := congrArg (fun t => (emissions t).map shape) hblank
      simpa only [emissions_blank, List.map_map, hshape] using hall
  · intro request hmem
    exact framed_of_runs (Runs.of_execute hexecute) hmem

/-- One submission to the one address there is, up to its emission. -/
def submitOnce (tx : Bytes) : List Event :=
  [.setTargets 1, .startSubmit tx, .submit 0 (.frame (List.Vector.replicate 16 0)),
    .submit 0 .dispatch, .turn .reserve, .turn .receive]

/-- An empty transaction and one of a byte, a transaction found and none. -/
theorem size_hidden_oneByte :
    ∃ s t, execute step (initial 90000 5000) (submitOnce []) = some (s, t) ∧
      emissions t ≠ [] ∧ SizesHidden 90000 5000 (submitOnce [1]) t ∧
      HttpHidden protoCodecs (hubAnswering []) ⟨"127.0.0.1:8090"⟩ [] [1] ∧
      RepliesHidden (List.Vector.replicate 16 0) (List.Vector.replicate 16 1)
        (.found 7 [1, 2, 3]) .notFound := by
  obtain ⟨frame, hframe⟩ : ∃ frame, encodeSubmit (List.Vector.replicate 16 0) [] = .ok frame :=
    ⟨_, encodeSubmit_eq (Nat.zero_le _)⟩
  have hsame : List.Forall₂ SameButTx (submitOnce []) (submitOnce [1]) := by
    have hone : ([1] : Bytes).length ≤ maxNymTxBytes := by decide
    have hrest : ∀ es, List.Forall₂ SameButTx es es :=
      fun es => List.forall₂_same.mpr fun e _ => .same e
    exact .cons (.same _) (.cons (.startSubmit (Nat.zero_le _) hone) (hrest _))
  have hstart : execute step (initial 90000 5000) [.setTargets 1, .startSubmit []] =
      some (⟨0, ⟨90000, 5000, 1, 0⟩, .initial, [⟨[], 1, 5000, 0, .framing 0⟩], []⟩,
        [.submit 0 (.began 1)]) := rfl
  have hframed := execute_snoc hstart (step_submit (show [_][0]? = some _ from rfl)
    (SubmitCall.step_frame rfl hframe))
  have hsent := execute_snoc hframed (e := .submit 0 .dispatch) (show _ = some (_, _) from rfl)
  have hroom := execute_snoc hsent (e := .turn .reserve) (show _ = some (_, _) from rfl)
  have hdone := execute_snoc hroom (e := .turn .receive) (show _ = some (_, _) from rfl)
  obtain ⟨s, t, hexecute, hemits⟩ : ∃ s t,
      execute step (initial 90000 5000) (submitOnce []) = some (s, t) ∧ emissions t ≠ [] :=
    ⟨_, _, hdone, List.cons_ne_nil _ _⟩
  refine ⟨s, t, hexecute, hemits, size_hidden hsame hexecute (Nat.zero_le _) ?_ ?_ ?_⟩
  · decide
  · decide
  · decide

end Calls

end Nym
end ZeroShim
