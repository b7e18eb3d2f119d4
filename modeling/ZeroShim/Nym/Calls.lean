import ZeroShim.Nym.Status
import ZeroShim.Nym.Transport

/-!
# Calls on the handle

{lit}`NymHandle::submit` and {lit}`NymHandle::get_transaction` as state machines, any
number of them running against one transport.  A call's steps are the stretches between
its awaits; its nonces come from outside.

Main results:

- Theorem {lit}`Calls.transport_runs`: the transport under any calls makes one of its
  own runs.
-/

namespace ZeroShim
namespace Nym

open Library Wire Transport

/-- The sender side of the transport. -/
structure NymHandle where
  timeout : Nat
  dispatchTimeout : Nat
  targets : Nat
  cursor : UInt64
deriving DecidableEq, Repr

/-! ## Submissions -/

/-- Where a submission is. -/
inductive SubmitPhase where
  /-- At the head of the loop. -/
  | framing (target : Nat)
  /-- In {lit}`send`. -/
  | sending (target : Nat) (parcel : Parcel)
  | returned (result : Except NymError Unit)
  /-- The caller dropped the call. -/
  | cancelled

structure SubmitCall where
  tx : Bytes
  targets : Nat
  deadline : Nat
  dispatched : Nat
  phase : SubmitPhase

/-- What a submission shows. -/
inductive SubmitObserved where
  | began (targets : Nat)
  | drawn (nonce : Nonce)
  | handed (request : Request)
  | closed
  | elapsed (now : Nat)
  | returned (result : Except NymError Unit)

inductive SubmitEvent where
  | frame (nonce : Nonce)
  | dispatch
  | closed
  | elapsed
  | cancel

namespace SubmitCall

/-- The call with its verdict. -/
def finish (call : SubmitCall) (result : Except NymError Unit) :
    SubmitCall × List SubmitObserved :=
  ({ call with phase := .returned result }, [.returned result])

/-- One hand-off is enough. -/
def verdict (call : SubmitCall) : Except NymError Unit :=
  if call.dispatched > 0 then .ok () else .error .transportGone

/-- The call as it starts: it loads the count of targets and fixes its deadline. -/
def start (handle : NymHandle) (now : Nat) (tx : Bytes) : SubmitCall × List SubmitObserved :=
  let call : SubmitCall := ⟨tx, handle.targets, now + handle.dispatchTimeout, 0, .framing 0⟩
  if handle.targets = 0 then
    ((call.finish (.error .transportGone)).1,
      .began handle.targets :: (call.finish (.error .transportGone)).2)
  else (call, [.began handle.targets])

/-- The next target, or the end of the loop. -/
def advance (call : SubmitCall) (target : Nat) : SubmitCall × List SubmitObserved :=
  if target + 1 < call.targets then ({ call with phase := .framing (target + 1) }, [])
  else call.finish call.verdict

/-- Build the request for a target under a fresh nonce. -/
def frame (call : SubmitCall) (target : Nat) (nonce : Nonce) :
    Option (SubmitCall × List SubmitObserved) :=
  match encodeSubmit nonce call.tx with
  | .ok frame =>
    some ({ call with
            phase := .sending target ⟨nonce, frame, submitReplySurbs, .submit, target⟩ },
      [.drawn nonce])
  | .error (.raised err) =>
    some ((call.finish (.error (.encode err))).1,
      .drawn nonce :: (call.finish (.error (.encode err))).2)
  | .error .outOfRange => none

/-- A hand-off was accepted; the receiver of its acknowledgement is dropped at once. -/
def handed (call : SubmitCall) (target : Nat) (request : Request) :
    SubmitCall × List SubmitObserved :=
  let call := { call with dispatched := call.dispatched + 1 }
  ((call.advance target).1, .handed request :: (call.advance target).2)

/-- One step of a submission, at a moment. -/
def step (s : Transport) (now : Nat) (call : SubmitCall) (e : SubmitEvent) :
    Option (Transport × SubmitCall × List SubmitObserved) :=
  match call.phase, e with
  | .framing target, .frame nonce => (call.frame target nonce).map fun out => (s, out)
  | .sending target parcel, .dispatch =>
    match s.accept parcel with
    | some (s, request) => some (s.abandon request.waiter.slot, call.handed target request)
    | none => none
  | .sending _ _, .closed =>
    if s.requests.receiver = false then
      some (s, (call.finish call.verdict).1, .closed :: (call.finish call.verdict).2)
    else none
  | .sending _ _, .elapsed =>
    if call.deadline ≤ now then
      some (s, (call.finish call.verdict).1, .elapsed now :: (call.finish call.verdict).2)
    else none
  | .framing _, .cancel => some (s, { call with phase := .cancelled }, [])
  | .sending _ _, .cancel => some (s, { call with phase := .cancelled }, [])
  | _, _ => none

theorem step_frame {s : Transport} {now target : Nat} {call : SubmitCall} {nonce : Nonce}
    {frame : Bytes} (hphase : call.phase = .framing target)
    (hencode : encodeSubmit nonce call.tx = .ok frame) :
    call.step s now (.frame nonce) =
      some (s,
        { call with
          phase := .sending target ⟨nonce, frame, submitReplySurbs, .submit, target⟩ },
        [.drawn nonce]) := by
  simp only [step, SubmitCall.frame, hphase, hencode, Option.map_some]

theorem step_elapsed {s : Transport} {now target : Nat} {call : SubmitCall} {parcel : Parcel}
    (hphase : call.phase = .sending target parcel) (hdeadline : call.deadline ≤ now) :
    call.step s now .elapsed =
      some (s, (call.finish call.verdict).1,
        .elapsed now :: (call.finish call.verdict).2) := by
  simp only [step, hphase, hdeadline, if_true]

/-- The effects of a submission's step. -/
inductive Stepped (s : Transport) (now : Nat) (call : SubmitCall) :
    Transport → SubmitCall → List SubmitObserved → Prop where
  | frame {target nonce frame} : call.phase = .framing target →
      encodeSubmit nonce call.tx = .ok frame →
      Stepped s now call s
        { call with
          phase := .sending target ⟨nonce, frame, submitReplySurbs, .submit, target⟩ }
        [.drawn nonce]
  | refuse {target nonce err} : call.phase = .framing target →
      encodeSubmit nonce call.tx = .error (.raised err) →
      Stepped s now call s { call with phase := .returned (.error (.encode err)) }
        [.drawn nonce, .returned (.error (.encode err))]
  | dispatch {target parcel s' request} : call.phase = .sending target parcel →
      s.accept parcel = some (s', request) →
      Stepped s now call (s'.abandon request.waiter.slot) (call.handed target request).1
        (call.handed target request).2
  | closed {target parcel} : call.phase = .sending target parcel →
      s.requests.receiver = false →
      Stepped s now call s { call with phase := .returned call.verdict }
        [.closed, .returned call.verdict]
  | elapsed {target parcel} : call.phase = .sending target parcel → call.deadline ≤ now →
      Stepped s now call s { call with phase := .returned call.verdict }
        [.elapsed now, .returned call.verdict]
  | cancel : Stepped s now call s { call with phase := .cancelled } []

theorem stepped_of_step {s s' : Transport} {now : Nat} {call call' : SubmitCall}
    {e : SubmitEvent} {o : List SubmitObserved}
    (h : call.step s now e = some (s', call', o)) : Stepped s now call s' call' o := by
  unfold step at h
  split at h
  · next target nonce hphase =>
    rcases Option.map_eq_some_iff.mp h with ⟨out, hframe, heq⟩
    cases heq
    unfold frame at hframe
    split at hframe
    · next frame hencode =>
      cases hframe
      exact .frame hphase hencode
    · next err hencode =>
      cases hframe
      exact .refuse hphase hencode
    · cases hframe
  · next target parcel hphase =>
    split at h
    · next s₁ request haccept =>
      rcases Prod.mk.inj (Option.some.inj h) with ⟨rfl, heq⟩
      rcases Prod.ext_iff.mp heq with ⟨rfl, rfl⟩
      exact .dispatch hphase haccept
    · cases h
  · next target parcel hphase =>
    split_ifs at h with hclosed
    · cases h
      exact .closed hphase hclosed
  · next target parcel hphase =>
    split_ifs at h with hdeadline
    · cases h
      exact .elapsed hphase hdeadline
  · cases h
    exact .cancel
  · cases h
    exact .cancel
  · cases h

end SubmitCall

/-! ## Lookups -/

/-- Where a lookup is. -/
inductive LookupPhase where
  /-- At the head of the loop. -/
  | building (attempt : Nat)
  /-- In {lit}`send`. -/
  | sending (attempt : Nat) (deadline : Nat) (parcel : Parcel)
  /-- In {lit}`await_reply`, on a reply channel. -/
  | awaiting (attempt : Nat) (deadline : Nat) (nonce : Nonce) (slot : Nat)
  | returned (result : Except NymError LookupReply)
  /-- The caller dropped the call. -/
  | cancelled

structure LookupCall where
  hash : Bytes
  targets : Nat
  start : UInt64
  last : NymError
  phase : LookupPhase

/-- What a lookup shows. -/
inductive LookupObserved where
  | began (targets : Nat) (start : UInt64)
  | minted (attempt : Nat) (nonce : Nonce) (target : Nat) (deadline : Nat)
  | handed (request : Request)
  | timedOut (attempt : Nat) (now : Nat)
  | replied (reply : LookupReply)
  | gone
  | returned (result : Except NymError LookupReply)

inductive LookupEvent where
  | build (nonce : Nonce)
  | dispatch
  | closed
  | elapsed
  | poll
  | cancel

namespace LookupCall

/-- {lit}`start.wrapping_add(attempt) % targets` -/
def targetOf (start : UInt64) (attempt targets : Nat) : Nat :=
  (start + UInt64.ofNat attempt).toNat % targets

/-- The call with its verdict. -/
def finish (call : LookupCall) (result : Except NymError LookupReply) :
    LookupCall × List LookupObserved :=
  ({ call with phase := .returned result }, [.returned result])

/-- The call as it starts: it loads the count of targets and, where there are any, moves
the cursor. -/
def begin (handle : NymHandle) (hash : Bytes) :
    NymHandle × LookupCall × List LookupObserved :=
  let call : LookupCall :=
    ⟨hash, handle.targets, handle.cursor, .transportGone, .building 0⟩
  if handle.targets = 0 then
    (handle, (call.finish (.error .transportGone)).1,
      .began handle.targets handle.cursor :: (call.finish (.error .transportGone)).2)
  else
    ({ handle with cursor := handle.cursor + 1 }, call, [.began handle.targets handle.cursor])

/-- Build the request of an attempt under a fresh nonce, and fix its deadline. -/
def build (handle : NymHandle) (now : Nat) (call : LookupCall) (attempt : Nat)
    (nonce : Nonce) : Option (LookupCall × List LookupObserved) :=
  let target := targetOf call.start attempt call.targets
  match encodeLookup nonce call.hash with
  | .ok frame =>
    some ({ call with
            phase := .sending attempt (now + handle.timeout)
              ⟨nonce, frame, lookupReplySurbs, .lookup, target⟩ },
      [.minted attempt nonce target (now + handle.timeout)])
  | .error (.raised err) => some (call.finish (.error (.encode err)))
  | .error .outOfRange => none

/-- An attempt timed out: the next one, or the end of the loop. -/
def expire (call : LookupCall) (attempt now : Nat) : LookupCall × List LookupObserved :=
  let call := { call with last := .timeout }
  if attempt + 1 < call.targets then
    ({ call with phase := .building (attempt + 1) }, [.timedOut attempt now])
  else ((call.finish (.error call.last)).1,
    .timedOut attempt now :: (call.finish (.error call.last)).2)

/-- The transport is gone. -/
def abort (call : LookupCall) : LookupCall × List LookupObserved :=
  ((call.finish (.error .transportGone)).1, .gone :: (call.finish (.error .transportGone)).2)

/-- A reply came. -/
def answer (call : LookupCall) (reply : LookupReply) : LookupCall × List LookupObserved :=
  ((call.finish (.ok reply)).1, .replied reply :: (call.finish (.ok reply)).2)

/-- One step of a lookup, at a moment.  A deadline is looked at only where what it bounds
is not ready. -/
def step (handle : NymHandle) (s : Transport) (now : Nat) (call : LookupCall)
    (e : LookupEvent) : Option (Transport × LookupCall × List LookupObserved) :=
  match call.phase, e with
  | .building attempt, .build nonce =>
    (build handle now call attempt nonce).map fun out => (s, out)
  | .sending attempt deadline parcel, .dispatch =>
    match s.accept parcel with
    | some (s, request) =>
      some (s, { call with
                 phase := .awaiting attempt deadline parcel.nonce request.waiter.slot },
        [.handed request])
    | none => none
  | .sending _ _ _, .closed =>
    if s.requests.receiver = false then some (s, call.abort) else none
  | .sending attempt deadline _, .elapsed =>
    if s.requests.receiver = true ∧ deadline ≤ now then some (s, call.expire attempt now)
    else none
  | .awaiting _ _ _ slot, .poll =>
    match s.oneshots.poll slot with
    | .ready (.lookup reply) => some (s.abandon slot, call.answer reply)
    | .gone => some (s.abandon slot, call.abort)
    | _ => none
  | .awaiting attempt deadline _ slot, .elapsed =>
    if s.oneshots.poll slot = .pending ∧ deadline ≤ now then
      some (s.abandon slot, call.expire attempt now)
    else none
  | .building _, .cancel => some (s, { call with phase := .cancelled }, [])
  | .sending _ _ _, .cancel => some (s, { call with phase := .cancelled }, [])
  | .awaiting _ _ _ slot, .cancel =>
    some (s.abandon slot, { call with phase := .cancelled }, [])
  | _, _ => none

/-- The effects of a lookup's step. -/
inductive Stepped (handle : NymHandle) (s : Transport) (now : Nat) (call : LookupCall) :
    Transport → LookupCall → List LookupObserved → Prop where
  | build {attempt nonce frame} : call.phase = .building attempt →
      encodeLookup nonce call.hash = .ok frame →
      Stepped handle s now call s
        { call with
          phase := .sending attempt (now + handle.timeout)
            ⟨nonce, frame, lookupReplySurbs, .lookup,
              targetOf call.start attempt call.targets⟩ }
        [.minted attempt nonce (targetOf call.start attempt call.targets)
          (now + handle.timeout)]
  | refuse {attempt nonce err} : call.phase = .building attempt →
      encodeLookup nonce call.hash = .error (.raised err) →
      Stepped handle s now call s { call with phase := .returned (.error (.encode err)) }
        [.returned (.error (.encode err))]
  | dispatch {attempt deadline parcel s' request} :
      call.phase = .sending attempt deadline parcel → s.accept parcel = some (s', request) →
      Stepped handle s now call s'
        { call with phase := .awaiting attempt deadline parcel.nonce request.waiter.slot }
        [.handed request]
  | closed {attempt deadline parcel} : call.phase = .sending attempt deadline parcel →
      s.requests.receiver = false →
      Stepped handle s now call s { call with phase := .returned (.error .transportGone) }
        [.gone, .returned (.error .transportGone)]
  | full {attempt deadline parcel} : call.phase = .sending attempt deadline parcel →
      s.requests.receiver = true → deadline ≤ now →
      Stepped handle s now call s (call.expire attempt now).1 (call.expire attempt now).2
  | reply {attempt deadline nonce slot reply} :
      call.phase = .awaiting attempt deadline nonce slot →
      s.oneshots.poll slot = .ready (.lookup reply) →
      Stepped handle s now call (s.abandon slot) { call with phase := .returned (.ok reply) }
        [.replied reply, .returned (.ok reply)]
  | gone {attempt deadline nonce slot} : call.phase = .awaiting attempt deadline nonce slot →
      s.oneshots.poll slot = .gone →
      Stepped handle s now call (s.abandon slot)
        { call with phase := .returned (.error .transportGone) }
        [.gone, .returned (.error .transportGone)]
  | silent {attempt deadline nonce slot} :
      call.phase = .awaiting attempt deadline nonce slot →
      s.oneshots.poll slot = .pending → deadline ≤ now →
      Stepped handle s now call (s.abandon slot) (call.expire attempt now).1
        (call.expire attempt now).2
  | cancel : (∀ attempt deadline nonce slot, call.phase ≠ .awaiting attempt deadline nonce slot) →
      Stepped handle s now call s { call with phase := .cancelled } []
  | cancelAwaiting {attempt deadline nonce slot} :
      call.phase = .awaiting attempt deadline nonce slot →
      Stepped handle s now call (s.abandon slot) { call with phase := .cancelled } []

theorem stepped_of_step {handle : NymHandle} {s s' : Transport} {now : Nat}
    {call call' : LookupCall} {e : LookupEvent} {o : List LookupObserved}
    (h : call.step handle s now e = some (s', call', o)) :
    Stepped handle s now call s' call' o := by
  unfold step at h
  split at h
  · next attempt nonce hphase =>
    rcases Option.map_eq_some_iff.mp h with ⟨out, hbuild, heq⟩
    cases heq
    unfold build at hbuild
    split at hbuild
    · next frame hencode =>
      cases hbuild
      exact .build hphase hencode
    · next err hencode =>
      cases hbuild
      exact .refuse hphase hencode
    · cases hbuild
  · next attempt deadline parcel hphase =>
    split at h
    · next s₁ request haccept =>
      cases h
      exact .dispatch hphase haccept
    · cases h
  · next attempt deadline parcel hphase =>
    split_ifs at h with hclosed
    · cases h
      exact .closed hphase hclosed
  · next attempt deadline parcel hphase =>
    split_ifs at h with hguard
    · rcases Prod.mk.inj (Option.some.inj h) with ⟨rfl, heq⟩
      rcases Prod.ext_iff.mp heq with ⟨rfl, rfl⟩
      exact .full hphase hguard.1 hguard.2
  · next attempt deadline nonce slot hphase =>
    split at h
    · next reply hpoll =>
      cases h
      exact .reply hphase hpoll
    · next hpoll =>
      cases h
      exact .gone hphase hpoll
    · cases h
  · next attempt deadline nonce slot hphase =>
    split_ifs at h with hguard
    · rcases Prod.mk.inj (Option.some.inj h) with ⟨rfl, heq⟩
      rcases Prod.ext_iff.mp heq with ⟨rfl, rfl⟩
      exact .silent hphase hguard.1 hguard.2
  · next attempt hphase =>
    cases h
    exact .cancel (by simp [hphase])
  · next attempt deadline parcel hphase =>
    cases h
    exact .cancel (by simp [hphase])
  · next attempt deadline nonce slot hphase =>
    cases h
    exact .cancelAwaiting hphase
  · cases h

end LookupCall

/-! ## All of them together -/

/-- The handle, its transport and every call made so far. -/
structure Calls where
  now : Nat
  handle : NymHandle
  transport : Transport
  submits : List SubmitCall
  lookups : List LookupCall

namespace Calls

/-- What a run of the calls shows. -/
inductive Observed where
  | transport (o : Nym.Observed)
  | submit (i : Nat) (o : SubmitObserved)
  | lookup (i : Nat) (o : LookupObserved)

/-- What can happen next. -/
inductive Event where
  | tick (d : Nat)
  /-- The driver publishes how many addresses it holds. -/
  | setTargets (n : Nat)
  | turn (a : Arm)
  | takeFrame
  | inbound (message : Bytes)
  | loseDriver
  | startSubmit (tx : Bytes)
  | submit (i : Nat) (e : SubmitEvent)
  | startLookup (hash : Bytes)
  | lookup (i : Nat) (e : LookupEvent)

def initial (timeout dispatchTimeout : Nat) : Calls where
  now := 0
  handle := ⟨timeout, dispatchTimeout, 0, 0⟩
  transport := .initial
  submits := []
  lookups := []

/-- A submission's observation; a request handed over is one the transport accepted. -/
def ofSubmit (i : Nat) : SubmitObserved → List Observed
  | .handed request => [.transport (.accepted request), .submit i (.handed request)]
  | o => [.submit i o]

/-- A lookup's observation, likewise. -/
def ofLookup (i : Nat) : LookupObserved → List Observed
  | .handed request => [.transport (.accepted request), .lookup i (.handed request)]
  | o => [.lookup i o]

/-- A step of the transport alone. -/
def viaTransport (s : Calls) (e : Transport.Event) : Option (Calls × List Observed) :=
  (s.transport.step e).map fun out => ({ s with transport := out.1 }, out.2.map .transport)

/-- One step. -/
def step (s : Calls) : Event → Option (Calls × List Observed)
  | .tick d => some ({ s with now := s.now + d }, [])
  | .setTargets n => some ({ s with handle := { s.handle with targets := n } }, [])
  | .turn a => s.viaTransport (.turn a)
  | .takeFrame => s.viaTransport .takeFrame
  | .inbound message => s.viaTransport (.inbound message)
  | .loseDriver => s.viaTransport .loseDriver
  | .startSubmit tx =>
    some ({ s with submits := s.submits ++ [(SubmitCall.start s.handle s.now tx).1] },
      (SubmitCall.start s.handle s.now tx).2.flatMap (ofSubmit s.submits.length))
  | .submit i e =>
    match s.submits[i]? with
    | none => none
    | some call =>
      (call.step s.transport s.now e).map fun out =>
        ({ s with transport := out.1, submits := s.submits.set i out.2.1 },
          out.2.2.flatMap (ofSubmit i))
  | .startLookup hash =>
    some ({ s with
            handle := (LookupCall.begin s.handle hash).1
            lookups := s.lookups ++ [(LookupCall.begin s.handle hash).2.1] },
      (LookupCall.begin s.handle hash).2.2.flatMap (ofLookup s.lookups.length))
  | .lookup i e =>
    match s.lookups[i]? with
    | none => none
    | some call =>
      (call.step s.handle s.transport s.now e).map fun out =>
        ({ s with transport := out.1, lookups := s.lookups.set i out.2.1 },
          out.2.2.flatMap (ofLookup i))

theorem step_submit {s : Calls} {i : Nat} {call : SubmitCall} {e : SubmitEvent}
    {out : Transport × SubmitCall × List SubmitObserved} (hcall : s.submits[i]? = some call)
    (h : call.step s.transport s.now e = some out) :
    s.step (.submit i e) =
      some ({ s with transport := out.1, submits := s.submits.set i out.2.1 },
        out.2.2.flatMap (ofSubmit i)) := by
  simp [step, hcall, h]

theorem step_turn {s : Calls} {a : Arm} {out : Transport × List Nym.Observed}
    (h : s.transport.turn a = some out) :
    s.step (.turn a) = some ({ s with transport := out.1 }, out.2.map .transport) := by
  simp [step, viaTransport, Transport.step, h]

/-- The effects of a step. -/
inductive Stepped (s : Calls) : Event → Calls → List Observed → Prop where
  | tick (d) : Stepped s (.tick d) { s with now := s.now + d } []
  | setTargets (n) :
      Stepped s (.setTargets n) { s with handle := { s.handle with targets := n } } []
  | turn {a transport o} : s.transport.step (.turn a) = some (transport, o) →
      Stepped s (.turn a) { s with transport := transport } (o.map .transport)
  | takeFrame {transport o} : s.transport.step .takeFrame = some (transport, o) →
      Stepped s .takeFrame { s with transport := transport } (o.map .transport)
  | inbound {message transport o} : s.transport.step (.inbound message) = some (transport, o) →
      Stepped s (.inbound message) { s with transport := transport } (o.map .transport)
  | loseDriver {transport o} : s.transport.step .loseDriver = some (transport, o) →
      Stepped s .loseDriver { s with transport := transport } (o.map .transport)
  | startSubmit (tx) : Stepped s (.startSubmit tx)
      { s with submits := s.submits ++ [(SubmitCall.start s.handle s.now tx).1] }
      ((SubmitCall.start s.handle s.now tx).2.flatMap (ofSubmit s.submits.length))
  | submit {i e call transport call' o} : s.submits[i]? = some call →
      SubmitCall.Stepped s.transport s.now call transport call' o →
      Stepped s (.submit i e) { s with transport := transport, submits := s.submits.set i call' }
        (o.flatMap (ofSubmit i))
  | startLookup (hash) : Stepped s (.startLookup hash)
      { s with
        handle := (LookupCall.begin s.handle hash).1
        lookups := s.lookups ++ [(LookupCall.begin s.handle hash).2.1] }
      ((LookupCall.begin s.handle hash).2.2.flatMap (ofLookup s.lookups.length))
  | lookup {i e call transport call' o} : s.lookups[i]? = some call →
      LookupCall.Stepped s.handle s.transport s.now call transport call' o →
      Stepped s (.lookup i e) { s with transport := transport, lookups := s.lookups.set i call' }
        (o.flatMap (ofLookup i))

theorem of_viaTransport {s s' : Calls} {e : Transport.Event} {o : List Observed}
    (h : s.viaTransport e = some (s', o)) :
    ∃ transport o', s.transport.step e = some (transport, o') ∧
      s' = { s with transport := transport } ∧ o = o'.map .transport := by
  rcases Option.map_eq_some_iff.mp h with ⟨⟨transport, o'⟩, hstep, heq⟩
  cases heq
  exact ⟨transport, o', hstep, rfl, rfl⟩

theorem stepped_of_step {s s' : Calls} {e : Event} {o : List Observed}
    (h : s.step e = some (s', o)) : Stepped s e s' o := by
  cases e with
  | tick d =>
    cases h
    exact .tick d
  | setTargets n =>
    cases h
    exact .setTargets n
  | turn a =>
    rcases of_viaTransport h with ⟨transport, o', hstep, rfl, rfl⟩
    exact .turn hstep
  | takeFrame =>
    rcases of_viaTransport h with ⟨transport, o', hstep, rfl, rfl⟩
    exact .takeFrame hstep
  | inbound message =>
    rcases of_viaTransport h with ⟨transport, o', hstep, rfl, rfl⟩
    exact .inbound hstep
  | loseDriver =>
    rcases of_viaTransport h with ⟨transport, o', hstep, rfl, rfl⟩
    exact .loseDriver hstep
  | startSubmit tx =>
    cases h
    exact .startSubmit tx
  | submit i e =>
    simp only [step] at h
    split at h
    · cases h
    · next call hcall =>
      rcases Option.map_eq_some_iff.mp h with ⟨⟨transport, call', o'⟩, hsubmit, heq⟩
      cases heq
      exact .submit hcall (SubmitCall.stepped_of_step hsubmit)
  | startLookup hash =>
    cases h
    exact .startLookup hash
  | lookup i e =>
    simp only [step] at h
    split at h
    · cases h
    · next call hcall =>
      rcases Option.map_eq_some_iff.mp h with ⟨⟨transport, call', o'⟩, hlookup, heq⟩
      cases heq
      exact .lookup hcall (LookupCall.stepped_of_step hlookup)

/-! ## The parts of a trace -/

/-- What the transport shows. -/
def Observed.transport? : Observed → Option Nym.Observed
  | .transport o => some o
  | _ => none

/-- What one submission shows. -/
def Observed.submit? (i : Nat) : Observed → Option SubmitObserved
  | .submit j o => if j = i then some o else none
  | _ => none

/-- What one lookup shows. -/
def Observed.lookup? (i : Nat) : Observed → Option LookupObserved
  | .lookup j o => if j = i then some o else none
  | _ => none

def transportTrace (t : List Observed) : List Nym.Observed := t.filterMap Observed.transport?

def submitLog (i : Nat) (t : List Observed) : List SubmitObserved :=
  t.filterMap (Observed.submit? i)

def lookupLog (i : Nat) (t : List Observed) : List LookupObserved :=
  t.filterMap (Observed.lookup? i)

def SubmitObserved.handed? : SubmitObserved → Option Request
  | .handed request => some request
  | _ => none

def LookupObserved.handed? : LookupObserved → Option Request
  | .handed request => some request
  | _ => none

section Parts

variable (i j : Nat) (t t' : List Observed)

@[simp] theorem transportTrace_append :
    transportTrace (t ++ t') = transportTrace t ++ transportTrace t' :=
  List.filterMap_append

@[simp] theorem submitLog_append :
    submitLog i (t ++ t') = submitLog i t ++ submitLog i t' :=
  List.filterMap_append

@[simp] theorem lookupLog_append :
    lookupLog i (t ++ t') = lookupLog i t ++ lookupLog i t' :=
  List.filterMap_append

@[simp] theorem transportTrace_map (o : List Nym.Observed) :
    transportTrace (o.map .transport) = o := by
  induction o with
  | nil => rfl
  | cons x o ih => simpa [transportTrace, Observed.transport?] using ih

@[simp] theorem submitLog_map (o : List Nym.Observed) :
    submitLog i (o.map .transport) = [] := by
  induction o with
  | nil => rfl
  | cons x o ih => simp [submitLog, Observed.submit?]

@[simp] theorem lookupLog_map (o : List Nym.Observed) :
    lookupLog i (o.map .transport) = [] := by
  induction o with
  | nil => rfl
  | cons x o ih => simp [lookupLog, Observed.lookup?]

theorem mem_transportTrace {t : List Observed} {o : Nym.Observed} :
    o ∈ transportTrace t ↔ .transport o ∈ t := by
  unfold transportTrace
  rw [List.mem_filterMap]
  constructor
  · rintro ⟨x, hmem, hx⟩
    cases x with
    | transport y =>
      cases hx
      exact hmem
    | submit | lookup => cases hx
  · intro hmem
    exact ⟨_, hmem, rfl⟩

theorem transportTrace_ofSubmit (o : List SubmitObserved) :
    transportTrace (o.flatMap (ofSubmit j)) =
      (o.filterMap SubmitObserved.handed?).map .accepted := by
  induction o with
  | nil => rfl
  | cons x o ih =>
    rw [List.flatMap_cons, transportTrace_append, ih]
    cases x <;> rfl

theorem transportTrace_ofLookup (o : List LookupObserved) :
    transportTrace (o.flatMap (ofLookup j)) =
      (o.filterMap LookupObserved.handed?).map .accepted := by
  induction o with
  | nil => rfl
  | cons x o ih =>
    rw [List.flatMap_cons, transportTrace_append, ih]
    cases x <;> rfl

theorem submitLog_ofSubmit (o : List SubmitObserved) :
    submitLog i (o.flatMap (ofSubmit j)) = if j = i then o else [] := by
  induction o with
  | nil => simp [submitLog]
  | cons x o ih =>
    rw [List.flatMap_cons, submitLog_append, ih]
    by_cases hji : j = i <;> cases x <;>
      simp [ofSubmit, submitLog, Observed.submit?, hji, List.filterMap_cons]

theorem submitLog_ofLookup (o : List LookupObserved) :
    submitLog i (o.flatMap (ofLookup j)) = [] := by
  induction o with
  | nil => rfl
  | cons x o ih =>
    rw [List.flatMap_cons, submitLog_append, ih]
    cases x <;> rfl

theorem lookupLog_ofLookup (o : List LookupObserved) :
    lookupLog i (o.flatMap (ofLookup j)) = if j = i then o else [] := by
  induction o with
  | nil => simp [lookupLog]
  | cons x o ih =>
    rw [List.flatMap_cons, lookupLog_append, ih]
    by_cases hji : j = i <;> cases x <;>
      simp [ofLookup, lookupLog, Observed.lookup?, hji, List.filterMap_cons]

theorem lookupLog_ofSubmit (o : List SubmitObserved) :
    lookupLog i (o.flatMap (ofSubmit j)) = [] := by
  induction o with
  | nil => rfl
  | cons x o ih =>
    rw [List.flatMap_cons, lookupLog_append, ih]
    cases x <;> rfl

end Parts

/-! ## The transport under the calls -/

/-- The requests that a start hands over: none. -/
theorem handed_submitStart (handle : NymHandle) (now : Nat) (tx : Bytes) :
    (SubmitCall.start handle now tx).2.filterMap SubmitObserved.handed? = [] := by
  unfold SubmitCall.start
  by_cases h : handle.targets = 0 <;> simp [h, SubmitCall.finish, SubmitObserved.handed?]

theorem handed_lookupBegin (handle : NymHandle) (hash : Bytes) :
    (LookupCall.begin handle hash).2.2.filterMap LookupObserved.handed? = [] := by
  unfold LookupCall.begin
  by_cases h : handle.targets = 0 <;> simp [h, LookupCall.finish, LookupObserved.handed?]

theorem handed_submitAdvance (call : SubmitCall) (target : Nat) :
    (call.advance target).2.filterMap SubmitObserved.handed? = [] := by
  unfold SubmitCall.advance
  split_ifs <;> simp [SubmitCall.finish, SubmitObserved.handed?]

theorem handed_expire (call : LookupCall) (attempt now : Nat) :
    (call.expire attempt now).2.filterMap LookupObserved.handed? = [] := by
  unfold LookupCall.expire
  by_cases h : attempt + 1 < call.targets <;>
    simp [h, LookupCall.finish, LookupObserved.handed?]

theorem accept_run {s s' : Transport} {parcel : Parcel} {request : Request}
    (h : s.accept parcel = some (s', request)) : Runs Transport.step s [.accepted request] s' :=
  Runs.single (e := .accept parcel) (by simp [Transport.step, h])

theorem abandon_run (s : Transport) (slot : Nat) : Runs Transport.step s [] (s.abandon slot) :=
  Runs.single (e := .abandon slot) rfl

/-- A submission's step is a run of the transport. -/
theorem submit_run {s s' : Transport} {now : Nat} {call call' : SubmitCall}
    {o : List SubmitObserved} (h : SubmitCall.Stepped s now call s' call' o) :
    Runs Transport.step s ((o.filterMap SubmitObserved.handed?).map .accepted) s' := by
  cases h with
  | @dispatch target parcel s₁ request hphase haccept =>
    have hhanded : (call.handed target request).2.filterMap SubmitObserved.handed? =
        [request] := by
      simp [SubmitCall.handed, SubmitObserved.handed?, handed_submitAdvance]
    rw [hhanded]
    exact (accept_run haccept).trans (abandon_run _ _)
  | frame | refuse | closed | elapsed | cancel => exact .refl

/-- A lookup's step is a run of the transport. -/
theorem lookup_run {handle : NymHandle} {s s' : Transport} {now : Nat}
    {call call' : LookupCall} {o : List LookupObserved}
    (h : LookupCall.Stepped handle s now call s' call' o) :
    Runs Transport.step s ((o.filterMap LookupObserved.handed?).map .accepted) s' := by
  cases h with
  | dispatch hphase haccept => exact accept_run haccept
  | full hphase hopen hdeadline =>
    rw [handed_expire]
    exact .refl
  | silent hphase hpoll hdeadline =>
    rw [handed_expire]
    exact abandon_run _ _
  | reply | gone | cancelAwaiting => exact abandon_run _ _
  | build | refuse | closed | cancel => exact .refl

/-- The transport under any calls makes one of its own runs. -/
theorem transport_runs {s s' : Calls} {t : List Observed} (h : Runs step s t s') :
    Runs Transport.step s.transport (transportTrace t) s'.transport := by
  refine Runs.simulate Calls.transport Observed.transport? ?_ h
  intro s e o s' hstep
  change Runs Transport.step s.transport (transportTrace o) s'.transport
  cases stepped_of_step hstep with
  | tick | setTargets => exact .refl
  | turn htransport | takeFrame htransport | inbound htransport | loseDriver htransport =>
    rw [transportTrace_map]
    exact .single htransport
  | startSubmit tx =>
    rw [transportTrace_ofSubmit, handed_submitStart]
    exact .refl
  | submit hcall hsubmit =>
    rw [transportTrace_ofSubmit]
    exact submit_run hsubmit
  | startLookup hash =>
    rw [transportTrace_ofLookup, handed_lookupBegin]
    exact .refl
  | lookup hcall hlookup =>
    rw [transportTrace_ofLookup]
    exact lookup_run hlookup

end Calls

/-! ## When time may pass -/

/-- The clock may stand at a moment: the call has nothing to compute, and no deadline before. -/
def SubmitCall.allows (call : SubmitCall) (moment : Nat) : Bool :=
  match call.phase with
  | .framing _ => false
  | .sending _ _ => moment ≤ call.deadline
  | _ => true

def LookupCall.allows (call : LookupCall) (moment : Nat) : Bool :=
  match call.phase with
  | .building _ => false
  | .sending _ deadline _ => moment ≤ deadline
  | .awaiting _ deadline _ _ => moment ≤ deadline
  | _ => true

/-- The deadline of the attempt that a lookup is at. -/
def LookupPhase.deadline? : LookupPhase → Option Nat
  | .sending _ deadline _ => some deadline
  | .awaiting _ deadline _ _ => some deadline
  | _ => none

theorem LookupCall.le_of_allows {call : LookupCall} {moment deadline : Nat}
    (h : call.allows moment = true) (hdeadline : call.phase.deadline? = some deadline) :
    moment ≤ deadline := by
  unfold allows at h
  cases hphase : call.phase <;> simp_all [LookupPhase.deadline?]

namespace Calls

/-- Every call is polled on time. -/
def punctual (s : Calls) : Event → Bool
  | .tick d =>
    (s.submits.all fun call => call.allows (s.now + d)) &&
      s.lookups.all fun call => call.allows (s.now + d)
  | _ => true

section Step

variable {s s' : Calls} {e : Event} {o : List Observed} {i : Nat}

theorem submit_allows {d : Nat} {call : SubmitCall} (h : s.punctual (.tick d) = true)
    (hcall : s.submits[i]? = some call) : call.allows (s.now + d) = true := by
  simp only [punctual, Bool.and_eq_true, List.all_eq_true] at h
  exact h.1 call (List.mem_of_getElem? hcall)

theorem lookup_allows {d : Nat} {call : LookupCall} (h : s.punctual (.tick d) = true)
    (hcall : s.lookups[i]? = some call) : call.allows (s.now + d) = true := by
  simp only [punctual, Bool.and_eq_true, List.all_eq_true] at h
  exact h.2 call (List.mem_of_getElem? hcall)

/-- A run goes on with a message that fires what it carries. -/
theorem runs_fired {s₀ s : Calls} {t : List Observed} {c : Correlator} {firing : Firing}
    {bytes : Bytes} {fromMixnet : Channel Bytes 32}
    (h : Runs (guarded step fun s e => s.punctual e = true) s₀ t s)
    (hcorrelator : s.transport.correlator = some c)
    (hrecv : s.transport.fromMixnet.recv = .item bytes fromMixnet)
    (hcarried : firing.CarriedBy bytes)
    (hlookup : c.pending.lookup firing.nonce = some firing.waiter) :
    Runs (guarded step fun s e => s.punctual e = true) s₀
      (t ++ (fireTurn s.transport c firing bytes fromMixnet).2.map .transport)
      { s with transport := (fireTurn s.transport c firing bytes fromMixnet).1 } :=
  h.snoc (e := .turn .message)
    ((if_pos (show s.punctual (.turn .message) = true from rfl)).trans
      (step_turn (turn_of_carried hcorrelator hrecv hcarried hlookup)))

/-- Only a tick moves the clock. -/
theorem now_of_step (h : s.step e = some (s', o)) :
    (∃ d, e = .tick d ∧ s' = { s with now := s.now + d }) ∨ s'.now = s.now := by
  cases stepped_of_step h with
  | tick d => exact .inl ⟨d, rfl, rfl⟩
  | setTargets | turn | takeFrame | inbound | loseDriver | startSubmit | submit | startLookup
  | lookup => exact .inr rfl

/-- The timeouts never change. -/
theorem timeouts_of_step (h : s.step e = some (s', o)) :
    s'.handle.timeout = s.handle.timeout ∧
      s'.handle.dispatchTimeout = s.handle.dispatchTimeout := by
  cases stepped_of_step h with
  | startLookup hash =>
    unfold LookupCall.begin
    split_ifs <;> exact ⟨rfl, rfl⟩
  | tick | setTargets | turn | takeFrame | inbound | loseDriver | startSubmit | submit
  | lookup => exact ⟨rfl, rfl⟩

end Step

end Calls

end Nym
end ZeroShim
