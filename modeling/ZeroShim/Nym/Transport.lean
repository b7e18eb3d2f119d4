import ZeroShim.Library.Channel
import ZeroShim.Library.Oneshot
import ZeroShim.Library.Transition
import ZeroShim.Nym.Correlate

/-!
# The transport loop

{lit}`run_transport` as a transition system.  One step of the loop is one turn of
its {lit}`select!`: the arm that won, the sweep, the published count and the test
for the end, with no await between them.  The other steps are what callers and the
driver do at the far ends of its channels.  The supervisor is a task of its own and may
load the count before the turn that just ended has stored it: what it loads is kept
apart, where the tasks are put together.

Main results:

- Theorem {lit}`turned_of_arm`: what an arm that turns the loop can do.
- Theorem {lit}`turn_cases`: a turn is one of its arms followed by the sweep, or the
  return of the loop.
- Theorem {lit}`stepped_of_step`: what a step can do.
-/

namespace ZeroShim
namespace Nym

open Library Wire

/-! ## State -/

/-- The locals of {lit}`correlate`. -/
structure Correlator where
  pending : Pending
  requestsOpen : Bool
  permit : Bool

/-- The transport loop and the channels it holds an end of. -/
structure Transport where
  requests : Channel Request 32
  toMixnet : Channel OutFrame 8
  fromMixnet : Channel Bytes 32
  /-- The reply channels of the requests accepted so far. -/
  oneshots : Oneshots Answer
  /-- None once the loop has returned. -/
  correlator : Option Correlator
  /-- The count that the last turn ended with. -/
  inflight : Nat

/-- What a run of the transport shows. -/
inductive Observed where
  | accepted (request : Request)
  | arrived (message : Bytes)
  | emitted (request : Request)
  | fired (firing : Firing) (message : Bytes)
  /-- A waiter overwritten in the pending map. -/
  | replaced (tickets : Multiset Ticket)
  | swept (tickets : Multiset Ticket)
  /-- The loop returned, and dropped what it still held. -/
  | dropped (tickets : Multiset Ticket)

namespace Transport

/-- The transport before anything happened. -/
def initial : Transport where
  requests := .empty
  toMixnet := .empty
  fromMixnet := .empty
  oneshots := .initial
  correlator := some ⟨∅, true, false⟩
  inflight := 0

/-- The requests queued and not yet received. -/
def queued (s : Transport) : Multiset Ticket :=
  Multiset.ofList (s.requests.queue.map Request.ticket)

/-- The pending map; empty once the loop has returned. -/
def pending (s : Transport) : Pending :=
  match s.correlator with
  | some c => c.pending
  | none => ∅

/-- The caller of a waiter still holds its receiver. -/
def listening (s : Transport) (waiter : Waiter) : Bool := !s.oneshots.isClosed waiter.slot

/-- The channels that a collection of requests holds the senders of. -/
def slots (tickets : Multiset Ticket) : Multiset Nat := tickets.map fun e => e.2.slot

/-! ## The loop -/

/-- The loop returns: its pending map, its permit and its channel ends are dropped. -/
def leave (s : Transport) (c : Correlator) : Transport × List Observed :=
  ({ requests := s.requests.dropReceiver
     toMixnet := s.toMixnet.release.dropSenders
     fromMixnet := s.fromMixnet.dropReceiver
     oneshots := s.oneshots.dropSenders (slots (s.queued + c.pending.entries))
     correlator := none
     inflight := 0 },
    [.dropped (s.queued + c.pending.entries)])

/-- Sweep the callers that went away. -/
def sweep (s : Transport) (c : Correlator) : Transport × Correlator × List Observed :=
  ({ s with oneshots := s.oneshots.dropSenders (slots (c.pending.removed s.listening)) },
    { c with pending := c.pending.retain s.listening },
    [.swept (c.pending.removed s.listening)])

/-- Publish the count, and return when nothing is left to wait for. -/
def publish (s : Transport) (c : Correlator) : Transport × List Observed :=
  if c.requestsOpen = false ∧ c.pending.size = 0 then leave s c
  else ({ s with correlator := some c, inflight := c.pending.size }, [])

/-- What follows the {lit}`select!` in every turn. -/
def endTurn (s : Transport) (c : Correlator) : Transport × List Observed :=
  match sweep s c with
  | (s, c, o) => ((publish s c).1, o ++ (publish s c).2)

/-- The arms of the {lit}`select!`. -/
inductive Arm where
  | reserve
  | receive
  | message
  | timer
deriving DecidableEq, Repr

/-- What an arm that completes does: it turns the loop or returns from it. -/
inductive Outcome where
  | turn (s : Transport) (c : Correlator) (o : List Observed)
  | returned

/-- The entry that inserting under a nonce overwrites. -/
def overwritten (pending : Pending) (nonce : Nonce) : Multiset Ticket :=
  match pending.lookup nonce with
  | some waiter => {⟨nonce, waiter⟩}
  | none => 0

/-- Hand a request's frame over, in the room reserved for it, and record its waiter. -/
def register (s : Transport) (c : Correlator) (request : Request)
    (requests : Channel Request 32) (toMixnet : Channel OutFrame 8) : Outcome :=
  .turn
    { s with
      requests := requests
      toMixnet := toMixnet
      oneshots := s.oneshots.dropSenders (slots (overwritten c.pending request.nonce)) }
    { c with permit := false, pending := c.pending.insert request.nonce request.waiter }
    [.emitted request, .replaced (overwritten c.pending request.nonce)]

/-- Deliver one inbound message, if it is not a replenishment artifact. -/
def receiveMessage (s : Transport) (c : Correlator) (bytes : Bytes)
    (fromMixnet : Channel Bytes 32) : Outcome :=
  if bytes = [] then .turn { s with fromMixnet := fromMixnet } c []
  else
    match deliver c.pending bytes with
    | (pending, some firing) =>
      .turn
        { s with
          fromMixnet := fromMixnet
          oneshots := s.oneshots.fire firing.waiter.slot firing.answer }
        { c with pending := pending } [.fired firing bytes]
    | (pending, none) =>
      .turn { s with fromMixnet := fromMixnet } { c with pending := pending } []

/-- One arm of the {lit}`select!`, where it is enabled and ready. -/
def arm (s : Transport) (c : Correlator) : Arm → Option Outcome
  | .reserve =>
    if c.permit = false ∧ c.requestsOpen = true then
      if s.toMixnet.receiver then
        match s.toMixnet.reserve with
        | some toMixnet => some (.turn { s with toMixnet := toMixnet } { c with permit := true } [])
        | none => none
      else some .returned
    else none
  | .receive =>
    if c.permit = true ∧ c.requestsOpen = true then
      match s.requests.recv with
      | .item request requests =>
        match s.toMixnet.sendReserved request.outFrame with
        | some toMixnet => some (register s c request requests toMixnet)
        | none => none
      | .ended => some (.turn s { c with requestsOpen := false } [])
      | .pending => none
    else none
  | .message =>
    match s.fromMixnet.recv with
    | .item bytes fromMixnet => some (receiveMessage s c bytes fromMixnet)
    | .ended => some .returned
    | .pending => none
  | .timer => if c.pending.size = 0 then none else some (.turn s c [])

/-- One turn of {lit}`correlate`. -/
def turn (s : Transport) (a : Arm) : Option (Transport × List Observed) :=
  match s.correlator with
  | none => none
  | some c =>
    match arm s c a with
    | some (.turn s' c' o) => some ((endTurn s' c').1, o ++ (endTurn s' c').2)
    | some .returned => some (leave s c)
    | none => none

/-! ## The far ends of its channels -/

/-- What a request waits for. -/
inductive RequestKind where
  | submit
  | lookup
deriving DecidableEq, Repr

def RequestKind.waiter : RequestKind → Nat → Waiter
  | .submit, slot => .ack slot
  | .lookup, slot => .lookup slot

/-- Everything in a request but its reply channel. -/
structure Parcel where
  nonce : Nonce
  frame : Bytes
  replySurbs : Nat
  kind : RequestKind
  target : Nat
deriving DecidableEq

/-- The request that a parcel becomes with its reply channel. -/
def Parcel.request (parcel : Parcel) (slot : Nat) : Request :=
  ⟨parcel.nonce, parcel.frame, parcel.replySurbs, parcel.kind.waiter slot, parcel.target⟩

/-- A caller's {lit}`send` completes.  The reply channel is the caller's alone until
then, and is opened here. -/
def accept (s : Transport) (parcel : Parcel) : Option (Transport × Request) :=
  if s.requests.receiver = true ∧ s.requests.senders = true then
    match s.requests.send (parcel.request s.oneshots.opened) with
    | some requests =>
      some ({ s with requests := requests, oneshots := s.oneshots.openNext },
        parcel.request s.oneshots.opened)
    | none => none
  else none

/-- A caller drops the receiver of its reply channel. -/
def abandon (s : Transport) (slot : Nat) : Transport :=
  { s with oneshots := s.oneshots.dropReceiver slot }

/-- The driver takes the next frame. -/
def takeFrame (s : Transport) : Option (OutFrame × Transport) :=
  match s.toMixnet.recv with
  | .item out toMixnet => some (out, { s with toMixnet := toMixnet })
  | .ended => none
  | .pending => none

/-- The driver passes an inbound message on. -/
def inbound (s : Transport) (message : Bytes) : Option Transport :=
  if s.fromMixnet.receiver = true ∧ s.fromMixnet.senders = true then
    match s.fromMixnet.send message with
    | some fromMixnet => some { s with fromMixnet := fromMixnet }
    | none => none
  else none

/-- The driver returns. -/
def loseDriver (s : Transport) : Transport :=
  { s with
    toMixnet := s.toMixnet.dropReceiver
    fromMixnet := s.fromMixnet.dropSenders }

/-- What can happen next. -/
inductive Event where
  | turn (a : Arm)
  | accept (parcel : Parcel)
  | abandon (slot : Nat)
  /-- The last handle is dropped. -/
  | closeRequests
  | takeFrame
  | inbound (message : Bytes)
  | loseDriver

/-- One step of the transport or of its surroundings. -/
def step (s : Transport) : Event → Option (Transport × List Observed)
  | .turn a => s.turn a
  | .accept parcel => (s.accept parcel).map fun out => (out.1, [.accepted out.2])
  | .abandon slot => some (s.abandon slot, [])
  | .closeRequests => some ({ s with requests := s.requests.dropSenders }, [])
  | .takeFrame => s.takeFrame.map fun out => (out.2, [])
  | .inbound message => (s.inbound message).map fun out => (out, [.arrived message])
  | .loseDriver => some (s.loseDriver, [])

/-- What a turn in which a message fires leaves and shows. -/
def fireTurn (s : Transport) (c : Correlator) (firing : Firing) (bytes : Bytes)
    (fromMixnet : Channel Bytes 32) : Transport × List Observed :=
  let oneshots := s.oneshots.fire firing.waiter.slot firing.answer
  match endTurn { s with fromMixnet := fromMixnet, oneshots := oneshots }
    { c with pending := c.pending.erase firing.nonce } with
  | (s', o) => (s', .fired firing bytes :: o)

/-- A message fires what it carries of what is pending. -/
theorem turn_of_carried {s : Transport} {c : Correlator} {firing : Firing} {bytes : Bytes}
    {fromMixnet : Channel Bytes 32} (hcorrelator : s.correlator = some c)
    (hrecv : s.fromMixnet.recv = .item bytes fromMixnet) (hcarried : firing.CarriedBy bytes)
    (hlookup : c.pending.lookup firing.nonce = some firing.waiter) :
    s.turn .message = some (fireTurn s c firing bytes fromMixnet) := by
  have hdeliver := deliver_of_carried hcarried hlookup
  have hmessage : bytes ≠ [] := by
    rintro rfl
    rw [deliver_ignored (.empty rfl)] at hdeliver
    exact absurd (congrArg Prod.snd hdeliver) (by simp)
  have harm : arm s c .message = some (receiveMessage s c bytes fromMixnet) := by
    simp only [arm, hrecv]
  rw [receiveMessage, if_neg hmessage, hdeliver] at harm
  unfold turn
  rw [hcorrelator]
  dsimp only
  rw [harm]
  rfl

/-! ## What a turn can do -/

/-- The effects of the arms that turn the loop. -/
inductive Turned (s : Transport) (c : Correlator) :
    Transport → Correlator → List Observed → Prop where
  | reserve {toMixnet} : c.permit = false → s.toMixnet.reserve = some toMixnet →
      Turned s c { s with toMixnet := toMixnet } { c with permit := true } []
  | receive {request requests toMixnet} : c.permit = true →
      s.requests.recv = .item request requests →
      s.toMixnet.sendReserved request.outFrame = some toMixnet →
      Turned s c
        { s with
          requests := requests
          toMixnet := toMixnet
          oneshots := s.oneshots.dropSenders (slots (overwritten c.pending request.nonce)) }
        { c with permit := false, pending := c.pending.insert request.nonce request.waiter }
        [.emitted request, .replaced (overwritten c.pending request.nonce)]
  | close : s.requests.recv = .ended → Turned s c s { c with requestsOpen := false } []
  | deliver {bytes fromMixnet} {firing : Firing} : s.fromMixnet.recv = .item bytes fromMixnet →
      firing.CarriedBy bytes → c.pending.lookup firing.nonce = some firing.waiter →
      Turned s c
        { s with
          fromMixnet := fromMixnet
          oneshots := s.oneshots.fire firing.waiter.slot firing.answer }
        { c with pending := c.pending.erase firing.nonce } [.fired firing bytes]
  | ignore {bytes fromMixnet} : s.fromMixnet.recv = .item bytes fromMixnet →
      Turned s c { s with fromMixnet := fromMixnet } c []
  | timer : Turned s c s c []

theorem turned_of_receiveMessage {s s' : Transport} {c c' : Correlator} {o : List Observed}
    {bytes : Bytes} {fromMixnet : Channel Bytes 32}
    (hrecv : s.fromMixnet.recv = .item bytes fromMixnet)
    (h : receiveMessage s c bytes fromMixnet = .turn s' c' o) : Turned s c s' c' o := by
  unfold receiveMessage at h
  split_ifs at h with hempty
  · cases h
    exact .ignore hrecv
  · rcases deliver_cases c.pending bytes with ⟨firing, hcarried, hlookup, hdeliver⟩ | hdeliver
    · rw [hdeliver] at h
      cases h
      exact .deliver hrecv hcarried hlookup
    · rw [hdeliver] at h
      cases h
      exact .ignore hrecv

theorem turned_of_arm {s s' : Transport} {c c' : Correlator} {a : Arm} {o : List Observed}
    (h : arm s c a = some (.turn s' c' o)) : Turned s c s' c' o := by
  cases a with
  | reserve =>
    simp only [arm] at h
    split_ifs at h with hguard hreceiver
    · split at h
      · next toMixnet hreserve =>
        cases h
        exact .reserve hguard.1 hreserve
      · cases h
    · cases h
  | receive =>
    simp only [arm] at h
    split_ifs at h with hguard
    · split at h
      · next request requests hrecv =>
        split at h
        · next toMixnet hsend =>
          cases h
          exact .receive hguard.1 hrecv hsend
        · cases h
      · next hrecv =>
        cases h
        exact .close hrecv
      · cases h
  | message =>
    simp only [arm] at h
    split at h
    · next bytes fromMixnet hrecv => exact turned_of_receiveMessage hrecv (Option.some.inj h)
    · cases h
    · cases h
  | timer =>
    simp only [arm] at h
    split_ifs at h with hsize
    · cases h
      exact .timer

theorem turn_cases {s s' : Transport} {a : Arm} {o : List Observed}
    (h : s.turn a = some (s', o)) :
    ∃ c, s.correlator = some c ∧
      ((arm s c a = some .returned ∧ s' = (leave s c).1 ∧ o = (leave s c).2) ∨
        ∃ s₁ c₁ o₁, arm s c a = some (.turn s₁ c₁ o₁) ∧ s' = (endTurn s₁ c₁).1 ∧
          o = o₁ ++ (endTurn s₁ c₁).2) := by
  unfold turn at h
  cases hc : s.correlator with
  | none => simp [hc] at h
  | some c =>
    refine ⟨c, rfl, ?_⟩
    simp only [hc] at h
    split at h
    · next s₁ c₁ o₁ harm =>
      cases h
      exact .inr ⟨s₁, c₁, o₁, harm, rfl, rfl⟩
    · next harm =>
      cases h
      exact .inl ⟨harm, rfl, rfl⟩
    · cases h

/-! ## What a step can do -/

/-- What accepting a parcel does. -/
theorem of_accept {s s' : Transport} {parcel : Parcel} {request : Request}
    (h : s.accept parcel = some (s', request)) :
    request = parcel.request s.oneshots.opened ∧
      s'.requests.queue = s.requests.queue ++ [request] ∧
      s'.oneshots = s.oneshots.openNext ∧ s'.correlator = s.correlator ∧
      s'.toMixnet = s.toMixnet ∧ s'.fromMixnet = s.fromMixnet ∧ s'.inflight = s.inflight ∧
      s'.requests.receiver = s.requests.receiver := by
  unfold accept at h
  split_ifs at h
  · split at h
    · next requests hsend =>
      cases h
      exact ⟨rfl, Channel.queue_of_send hsend, rfl, rfl, rfl, rfl, rfl,
        (Channel.of_send hsend).2.2.2⟩
    · cases h

theorem of_takeFrame {s s' : Transport} {out : OutFrame} (h : s.takeFrame = some (out, s')) :
    ∃ toMixnet, s.toMixnet.recv = .item out toMixnet ∧
      s' = { s with toMixnet := toMixnet } := by
  unfold takeFrame at h
  split at h
  · next toMixnet hrecv =>
    cases h
    exact ⟨toMixnet, hrecv, rfl⟩
  · cases h
  · cases h

theorem of_inbound {s s' : Transport} {message : Bytes} (h : s.inbound message = some s') :
    ∃ fromMixnet, s.fromMixnet.send message = some fromMixnet ∧
      s' = { s with fromMixnet := fromMixnet } := by
  unfold inbound at h
  split_ifs at h
  · split at h
    · next fromMixnet hsend =>
      cases h
      exact ⟨fromMixnet, hsend, rfl⟩
    · cases h

/-- A step of the surroundings that leaves the requests, the replies and the loop
alone. -/
structure Quiet (s s' : Transport) : Prop where
  queue : s'.requests.queue = s.requests.queue
  receiver : s'.requests.receiver = s.requests.receiver
  inbound : s'.fromMixnet.queue = s.fromMixnet.queue
  oneshots : s'.oneshots = s.oneshots
  correlator : s'.correlator = s.correlator
  inflight : s'.inflight = s.inflight

/-- The effects of a step. -/
inductive Stepped (s : Transport) : Transport → List Observed → Prop where
  | turn {s' a o} : s.turn a = some (s', o) → Stepped s s' o
  | accept {s' parcel request} : s.accept parcel = some (s', request) →
      Stepped s s' [.accepted request]
  | abandon (slot) : Stepped s (s.abandon slot) []
  | inbound {s' message} : s.inbound message = some s' → Stepped s s' [.arrived message]
  | quiet {s'} : Quiet s s' → Stepped s s' []

theorem stepped_of_step {s s' : Transport} {e : Event} {o : List Observed}
    (h : s.step e = some (s', o)) : Stepped s s' o := by
  cases e with
  | turn a => exact .turn h
  | accept parcel =>
    rcases Option.map_eq_some_iff.mp h with ⟨⟨s₁, request⟩, haccept, heq⟩
    cases heq
    exact .accept haccept
  | abandon slot =>
    cases h
    exact .abandon slot
  | closeRequests =>
    cases h
    exact .quiet ⟨rfl, rfl, rfl, rfl, rfl, rfl⟩
  | takeFrame =>
    rcases Option.map_eq_some_iff.mp h with ⟨⟨out, s₁⟩, htake, heq⟩
    cases heq
    rcases of_takeFrame htake with ⟨toMixnet, -, rfl⟩
    exact .quiet ⟨rfl, rfl, rfl, rfl, rfl, rfl⟩
  | inbound message =>
    rcases Option.map_eq_some_iff.mp h with ⟨s₁, hinbound, heq⟩
    cases heq
    exact .inbound hinbound
  | loseDriver =>
    cases h
    exact .quiet ⟨rfl, rfl, rfl, rfl, rfl, rfl⟩

end Transport

end Nym
end ZeroShim
