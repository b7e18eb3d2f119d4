import ZeroShim.Library.FiniteMap
import ZeroShim.Wire.Codec

/-!
# Requests, replies and their correlation

What travels between the callers, the correlator and the driver, and
{lit}`deliver`, which matches one inbound message to the request waiting for it.
A waiter names the one-shot channel its caller listens on.

Main results:

- Theorem {lit}`deliver_cases`: a message either fires the waiter pending under its
  nonce, with what it decodes to, or leaves the pending map as it was.
- Theorem {lit}`deliver_ignored`: a message that is empty, undecodable, of the wrong
  kind or for an unknown nonce is of the second sort.
-/

namespace ZeroShim
namespace Nym

open Library Wire

/-- Reply SURBs attached to a submission. -/
def submitReplySurbs : Nat := 13

/-- Reply SURBs attached to a lookup. -/
def lookupReplySurbs : Nat := 60

/-! ## Data -/

/-- What a request waits for, and on which channel. -/
inductive Waiter where
  | ack (slot : Nat)
  | lookup (slot : Nat)
deriving DecidableEq, Repr

/-- What a waiter is fired with. -/
inductive Answer where
  | ack (kind : AckKind)
  | lookup (reply : LookupReply)
deriving DecidableEq, Repr

def Waiter.slot : Waiter → Nat
  | .ack slot => slot
  | .lookup slot => slot

def Waiter.isAck : Waiter → Bool
  | .ack _ => true
  | .lookup _ => false

def Waiter.isLookup : Waiter → Bool
  | .ack _ => false
  | .lookup _ => true

/-- One request awaiting its reply. -/
structure Request where
  nonce : Nonce
  frame : Bytes
  replySurbs : Nat
  waiter : Waiter
  target : Nat
deriving DecidableEq

/-- One outbound frame for the driver. -/
structure OutFrame where
  frame : Bytes
  replySurbs : Nat
  target : Nat
deriving DecidableEq, Repr

/-- The frame of a request, as the driver is handed it. -/
def Request.outFrame (request : Request) : OutFrame :=
  ⟨request.frame, request.replySurbs, request.target⟩

/-- A request as the pending map knows it. -/
abbrev Ticket := (_ : Nonce) × Waiter

def Request.ticket (request : Request) : Ticket := ⟨request.nonce, request.waiter⟩

@[simp] theorem Request.ticket_fst (request : Request) : request.ticket.1 = request.nonce := rfl

@[simp] theorem Request.ticket_snd (request : Request) : request.ticket.2 = request.waiter := rfl

/-- The requests awaiting a reply, by nonce. -/
abbrev Pending := FiniteMap Nonce Waiter

/-- One waiter fired, and with what. -/
structure Firing where
  nonce : Nonce
  waiter : Waiter
  answer : Answer
deriving DecidableEq

def Firing.ticket (firing : Firing) : Ticket := ⟨firing.nonce, firing.waiter⟩

/-! ## Delivery -/

/-- Take out the waiter under a nonce; fire it if it is of the answer's kind and put
it back otherwise. -/
def settle (ofKind : Waiter → Bool) (pending : Pending) (nonce : Nonce) (answer : Answer) :
    Pending × Option Firing :=
  match pending.lookup nonce with
  | none => (pending.erase nonce, none)
  | some waiter =>
    if ofKind waiter then (pending.erase nonce, some ⟨nonce, waiter, answer⟩)
    else ((pending.erase nonce).insert nonce waiter, none)

/-- Match one inbound reply frame to its waiter and fire it. -/
def deliver (pending : Pending) (bytes : Bytes) : Pending × Option Firing :=
  if bytes.length = ackBytes then
    match decodeAck bytes with
    | .ok (nonce, kind) => settle Waiter.isAck pending nonce (.ack kind)
    | .error _ => (pending, none)
  else if bytes.length = frameBytes then
    match decodeLookupReply bytes with
    | .ok (nonce, reply) => settle Waiter.isLookup pending nonce (.lookup reply)
    | .error _ => (pending, none)
  else (pending, none)

/-- The message is a reply frame with the firing's nonce and answer, of the kind its
waiter is for. -/
def Firing.CarriedBy (firing : Firing) (bytes : Bytes) : Prop :=
  match firing.waiter, firing.answer with
  | .ack _, .ack kind => bytes.length = ackBytes ∧ decodeAck bytes = .ok (firing.nonce, kind)
  | .lookup _, .lookup reply =>
    bytes.length = frameBytes ∧ decodeLookupReply bytes = .ok (firing.nonce, reply)
  | _, _ => False

/-- The message is an answer to nothing that is pending. -/
inductive Ignored (pending : Pending) (bytes : Bytes) : Prop where
  | empty : bytes = [] → Ignored pending bytes
  | undecodable : (∀ x, decodeAck bytes ≠ .ok x) → (∀ x, decodeLookupReply bytes ≠ .ok x) →
      Ignored pending bytes
  | ackForLookup {nonce kind slot} : decodeAck bytes = .ok (nonce, kind) →
      pending.lookup nonce = some (.lookup slot) → Ignored pending bytes
  | replyForSubmit {nonce reply slot} : decodeLookupReply bytes = .ok (nonce, reply) →
      pending.lookup nonce = some (.ack slot) → Ignored pending bytes
  | unknownAck {nonce kind} : decodeAck bytes = .ok (nonce, kind) →
      pending.lookup nonce = none → Ignored pending bytes
  | unknownReply {nonce reply} : decodeLookupReply bytes = .ok (nonce, reply) →
      pending.lookup nonce = none → Ignored pending bytes

theorem settle_of_lookup_eq_none {ofKind : Waiter → Bool} {pending : Pending} {nonce : Nonce}
    {answer : Answer} (h : pending.lookup nonce = none) :
    settle ofKind pending nonce answer = (pending, none) := by
  unfold settle
  rw [h]
  simp only [FiniteMap.erase_of_lookup_eq_none h]

/-- The remove-and-reinsert path leaves the map as it was. -/
theorem settle_of_other_kind {ofKind : Waiter → Bool} {pending : Pending} {nonce : Nonce}
    {answer : Answer} {waiter : Waiter} (h : pending.lookup nonce = some waiter)
    (hkind : ofKind waiter = false) : settle ofKind pending nonce answer = (pending, none) := by
  unfold settle
  rw [h]
  simp only [hkind, Bool.false_eq_true, if_false, FiniteMap.insert_erase_of_lookup h]

theorem settle_of_kind {ofKind : Waiter → Bool} {pending : Pending} {nonce : Nonce}
    {answer : Answer} {waiter : Waiter} (h : pending.lookup nonce = some waiter)
    (hkind : ofKind waiter = true) :
    settle ofKind pending nonce answer =
      (pending.erase nonce, some ⟨nonce, waiter, answer⟩) := by
  unfold settle
  rw [h]
  simp only [hkind, if_true]

/-- What taking a nonce's waiter out can do. -/
theorem settle_cases (ofKind : Waiter → Bool) (pending : Pending) (nonce : Nonce)
    (answer : Answer) :
    (∃ waiter, pending.lookup nonce = some waiter ∧ ofKind waiter = true ∧
        settle ofKind pending nonce answer =
          (pending.erase nonce, some ⟨nonce, waiter, answer⟩)) ∨
      settle ofKind pending nonce answer = (pending, none) := by
  cases hlookup : pending.lookup nonce with
  | none => exact .inr (settle_of_lookup_eq_none hlookup)
  | some waiter =>
    cases hkind : ofKind waiter with
    | true => exact .inl ⟨waiter, rfl, hkind, settle_of_kind hlookup hkind⟩
    | false => exact .inr (settle_of_other_kind hlookup hkind)

/-- A message fires the waiter pending under its nonce with what it carries, or
changes nothing. -/
theorem deliver_cases (pending : Pending) (bytes : Bytes) :
    (∃ firing : Firing, firing.CarriedBy bytes ∧
        pending.lookup firing.nonce = some firing.waiter ∧
        deliver pending bytes = (pending.erase firing.nonce, some firing)) ∨
      deliver pending bytes = (pending, none) := by
  unfold deliver
  split_ifs with hack hframe
  · cases hdecode : decodeAck bytes with
    | error e => exact .inr rfl
    | ok x =>
      rcases x with ⟨nonce, kind⟩
      rcases settle_cases Waiter.isAck pending nonce (.ack kind) with
        ⟨waiter, hlookup, hkind, hsettle⟩ | hsame
      · cases waiter with
        | ack slot => exact .inl ⟨⟨nonce, .ack slot, .ack kind⟩, ⟨hack, hdecode⟩, hlookup, hsettle⟩
        | lookup slot => simp [Waiter.isAck] at hkind
      · exact .inr hsame
  · cases hdecode : decodeLookupReply bytes with
    | error e => exact .inr rfl
    | ok x =>
      rcases x with ⟨nonce, reply⟩
      rcases settle_cases Waiter.isLookup pending nonce (.lookup reply) with
        ⟨waiter, hlookup, hkind, hsettle⟩ | hsame
      · cases waiter with
        | ack slot => simp [Waiter.isLookup] at hkind
        | lookup slot =>
          exact .inl ⟨⟨nonce, .lookup slot, .lookup reply⟩, ⟨hframe, hdecode⟩, hlookup, hsettle⟩
      · exact .inr hsame
  · exact .inr rfl

theorem deliver_of_ack {bytes : Bytes} {nonce : Nonce} {kind : AckKind}
    (h : decodeAck bytes = .ok (nonce, kind)) (pending : Pending) :
    deliver pending bytes = settle Waiter.isAck pending nonce (.ack kind) := by
  have hlen : bytes.length = ackBytes := ((decodeAck_eq_ok_iff bytes _).mp h).1
  unfold deliver
  rw [if_pos hlen, h]

theorem deliver_of_reply {bytes : Bytes} {nonce : Nonce} {reply : LookupReply}
    (h : decodeLookupReply bytes = .ok (nonce, reply)) (pending : Pending) :
    deliver pending bytes = settle Waiter.isLookup pending nonce (.lookup reply) := by
  have hlen : bytes.length = frameBytes := ((decodeLookupReply_eq_ok_iff bytes _).mp h).1
  have hack : bytes.length ≠ ackBytes := by rw [hlen, ackBytes_eq, frameBytes_eq]; decide
  unfold deliver
  rw [if_neg hack, if_pos hlen, h]

theorem Firing.carriedBy_of_reply {bytes : Bytes} {nonce : Nonce} {reply : LookupReply}
    (h : decodeLookupReply bytes = .ok (nonce, reply)) (slot : Nat) :
    Firing.CarriedBy ⟨nonce, .lookup slot, .lookup reply⟩ bytes :=
  ⟨((decodeLookupReply_eq_ok_iff bytes _).mp h).1, h⟩

/-- A message that carries a firing of what is pending fires it. -/
theorem deliver_of_carried {pending : Pending} {firing : Firing} {bytes : Bytes}
    (hcarried : firing.CarriedBy bytes) (h : pending.lookup firing.nonce = some firing.waiter) :
    deliver pending bytes = (pending.erase firing.nonce, some firing) := by
  rcases firing with ⟨nonce, waiter, answer⟩
  cases waiter <;> cases answer
  · exact (deliver_of_ack hcarried.2 pending).trans (settle_of_kind h rfl)
  · exact hcarried.elim
  · exact hcarried.elim
  · exact (deliver_of_reply hcarried.2 pending).trans (settle_of_kind h rfl)

/-- What answers nothing pending leaves the pending map unchanged and fires nothing. -/
theorem deliver_ignored {pending : Pending} {bytes : Bytes} (h : Ignored pending bytes) :
    deliver pending bytes = (pending, none) := by
  rcases h with hempty | ⟨hack, hreply⟩ | ⟨hdecode, hlookup⟩ | ⟨hdecode, hlookup⟩ |
    ⟨hdecode, hlookup⟩ | ⟨hdecode, hlookup⟩
  · unfold deliver
    simp [hempty, ackBytes_eq, frameBytes_eq]
  · rcases deliver_cases pending bytes with ⟨⟨nonce, waiter, answer⟩, hcarried, -⟩ | hsame
    · cases waiter <;> cases answer
      · exact absurd hcarried.2 (hack _)
      · exact hcarried.elim
      · exact hcarried.elim
      · exact absurd hcarried.2 (hreply _)
    · exact hsame
  · rw [deliver_of_ack hdecode, settle_of_other_kind hlookup rfl]
  · rw [deliver_of_reply hdecode, settle_of_other_kind hlookup rfl]
  · rw [deliver_of_ack hdecode, settle_of_lookup_eq_none hlookup]
  · rw [deliver_of_reply hdecode, settle_of_lookup_eq_none hlookup]

end Nym
end ZeroShim
