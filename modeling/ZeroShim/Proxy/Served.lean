import ZeroShim.Proxy.Lookups

/-!
# What is admitted can be served

A transaction that fits a submit frame fits a lookup reply, and the reply comes back
through the correlator, the waiting call and the transport as that transaction.

Main results:

- Theorem {lit}`encodeLookupReply_of_admitted`: the reply frame has room for whatever the
  submit frame had room for.
- Theorem {lit}`turn_fires_lookup`: the correlator fires the pending lookup with the reply.
- Theorem {lit}`admitted_served`: the chain from the submission to the intercept.
-/

namespace ZeroShim

open Library Wire Nym

/-! ## The three codecs -/

/-- A frame that encodes a transaction is read back as it. -/
theorem decodeSubmit_of_encoded {nonce : Nonce} {tx frame : Bytes}
    (h : encodeSubmit nonce tx = .ok frame) : decodeSubmit frame = .ok (nonce, tx) :=
  submit_fixedFrame.decode_encode (nonce, tx) frame h

/-- The reply frame has room for whatever the submit frame had room for. -/
theorem encodeLookupReply_of_admitted {nonce : Nonce} {tx frame : Bytes}
    (h : encodeSubmit nonce tx = .ok frame) (nonce' : Nonce) (height : UInt64) :
    ∃ reply, encodeLookupReply nonce' (.found height tx) = .ok reply ∧
      decodeLookupReply reply = .ok (nonce', .found height tx) := by
  have hadmitted : tx.length ≤ maxNymTxBytes :=
    (submit_fixedFrame.encode_isOk (nonce, tx)).mp ⟨frame, h⟩
  have hfits : (LookupReply.found height tx).txBytes.length ≤ maxLookupReplyTxBytes := by
    rw [maxLookupReplyTxBytes_eq, ← maxNymTxBytes_eq]
    exact hadmitted
  exact lookupReply_fixedFrame.exists_frame (x := (nonce', .found height tx)) hfits

/-! ## Through the correlator -/

namespace Nym
namespace Transport

/-- The end of a turn takes no value out of a reply channel. -/
theorem value_endTurn (s : Transport) (c : Correlator) (i : Nat) :
    ((endTurn s c).1.oneshots.cell i).value = (s.oneshots.cell i).value := by
  have hpublish : ∀ (s : Transport) (c : Correlator),
      ((publish s c).1.oneshots.cell i).value = (s.oneshots.cell i).value := by
    intro s c
    unfold publish
    split_ifs
    · exact Oneshots.value_dropSenders _ _ _
    · rfl
  exact (hpublish _ _).trans (Oneshots.value_dropSenders _ _ _)

/-- The next message is a lookup's reply, and somebody listens for it. -/
structure ReplyNext (s : Transport) (nonce : Nonce) (reply : LookupReply) (slot : Nat) :
    Prop where
  pending : s.pending.lookup nonce = some (.lookup slot)
  listening : (s.oneshots.cell slot).receiver = true
  next : ∃ message rest, s.fromMixnet.recv = .item message rest ∧
    decodeLookupReply message = .ok (nonce, reply)

/-- The correlator fires the pending lookup with the reply. -/
theorem turn_fires_lookup {s : Transport} {nonce : Nonce} {reply : LookupReply} {slot : Nat}
    (h : ReplyNext s nonce reply slot) :
    ∃ s' o, s.turn .message = some (s', o) ∧
      s'.oneshots.poll slot = .ready (.lookup reply) := by
  rcases h with ⟨hpending, hlistening, message, rest, hrecv, hdecode⟩
  cases hcorrelator : s.correlator with
  | none =>
    simp [pending, hcorrelator] at hpending
  | some c =>
    have hlookup : c.pending.lookup nonce = some (.lookup slot) := by
      simpa [pending, hcorrelator] using hpending
    have hcarried := Firing.carriedBy_of_reply hdecode slot
    refine ⟨_, _, turn_of_carried hcorrelator hrecv hcarried hlookup, ?_⟩
    rw [Oneshots.poll_eq_ready]
    refine (value_endTurn _ _ _).trans ?_
    exact Oneshots.poll_eq_ready.mp (Oneshots.poll_fire hlistening)

end Transport

/-- The call that awaits it returns with it. -/
theorem LookupCall.step_of_reply {s : Transport} {call : LookupCall} {attempt deadline slot : Nat}
    {nonce : Nonce} {reply : LookupReply} (handle : NymHandle) (now : Nat)
    (hphase : call.phase = .awaiting attempt deadline nonce slot)
    (hpoll : s.oneshots.poll slot = .ready (.lookup reply)) :
    ∃ s' call' o, call.step handle s now .poll = some (s', call', o) ∧
      call'.phase = .returned (.ok reply) := by
  unfold LookupCall.step
  rw [hphase]
  dsimp only
  rw [hpoll]
  exact ⟨_, _, _, rfl, rfl⟩

end Nym

/-! ## The chain -/

/-- What was admitted comes back: the hub's reply for it is a frame, and the correlator, the
call and the transport hand the intercept the transaction and its height. -/
theorem admitted_served {nonce : Nonce} {tx frame : Bytes}
    (hadmitted : encodeSubmit nonce tx = .ok frame) :
    ∃ tx', decodeSubmit frame = .ok (nonce, tx') ∧
      ∀ (nonce' : Nonce) (height : UInt64), ∃ reply,
        encodeLookupReply nonce' (.found height tx') = .ok reply ∧
        decodeLookupReply reply = .ok (nonce', .found height tx) ∧
        (∀ (s : Transport) rest slot, s.fromMixnet.recv = .item reply rest →
          s.pending.lookup nonce' = some (.lookup slot) →
          (s.oneshots.cell slot).receiver = true →
          ∃ s' o, s.turn .message = some (s', o) ∧
            ∀ handle now (call : LookupCall) attempt deadline,
              call.phase = .awaiting attempt deadline nonce' slot →
              ∃ s₂ call' o', call.step handle s' now .poll = some (s₂, call', o') ∧
                call'.phase = .returned (.ok (.found height tx))) ∧
        ∀ (world : World) (wireHash : Bytes),
          world.nymLookup wireHash = .ok (.found height tx) →
          (HubTransport.nym.getTransaction world wireHash).result = .ok (.found tx height) := by
  refine ⟨tx, decodeSubmit_of_encoded hadmitted, ?_⟩
  intro nonce' height
  rcases encodeLookupReply_of_admitted hadmitted nonce' height with ⟨reply, hencode, hdecode⟩
  refine ⟨reply, hencode, hdecode, ?_, ?_⟩
  · intro s rest slot hrecv hpending hlistening
    obtain ⟨s', o, hturn, hpoll⟩ := Transport.turn_fires_lookup
      (s := s) ⟨hpending, hlistening, reply, rest, hrecv, hdecode⟩
    refine ⟨s', o, hturn, ?_⟩
    intro handle now call attempt deadline hphase
    exact LookupCall.step_of_reply handle now hphase hpoll
  · intro world wireHash hlookup
    exact @result_getTransaction_found world .nym _ _ _ hlookup

/-- The largest admitted transaction, at the greatest height. -/
theorem admitted_served_largest :
    ∃ reply, encodeLookupReply (List.Vector.replicate 16 1)
        (.found (UInt64.ofNat (2 ^ 64 - 1)) (List.replicate maxNymTxBytes 7)) = .ok reply ∧
      decodeLookupReply reply = .ok (List.Vector.replicate 16 1,
        .found (UInt64.ofNat (2 ^ 64 - 1)) (List.replicate maxNymTxBytes 7)) := by
  obtain ⟨frame, hframe⟩ : ∃ frame, encodeSubmit (List.Vector.replicate 16 0)
      (List.replicate maxNymTxBytes 7) = .ok frame :=
    ⟨_, encodeSubmit_eq (List.length_replicate.le)⟩
  rcases admitted_served hframe with ⟨tx', hdecode, hserved⟩
  obtain ⟨reply, hencode, hback, -, -⟩ :=
    hserved (List.Vector.replicate 16 1) (UInt64.ofNat (2 ^ 64 - 1))
  rw [decodeSubmit_of_encoded hframe] at hdecode
  cases hdecode
  exact ⟨reply, hencode, hback⟩

end ZeroShim
