import ZeroShim.Intercept.GetTransaction
import ZeroShim.Zcash.Written

/-!
# The locally reported transaction id

The id that a wallet is told for a transaction diverted over the mixnet, against what the
classifier makes of the same bytes.  The classifier takes the bytes as one whole
transaction; the id is that of a transaction they start with.

Main results:

- Theorem {lit}`localTxid_total`: the id is computed without a panic.
- Theorem {lit}`txidAgrees_iff`: it agrees with the classifier but for a transaction with
  bytes behind it.
-/

namespace ZeroShim

open Library Zcash

/-! ## Display -/

theorem length_hexEncode (bs : Bytes) : (hexEncode bs).length = 2 * bs.length := by
  unfold hexEncode
  induction bs with
  | nil => rfl
  | cons b bs ih =>
    rw [List.flatMap_cons, List.length_append, ih, List.length_cons]
    simp only [List.length_cons, List.length_nil]
    omega

/-- A displayed id is not the empty message. -/
theorem displayTxid_ne_empty {libs : Libraries} {tx : Transaction} {txid : String}
    (h : displayTxid libs tx = .ok txid) : txid ≠ "" := by
  unfold displayTxid at h
  cases hhash : tx.hash libs with
  | none =>
    rw [hhash] at h
    cases h
  | some hash =>
    rw [hhash] at h
    cases h
    intro hempty
    have hlen := congrArg (fun s => s.toList.length) hempty
    simp [Hash.display, length_hexEncode] at hlen

/-! ## The id and the classifier -/

section Txid

variable (codecs : Codecs)

/-- What a wallet is told about bytes that the mixnet took agrees with the classifier. -/
structure TxidAgrees (raw : Bytes) (txid : String) : Prop where
  computed : localTxid codecs.libs raw = .ok txid
  told : ∀ world, world.nymSubmit raw = .ok () →
    (HubTransport.nym.submit codecs world raw).result = .ok (.accepted txid)
  agrees : txid ≠ "" ↔ classify codecs.libs raw ≠ .unparseable
  whole : txid ≠ "" → ∃ tx, Transaction.zcashDeserialize codecs.libs raw = .ok (tx, raw.length) ∧
    displayTxid codecs.libs tx = .ok txid

/-- One whole transaction and bytes behind it. -/
def TrailingBytes (libs : Libraries) (raw : Bytes) : Prop :=
  ∃ front trailing tx, raw = front ++ trailing ∧ trailing ≠ [] ∧
    Transaction.zcashDeserialize libs front = .ok (tx, front.length)

variable {codecs}

/-- A transaction that ends before the bytes do has bytes behind it. -/
theorem trailingBytes_iff {libs : Libraries} {raw : Bytes} :
    TrailingBytes libs raw ↔
      ∃ tx pos, Transaction.zcashDeserialize libs raw = .ok (tx, pos) ∧ pos ≠ raw.length := by
  constructor
  · intro h
    rcases h with ⟨front, trailing, tx, rfl, htrailing, hfront⟩
    refine ⟨tx, front.length, Transaction.zcashDeserialize_append hfront trailing, ?_⟩
    intro hlen
    rw [List.length_append] at hlen
    exact htrailing (List.eq_nil_of_length_eq_zero (by omega))
  · intro h
    rcases h with ⟨tx, pos, hparse, hpos⟩
    rcases Transaction.zcashDeserialize_eq_ok hparse with ⟨rest, hrun, hconsumed, -⟩
    rcases (Transaction.deserialize libs).prefixLocal hrun with ⟨front, hlimited, hlocal⟩
    have hraw : raw = front ++ (rest ++ raw.drop maxBlockBytes) := by
      rw [← List.append_assoc, ← hlimited, List.take_append_drop]
    have hlen : pos = front.length := by
      rw [hconsumed, hlimited, List.length_append]
      omega
    have hbound : front.length ≤ maxBlockBytes := by
      have htake := List.length_take_le maxBlockBytes raw
      rw [hlimited, List.length_append] at htake
      omega
    have hwhole := hlocal []
    rw [List.append_nil] at hwhole
    refine ⟨front, rest ++ raw.drop maxBlockBytes, tx, hraw, ?_,
      Transaction.zcashDeserialize_complete.mpr ⟨hbound, hwhole⟩⟩
    intro hnil
    rw [hnil, List.append_nil] at hraw
    exact hpos (hlen.trans (congrArg List.length hraw.symm))

/-- The id is computed without a panic: whatever parses can be hashed. -/
theorem localTxid_total {libs : Libraries} (hzero : libs.pushNum 0 = [0]) (raw : Bytes) :
    ∃ txid, localTxid libs raw = .ok txid := by
  unfold localTxid
  cases hparse : Transaction.zcashDeserialize libs raw with
  | error err => exact ⟨"", rfl⟩
  | ok parsed =>
    rcases Transaction.hash_of_deserialize hzero hparse with ⟨hash, hhash⟩
    dsimp only
    rw [displayTxid, hhash]
    exact ⟨_, rfl⟩

/-- The id is that of the transaction the bytes start with. -/
theorem localTxid_of_parsed {libs : Libraries} {raw : Bytes} {tx : Transaction} {pos : Nat}
    (h : Transaction.zcashDeserialize libs raw = .ok (tx, pos)) :
    localTxid libs raw = displayTxid libs tx := by
  rw [localTxid, h]

theorem result_submit_nym {world : World} {raw : Bytes} {txid : String}
    (htaken : world.nymSubmit raw = .ok ()) (htxid : localTxid codecs.libs raw = .ok txid) :
    (HubTransport.nym.submit codecs world raw).result = .ok (.accepted txid) := by
  simp only [HubTransport.submit]
  rw [Traced.bind_of_ok (Traced.result_act _ _), htaken]
  dsimp only
  rw [htxid]
  rfl

/-- An id that agrees is that of all the bytes. -/
theorem TxidAgrees.not_trailing {raw : Bytes} {txid : String}
    (h : TxidAgrees codecs raw txid) : ¬ TrailingBytes codecs.libs raw := by
  intro htrailing
  rcases trailingBytes_iff.mp htrailing with ⟨tx, pos, hparse, hpos⟩
  have hdisplay := h.computed
  rw [localTxid_of_parsed hparse] at hdisplay
  rcases h.whole (displayTxid_ne_empty hdisplay) with ⟨tx', hwhole, -⟩
  rw [hparse] at hwhole
  cases hwhole
  exact hpos rfl

/-- Bytes that do not parse have the empty message. -/
theorem txidAgrees_of_error {raw : Bytes} {err : SerializationError}
    (hparse : Transaction.zcashDeserialize codecs.libs raw = .error err) :
    TxidAgrees codecs raw "" := by
  have htxid : localTxid codecs.libs raw = .ok "" := by rw [localTxid, hparse]
  have hclass : classify codecs.libs raw = .unparseable := by
    rw [classify_eq_unparseable_iff, hparse]
    simp
  exact ⟨htxid, fun world htaken => result_submit_nym htaken htxid, by simp [hclass],
    fun hne => absurd rfl hne⟩

/-- Bytes that are one transaction have its id. -/
theorem txidAgrees_of_whole {raw : Bytes} {tx : Transaction} {txid : String}
    (hparse : Transaction.zcashDeserialize codecs.libs raw = .ok (tx, raw.length))
    (hdisplay : displayTxid codecs.libs tx = .ok txid) : TxidAgrees codecs raw txid := by
  have htxid : localTxid codecs.libs raw = .ok txid :=
    (localTxid_of_parsed hparse).trans hdisplay
  have hclass : classify codecs.libs raw ≠ .unparseable := by
    intro hunparseable
    exact classify_eq_unparseable_iff.mp hunparseable tx hparse
  exact ⟨htxid, fun world htaken => result_submit_nym htaken htxid,
    iff_of_true (displayTxid_ne_empty hdisplay) hclass, fun _ => ⟨tx, hparse, hdisplay⟩⟩

/-- The id agrees with the classifier exactly where no bytes are behind a whole
transaction. -/
theorem txidAgrees_iff (hzero : codecs.libs.pushNum 0 = [0]) (raw : Bytes) :
    (∃ txid, TxidAgrees codecs raw txid) ↔ ¬ TrailingBytes codecs.libs raw := by
  constructor
  · intro h
    rcases h with ⟨txid, hagrees⟩
    exact hagrees.not_trailing
  · intro hnone
    cases hparse : Transaction.zcashDeserialize codecs.libs raw with
    | error err => exact ⟨"", txidAgrees_of_error hparse⟩
    | ok parsed =>
      rcases parsed with ⟨tx, pos⟩
      have hpos : pos = raw.length := by
        by_contra hne
        exact hnone (trailingBytes_iff.mpr ⟨tx, pos, hparse, hne⟩)
      rcases localTxid_total hzero raw with ⟨txid, htxid⟩
      rw [localTxid_of_parsed hparse] at htxid
      exact ⟨txid, txidAgrees_of_whole (by rw [hparse, hpos]) htxid⟩

end Txid

/-! ## A transaction with a byte behind it -/

/-- Codecs whose scripts push zero by its opcode. -/
def scriptCodecs : Codecs :=
  { protoCodecs with
    libs := { plainLibraries with pushNum := fun n => if n = 0 then [0] else [] } }

theorem scriptCodecs_emptyV1 :
    Transaction.zcashDeserialize scriptCodecs.libs emptyV1Bytes = .ok (emptyV1, 10) := by
  rfl

/-- The least transaction alone has the id that its class promises. -/
theorem txidAgrees_emptyV1 : ∃ txid, TxidAgrees scriptCodecs emptyV1Bytes txid := by
  apply (@txidAgrees_iff scriptCodecs rfl emptyV1Bytes).mpr
  intro htrailing
  rcases trailingBytes_iff.mp htrailing with ⟨tx, pos, hparse, hpos⟩
  rw [scriptCodecs_emptyV1] at hparse
  cases hparse
  exact hpos rfl

/-- With a byte behind it, the bytes are unparseable to the classifier and still have an
id. -/
theorem trailingByte_txid :
    ¬ ∃ txid, TxidAgrees scriptCodecs (emptyV1Bytes ++ [0]) txid := by
  intro h
  rcases h with ⟨txid, hagrees⟩
  apply hagrees.not_trailing
  exact ⟨emptyV1Bytes, [0], emptyV1, rfl, by simp, scriptCodecs_emptyV1⟩

end ZeroShim
