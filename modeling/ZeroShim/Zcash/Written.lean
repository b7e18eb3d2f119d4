import ZeroShim.Zcash.Transaction

/-!
# What is read can be written

The id of a version 1 to 4 transaction is a hash of its serialization.  Whatever the
deserializer returns can be serialized, so it has an id.

Main results:

- Theorem {lit}`ensures_input`: an input that was read can be written, a coinbase by the
  script it was read from.
- Theorem {lit}`hash_of_deserialize`: a transaction that was read has an id.
-/

namespace ZeroShim
namespace Zcash

open Library Writer

/-! ## Encodings -/

theorem succeeds_le (k n : Nat) : (writeLe k n).Succeeds := succeeds_bytes _

theorem succeeds_u8 (x : UInt8) : (writeU8 x).Succeeds := succeeds_le _ _

theorem succeeds_u32 (x : UInt32) : (writeU32 x).Succeeds := succeeds_le _ _

theorem succeeds_writeBytes {n : Nat} (w : List.Vector UInt8 n) : (writeBytes w).Succeeds :=
  succeeds_bytes _

/-- Every amount can be written. -/
theorem succeeds_amount {c : Constraint} (amount : Amount c) : amount.serialize.Succeeds :=
  succeeds_le _ _

/-- Every compact size can be written. -/
theorem succeeds_compactSize64 (n : Nat) : (CompactSize64.serialize n).Succeeds := by
  unfold CompactSize64.serialize
  split_ifs
  · exact succeeds_u8 _
  · exact (succeeds_u8 _).append (succeeds_le _ _)
  · exact (succeeds_u8 _).append (succeeds_le _ _)
  · exact (succeeds_u8 _).append (succeeds_le _ _)

/-- A length that fits a message can be written. -/
theorem succeeds_len {n : Nat} (h : n ≤ maxProtocolMessageLen) : (serializeLen n).Succeeds := by
  have hsmall : ¬ 2 ^ 32 ≤ n := by
    rw [maxProtocolMessageLen] at h
    omega
  unfold serializeLen CompactSizeMessage.tryFrom
  rw [if_neg hsmall, dif_pos h]
  exact succeeds_compactSize64 n

theorem succeeds_emptyList : serializeEmptyList.Succeeds := succeeds_len (Nat.zero_le _)

/-- Bytes within the protocol limit can be written. -/
theorem succeeds_serializeBytes {bs : Bytes} (h : bs.length ≤ maxProtocolMessageLen) :
    (serializeBytes bs).Succeeds :=
  (succeeds_len h).append (succeeds_bytes bs)

/-- A vector can be written when each of its entries can. -/
theorem succeeds_vec {α : Type} {f : α → Writer} {xs : List α}
    (hlen : xs.length ≤ maxProtocolMessageLen) (h : ∀ x ∈ xs, (f x).Succeeds) :
    (serializeVec f xs).Succeeds :=
  (succeeds_len hlen).append (succeeds_each h)

/-- Every entry of a counted list has what its reader ensures. -/
theorem ensures_externalCount {α : Type} {p : Deserializer α} {Q : α → Prop}
    (hp : Ensures p Q) (maxAllocation n : Nat) :
    Ensures (deserializeExternalCount maxAllocation p n) fun xs => ∀ x ∈ xs.toList, Q x :=
  .ite (fun _ => .fail _ _) fun _ => .readMany hp n

/-- A list that was read can be written where its items can. -/
theorem ensures_vec {α : Type} {p : Deserializer α} {f : α → Writer}
    (hp : Ensures p fun x => (f x).Succeeds) (maxAllocation : Nat) :
    Ensures (deserializeVec maxAllocation p) fun xs => (serializeVec f xs).Succeeds := by
  unfold deserializeVec
  refine .skip fun len => ?_
  refine (ensures_externalCount hp maxAllocation len.size).bind ?_
  intro xs hxs
  refine .pure (succeeds_vec ?_ hxs)
  rw [List.Vector.toList_length]
  exact len.le_max

/-- A counted read returns as many bytes as it was asked for. -/
theorem ensures_bytesExternalCount (n : Nat) :
    Ensures (deserializeBytesExternalCount n) (List.length · = n) :=
  .ite (fun _ => .fail _ _) fun _ => .readExact _ n

/-- Bytes that were read can be written again. -/
theorem ensures_bytes : Ensures deserializeBytes fun bs => (serializeBytes bs).Succeeds := by
  unfold deserializeBytes
  refine .skip fun len => ?_
  intro bs w rest hrun
  have hlen := ensures_bytesExternalCount len.size bs w rest hrun
  exact succeeds_serializeBytes (hlen ▸ len.le_max)

/-! ## Coinbase scripts -/

/-- The height that a coinbase script seems to push, and the length of the push. -/
def coinbaseCandidate (scriptSig : Bytes) : Except SerializationError (Nat × Nat) :=
  match scriptSig.head? with
  | none => .error (.parse "Empty coinbase script")
  | some first =>
    if 0x51 ≤ first.toNat ∧ first.toNat ≤ 0x60 then .ok (first.toNat - 0x50, 1)
    else if 1 ≤ first.toNat ∧ first.toNat ≤ 5 then
      if first.toNat < scriptSig.length then
        .ok (leNat (field scriptSig 1 first.toNat), 1 + first.toNat)
      else .error (.parse "Coinbase height push truncated")
    else .error (.parse "Invalid coinbase script prefix")

/-- The checks that a candidate must pass. -/
def checkCandidate (pushNum : Int → Bytes) (scriptSig : Bytes) (candidate : Nat × Nat) :
    Except SerializationError (UInt32 × Bytes) :=
  if scriptSig.length < candidate.2 then .error (.parse "Coinbase script too short")
  else if scriptSig.take candidate.2 ≠ pushNum (candidate.1 : Int) then
    .error (.parse "Non-canonical coinbase height encoding")
  else if 2 ^ 32 ≤ candidate.1 then .error (.parse "Negative coinbase height")
  else if maxHeight < candidate.1 then .error (.parse "Coinbase height exceeds Height::MAX")
  else .ok (UInt32.ofNat candidate.1, scriptSig.drop candidate.2)

/-- The coinbase height is a candidate that passes the check. -/
theorem parseCoinbaseHeight_eq (pushNum : Int → Bytes) (scriptSig : Bytes) :
    parseCoinbaseHeight pushNum scriptSig =
      (coinbaseCandidate scriptSig).bind (checkCandidate pushNum scriptSig) := by
  cases scriptSig with
  | nil => rfl
  | cons first rest =>
    have hjoin : ∀ candidate : Nat × Nat, checkCandidate pushNum (first :: rest) candidate =
        (do
          if (first :: rest).length < candidate.2 then
            throw (.parse "Coinbase script too short")
          if (first :: rest).take candidate.2 ≠ pushNum (candidate.1 : Int) then
            throw (.parse "Non-canonical coinbase height encoding")
          if 2 ^ 32 ≤ candidate.1 then
            throw (.parse "Negative coinbase height")
          if maxHeight < candidate.1 then
            throw (.parse "Coinbase height exceeds Height::MAX")
          return (UInt32.ofNat candidate.1, (first :: rest).drop candidate.2)) := by
      intro candidate
      unfold checkCandidate
      dsimp only
      split_ifs <;> rfl
    by_cases hop : 0x51 ≤ first.toNat ∧ first.toNat ≤ 0x60
    · have hcandidate : coinbaseCandidate (first :: rest) = .ok (first.toNat - 0x50, 1) :=
        if_pos hop
      rw [hcandidate, Except.bind, hjoin]
      exact if_pos hop
    by_cases hpush : 1 ≤ first.toNat ∧ first.toNat ≤ 5
    · by_cases hlen : first.toNat < (first :: rest).length
      · have hcandidate : coinbaseCandidate (first :: rest) =
            .ok (leNat (field (first :: rest) 1 first.toNat), 1 + first.toNat) :=
          (if_neg hop).trans ((if_pos hpush).trans (if_pos hlen))
        rw [hcandidate, Except.bind, hjoin]
        exact (if_neg hop).trans ((if_pos hpush).trans (if_pos hlen))
      · have hcandidate : coinbaseCandidate (first :: rest) =
            .error (.parse "Coinbase height push truncated") :=
          (if_neg hop).trans ((if_pos hpush).trans (if_neg hlen))
        rw [hcandidate]
        exact (if_neg hop).trans ((if_pos hpush).trans (if_neg hlen))
    · have hcandidate : coinbaseCandidate (first :: rest) =
          .error (.parse "Invalid coinbase script prefix") :=
        (if_neg hop).trans (if_neg hpush)
      rw [hcandidate]
      exact (if_neg hop).trans (if_neg hpush)

/-- A candidate starts from a first byte that is not zero, and pushes something. -/
theorem coinbaseCandidate_eq_ok {scriptSig : Bytes} {candidate : Nat × Nat}
    (h : coinbaseCandidate scriptSig = .ok candidate) :
    ∃ first rest, scriptSig = first :: rest ∧ first ≠ 0 ∧ 0 < candidate.2 := by
  unfold coinbaseCandidate at h
  cases scriptSig with
  | nil => cases h
  | cons first rest =>
    dsimp only [List.head?_cons] at h
    have hnonzero : 0 < first.toNat → first ≠ 0 := by
      intro hpos hzero
      rw [hzero] at hpos
      exact absurd hpos (by decide)
    refine ⟨first, rest, rfl, ?_⟩
    split_ifs at h with hop hpush hlen
    · cases h
      exact ⟨hnonzero (by omega), Nat.one_pos⟩
    · cases h
      exact ⟨hnonzero (by omega), by omega⟩

section PushNum

variable {pushNum : Int → Bytes}

/-- A script that announces a height is the push of that height and the miner's data, and
the height is not zero: zero is pushed by an opcode that announces none. -/
theorem parseCoinbaseHeight_eq_ok (hzero : pushNum 0 = [0]) {scriptSig data : Bytes}
    {height : UInt32} (h : parseCoinbaseHeight pushNum scriptSig = .ok (height, data)) :
    height ≠ 0 ∧ scriptSig = pushNum (height.toNat : Int) ++ data := by
  rw [parseCoinbaseHeight_eq] at h
  cases hcandidate : coinbaseCandidate scriptSig with
  | error err =>
    rw [hcandidate] at h
    cases h
  | ok candidate =>
    rw [hcandidate, Except.bind, checkCandidate] at h
    split_ifs at h with hshort hpush hword hmax
    cases h
    rw [not_not] at hpush
    have hvalue : (UInt32.ofNat candidate.1).toNat = candidate.1 :=
      UInt32.toNat_ofNat_of_lt' (Nat.lt_of_not_le hword)
    rw [hvalue, ← hpush]
    refine ⟨?_, (List.take_append_drop _ _).symm⟩
    intro hheight
    rw [hheight] at hvalue
    rcases coinbaseCandidate_eq_ok hcandidate with ⟨first, rest, rfl, hfirst, hlen⟩
    rcases Nat.exists_eq_succ_of_ne_zero (Nat.ne_of_gt hlen) with ⟨len, hlen⟩
    rw [← hvalue, hlen, List.take_succ_cons] at hpush
    exact hfirst (List.cons.inj (hpush.trans hzero)).1

/-- The script of a coinbase that was read is the script it was read from. -/
theorem coinbaseScript_of_read (hzero : pushNum 0 = [0]) {scriptSig data : Bytes}
    {height sequence : UInt32}
    (h : (if scriptSig = genesisCoinbaseScriptSig then .ok (0, genesisCoinbaseScriptSig)
      else parseCoinbaseHeight pushNum scriptSig) = .ok (height, data)) :
    Input.coinbaseScript pushNum (.coinbase height data sequence) = some scriptSig := by
  unfold Input.coinbaseScript
  dsimp only
  split_ifs at h with hgenesis
  · cases h
    rw [if_pos rfl, if_pos rfl, hgenesis]
  · rcases parseCoinbaseHeight_eq_ok hzero h with ⟨hne, hscript⟩
    rw [if_neg hne, hscript]

/-! ## Transparent parts -/

/-- An input that was read can be written. -/
theorem ensures_input (hzero : pushNum 0 = [0]) :
    Ensures (Input.deserialize pushNum) fun input => (input.serialize pushNum).Succeeds := by
  unfold Input.deserialize
  refine .skip fun hash => ?_
  refine .ite (fun _ => ?_) fun _ => ?_
  · refine .skip fun index => ?_
    refine .ite (fun _ => .fail _ _) fun _ => ?_
    refine .skip fun len => ?_
    refine .ite (fun _ => .fail _ _) fun _ => ?_
    refine .ite (fun _ => .fail _ _) fun _ => ?_
    refine (ensures_bytesExternalCount len.size).bind ?_
    intro scriptSig hlen
    refine (Ensures.ofExcept _).bind ?_
    intro parsed hparsed
    refine .skip fun sequence => .pure ?_
    unfold Input.serialize
    dsimp only
    rw [coinbaseScript_of_read hzero hparsed]
    refine (succeeds_bytes _).append ((succeeds_u32 _).append (.append ?_ (succeeds_u32 _)))
    exact succeeds_serializeBytes (hlen ▸ len.le_max)
  · refine .skip fun index => ?_
    refine ensures_bytes.bind ?_
    intro unlockScript hscript
    refine .skip fun sequence => .pure ?_
    exact (succeeds_writeBytes hash).append
      ((succeeds_u32 _).append (hscript.append (succeeds_u32 _)))

end PushNum

/-- An output that was read can be written again. -/
theorem ensures_output : Ensures Output.deserialize fun output => output.serialize.Succeeds := by
  unfold Output.deserialize
  refine .skip fun value => ?_
  refine ensures_bytes.bind ?_
  intro lockScript hscript
  exact .pure ((succeeds_amount value).append hscript)

/-- A lock time that was read can be written again. -/
theorem ensures_lockTime :
    Ensures LockTime.deserialize fun lockTime => lockTime.serialize.Succeeds := by
  unfold LockTime.deserialize
  refine .skip fun n => ?_
  have hn : n.toNat < 2 ^ 32 := n.toNat_lt
  refine .ite (fun _ => .pure (succeeds_u32 n)) fun _ => .pure ?_
  unfold LockTime.serialize
  dsimp only
  rw [if_pos ⟨by omega, by exact_mod_cast hn⟩]
  exact succeeds_u32 _

/-! ## Shielded parts -/

theorem succeeds_joinSplit {proofSize : Nat} (js : JoinSplit proofSize) :
    js.serialize.Succeeds := by
  unfold JoinSplit.serialize
  refine (succeeds_amount _).append ((succeeds_amount _).append ?_)
  repeat' refine .append (succeeds_writeBytes _) ?_
  exact succeeds_writeBytes _

/-- Joinsplit data that was read can be written again. -/
theorem ensures_joinSplitData (proofSize : Nat) :
    Ensures (deserializeJoinSplitData proofSize) fun jsd =>
      (serializeJoinSplitData jsd).Succeeds := by
  unfold deserializeJoinSplitData
  have hjoinsplits := ensures_vec (p := JoinSplit.deserialize proofSize)
    (f := JoinSplit.serialize) (fun _ js _ _ => succeeds_joinSplit js)
    (JoinSplit.maxAllocation proofSize)
  refine hjoinsplits.bind ?_
  intro joinsplits hsucceeds
  cases joinsplits with
  | nil => exact .pure succeeds_emptyList
  | cons first rest =>
    refine .skip fun pubKey => .skip fun sig => .pure ?_
    exact hsucceeds.append ((succeeds_writeBytes _).append (succeeds_writeBytes _))

theorem Sapling.succeeds_spend (spend : Sapling.Spend Bytes32) : spend.serialize.Succeeds := by
  unfold Sapling.Spend.serialize
  repeat' refine .append (succeeds_writeBytes _) ?_
  exact succeeds_writeBytes _

theorem Sapling.succeeds_output (output : Sapling.Output) : output.serialize.Succeeds := by
  unfold Sapling.Output.serialize
  repeat' refine .append (succeeds_writeBytes _) ?_
  exact succeeds_writeBytes _

/-- An assembled bundle can be written when its parts can. -/
theorem Sapling.ensures_assembleV4 {valueBalance : Amount .negativeAllowed}
    {spends : List (Sapling.Spend Bytes32)} {outputs : List Sapling.Output}
    (hspends : spends.length ≤ maxProtocolMessageLen)
    (houtputs : (serializeVec Sapling.Output.serialize outputs).Succeeds) :
    Ensures (Transaction.assembleSaplingV4 valueBalance spends outputs) fun sapling =>
      (Transaction.serializeSaplingV4 sapling).Succeeds ∧
        (Transaction.serializeBindingSigV4 sapling).Succeeds := by
  have hsucceeds : (serializeVec Sapling.Spend.serialize spends).Succeeds :=
    succeeds_vec hspends fun spend _ => succeeds_spend spend
  unfold Transaction.assembleSaplingV4
  split_ifs with hspend houtput hbalance
  · refine .skip fun bindingSig => .pure ⟨?_, succeeds_writeBytes bindingSig⟩
    exact (succeeds_amount _).append (hsucceeds.append houtputs)
  · refine .skip fun bindingSig => .pure ⟨?_, succeeds_writeBytes bindingSig⟩
    exact (succeeds_amount _).append (succeeds_emptyList.append houtputs)
  · exact .fail _ _
  · refine .pure ⟨?_, succeeds_bytes []⟩
    exact (succeeds_le _ _).append (succeeds_emptyList.append succeeds_emptyList)

/-! ## Transactions -/

namespace Transaction

/-- The transaction has an id. -/
def HasHash (libs : Libraries) (tx : Transaction) : Prop := ∃ hash, tx.hash libs = some hash

section Hash

variable {libs : Libraries}

/-- Inputs that were read can be written again. -/
theorem ensures_inputs (hzero : libs.pushNum 0 = [0]) :
    Ensures (deserializeInputs libs) fun inputs => (serializeInputs libs inputs).Succeeds :=
  ensures_vec (ensures_input hzero) _

theorem ensures_outputs :
    Ensures deserializeOutputs fun outputs => (serializeOutputs outputs).Succeeds :=
  ensures_vec ensures_output _

/-- A transaction of an early version is hashed as it is written. -/
theorem hasHash_of_succeeds {tx : Transaction} {body : Writer}
    (hhash : tx.hash libs = (serialize libs tx).output.map libs.sha256d)
    (hserialize : serialize libs tx = writeU32 tx.header ++ body) (hbody : body.Succeeds) :
    tx.HasHash libs := by
  rcases (succeeds_u32 tx.header).append hbody with ⟨bs, hbs⟩
  refine ⟨libs.sha256d bs, ?_⟩
  rw [hhash, hserialize, hbs, Option.map_some]

/-- A version 1 transaction that was read has a hash. -/
theorem ensures_v1 (hzero : libs.pushNum 0 = [0]) :
    Ensures (deserializeV1 libs) (HasHash libs) := by
  unfold deserializeV1
  refine (ensures_inputs hzero).bind ?_
  intro inputs hinputs
  refine ensures_outputs.bind ?_
  intro outputs houtputs
  refine ensures_lockTime.bind ?_
  intro lockTime hlockTime
  refine .pure (hasHash_of_succeeds rfl rfl ?_)
  exact hinputs.append (houtputs.append hlockTime)

/-- A version 2 transaction that was read has a hash. -/
theorem ensures_v2 (hzero : libs.pushNum 0 = [0]) :
    Ensures (deserializeV2 libs) (HasHash libs) := by
  unfold deserializeV2
  refine (ensures_inputs hzero).bind ?_
  intro inputs hinputs
  refine ensures_outputs.bind ?_
  intro outputs houtputs
  refine ensures_lockTime.bind ?_
  intro lockTime hlockTime
  refine (ensures_joinSplitData bctv14).bind ?_
  intro joinsplitData hjoinsplits
  refine .pure (hasHash_of_succeeds rfl rfl ?_)
  exact hinputs.append (houtputs.append (hlockTime.append hjoinsplits))

/-- A version 3 transaction that was read has a hash. -/
theorem ensures_v3 (hzero : libs.pushNum 0 = [0]) :
    Ensures (deserializeV3 libs) (HasHash libs) := by
  unfold deserializeV3
  refine .skip fun _ => ?_
  refine (ensures_inputs hzero).bind ?_
  intro inputs hinputs
  refine ensures_outputs.bind ?_
  intro outputs houtputs
  refine ensures_lockTime.bind ?_
  intro lockTime hlockTime
  refine .skip fun expiryHeight => ?_
  refine (ensures_joinSplitData bctv14).bind ?_
  intro joinsplitData hjoinsplits
  refine .pure (hasHash_of_succeeds rfl rfl ?_)
  exact (succeeds_u32 _).append (hinputs.append (houtputs.append (hlockTime.append
    ((succeeds_u32 _).append hjoinsplits))))

/-- A version 4 transaction that was read has a hash. -/
theorem ensures_v4 (hzero : libs.pushNum 0 = [0]) :
    Ensures (deserializeV4 libs) (HasHash libs) := by
  unfold deserializeV4
  refine .skip fun _ => ?_
  refine (ensures_inputs hzero).bind ?_
  intro inputs hinputs
  refine ensures_outputs.bind ?_
  intro outputs houtputs
  refine ensures_lockTime.bind ?_
  intro lockTime hlockTime
  refine .skip fun expiryHeight => .skip fun valueBalance => .skip fun spendCount => ?_
  refine .ite (fun _ => .fail _ _) fun _ => ?_
  refine .skip fun spends => ?_
  have hshielded := ensures_vec (p := Sapling.Output.deserialize libs.curves)
    (f := Sapling.Output.serialize) (fun _ output _ _ => Sapling.succeeds_output output)
    Sapling.Output.maxAllocation
  refine hshielded.bind ?_
  intro shieldedOutputs hshieldedOutputs
  refine (ensures_joinSplitData groth16).bind ?_
  intro joinsplitData hjoinsplits
  have hspends : spends.toList.length ≤ maxProtocolMessageLen := by
    rw [List.Vector.toList_length]
    exact spendCount.le_max
  refine (Sapling.ensures_assembleV4 hspends hshieldedOutputs).bind ?_
  intro sapling hsapling
  refine .pure (hasHash_of_succeeds rfl rfl ?_)
  exact (succeeds_u32 _).append (hinputs.append (houtputs.append (hlockTime.append
    ((succeeds_u32 _).append (hsapling.1.append (hjoinsplits.append hsapling.2))))))

/-- A later version is read only where {lit}`librustzcash` takes it. -/
theorem ensures_checkLibrustzcash {tx : Transaction} {nu : NetworkUpgrade}
    (hhash : tx.hash libs = (libs.toLibrustzcash tx nu).toOption) :
    Ensures (do
      let _ ← Reader.ofExcept (libs.toLibrustzcash tx nu)
      return tx) (HasHash libs) := by
  refine (Ensures.ofExcept _).bind ?_
  intro hash hok
  refine .pure ⟨hash, ?_⟩
  rw [hhash, hok]
  rfl

/-- A version 5 transaction that was read has a hash. -/
theorem ensures_v5 (libs : Libraries) : Ensures (deserializeV5 libs) (HasHash libs) := by
  unfold deserializeV5
  refine .skip fun _ => .skip fun networkUpgrade => .skip fun lockTime => ?_
  refine .skip fun expiryHeight => .skip fun inputs => .skip fun outputs => ?_
  refine .skip fun sapling => .skip fun orchard => ?_
  exact ensures_checkLibrustzcash rfl

/-- A version 6 transaction that was read has a hash. -/
theorem ensures_v6 (libs : Libraries) : Ensures (deserializeV6 libs) (HasHash libs) := by
  unfold deserializeV6
  refine .skip fun _ => .skip fun networkUpgrade => .skip fun lockTime => ?_
  refine .skip fun expiryHeight => .skip fun inputs => .skip fun outputs => ?_
  refine .skip fun sapling => .skip fun orchard => .skip fun ironwood => ?_
  exact ensures_checkLibrustzcash rfl

/-- Every transaction that was read has a hash. -/
theorem ensures_transaction (hzero : libs.pushNum 0 = [0]) :
    Ensures (deserialize libs) (HasHash libs) := by
  unfold deserialize
  refine .skip fun header => ?_
  unfold deserializeBody
  refine .ite (fun _ => ensures_v1 hzero) fun _ => ?_
  refine .ite (fun _ => ensures_v2 hzero) fun _ => ?_
  refine .ite (fun _ => ensures_v3 hzero) fun _ => ?_
  refine .ite (fun _ => ensures_v4 hzero) fun _ => ?_
  refine .ite (fun _ => ensures_v5 libs) fun _ => ?_
  exact .ite (fun _ => ensures_v6 libs) fun _ => .fail _ _

/-- A transaction that was read has an id. -/
theorem hash_of_deserialize (hzero : libs.pushNum 0 = [0]) {raw : Bytes} {tx : Transaction}
    {pos : Nat} (h : zcashDeserialize libs raw = .ok (tx, pos)) :
    ∃ hash, tx.hash libs = some hash := by
  rcases zcashDeserialize_eq_ok h with ⟨rest, hrun, -, -⟩
  exact ensures_transaction hzero _ tx rest hrun

end Hash

end Transaction

end Zcash
end ZeroShim
