import ZeroShim.Library.WritesBack
import ZeroShim.Zcash.Written

/-!
# Every transaction has one encoding

The serializer, given what the deserializer accepted, writes the bytes that the deserializer
consumed: no field has a second encoding that is accepted.

Main results:

- Theorem {lit}`Sapling.writesBack_v5`: the parts of a version 5 bundle, which are written apart
  and put together as they are read.
- Theorem {lit}`Transaction.writesBack_transaction`: transactions of every version.
-/

namespace ZeroShim
namespace Zcash

open Library

/-! ## Encodings -/

theorem writesBack_bytes (n : Nat) : WritesBack (.bytes []) (readBytes n) writeBytes :=
  .readArray _ n

theorem writesBack_le (k : Nat) : WritesBack (.bytes []) (readLe k) (writeLe k) := by
  refine (WritesBack.readExact SerializationError.unexpectedEof k).bind_of (.readExact _ k) ?_
  intro bs hlen
  refine .pure ?_
  rw [writeLe, ← hlen, leBytes_leNat, Writer.nil_append]

theorem ensures_le (k : Nat) : Ensures (readLe k) (· < 256 ^ k) := by
  refine (Ensures.readExact _ k).bind ?_
  intro bs hlen
  exact .pure (hlen ▸ leNat_lt bs)

theorem writesBack_u8 : WritesBack (.bytes []) readU8 writeU8 := by
  refine (writesBack_le 1).bind_of (ensures_le 1) ?_
  intro n hn
  refine .pure ?_
  rw [writeU8, Writer.nil_append, UInt8.toNat_ofNat_of_lt' (by simpa using hn)]

theorem writesBack_u32 : WritesBack (.bytes []) readU32 writeU32 := by
  refine (writesBack_le 4).bind_of (ensures_le 4) ?_
  intro n hn
  refine .pure ?_
  rw [writeU32, Writer.nil_append, UInt32.toNat_ofNat_of_lt' (by simpa using hn)]

/-- A compact size that takes the longer of its encodings is not accepted. -/
theorem writesBack_compactSizeTail {k least : Nat} {flag : UInt8}
    (h : ∀ n, least ≤ n → n < 256 ^ k → CompactSize64.serialize n = writeU8 flag ++ writeLe k n) :
    WritesBack (writeU8 flag) (do
      let n ← readLe k
      if least ≤ n then return n else parseError "non-canonical CompactSize")
      CompactSize64.serialize := by
  refine (writesBack_le k).bind_of (ensures_le k) ?_
  intro n hn
  exact .ite (fun hleast => .pure (h n hleast hn)) fun _ => .fail _ _

theorem writesBack_compactSize64 :
    WritesBack (.bytes []) CompactSize64.deserialize CompactSize64.serialize := by
  refine writesBack_u8.bind ?_
  intro flag
  rw [Writer.nil_append]
  refine .ite (fun hsmall => .pure ?_) fun hlarge => ?_
  · rw [CompactSize64.serialize, if_pos hsmall, UInt8.ofNat_toNat]
  refine .ite (fun hflag => ?_) fun h16 => ?_
  · rw [hflag]
    apply writesBack_compactSizeTail
    intro n hleast hn
    rw [CompactSize64.serialize, if_neg (by omega), if_pos (by omega)]
  refine .ite (fun hflag => ?_) fun h32 => ?_
  · rw [hflag]
    apply writesBack_compactSizeTail
    intro n hleast hn
    rw [CompactSize64.serialize, if_neg (by omega), if_neg (by omega), if_pos (by omega)]
  · have hflag : flag = 0xff := by
      have hlt := flag.toNat_lt
      have h16' : flag.toNat ≠ 0xfd := fun heq => h16 (UInt8.toNat_inj.mp heq)
      have h32' : flag.toNat ≠ 0xfe := fun heq => h32 (UInt8.toNat_inj.mp heq)
      apply UInt8.toNat_inj.mp
      show flag.toNat = 255
      omega
    rw [hflag]
    apply writesBack_compactSizeTail
    intro n hleast hn
    rw [CompactSize64.serialize, if_neg (by omega), if_neg (by omega), if_neg (by omega)]

/-- The length of a list that was read is written as it was read. -/
theorem serializeLen_size (len : CompactSizeMessage) :
    serializeLen len.size = CompactSize64.serialize len.size := by
  have hmax : len.size ≤ maxProtocolMessageLen := len.le_max
  have hsmall : ¬ 2 ^ 32 ≤ len.size := by
    simp only [maxProtocolMessageLen] at hmax
    omega
  unfold serializeLen CompactSizeMessage.tryFrom
  rw [if_neg hsmall, dif_pos hmax]
  rfl

theorem writesBack_len :
    WritesBack (.bytes []) CompactSizeMessage.deserialize fun len => serializeLen len.size := by
  refine writesBack_compactSize64.bind fun n => .ofExcept ?_
  intro len hlen
  have hsize : len.size = n := by
    unfold CompactSizeMessage.tryFrom at hlen
    split_ifs at hlen
    rw [← Except.ok.inj hlen]
  rw [serializeLen_size, hsize, Writer.nil_append]

theorem writesBack_externalCount {α : Type} {p : Deserializer α} {f : α → Writer}
    (hp : WritesBack (.bytes []) p f) (maxAllocation n : Nat) :
    WritesBack (.bytes []) (deserializeExternalCount maxAllocation p n) fun xs =>
      Writer.each f xs.toList :=
  .ite (fun _ => .fail _ _) fun _ => .readMany hp n

theorem writesBack_vec {α : Type} {p : Deserializer α} {f : α → Writer}
    (hp : WritesBack (.bytes []) p f) (maxAllocation : Nat) :
    WritesBack (.bytes []) (deserializeVec maxAllocation p) (serializeVec f) := by
  refine writesBack_len.bind fun len =>
    (writesBack_externalCount hp maxAllocation len.size).bind_pure fun xs => ?_
  rw [serializeVec, List.Vector.toList_length, Writer.nil_append]

theorem writesBack_bytesExternalCount (n : Nat) :
    WritesBack (.bytes []) (deserializeBytesExternalCount n) .bytes :=
  .ite (fun _ => .fail _ _) fun _ => .readExact _ n

theorem writesBack_serializeBytes : WritesBack (.bytes []) deserializeBytes serializeBytes := by
  refine writesBack_len.bind fun len => ?_
  refine (writesBack_bytesExternalCount len.size).last (ensures_bytesExternalCount len.size) ?_
  intro bs hlen
  rw [serializeBytes, hlen, Writer.nil_append]

/-! ## Amounts -/

theorem writesBack_amount (c : Constraint) :
    WritesBack (.bytes []) (Amount.deserialize c) Amount.serialize := by
  have hvalidate {value : Int} {amount : Amount c} (h : Amount.validate c value = .ok amount) :
      amount.zatoshis = value := by
    unfold Amount.validate at h
    split_ifs at h
    rw [← Except.ok.inj h]
  cases c with
  | negativeAllowed =>
    have hsigned : WritesBack (.bytes []) readI64 fun value =>
        writeLe 8 (value % 2 ^ 64).toNat := by
      refine (writesBack_le 8).bind_of (ensures_le 8) ?_
      intro n hn
      rw [Writer.nil_append]
      refine .ite (fun hpos => .pure ?_) fun hneg => .pure ?_
      · congr 1
        omega
      · congr 1
        omega
    refine hsigned.bind fun value => .ofExcept ?_
    intro amount hamount
    rw [Amount.serialize, hvalidate hamount, Writer.nil_append]
  | nonNegative =>
    refine (writesBack_le 8).bind fun value => ?_
    refine .ite (fun hlt => .ofExcept ?_) fun _ => .fail _ _
    intro amount hamount
    have hvalue : ((value : Int) % 2 ^ 64).toNat = value := by omega
    rw [Amount.serialize, hvalidate hamount, hvalue, Writer.nil_append]

/-! ## Shielded parts -/

/-- A checked encoding is written as it was read. -/
theorem writesBack_checked (check : Bytes32 → Except SerializationError Unit) :
    WritesBack (.bytes []) (readChecked check) writeBytes := by
  refine (writesBack_bytes 32).bind fun bytes => .check fun _ _ => .pure ?_
  rw [Writer.nil_append]

theorem writesBack_joinSplit (proofSize : Nat) :
    WritesBack (.bytes []) (JoinSplit.deserialize proofSize) JoinSplit.serialize := by
  refine (writesBack_amount _).bind fun vpubOld => ?_
  refine (writesBack_amount _).bind fun vpubNew => ?_
  refine (writesBack_bytes 32).bind fun anchor => ?_
  refine (writesBack_bytes 32).bind fun nullifier0 => ?_
  refine (writesBack_bytes 32).bind fun nullifier1 => ?_
  refine (writesBack_bytes 32).bind fun commitment0 => ?_
  refine (writesBack_bytes 32).bind fun commitment1 => ?_
  refine (writesBack_bytes 32).bind fun ephemeralKey => ?_
  refine (writesBack_bytes 32).bind fun randomSeed => ?_
  refine (writesBack_bytes 32).bind fun vmac0 => ?_
  refine (writesBack_bytes 32).bind fun vmac1 => ?_
  refine (writesBack_bytes proofSize).bind fun zkproof => ?_
  refine (writesBack_bytes 601).bind fun encCiphertext0 => ?_
  refine (writesBack_bytes 601).bind_pure fun encCiphertext1 => ?_
  simp only [JoinSplit.serialize, Writer.append_assoc, Writer.nil_append]

theorem writesBack_joinSplitData (proofSize : Nat) :
    WritesBack (.bytes []) (deserializeJoinSplitData proofSize) serializeJoinSplitData := by
  refine (writesBack_vec (writesBack_joinSplit proofSize) _).bind fun joinsplits => ?_
  cases joinsplits with
  | nil => exact .pure (by rw [Writer.nil_append]; exact (Writer.append_nil _).symm)
  | cons first rest =>
    refine (writesBack_bytes 32).bind fun pubKey => ?_
    refine (writesBack_bytes 64).bind_pure fun sig => ?_
    simp only [serializeJoinSplitData, Writer.append_assoc, Writer.nil_append]

namespace Sapling

variable {curves : Curves}

theorem writesBack_spend :
    WritesBack (.bytes []) (Spend.deserialize curves) Spend.serialize := by
  refine (writesBack_checked _).bind fun cv => ?_
  refine (writesBack_checked _).bind fun perSpendAnchor => ?_
  refine (writesBack_bytes 32).bind fun nullifier => ?_
  refine (writesBack_checked _).bind fun rk => ?_
  refine (writesBack_bytes groth16).bind fun zkproof => ?_
  refine (writesBack_bytes 64).bind_pure fun spendAuthSig => ?_
  simp only [Spend.serialize, Writer.append_assoc, Writer.nil_append]

theorem writesBack_output :
    WritesBack (.bytes []) (Output.deserialize curves) Output.serialize := by
  refine (writesBack_checked _).bind fun cv => ?_
  refine (writesBack_checked _).bind fun cmU => ?_
  refine (writesBack_checked _).bind fun ephemeralKey => ?_
  refine (writesBack_bytes 580).bind fun encCiphertext => ?_
  refine (writesBack_bytes 80).bind fun outCiphertext => ?_
  refine (writesBack_bytes groth16).bind_pure fun zkproof => ?_
  simp only [Output.serialize, Writer.append_assoc, Writer.nil_append]

theorem writesBack_spendPrefix :
    WritesBack (.bytes []) (SpendPrefix.deserialize curves) SpendPrefix.serialize := by
  refine (writesBack_checked _).bind fun cv => ?_
  refine (writesBack_bytes 32).bind fun nullifier => ?_
  refine (writesBack_checked _).bind_pure fun rk => ?_
  simp only [SpendPrefix.serialize, Writer.append_assoc, Writer.nil_append]

theorem writesBack_outputPrefix :
    WritesBack (.bytes []) (OutputPrefix.deserialize curves) OutputPrefix.serialize := by
  refine (writesBack_checked _).bind fun cv => ?_
  refine (writesBack_checked _).bind fun cmU => ?_
  refine (writesBack_checked _).bind fun ephemeralKey => ?_
  refine (writesBack_bytes 580).bind fun encCiphertext => ?_
  refine (writesBack_bytes 80).bind_pure fun outCiphertext => ?_
  simp only [OutputPrefix.serialize, Writer.append_assoc, Writer.nil_append]

/-- The anchor is written exactly when it was read. -/
theorem writesBack_sharedAnchor (spendsCount : Nat) :
    WritesBack (.bytes []) (deserializeSharedAnchor curves spendsCount) fun anchor =>
      serializeSharedAnchor anchor.val := by
  unfold deserializeSharedAnchor
  by_cases h : 0 < spendsCount
  · rw [dif_pos h]
    refine (writesBack_checked _).bind_pure fun anchor => ?_
    rw [Writer.nil_append]
    rfl
  · rw [dif_neg h]
    exact .pure rfl

/-! ### Parts and wholes -/

section Assemble

variable {sharedAnchor : Option Bytes32} {spends : List (Spend Unit)} {outputs : List Output}
variable (hanchor : sharedAnchor.isSome = true ↔ spends ≠ [])
variable (hsome : ¬ (spends = [] ∧ outputs = []))

theorem assembleTransfers_spends :
    (assembleTransfers sharedAnchor spends outputs hanchor hsome).spends = spends := by
  cases sharedAnchor with
  | some anchor => rfl
  | none =>
    have hnone : spends = [] := by
      by_contra hne
      exact absurd (hanchor.mpr hne) (by simp)
    exact hnone.symm

theorem assembleTransfers_outputs :
    (assembleTransfers sharedAnchor spends outputs hanchor hsome).outputs = outputs := by
  cases sharedAnchor <;> rfl

theorem assembleTransfers_sharedAnchor :
    (assembleTransfers sharedAnchor spends outputs hanchor hsome).sharedAnchor = sharedAnchor := by
  cases sharedAnchor <;> rfl

end Assemble

/-- Spends put together are taken apart again. -/
theorem unzip_spendParts {n : Nat} (prefixes : List.Vector SpendPrefix n)
    (proofs : List.Vector (List.Vector UInt8 groth16) n)
    (sigs : List.Vector (List.Vector UInt8 64) n) :
    let spends := ((prefixes.toList.zip proofs.toList).zip sigs.toList).map Spend.fromV5Parts
    spends.map Spend.v5Prefix = prefixes.toList ∧ spends.map Spend.zkproof = proofs.toList ∧
      spends.map Spend.spendAuthSig = sigs.toList := by
  have hfst : ((prefixes.toList.zip proofs.toList).zip sigs.toList).map Prod.fst =
      prefixes.toList.zip proofs.toList := List.map_fst_zip (by simp)
  refine ⟨?_, ?_, ?_⟩
  · calc (List.map Spend.fromV5Parts _).map Spend.v5Prefix
        = (((prefixes.toList.zip proofs.toList).zip sigs.toList).map Prod.fst).map Prod.fst := by
          simp only [List.map_map]
          rfl
      _ = prefixes.toList := by rw [hfst, List.map_fst_zip (by simp)]
  · calc (List.map Spend.fromV5Parts _).map Spend.zkproof
        = (((prefixes.toList.zip proofs.toList).zip sigs.toList).map Prod.fst).map Prod.snd := by
          simp only [List.map_map]
          rfl
      _ = proofs.toList := by rw [hfst, List.map_snd_zip (by simp)]
  · calc (List.map Spend.fromV5Parts _).map Spend.spendAuthSig
        = ((prefixes.toList.zip proofs.toList).zip sigs.toList).map Prod.snd := by
          simp only [List.map_map]
          rfl
      _ = sigs.toList := List.map_snd_zip (by simp)

/-- And so are outputs. -/
theorem unzip_outputParts (prefixes : List OutputPrefix)
    (proofs : List.Vector (List.Vector UInt8 groth16) prefixes.length) :
    let outputs := (prefixes.zip proofs.toList).map Output.fromV5Parts
    outputs.map Output.v5Prefix = prefixes ∧ outputs.map Output.zkproof = proofs.toList := by
  refine ⟨?_, ?_⟩
  · calc (List.map Output.fromV5Parts _).map Output.v5Prefix
        = (prefixes.zip proofs.toList).map Prod.fst := by
          simp only [List.map_map]
          rfl
      _ = prefixes := List.map_fst_zip (by simp)
  · calc (List.map Output.fromV5Parts _).map Output.zkproof
        = (prefixes.zip proofs.toList).map Prod.snd := by
          simp only [List.map_map]
          rfl
      _ = proofs.toList := List.map_snd_zip (by simp)

/-- A version 5 bundle, whose parts are written apart. -/
theorem writesBack_v5 (isCoinbase : Bool) :
    WritesBack (.bytes []) (deserializeV5 curves isCoinbase) serializeV5 := by
  refine writesBack_len.bind fun spendCount => ?_
  refine .ite (fun _ => .fail _ _) fun _ => ?_
  refine (writesBack_externalCount writesBack_spendPrefix _ spendCount.size).bind
    fun spendPrefixes => ?_
  refine (writesBack_vec writesBack_outputPrefix _).bind fun outputPrefixes => ?_
  by_cases hsome : spendCount.size = 0 ∧ outputPrefixes.length = 0
  · rw [dif_pos hsome]
    refine .pure ?_
    have hspends : spendPrefixes.toList = [] := by
      apply List.length_eq_zero_iff.mp
      rw [List.Vector.toList_length, hsome.1]
    have houtputs : outputPrefixes = [] := List.length_eq_zero_iff.mp hsome.2
    rw [hspends, houtputs, hsome.1]
    simp only [Writer.nil_append, Writer.each, Writer.append_nil]
    exact congrArg (serializeEmptyList ++ ·) (Writer.append_nil _).symm
  · rw [dif_neg hsome]
    refine (writesBack_amount _).bind fun valueBalance => ?_
    refine (writesBack_sharedAnchor spendCount.size).bind fun sharedAnchor => ?_
    refine (writesBack_externalCount (writesBack_bytes groth16) _ _).bind fun spendProofs => ?_
    refine (writesBack_externalCount (writesBack_bytes 64) _ _).bind fun spendSigs => ?_
    refine (writesBack_externalCount (writesBack_bytes groth16) _ _).bind fun outputProofs => ?_
    refine (writesBack_bytes 64).bind_pure fun bindingSig => ?_
    rcases unzip_spendParts spendPrefixes spendProofs spendSigs with ⟨hprefixes, hproofs, hsigs⟩
    rcases unzip_outputParts outputPrefixes outputProofs with ⟨houtputs, houtputProofs⟩
    simp only [serializeV5, assembleTransfers_spends, assembleTransfers_outputs,
      assembleTransfers_sharedAnchor, hprefixes, hproofs, hsigs, houtputs, houtputProofs,
      serializeVec, List.Vector.toList_length, Writer.append_assoc, Writer.nil_append]

end Sapling

namespace Orchard

variable {curves : Curves}

theorem writesBack_action :
    WritesBack (.bytes []) (Action.deserialize curves) Action.serialize := by
  refine (writesBack_checked _).bind fun cv => ?_
  refine (writesBack_checked _).bind fun nullifier => ?_
  refine (writesBack_checked _).bind fun rk => ?_
  refine (writesBack_checked _).bind fun cmX => ?_
  refine (writesBack_checked _).bind fun ephemeralKey => ?_
  refine (writesBack_bytes 580).bind fun encCiphertext => ?_
  refine (writesBack_bytes 80).bind_pure fun outCiphertext => ?_
  simp only [Action.serialize, Writer.append_assoc, Writer.nil_append]

/-- Actions put together with their signatures are taken apart again. -/
theorem unzip_actionParts (actions : List Action)
    (sigs : List.Vector (List.Vector UInt8 64) actions.length) :
    let authorized := (actions.zip sigs.toList).map
      fun parts => ({ action := parts.1, spendAuthSig := parts.2 } : AuthorizedAction)
    authorized.map AuthorizedAction.action = actions ∧
      authorized.map AuthorizedAction.spendAuthSig = sigs.toList := by
  refine ⟨?_, ?_⟩
  · calc (List.map _ (actions.zip sigs.toList)).map AuthorizedAction.action
        = (actions.zip sigs.toList).map Prod.fst := by
          simp only [List.map_map]
          rfl
      _ = actions := List.map_fst_zip (by simp)
  · calc (List.map _ (actions.zip sigs.toList)).map AuthorizedAction.spendAuthSig
        = (actions.zip sigs.toList).map Prod.snd := by
          simp only [List.map_map]
          rfl
      _ = sigs.toList := List.map_snd_zip (by simp)

/-- An Orchard-protocol bundle, under either rule about its flags. -/
theorem writesBack_bundle {reserved : UInt8}
    (hreserved : reserved = preNu63Reserved ∨ reserved = nu63Reserved) :
    WritesBack (.bytes []) (deserializeBundle curves reserved) serializeBundle := by
  refine (writesBack_vec writesBack_action _).bind fun actions => ?_
  refine .ite (fun hempty => .pure ?_) fun _ => ?_
  · rw [List.isEmpty_iff.mp hempty, Writer.nil_append]
    exact (Writer.append_nil _).symm
  refine writesBack_u8.bind fun flagByte => .check fun flags hflags => ?_
  refine (writesBack_amount _).bind fun valueBalance => ?_
  refine (writesBack_checked _).bind fun sharedAnchor => ?_
  refine writesBack_serializeBytes.bind fun proof => ?_
  refine (writesBack_externalCount (writesBack_bytes 64) _ _).bind fun sigs => ?_
  refine (writesBack_bytes 64).bind fun bindingSig => ?_
  rcases unzip_actionParts actions sigs with ⟨hactions, hsigs⟩
  by_cases h : (actions.zip sigs.toList).map
      (fun parts => ({ action := parts.1, spendAuthSig := parts.2 } : AuthorizedAction)) ≠ []
  · rw [dif_pos h]
    refine .pure ?_
    simp only [serializeBundle, hactions, hsigs, Flags.fromByte_bits hreserved hflags,
      Writer.append_assoc, Writer.nil_append]
  · rw [dif_neg h]
    exact .fail _ _

end Orchard

/-! ## Transparent parts -/

section PushNum

variable {pushNum : Int → Bytes}

/-- An input is written as it was read: a coinbase as the null outpoint, with the script that
its height and data were read from. -/
theorem writesBack_input (hzero : pushNum 0 = [0]) :
    WritesBack (.bytes []) (Input.deserialize pushNum) (Input.serialize pushNum) := by
  refine (writesBack_bytes 32).bind fun hash => ?_
  refine .ite (fun hnull => ?_) fun _ => ?_
  · refine writesBack_u32.bind fun index => ?_
    refine .ite (fun _ => .fail _ _) fun hindex => ?_
    refine writesBack_len.bind fun len => ?_
    refine .ite (fun _ => .fail _ _) fun _ => ?_
    refine .ite (fun _ => .fail _ _) fun _ => ?_
    refine (writesBack_bytesExternalCount len.size).bind_of
      (ensures_bytesExternalCount len.size) ?_
    intro scriptSig hlen
    refine .check fun parsed hparsed => ?_
    refine writesBack_u32.bind_pure fun sequence => ?_
    rw [not_not.mp hindex, Input.serialize, coinbaseScript_of_read hzero hparsed, writeBytes,
      hnull]
    simp only [serializeCoinbaseScript, serializeBytes, hlen, Writer.append_assoc,
      Writer.nil_append]
  · refine writesBack_u32.bind fun index => ?_
    refine writesBack_serializeBytes.bind fun unlockScript => ?_
    refine writesBack_u32.bind_pure fun sequence => ?_
    simp only [Input.serialize, Writer.append_assoc, Writer.nil_append]

end PushNum

theorem writesBack_output : WritesBack (.bytes []) Output.deserialize Output.serialize := by
  refine (writesBack_amount _).bind fun value => ?_
  refine writesBack_serializeBytes.bind_pure fun lockScript => ?_
  rw [Output.serialize, Writer.nil_append]

theorem writesBack_lockTime :
    WritesBack (.bytes []) LockTime.deserialize LockTime.serialize := by
  refine writesBack_u32.bind fun n => ?_
  have hn : n.toNat < 2 ^ 32 := n.toNat_lt
  refine .ite (fun _ => .pure ?_) fun _ => .pure ?_
  · rw [LockTime.serialize, Writer.nil_append]
  · rw [LockTime.serialize, if_pos ⟨by omega, by exact_mod_cast hn⟩, Writer.nil_append]
    simp

/-! ## Transactions -/

namespace Transaction

variable {libs : Libraries}

theorem writesBack_inputs (hzero : libs.pushNum 0 = [0]) :
    WritesBack (.bytes []) (deserializeInputs libs) (serializeInputs libs) :=
  writesBack_vec (writesBack_input hzero) _

theorem writesBack_outputs : WritesBack (.bytes []) deserializeOutputs serializeOutputs :=
  writesBack_vec writesBack_output _

theorem writesBack_groupId (groupId : UInt32) (msg : String) :
    WritesBack (.bytes []) (expectGroupId groupId msg) fun _ => writeU32 groupId := by
  refine writesBack_u32.bind fun id => .ite (fun _ => .fail _ _) fun hid => .pure ?_
  rw [not_not.mp hid, Writer.nil_append]

theorem branchId_of_tryFrom {branchId : UInt32} {nu : NetworkUpgrade}
    (h : NetworkUpgrade.tryFrom branchId = .ok nu) : nu.branchId = some branchId := by
  have hids : ∀ entry ∈ consensusBranchIds, entry.1.branchId = some entry.2 := by decide
  unfold NetworkUpgrade.tryFrom at h
  split at h
  · next entry hfind =>
    cases h
    rw [hids entry (List.mem_of_find?_eq_some hfind)]
    have hfound := List.find?_some hfind
    simpa using hfound
  · cases h

/-- The branch id of an upgrade is the only one that is read as it. -/
theorem writesBack_branchId (least : NetworkUpgrade) (msg : String) :
    WritesBack (.bytes []) (readNetworkUpgrade least msg) writeBranchId := by
  refine writesBack_u32.bind fun branchId => .check fun nu hnu => ?_
  refine .ite (fun _ => .fail _ _) fun _ => .pure ?_
  rw [writeBranchId, branchId_of_tryFrom hnu, Writer.nil_append]

/-- The header of a version, as it was read. -/
def headerWriter (overwintered : Bool) (version : UInt32) : Writer :=
  writeU32 (overwinteredFlag overwintered ||| version)

theorem writesBack_v1 (hzero : libs.pushNum 0 = [0]) :
    WritesBack (headerWriter false 1) (deserializeV1 libs) (serialize libs) := by
  refine (writesBack_inputs hzero).bind fun inputs => ?_
  refine writesBack_outputs.bind fun outputs => ?_
  refine writesBack_lockTime.bind_pure fun lockTime => ?_
  simp only [serialize, header, isOverwintered, version, headerWriter, Writer.append_assoc]

theorem writesBack_v2 (hzero : libs.pushNum 0 = [0]) :
    WritesBack (headerWriter false 2) (deserializeV2 libs) (serialize libs) := by
  refine (writesBack_inputs hzero).bind fun inputs => ?_
  refine writesBack_outputs.bind fun outputs => ?_
  refine writesBack_lockTime.bind fun lockTime => ?_
  refine (writesBack_joinSplitData bctv14).bind_pure fun joinsplitData => ?_
  simp only [serialize, header, isOverwintered, version, headerWriter, Writer.append_assoc]

theorem writesBack_v3 (hzero : libs.pushNum 0 = [0]) :
    WritesBack (headerWriter true 3) (deserializeV3 libs) (serialize libs) := by
  refine (writesBack_groupId _ _).bind fun _ => ?_
  refine (writesBack_inputs hzero).bind fun inputs => ?_
  refine writesBack_outputs.bind fun outputs => ?_
  refine writesBack_lockTime.bind fun lockTime => ?_
  refine writesBack_u32.bind fun expiryHeight => ?_
  refine (writesBack_joinSplitData bctv14).bind_pure fun joinsplitData => ?_
  simp only [serialize, header, isOverwintered, version, headerWriter, Writer.append_assoc]

/-- The Sapling part of a version 4 transaction is read in two places, and written in them. -/
theorem writesBack_assembleSaplingV4 (valueBalance : Amount .negativeAllowed)
    (spends : List (Sapling.Spend Bytes32)) (outputs : List Sapling.Output) :
    WritesBack (.bytes []) (assembleSaplingV4 valueBalance spends outputs)
        serializeBindingSigV4 ∧
      Ensures (assembleSaplingV4 valueBalance spends outputs) fun data =>
        serializeSaplingV4 data = valueBalance.serialize ++
          (serializeVec Sapling.Spend.serialize spends ++
            serializeVec Sapling.Output.serialize outputs) := by
  have hempty {α : Type} (f : α → Writer) : serializeVec f [] = serializeEmptyList :=
    Writer.append_nil _
  unfold assembleSaplingV4
  split_ifs with hspends houtputs hbalance
  · exact ⟨(writesBack_bytes 64).bind_pure fun bindingSig => (Writer.nil_append _).symm,
      .skip fun bindingSig => .pure rfl⟩
  · refine ⟨(writesBack_bytes 64).bind_pure fun bindingSig => (Writer.nil_append _).symm,
      .skip fun bindingSig => .pure ?_⟩
    rw [not_not.mp hspends]
    rfl
  · exact ⟨.fail _ _, .fail _ _⟩
  · refine ⟨.pure rfl, .pure ?_⟩
    have hzeroBalance : valueBalance.serialize = writeLe 8 0 := by
      rw [Amount.serialize, not_not.mp hbalance]
      rfl
    rw [not_not.mp hspends, not_not.mp houtputs, hempty, hempty, hzeroBalance]
    rfl

theorem writesBack_v4 (hzero : libs.pushNum 0 = [0]) :
    WritesBack (headerWriter true 4) (deserializeV4 libs) (serialize libs) := by
  refine (writesBack_groupId _ _).bind fun _ => ?_
  refine (writesBack_inputs hzero).bind fun inputs => ?_
  refine writesBack_outputs.bind fun outputs => ?_
  refine writesBack_lockTime.bind fun lockTime => ?_
  refine writesBack_u32.bind fun expiryHeight => ?_
  refine (writesBack_amount _).bind fun valueBalance => ?_
  refine writesBack_len.bind fun spendCount => ?_
  refine .ite (fun _ => .fail _ _) fun _ => ?_
  refine (writesBack_externalCount Sapling.writesBack_spend _ spendCount.size).bind
    fun spends => ?_
  refine (writesBack_vec Sapling.writesBack_output _).bind fun shieldedOutputs => ?_
  refine (writesBack_joinSplitData groth16).bind fun joinsplitData => ?_
  rcases writesBack_assembleSaplingV4 valueBalance spends.toList shieldedOutputs with
    ⟨hback, hensures⟩
  refine hback.bind_of hensures ?_
  intro sapling hsapling
  refine .pure ?_
  simp only [serialize, header, isOverwintered, version, headerWriter, hsapling, serializeVec,
    List.Vector.toList_length, Writer.append_assoc]

theorem writesBack_v5 (hzero : libs.pushNum 0 = [0]) :
    WritesBack (headerWriter true 5) (deserializeV5 libs) (serialize libs) := by
  refine (writesBack_groupId _ _).bind fun _ => ?_
  refine (writesBack_branchId _ _).bind fun networkUpgrade => ?_
  refine writesBack_lockTime.bind fun lockTime => ?_
  refine writesBack_u32.bind fun expiryHeight => ?_
  refine (writesBack_inputs hzero).bind fun inputs => ?_
  refine writesBack_outputs.bind fun outputs => ?_
  refine (Sapling.writesBack_v5 (isCoinbase inputs)).bind fun sapling => ?_
  refine (Orchard.writesBack_bundle (.inl rfl)).bind fun orchard => ?_
  refine .check fun _ _ => .pure ?_
  simp only [serialize, header, isOverwintered, version, headerWriter, Writer.append_assoc]

theorem writesBack_v6 (hzero : libs.pushNum 0 = [0]) :
    WritesBack (headerWriter true 6) (deserializeV6 libs) (serialize libs) := by
  refine (writesBack_groupId _ _).bind fun _ => ?_
  refine (writesBack_branchId _ _).bind fun networkUpgrade => ?_
  refine writesBack_lockTime.bind fun lockTime => ?_
  refine writesBack_u32.bind fun expiryHeight => ?_
  refine (writesBack_inputs hzero).bind fun inputs => ?_
  refine writesBack_outputs.bind fun outputs => ?_
  refine (Sapling.writesBack_v5 (isCoinbase inputs)).bind fun sapling => ?_
  refine (Orchard.writesBack_bundle (.inl rfl)).bind fun orchard => ?_
  refine (Orchard.writesBack_bundle (.inr rfl)).bind fun ironwood => ?_
  refine .check fun _ _ => .pure ?_
  simp only [serialize, header, isOverwintered, version, headerWriter, Writer.append_assoc]

/-- A header is its flag and its version. -/
theorem header_eq (header : UInt32) :
    overwinteredFlag (header >>> 31 != 0) ||| (header &&& low31Bits) = header := by
  apply UInt32.toNat_inj.mp
  have hlt := header.toNat_lt
  have hlow : (header &&& low31Bits).toNat = header.toNat % 2 ^ 31 := by
    rw [UInt32.toNat_and]
    exact Nat.and_two_pow_sub_one_eq_mod _ 31
  have hhigh : (header >>> 31).toNat = header.toNat / 2 ^ 31 := by
    rw [UInt32.toNat_shiftRight]
    exact Nat.shiftRight_eq_div_pow _ 31
  rw [UInt32.toNat_or, hlow]
  by_cases hset : header >>> 31 = 0
  · have hsmall : header.toNat / 2 ^ 31 = 0 := by
      rw [← hhigh, hset]
      rfl
    have hflag : (overwinteredFlag (header >>> 31 != 0)).toNat = 0 := by
      rw [hset]
      rfl
    rw [hflag, Nat.zero_or]
    omega
  · have hbig : header.toNat / 2 ^ 31 ≠ 0 := by
      rw [← hhigh]
      exact fun h => hset (UInt32.toNat_inj.mp h)
    have hflag : (overwinteredFlag (header >>> 31 != 0)).toNat = 2 ^ 31 * 1 := by
      rw [bne_iff_ne.mpr hset]
      rfl
    rw [hflag, ← Nat.two_pow_add_eq_or_of_lt (Nat.mod_lt _ (by decide))]
    omega

/-- A transaction of any version is written as it was read. -/
theorem writesBack_transaction (hzero : libs.pushNum 0 = [0]) :
    WritesBack (.bytes []) (deserialize libs) (serialize libs) := by
  refine writesBack_u32.bind fun header => ?_
  have hheader := header_eq header
  generalize (header >>> 31 != 0) = overwintered at hheader ⊢
  generalize header &&& low31Bits = version at hheader ⊢
  rw [Writer.nil_append, ← hheader]
  unfold deserializeBody
  refine .ite ?_ fun _ => .ite ?_ fun _ => .ite ?_ fun _ => .ite ?_ fun _ => .ite ?_ fun _ =>
    .ite ?_ fun _ => .fail _ _
  · rintro ⟨rfl, rfl⟩
    exact writesBack_v1 hzero
  · rintro ⟨rfl, rfl⟩
    exact writesBack_v2 hzero
  · rintro ⟨rfl, rfl⟩
    exact writesBack_v3 hzero
  · rintro ⟨rfl, rfl⟩
    exact writesBack_v4 hzero
  · rintro ⟨rfl, rfl⟩
    exact writesBack_v5 hzero
  · rintro ⟨rfl, rfl⟩
    exact writesBack_v6 hzero

/-! ## The limited reader -/

/-- What a transaction that was read says about the bytes it was read from. -/
structure OneEncoding (libs : Libraries) (raw : Bytes) (tx : Transaction) (pos : Nat) : Prop where
  /-- It is written as it was read. -/
  written : (serialize libs tx).output = some (raw.take pos)
  /-- What was written is read as it again. -/
  reread : zcashDeserialize libs (raw.take pos) = .ok (tx, pos)
  /-- It can be read from no other bytes. -/
  unique : ∀ raw' pos', zcashDeserialize libs raw' = .ok (tx, pos') →
    raw'.take pos' = raw.take pos
  /-- Up to version 4, the bytes that arrived are hashed. -/
  hashed : tx.version < 5 → tx.hash libs = some (libs.sha256d (raw.take pos))

theorem serialize_of_read (hzero : libs.pushNum 0 = [0]) {raw : Bytes} {tx : Transaction}
    {pos : Nat} (h : zcashDeserialize libs raw = .ok (tx, pos)) :
    (serialize libs tx).output = some (raw.take pos) ∧
      (deserialize libs).run (raw.take pos) = .ok (tx, []) ∧ (raw.take pos).length = pos ∧
        pos ≤ maxBlockBytes := by
  rcases zcashDeserialize_eq_ok h with ⟨rest, hrun, hpos, -⟩
  rcases writesBack_transaction hzero _ _ _ hrun [] rfl with ⟨w, hw, houtput⟩
  rcases (deserialize libs).prefixLocal hrun with ⟨w', hw', hlocal⟩
  have hsame : w' = w := List.append_cancel_right (hw'.symm.trans hw)
  have hlen : pos = w.length := by
    rw [hpos, hw, List.length_append]
    omega
  have hle : pos ≤ maxBlockBytes := by
    have htake : (raw.take maxBlockBytes).length ≤ maxBlockBytes := List.length_take_le _ _
    rw [hw, List.length_append] at htake
    omega
  have hread : raw.take pos = w := by
    have hcut : (raw.take maxBlockBytes).take pos = w := by rw [hw, hlen, List.take_left]
    rwa [List.take_take, Nat.min_eq_left hle] at hcut
  have hagain := hlocal []
  rw [List.append_nil, hsame] at hagain
  rw [hread]
  exact ⟨houtput, hagain, hlen.symm, hle⟩

/-- Every transaction has one encoding, and the deserializer accepts no other. -/
theorem encoding_exact (hzero : libs.pushNum 0 = [0]) {raw : Bytes} {tx : Transaction} {pos : Nat}
    (h : zcashDeserialize libs raw = .ok (tx, pos)) : OneEncoding libs raw tx pos := by
  rcases serialize_of_read hzero h with ⟨hwritten, hread, hlen, hle⟩
  refine ⟨hwritten, ?_, ?_, ?_⟩
  · have hcomplete : zcashDeserialize libs (raw.take pos) = .ok (tx, (raw.take pos).length) :=
      zcashDeserialize_complete.mpr ⟨by rw [hlen]; exact hle, hread⟩
    rw [hcomplete, hlen]
  · intro raw' pos' h'
    have hwritten' := (serialize_of_read hzero h').1
    rw [hwritten] at hwritten'
    exact (Option.some.inj hwritten').symm
  · intro hversion
    cases tx with
    | v5 => exact absurd hversion (show ¬ (5 : UInt32) < 5 by decide)
    | v6 => exact absurd hversion (show ¬ (6 : UInt32) < 5 by decide)
    | _ =>
      unfold hash
      rw [hwritten]
      rfl

/-- Libraries that accept every encoding, and push the first numbers by their opcodes. -/
def opcodeLibraries : Libraries where
  pushNum n := if n = 0 then [0] else [UInt8.ofNat (0x50 + n.toNat)]
  curves :=
    { saplingValueCommitment := fun _ => true
      extractedNoteCommitment := fun _ => true
      jubjubBase := fun _ => true
      jubjubPoint := fun _ => true
      jubjubSmallOrder := fun _ => false
      redjubjubKey := fun _ => true
      pallasPoint := fun _ => true
      pallasIdentity := fun _ => false
      pallasBase := fun _ => true }
  toLibrustzcash _ _ := .error (.parse "invalid consensus branch id")
  sha256d _ := ⟨zeros 32, length_zeros 32⟩

/-- A coinbase of height 1 without outputs, and a byte behind it. -/
def coinbaseBytes : Bytes :=
  [1, 0, 0, 0, 1] ++ zeros 32 ++ [255, 255, 255, 255, 2, 0x51, 7, 0, 0, 0, 0, 0, 0, 0, 0, 0] ++ [9]

theorem encoding_exact_coinbase :
    ∃ tx, OneEncoding opcodeLibraries coinbaseBytes tx 53 ∧
      tx.inputs = [.coinbase 1 [7] 0] := by
  have hread : zcashDeserialize opcodeLibraries coinbaseBytes = .ok (_, 53) := rfl
  exact ⟨_, encoding_exact rfl hread, rfl⟩

end Transaction

end Zcash
end ZeroShim
