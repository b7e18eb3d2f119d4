import ZeroShim.Zcash.Transparent

/-!
# Shielded bundles

Sprout JoinSplits, Sapling bundles in their version 4 and version 5 layouts, and
the Orchard-protocol bundle that version 5 Orchard, version 6 Orchard and
Ironwood share.  Whether an encoding is a curve point or a field element is
decided by predicates that are parameters.

Main results:

- Theorem {lit}`readsBack_joinSplitData`: Sprout bundles read back.
- Theorems {lit}`Sapling.readsBack_v5Bundle` and {lit}`Sapling.readsBack_spend`:
  Sapling bundles and descriptions read back.
- Theorem {lit}`Orchard.readsBack_bundle`: an Orchard-protocol bundle reads back
  under every flag rule.
-/

namespace ZeroShim
namespace Zcash

open Library

/-! ## Curve and field encodings -/

/-- A 32-byte encoding. -/
abbrev Bytes32 := List.Vector UInt8 32

/-- Which 32-byte strings are canonical encodings. -/
structure Curves where
  /-- {lit}`ValueCommitment::from_bytes_not_small_order` -/
  saplingValueCommitment : Bytes32 → Bool
  /-- {lit}`ExtractedNoteCommitment::from_bytes` -/
  extractedNoteCommitment : Bytes32 → Bool
  /-- {lit}`jubjub::Base::from_bytes` -/
  jubjubBase : Bytes32 → Bool
  /-- {lit}`jubjub::AffinePoint::from_bytes` -/
  jubjubPoint : Bytes32 → Bool
  /-- {lit}`is_small_order` of the point -/
  jubjubSmallOrder : Bytes32 → Bool
  /-- {lit}`redjubjub::VerificationKey::try_from` -/
  redjubjubKey : Bytes32 → Bool
  /-- {lit}`pallas::Affine::from_bytes` -/
  pallasPoint : Bytes32 → Bool
  /-- {lit}`is_identity` of the point -/
  pallasIdentity : Bytes32 → Bool
  /-- {lit}`pallas::Base::from_repr` -/
  pallasBase : Bytes32 → Bool

/-- Read 32 bytes and check what they encode. -/
def readChecked (check : Bytes32 → Except SerializationError Unit) : Deserializer Bytes32 := do
  let bytes ← readBytes 32
  let _ ← Reader.ofExcept (check bytes)
  return bytes

/-- An encoding that one predicate accepts. -/
def canonical (valid : Bytes32 → Bool) (msg : String) (bytes : Bytes32) :
    Except SerializationError Unit :=
  if valid bytes then .ok () else .error (.parse msg)

/-- A point encoding that must not be of a forbidden kind. -/
def canonicalPoint (valid forbidden : Bytes32 → Bool) (invalidMsg forbiddenMsg : String)
    (bytes : Bytes32) : Except SerializationError Unit :=
  if valid bytes then
    if forbidden bytes then .error (.parse forbiddenMsg) else .ok ()
  else
    .error (.parse invalidMsg)

/-- A checked encoding reads back unchanged. -/
theorem readsBack_checked (check : Bytes32 → Except SerializationError Unit)
    (bytes : Bytes32) :
    ReadsBack (readChecked check) (writeBytes bytes) (· = bytes) := by
  rw [← Writer.append_nil (writeBytes bytes)]
  apply (readsBack_bytes bytes).bind_eq
  rw [← Writer.append_nil (Writer.bytes [])]
  exact ReadsBack.bind (.ofExcept fun _ _ => trivial) fun _ _ => .pure rfl

/-! ## Non-empty lists -/

/-- A list with at least one item. -/
abbrev AtLeastOne (α : Type) := { xs : List α // xs ≠ [] }

/-! ## Sprout -/

/-- A JoinSplit description; {lit}`proofSize` is the width of its proof. -/
structure JoinSplit (proofSize : Nat) where
  vpubOld : Amount .nonNegative
  vpubNew : Amount .nonNegative
  anchor : Bytes32
  nullifiers : Bytes32 × Bytes32
  commitments : Bytes32 × Bytes32
  ephemeralKey : Bytes32
  randomSeed : Bytes32
  vmacs : Bytes32 × Bytes32
  zkproof : List.Vector UInt8 proofSize
  encCiphertexts : List.Vector UInt8 601 × List.Vector UInt8 601
deriving DecidableEq

/-- A bundle of JoinSplits with its signature. -/
structure JoinSplitData (proofSize : Nat) where
  first : JoinSplit proofSize
  rest : List (JoinSplit proofSize)
  pubKey : Bytes32
  sig : List.Vector UInt8 64
deriving DecidableEq

/-- The width of a BCTV14 proof. -/
abbrev bctv14 : Nat := 296

/-- The width of a Groth16 proof. -/
abbrev groth16 : Nat := 192

/-- {lit}`JoinSplit::max_allocation` -/
def JoinSplit.maxAllocation (proofSize : Nat) : Nat :=
  (maxBlockBytes - 1) /
    (8 + 8 + 32 + 32 * 2 + 32 * 2 + 32 + 32 + 32 * 2 + 601 * 2 + proofSize)

/-- Write a JoinSplit. -/
def JoinSplit.serialize {proofSize : Nat} (js : JoinSplit proofSize) : Writer :=
  js.vpubOld.serialize ++ (js.vpubNew.serialize ++ (writeBytes js.anchor ++
    (writeBytes js.nullifiers.1 ++ (writeBytes js.nullifiers.2 ++
      (writeBytes js.commitments.1 ++ (writeBytes js.commitments.2 ++
        (writeBytes js.ephemeralKey ++ (writeBytes js.randomSeed ++
          (writeBytes js.vmacs.1 ++ (writeBytes js.vmacs.2 ++ (writeBytes js.zkproof ++
            (writeBytes js.encCiphertexts.1 ++ writeBytes js.encCiphertexts.2))))))))))))

/-- Read a JoinSplit. -/
def JoinSplit.deserialize (proofSize : Nat) : Deserializer (JoinSplit proofSize) := do
  let vpubOld ← Amount.deserialize .nonNegative
  let vpubNew ← Amount.deserialize .nonNegative
  let anchor ← readBytes 32
  let nullifier0 ← readBytes 32
  let nullifier1 ← readBytes 32
  let commitment0 ← readBytes 32
  let commitment1 ← readBytes 32
  let ephemeralKey ← readBytes 32
  let randomSeed ← readBytes 32
  let vmac0 ← readBytes 32
  let vmac1 ← readBytes 32
  let zkproof ← readBytes proofSize
  let encCiphertext0 ← readBytes 601
  let encCiphertext1 ← readBytes 601
  return {
    vpubOld := vpubOld
    vpubNew := vpubNew
    anchor := anchor
    nullifiers := (nullifier0, nullifier1)
    commitments := (commitment0, commitment1)
    ephemeralKey := ephemeralKey
    randomSeed := randomSeed
    vmacs := (vmac0, vmac1)
    zkproof := zkproof
    encCiphertexts := (encCiphertext0, encCiphertext1) }

/-- Write an optional JoinSplit bundle; an absent one is an empty list. -/
def serializeJoinSplitData {proofSize : Nat} : Option (JoinSplitData proofSize) → Writer
  | none => serializeEmptyList
  | some jsd =>
    serializeVec JoinSplit.serialize (jsd.first :: jsd.rest) ++
      (writeBytes jsd.pubKey ++ writeBytes jsd.sig)

/-- Read an optional JoinSplit bundle. -/
def deserializeJoinSplitData (proofSize : Nat) :
    Deserializer (Option (JoinSplitData proofSize)) := do
  let joinsplits ← deserializeVec (JoinSplit.maxAllocation proofSize)
    (JoinSplit.deserialize proofSize)
  match joinsplits with
  | [] => return none
  | first :: rest =>
    let pubKey ← readBytes 32
    let sig ← readBytes 64
    return some { first := first, rest := rest, pubKey := pubKey, sig := sig }

theorem readsBack_joinSplit {proofSize : Nat} (js : JoinSplit proofSize) :
    ReadsBack (JoinSplit.deserialize proofSize) js.serialize (· = js) := by
  apply (readsBack_amount js.vpubOld).bind_eq
  apply (readsBack_amount js.vpubNew).bind_eq
  apply (readsBack_bytes js.anchor).bind_eq
  apply (readsBack_bytes js.nullifiers.1).bind_eq
  apply (readsBack_bytes js.nullifiers.2).bind_eq
  apply (readsBack_bytes js.commitments.1).bind_eq
  apply (readsBack_bytes js.commitments.2).bind_eq
  apply (readsBack_bytes js.ephemeralKey).bind_eq
  apply (readsBack_bytes js.randomSeed).bind_eq
  apply (readsBack_bytes js.vmacs.1).bind_eq
  apply (readsBack_bytes js.vmacs.2).bind_eq
  apply (readsBack_bytes js.zkproof).bind_eq
  apply (readsBack_bytes js.encCiphertexts.1).bind_eq
  apply (readsBack_bytes js.encCiphertexts.2).bind_pure
  rintro _ rfl
  rfl

/-- A JoinSplit bundle reads back, present or absent. -/
theorem readsBack_joinSplitData {proofSize : Nat} (jsd : Option (JoinSplitData proofSize)) :
    ReadsBack (deserializeJoinSplitData proofSize) (serializeJoinSplitData jsd)
      (· = jsd) := by
  cases jsd with
  | none =>
    rw [← Writer.append_nil (serializeJoinSplitData _)]
    exact (readsBack_emptyList _ _).bind_eq (.pure rfl)
  | some jsd =>
    apply (readsBack_vec_eq (jsd.first :: jsd.rest) readsBack_joinSplit).bind_eq
    apply (readsBack_bytes jsd.pubKey).bind_eq
    apply (readsBack_bytes jsd.sig).bind_pure
    rintro _ rfl
    rfl

/-! ## Sapling -/

namespace Sapling

/-- A Spend description; the anchor is present per spend only in version 4. -/
structure Spend (PerSpend : Type) where
  cv : Bytes32
  perSpendAnchor : PerSpend
  nullifier : Bytes32
  rk : Bytes32
  zkproof : List.Vector UInt8 groth16
  spendAuthSig : List.Vector UInt8 64
deriving DecidableEq

/-- The part of a version 5 Spend that is written first. -/
structure SpendPrefix where
  cv : Bytes32
  nullifier : Bytes32
  rk : Bytes32
deriving DecidableEq

/-- An Output description. -/
structure Output where
  cv : Bytes32
  cmU : Bytes32
  ephemeralKey : Bytes32
  encCiphertext : List.Vector UInt8 580
  outCiphertext : List.Vector UInt8 80
  zkproof : List.Vector UInt8 groth16
deriving DecidableEq

/-- The part of a version 5 Output that is written first. -/
structure OutputPrefix where
  cv : Bytes32
  cmU : Bytes32
  ephemeralKey : Bytes32
  encCiphertext : List.Vector UInt8 580
  outCiphertext : List.Vector UInt8 80
deriving DecidableEq

/-- Spends and outputs, at least one of them. -/
inductive TransferData (Shared PerSpend : Type) where
  | spendsAndMaybeOutputs (sharedAnchor : Shared) (spends : AtLeastOne (Spend PerSpend))
      (maybeOutputs : List Output)
  | justOutputs (outputs : AtLeastOne Output)
deriving DecidableEq

/-- A Sapling bundle. -/
structure ShieldedData (Shared PerSpend : Type) where
  valueBalance : Amount .negativeAllowed
  transfers : TransferData Shared PerSpend
  bindingSig : List.Vector UInt8 64
deriving DecidableEq

/-- A version 4 bundle: every spend has its own anchor. -/
abbrev PerSpendAnchor := ShieldedData Unit Bytes32

/-- A version 5 bundle: the spends share one anchor. -/
abbrev SharedAnchor := ShieldedData Bytes32 Unit

def TransferData.spends {Shared PerSpend : Type} :
    TransferData Shared PerSpend → List (Spend PerSpend)
  | .spendsAndMaybeOutputs _ spends _ => spends.val
  | .justOutputs _ => []

def TransferData.outputs {Shared PerSpend : Type} :
    TransferData Shared PerSpend → List Output
  | .spendsAndMaybeOutputs _ _ maybeOutputs => maybeOutputs
  | .justOutputs outputs => outputs.val

def TransferData.sharedAnchor {Shared PerSpend : Type} :
    TransferData Shared PerSpend → Option Shared
  | .spendsAndMaybeOutputs sharedAnchor _ _ => some sharedAnchor
  | .justOutputs _ => none

/-- {lit}`Spend<SharedAnchor>::into_v5_parts`, the prefix -/
def Spend.v5Prefix (spend : Spend Unit) : SpendPrefix :=
  { cv := spend.cv, nullifier := spend.nullifier, rk := spend.rk }

/-- {lit}`Spend<SharedAnchor>::from_v5_parts` -/
def Spend.fromV5Parts (parts : (SpendPrefix × List.Vector UInt8 groth16) ×
    List.Vector UInt8 64) : Spend Unit :=
  { cv := parts.1.1.cv
    perSpendAnchor := ()
    nullifier := parts.1.1.nullifier
    rk := parts.1.1.rk
    zkproof := parts.1.2
    spendAuthSig := parts.2 }

/-- {lit}`Output::into_v5_parts`, the prefix -/
def Output.v5Prefix (output : Output) : OutputPrefix :=
  { cv := output.cv
    cmU := output.cmU
    ephemeralKey := output.ephemeralKey
    encCiphertext := output.encCiphertext
    outCiphertext := output.outCiphertext }

/-- {lit}`Output::from_v5_parts` -/
def Output.fromV5Parts (parts : OutputPrefix × List.Vector UInt8 groth16) : Output :=
  { cv := parts.1.cv
    cmU := parts.1.cmU
    ephemeralKey := parts.1.ephemeralKey
    encCiphertext := parts.1.encCiphertext
    outCiphertext := parts.1.outCiphertext
    zkproof := parts.2 }

def Spend.maxAllocation : Nat := (maxBlockBytes - 1) / (32 + 32 + 32 + 192 + 64 + 32)

def SpendPrefix.maxAllocation : Nat := (maxBlockBytes - 1) / (32 + 32 + 32 + 192 + 64)

def Output.maxAllocation : Nat := (maxBlockBytes - 1) / (32 + 32 + 32 + 580 + 80 + 192)

/-- {lit}`Groth16Proof::max_allocation` -/
def groth16MaxAllocation : Nat := max SpendPrefix.maxAllocation Output.maxAllocation

/-! ### Serialization -/

/-- Write a version 4 Spend. -/
def Spend.serialize (spend : Spend Bytes32) : Writer :=
  writeBytes spend.cv ++ (writeBytes spend.perSpendAnchor ++ (writeBytes spend.nullifier ++
    (writeBytes spend.rk ++ (writeBytes spend.zkproof ++ writeBytes spend.spendAuthSig))))

/-- Write a version 5 Spend prefix. -/
def SpendPrefix.serialize (spend : SpendPrefix) : Writer :=
  writeBytes spend.cv ++ (writeBytes spend.nullifier ++ writeBytes spend.rk)

/-- Write a version 5 Output prefix. -/
def OutputPrefix.serialize (output : OutputPrefix) : Writer :=
  writeBytes output.cv ++ (writeBytes output.cmU ++ (writeBytes output.ephemeralKey ++
    (writeBytes output.encCiphertext ++ writeBytes output.outCiphertext)))

/-- Write a version 4 Output. -/
def Output.serialize (output : Output) : Writer :=
  writeBytes output.cv ++ (writeBytes output.cmU ++ (writeBytes output.ephemeralKey ++
    (writeBytes output.encCiphertext ++ (writeBytes output.outCiphertext ++
      writeBytes output.zkproof))))

/-- Write the anchor the spends share, when there are spends. -/
def serializeSharedAnchor : Option Bytes32 → Writer
  | some anchor => writeBytes anchor
  | none => .bytes []

/-- Write an optional version 5 bundle; an absent one is two empty lists. -/
def serializeV5 : Option SharedAnchor → Writer
  | none => serializeEmptyList ++ serializeEmptyList
  | some data =>
    let spends := data.transfers.spends
    let outputs := data.transfers.outputs
    serializeVec SpendPrefix.serialize (spends.map Spend.v5Prefix) ++
      (serializeVec OutputPrefix.serialize (outputs.map Output.v5Prefix) ++
        (data.valueBalance.serialize ++
          (serializeSharedAnchor data.transfers.sharedAnchor ++
            (Writer.each writeBytes (spends.map Spend.zkproof) ++
              (Writer.each writeBytes (spends.map Spend.spendAuthSig) ++
                (Writer.each writeBytes (outputs.map Output.zkproof) ++
                  writeBytes data.bindingSig))))))

section Deserialize

variable (curves : Curves)

def deserializeValueCommitment : Deserializer Bytes32 :=
  readChecked (canonical curves.saplingValueCommitment "invalid ValueCommitment bytes")

def deserializeNoteCommitment : Deserializer Bytes32 :=
  readChecked
    (canonical curves.extractedNoteCommitment "invalid ExtractedNoteCommitment bytes")

def deserializeRoot : Deserializer Bytes32 :=
  readChecked (canonical curves.jubjubBase
    "Invalid jubjub::Base value for Sapling note commitment tree root")

def deserializeEphemeralKey : Deserializer Bytes32 :=
  readChecked (canonicalPoint curves.jubjubPoint curves.jubjubSmallOrder
    "Invalid jubjub::AffinePoint value for Sapling EphemeralPublicKey"
    "jubjub::AffinePoint value for Sapling EphemeralPublicKey point is of small order")

def deserializeValidatingKey : Deserializer Bytes32 :=
  readChecked (canonicalPoint curves.redjubjubKey curves.jubjubSmallOrder
    "Invalid redjubjub::ValidatingKey for Sapling ValidatingKey"
    "jubjub::AffinePoint value for Sapling ValidatingKey is of small order")

/-- Read a version 4 Spend. -/
def Spend.deserialize : Deserializer (Spend Bytes32) := do
  let cv ← deserializeValueCommitment curves
  let perSpendAnchor ← deserializeRoot curves
  let nullifier ← readBytes 32
  let rk ← deserializeValidatingKey curves
  let zkproof ← readBytes groth16
  let spendAuthSig ← readBytes 64
  return {
    cv := cv
    perSpendAnchor := perSpendAnchor
    nullifier := nullifier
    rk := rk
    zkproof := zkproof
    spendAuthSig := spendAuthSig }

/-- Read a version 5 Spend prefix. -/
def SpendPrefix.deserialize : Deserializer SpendPrefix := do
  let cv ← deserializeValueCommitment curves
  let nullifier ← readBytes 32
  let rk ← deserializeValidatingKey curves
  return { cv := cv, nullifier := nullifier, rk := rk }

/-- Read a version 5 Output prefix. -/
def OutputPrefix.deserialize : Deserializer OutputPrefix := do
  let cv ← deserializeValueCommitment curves
  let cmU ← deserializeNoteCommitment curves
  let ephemeralKey ← deserializeEphemeralKey curves
  let encCiphertext ← readBytes 580
  let outCiphertext ← readBytes 80
  return {
    cv := cv
    cmU := cmU
    ephemeralKey := ephemeralKey
    encCiphertext := encCiphertext
    outCiphertext := outCiphertext }

/-- Read a version 4 Output. -/
def Output.deserialize : Deserializer Output := do
  let cv ← deserializeValueCommitment curves
  let cmU ← deserializeNoteCommitment curves
  let ephemeralKey ← deserializeEphemeralKey curves
  let encCiphertext ← readBytes 580
  let outCiphertext ← readBytes 80
  let zkproof ← readBytes groth16
  return {
    cv := cv
    cmU := cmU
    ephemeralKey := ephemeralKey
    encCiphertext := encCiphertext
    outCiphertext := outCiphertext
    zkproof := zkproof }

/-- Read the shared anchor exactly when there are spends. -/
def deserializeSharedAnchor (spendsCount : Nat) :
    Deserializer { anchor : Option Bytes32 // anchor.isSome = decide (0 < spendsCount) } :=
  if h : 0 < spendsCount then do
    let anchor ← deserializeRoot curves
    return ⟨some anchor, by simp [h]⟩
  else
    return ⟨none, by simp [h]⟩

/-- Assemble the transfers; the anchor is present exactly when spends are. -/
def assembleTransfers (sharedAnchor : Option Bytes32) (spends : List (Spend Unit))
    (outputs : List Output) (hanchor : sharedAnchor.isSome = true ↔ spends ≠ [])
    (hsome : ¬ (spends = [] ∧ outputs = [])) : TransferData Bytes32 Unit :=
  match h : sharedAnchor with
  | some anchor => .spendsAndMaybeOutputs anchor ⟨spends, hanchor.mp (by simp)⟩ outputs
  | none =>
    .justOutputs ⟨outputs, fun hempty =>
      hsome ⟨by_contra fun hne => by simpa using hanchor.mpr hne, hempty⟩⟩

/-- {lit}`deserialize_v5_sapling_shielded_data`: the counts are read along with
the prefixes, the other fields only when there is a spend or an output. -/
def deserializeV5 (isCoinbase : Bool) : Deserializer (Option SharedAnchor) := do
  let spendCount ← CompactSizeMessage.deserialize
  if isCoinbase ∧ 0 < spendCount.size then
    parseError "coinbase transaction must not have Sapling spends"
  else
    let spendPrefixes ← deserializeExternalCount SpendPrefix.maxAllocation
      (SpendPrefix.deserialize curves) spendCount.size
    let outputPrefixes ← deserializeVec Output.maxAllocation (OutputPrefix.deserialize curves)
    if hsome : spendCount.size = 0 ∧ outputPrefixes.length = 0 then
      return none
    else
      let valueBalance ← Amount.deserialize .negativeAllowed
      let sharedAnchor ← deserializeSharedAnchor curves spendCount.size
      let spendProofs ← deserializeExternalCount groth16MaxAllocation (readBytes groth16)
        spendCount.size
      let spendSigs ← deserializeExternalCount SpendPrefix.maxAllocation (readBytes 64)
        spendCount.size
      let outputProofs ← deserializeExternalCount groth16MaxAllocation (readBytes groth16)
        outputPrefixes.length
      let bindingSig ← readBytes 64
      let spends := ((spendPrefixes.toList.zip spendProofs.toList).zip spendSigs.toList).map
        Spend.fromV5Parts
      let outputs := (outputPrefixes.zip outputProofs.toList).map Output.fromV5Parts
      have hspends : spends = [] ↔ spendCount.size = 0 := by
        rw [← List.length_eq_zero_iff]
        simp [spends]
      have houtputs : outputs = [] ↔ outputPrefixes.length = 0 := by
        rw [← List.length_eq_zero_iff]
        simp [outputs]
      return some {
        valueBalance := valueBalance
        transfers := assembleTransfers sharedAnchor.val spends outputs
          (by rw [sharedAnchor.property, decide_eq_true_iff, Ne, hspends]; omega)
          (by rw [hspends, houtputs]; exact hsome)
        bindingSig := bindingSig }

end Deserialize

/-! ### Reading back -/

section ReadsBack

variable {curves : Curves}

theorem readsBack_spend (spend : Spend Bytes32) :
    ReadsBack (Spend.deserialize curves) spend.serialize (· = spend) := by
  apply (readsBack_checked _ spend.cv).bind_eq
  apply (readsBack_checked _ spend.perSpendAnchor).bind_eq
  apply (readsBack_bytes spend.nullifier).bind_eq
  apply (readsBack_checked _ spend.rk).bind_eq
  apply (readsBack_bytes spend.zkproof).bind_eq
  apply (readsBack_bytes spend.spendAuthSig).bind_pure
  rintro _ rfl
  rfl

theorem readsBack_spendPrefix (spend : SpendPrefix) :
    ReadsBack (SpendPrefix.deserialize curves) spend.serialize (· = spend) := by
  apply (readsBack_checked _ spend.cv).bind_eq
  apply (readsBack_bytes spend.nullifier).bind_eq
  apply (readsBack_checked _ spend.rk).bind_pure
  rintro _ rfl
  rfl

theorem readsBack_outputPrefix (output : OutputPrefix) :
    ReadsBack (OutputPrefix.deserialize curves) output.serialize (· = output) := by
  apply (readsBack_checked _ output.cv).bind_eq
  apply (readsBack_checked _ output.cmU).bind_eq
  apply (readsBack_checked _ output.ephemeralKey).bind_eq
  apply (readsBack_bytes output.encCiphertext).bind_eq
  apply (readsBack_bytes output.outCiphertext).bind_pure
  rintro _ rfl
  rfl

theorem readsBack_output (output : Output) :
    ReadsBack (Output.deserialize curves) output.serialize (· = output) := by
  apply (readsBack_checked _ output.cv).bind_eq
  apply (readsBack_checked _ output.cmU).bind_eq
  apply (readsBack_checked _ output.ephemeralKey).bind_eq
  apply (readsBack_bytes output.encCiphertext).bind_eq
  apply (readsBack_bytes output.outCiphertext).bind_eq
  apply (readsBack_bytes output.zkproof).bind_pure
  rintro _ rfl
  rfl

/-- Taking a bundle's transfers apart and assembling them again. -/
theorem assembleTransfers_eq (transfers : TransferData Bytes32 Unit)
    (hanchor : transfers.sharedAnchor.isSome = true ↔ transfers.spends ≠ [])
    (hsome : ¬ (transfers.spends = [] ∧ transfers.outputs = [])) :
    assembleTransfers transfers.sharedAnchor transfers.spends transfers.outputs
      hanchor hsome = transfers := by
  cases transfers <;> rfl

theorem TransferData.sharedAnchor_isSome (transfers : TransferData Bytes32 Unit) :
    transfers.sharedAnchor.isSome = decide (0 < transfers.spends.length) := by
  cases transfers with
  | spendsAndMaybeOutputs anchor spends maybeOutputs =>
    have hpos : 0 < spends.val.length := List.length_pos_iff.mpr spends.property
    rw [sharedAnchor, TransferData.spends, Option.isSome_some, decide_eq_true hpos]
  | justOutputs outputs => simp [sharedAnchor, TransferData.spends]

/-- A bundle has a spend or an output. -/
theorem TransferData.nonempty (transfers : TransferData Bytes32 Unit) :
    ¬ (transfers.spends.length = 0 ∧ transfers.outputs.length = 0) := by
  cases transfers with
  | spendsAndMaybeOutputs anchor spends maybeOutputs =>
    intro h
    exact spends.property (List.length_eq_zero_iff.mp h.1)
  | justOutputs outputs =>
    intro h
    exact outputs.property (List.length_eq_zero_iff.mp h.2)

theorem zip_spendParts (spends : List (Spend Unit)) :
    (((spends.map Spend.v5Prefix).zip (spends.map Spend.zkproof)).zip
      (spends.map Spend.spendAuthSig)).map Spend.fromV5Parts = spends := by
  rw [List.zip_map', List.zip_map', List.map_map]
  exact List.map_id spends

theorem zip_outputParts (outputs : List Output) :
    ((outputs.map Output.v5Prefix).zip (outputs.map Output.zkproof)).map
      Output.fromV5Parts = outputs := by
  rw [List.zip_map', List.map_map]
  exact List.map_id outputs

theorem readsBack_sharedAnchor {n : Nat} {anchor : Option Bytes32}
    (h : anchor.isSome = decide (0 < n)) :
    ReadsBack (deserializeSharedAnchor curves n) (serializeSharedAnchor anchor)
      (·.val = anchor) := by
  cases anchor with
  | none =>
    have hn : ¬ 0 < n := by simpa using h
    rw [deserializeSharedAnchor, dif_neg hn]
    exact .pure rfl
  | some root =>
    have hn : 0 < n := by simpa using h
    rw [deserializeSharedAnchor, dif_pos hn]
    apply (readsBack_checked _ root).bind_pure
    rintro _ rfl
    rfl

/-- A version 5 bundle reads back, present or absent. -/
theorem readsBack_v5Bundle (isCoinbase : Bool) (data : Option SharedAnchor) :
    ReadsBack (deserializeV5 curves isCoinbase) (serializeV5 data) (· = data) := by
  cases data with
  | none =>
    apply (readsBack_len 0).bind
    rintro ⟨n, hn⟩ rfl
    refine .ite (fun _ => .fail _ _ _) fun _ => ?_
    rw [← Writer.nil_append serializeEmptyList]
    apply ReadsBack.bind (readsBack_externalCount List.length_nil readsBack_spendPrefix)
    intro spendPrefixes _
    rw [← Writer.append_nil serializeEmptyList]
    apply (readsBack_emptyList _ _).bind_eq
    rw [dif_pos ⟨rfl, rfl⟩]
    exact .pure rfl
  | some data =>
    have hanchor := data.transfers.sharedAnchor_isSome
    have hnonempty := data.transfers.nonempty
    rw [serializeV5, serializeVec, Writer.append_assoc]
    apply (readsBack_len _).bind
    rintro ⟨n, hn⟩ rfl
    refine .ite (fun _ => .fail _ _ _) fun _ => ?_
    apply ReadsBack.bind (readsBack_externalCount rfl readsBack_spendPrefix)
    intro spendPrefixes hspendPrefixes
    apply (readsBack_vec_eq _ readsBack_outputPrefix).bind_eq
    rw [dif_neg (by simpa using hnonempty)]
    apply (readsBack_amount data.valueBalance).bind_eq
    apply ReadsBack.bind (readsBack_sharedAnchor (by simpa using hanchor))
    intro sharedAnchor hsharedAnchor
    apply ReadsBack.bind (readsBack_externalCount (by simp) readsBack_bytes)
    intro spendProofs hspendProofs
    apply ReadsBack.bind (readsBack_externalCount (by simp) readsBack_bytes)
    intro spendSigs hspendSigs
    apply ReadsBack.bind (readsBack_externalCount (by simp) readsBack_bytes)
    intro outputProofs houtputProofs
    apply (readsBack_bytes data.bindingSig).bind_pure
    rintro _ rfl
    simp only [hspendPrefixes, hspendProofs, hspendSigs, houtputProofs, hsharedAnchor,
      zip_spendParts, zip_outputParts, assembleTransfers_eq]

end ReadsBack

end Sapling

/-! ## Orchard and Ironwood -/

namespace Orchard

/-- An Action description. -/
structure Action where
  cv : Bytes32
  nullifier : Bytes32
  rk : Bytes32
  cmX : Bytes32
  ephemeralKey : Bytes32
  encCiphertext : List.Vector UInt8 580
  outCiphertext : List.Vector UInt8 80
deriving DecidableEq

/-- An action with its spend authorization. -/
structure AuthorizedAction where
  action : Action
  spendAuthSig : List.Vector UInt8 64
deriving DecidableEq

/-- The flag bits of a bundle. -/
structure Flags where
  bits : UInt8
deriving DecidableEq

/-- An Orchard-protocol bundle.  Version 5 Orchard, version 6 Orchard and
Ironwood bundles have the same fields. -/
structure ShieldedData where
  flags : Flags
  valueBalance : Amount .negativeAllowed
  sharedAnchor : Bytes32
  proof : Bytes
  actions : AtLeastOne AuthorizedAction
  bindingSig : List.Vector UInt8 64
deriving DecidableEq

/-- {lit}`orchard::Flags` reserves every bit but the two pre-NU6.3 ones. -/
def preNu63Reserved : UInt8 := 0b11111100

/-- {lit}`orchard::FlagsV6` also permits {lit}`enableCrossAddress`. -/
def nu63Reserved : UInt8 := 0b11111000

/-- The bits that have a meaning. -/
def definedFlags : UInt8 := 0b00000111

def Action.maxAllocation : Nat := (maxBlockBytes - 1) / (5 * 32 + 580 + 80 + 64)

/-- {lit}`Flags::from_byte` -/
def Flags.fromByte (reserved byte : UInt8) : Except SerializationError Flags :=
  if byte &&& reserved ≠ 0 then .error (.parse "invalid reserved orchard flags")
  else .ok { bits := byte &&& definedFlags }

/-- Write an Action. -/
def Action.serialize (action : Action) : Writer :=
  writeBytes action.cv ++ (writeBytes action.nullifier ++ (writeBytes action.rk ++
    (writeBytes action.cmX ++ (writeBytes action.ephemeralKey ++
      (writeBytes action.encCiphertext ++ writeBytes action.outCiphertext)))))

/-- Write an optional bundle; an absent one is an empty action list. -/
def serializeBundle : Option ShieldedData → Writer
  | none => serializeEmptyList
  | some data =>
    serializeVec Action.serialize (data.actions.val.map AuthorizedAction.action) ++
      (writeU8 data.flags.bits ++ (data.valueBalance.serialize ++
        (writeBytes data.sharedAnchor ++ (serializeBytes data.proof ++
          (Writer.each writeBytes (data.actions.val.map AuthorizedAction.spendAuthSig) ++
            writeBytes data.bindingSig)))))

section Deserialize

variable (curves : Curves)

def deserializeValueCommitment : Deserializer Bytes32 :=
  readChecked (canonical curves.pallasPoint "Invalid pallas::Affine value")

def deserializeNullifier : Deserializer Bytes32 :=
  readChecked (canonical curves.pallasBase "Invalid pallas::Base value for orchard Nullifier")

/-- The randomized key is not decoded, but it must not be the identity. -/
def deserializeRk : Deserializer Bytes32 :=
  readChecked (canonical (fun rk => rk.toList ≠ zeros 32)
    "Orchard action rk must not be the identity point")

def deserializeBase : Deserializer Bytes32 :=
  readChecked (canonical curves.pallasBase "Invalid pallas::Base, input not canonical")

def deserializeEphemeralKey : Deserializer Bytes32 :=
  readChecked (canonicalPoint curves.pallasPoint curves.pallasIdentity
    "Invalid pallas::Affine value for Orchard EphemeralPublicKey"
    "pallas::Affine value for Orchard EphemeralPublicKey is the identity")

def deserializeRoot : Deserializer Bytes32 :=
  readChecked (canonical curves.pallasBase
    "Invalid pallas::Base value for Orchard note commitment tree root")

/-- Read an Action. -/
def Action.deserialize : Deserializer Action := do
  let cv ← deserializeValueCommitment curves
  let nullifier ← deserializeNullifier curves
  let rk ← deserializeRk
  let cmX ← deserializeBase curves
  let ephemeralKey ← deserializeEphemeralKey curves
  let encCiphertext ← readBytes 580
  let outCiphertext ← readBytes 80
  return {
    cv := cv
    nullifier := nullifier
    rk := rk
    cmX := cmX
    ephemeralKey := ephemeralKey
    encCiphertext := encCiphertext
    outCiphertext := outCiphertext }

/-- {lit}`deserialize_orchard_shielded_data`: the fields after the action list are
present only when it is not empty.  The reserved bits select the flag rule. -/
def deserializeBundle (reserved : UInt8) : Deserializer (Option ShieldedData) := do
  let actions ← deserializeVec Action.maxAllocation (Action.deserialize curves)
  if actions.isEmpty then
    return none
  else
    let flagByte ← readU8
    let flags ← Reader.ofExcept (Flags.fromByte reserved flagByte)
    let valueBalance ← Amount.deserialize .negativeAllowed
    let sharedAnchor ← deserializeRoot curves
    let proof ← deserializeBytes
    let sigs ← deserializeExternalCount Action.maxAllocation (readBytes 64) actions.length
    let bindingSig ← readBytes 64
    let authorizedActions := (actions.zip sigs.toList).map
      fun parts => ({ action := parts.1, spendAuthSig := parts.2 } : AuthorizedAction)
    if h : authorizedActions ≠ [] then
      return some {
        flags := flags
        valueBalance := valueBalance
        sharedAnchor := sharedAnchor
        proof := proof
        actions := ⟨authorizedActions, h⟩
        bindingSig := bindingSig }
    else
      parseError "vector length out of bounds"

end Deserialize

/-! ### Reading back -/

section ReadsBack

variable {curves : Curves}

theorem readsBack_action (action : Action) :
    ReadsBack (Action.deserialize curves) action.serialize (· = action) := by
  apply (readsBack_checked _ action.cv).bind_eq
  apply (readsBack_checked _ action.nullifier).bind_eq
  apply (readsBack_checked _ action.rk).bind_eq
  apply (readsBack_checked _ action.cmX).bind_eq
  apply (readsBack_checked _ action.ephemeralKey).bind_eq
  apply (readsBack_bytes action.encCiphertext).bind_eq
  apply (readsBack_bytes action.outCiphertext).bind_pure
  rintro _ rfl
  rfl

theorem zip_actionParts (actions : List AuthorizedAction) :
    ((actions.map AuthorizedAction.action).zip
      (actions.map AuthorizedAction.spendAuthSig)).map
        (fun parts => ({ action := parts.1, spendAuthSig := parts.2 } : AuthorizedAction)) =
      actions := by
  rw [List.zip_map', List.map_map]
  exact List.map_id actions

/-- A flag byte without reserved bits keeps its bits, under either rule. -/
theorem Flags.fromByte_bits {reserved byte : UInt8} {flags : Flags}
    (hreserved : reserved = preNu63Reserved ∨ reserved = nu63Reserved)
    (h : Flags.fromByte reserved byte = .ok flags) : flags.bits = byte := by
  have hbits : ∀ b : BitVec 8, b &&& 0b11111000#8 = 0#8 → b &&& 0b00000111#8 = b := by
    decide
  have hpre : ∀ b : BitVec 8, b &&& 0b11111100#8 = 0#8 → b &&& 0b11111000#8 = 0#8 := by
    decide
  unfold Flags.fromByte at h
  split_ifs at h with hzero
  rw [← Except.ok.inj h]
  apply UInt8.toBitVec_inj.mp
  apply hbits
  have hclear : (byte &&& reserved).toBitVec = 0#8 := by
    rw [not_not.mp hzero]
    rfl
  rcases hreserved with rfl | rfl
  · exact hpre _ hclear
  · exact hclear

/-- An Orchard-protocol bundle reads back, present or absent. -/
theorem readsBack_bundle {reserved : UInt8}
    (hreserved : reserved = preNu63Reserved ∨ reserved = nu63Reserved)
    (data : Option ShieldedData) :
    ReadsBack (deserializeBundle curves reserved) (serializeBundle data) (· = data) := by
  cases data with
  | none =>
    rw [← Writer.append_nil (serializeBundle none)]
    exact (readsBack_emptyList _ _).bind_eq (.pure rfl)
  | some data =>
    have hactions : data.actions.val ≠ [] := data.actions.property
    apply (readsBack_vec_eq _ readsBack_action).bind_eq
    rw [if_neg (by simpa using hactions)]
    apply (readsBack_u8 data.flags.bits).bind_eq
    rw [← Writer.nil_append (data.valueBalance.serialize ++ _)]
    have hflags : ∀ flags, Flags.fromByte reserved data.flags.bits = .ok flags →
        flags = data.flags := by
      intro flags hflags
      have hbits := Flags.fromByte_bits hreserved hflags
      cases flags
      exact congrArg Flags.mk hbits
    apply ReadsBack.bind_eq (.ofExcept hflags)
    apply (readsBack_amount data.valueBalance).bind_eq
    apply (readsBack_checked _ data.sharedAnchor).bind_eq
    apply (readsBack_serializeBytes data.proof).bind_eq
    apply ReadsBack.bind (readsBack_externalCount (by simp) readsBack_bytes)
    intro sigs hsigs
    rw [← Writer.append_nil (writeBytes data.bindingSig)]
    apply (readsBack_bytes data.bindingSig).bind_eq
    simp only [hsigs, zip_actionParts]
    rw [dif_pos hactions]
    exact .pure rfl

end ReadsBack

end Orchard

end Zcash
end ZeroShim
