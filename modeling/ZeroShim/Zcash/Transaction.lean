import ZeroShim.Zcash.Shielded

/-!
# Transactions

The six transaction versions with their wire layouts, the accessors the shim
reads, and what the deserializer returns for a serialized transaction.

Main results:

- Theorem {lit}`readsBack_transaction`: whatever the deserializer accepts of a
  serialized transaction, it consumes exactly and reads the same bundles.
- Theorems {lit}`zcashDeserialize_append` and {lit}`zcashDeserialize_prefix`: what
  follows a transaction is left over, and no proper prefix is a whole one.
-/

namespace ZeroShim
namespace Zcash

open Library

/-! ## Network upgrades -/

/-- A network upgrade, in order of activation. -/
inductive NetworkUpgrade where
  | genesis
  | beforeOverwinter
  | overwinter
  | sapling
  | blossom
  | heartwood
  | canopy
  | nu5
  | nu6
  | nu6_1
  | nu6_2
  | nu6_3
  | nu7
deriving DecidableEq, Repr, Ord

/-- {lit}`CONSENSUS_BRANCH_IDS`; NU7 has an identifier only in tests. -/
def consensusBranchIds : List (NetworkUpgrade × UInt32) :=
  [(.overwinter, 0x5ba81b19), (.sapling, 0x76b809bb), (.blossom, 0x2bb40e60),
    (.heartwood, 0xf5b9230b), (.canopy, 0xe9ff75a6), (.nu5, 0xc2d6d0b4),
    (.nu6, 0xc8e71055), (.nu6_1, 0x4dec4df0), (.nu6_2, 0x5437f330), (.nu6_3, 0x37a5165b)]

/-- {lit}`NetworkUpgrade::branch_id` -/
def NetworkUpgrade.branchId (nu : NetworkUpgrade) : Option UInt32 :=
  (consensusBranchIds.find? fun entry => entry.1 = nu).map Prod.snd

/-- {lit}`NetworkUpgrade::try_from` -/
def NetworkUpgrade.tryFrom (branchId : UInt32) : Except SerializationError NetworkUpgrade :=
  match consensusBranchIds.find? fun entry => entry.2 = branchId with
  | some entry => .ok entry.1
  | none => .error (.parse "invalid consensus branch id")

/-- The branch identifiers are distinct. -/
theorem NetworkUpgrade.tryFrom_branchId {nu : NetworkUpgrade} {branchId : UInt32}
    (h : nu.branchId = some branchId) : tryFrom branchId = .ok nu := by
  cases nu <;> cases h <;> rfl

/-! ## Data -/

/-- A transaction of any version. -/
inductive Transaction where
  | v1 (inputs : List Input) (outputs : List Output) (lockTime : LockTime)
  | v2 (inputs : List Input) (outputs : List Output) (lockTime : LockTime)
      (joinsplitData : Option (JoinSplitData bctv14))
  | v3 (inputs : List Input) (outputs : List Output) (lockTime : LockTime)
      (expiryHeight : UInt32) (joinsplitData : Option (JoinSplitData bctv14))
  | v4 (inputs : List Input) (outputs : List Output) (lockTime : LockTime)
      (expiryHeight : UInt32) (joinsplitData : Option (JoinSplitData groth16))
      (saplingShieldedData : Option Sapling.PerSpendAnchor)
  | v5 (networkUpgrade : NetworkUpgrade) (lockTime : LockTime) (expiryHeight : UInt32)
      (inputs : List Input) (outputs : List Output)
      (saplingShieldedData : Option Sapling.SharedAnchor)
      (orchardShieldedData : Option Orchard.ShieldedData)
  | v6 (networkUpgrade : NetworkUpgrade) (lockTime : LockTime) (expiryHeight : UInt32)
      (inputs : List Input) (outputs : List Output)
      (saplingShieldedData : Option Sapling.SharedAnchor)
      (orchardShieldedData : Option Orchard.ShieldedData)
      (ironwoodShieldedData : Option Orchard.ShieldedData)
deriving DecidableEq

/-- What the deserializer takes from other libraries: a script encoder, curve
decoders and {lit}`librustzcash`, of whose transaction only the id is used. -/
structure Libraries where
  pushNum : Int → Bytes
  curves : Curves
  toLibrustzcash : Transaction → NetworkUpgrade → Except SerializationError Hash
  sha256d : Bytes → Hash

namespace Transaction

/-! ## Accessors -/

def isOverwintered : Transaction → Bool
  | v1 .. => false
  | v2 .. => false
  | v3 .. => true
  | v4 .. => true
  | v5 .. => true
  | v6 .. => true

def version : Transaction → UInt32
  | v1 .. => 1
  | v2 .. => 2
  | v3 .. => 3
  | v4 .. => 4
  | v5 .. => 5
  | v6 .. => 6

def inputs : Transaction → List Input
  | v1 inputs _ _ => inputs
  | v2 inputs _ _ _ => inputs
  | v3 inputs _ _ _ _ => inputs
  | v4 inputs _ _ _ _ _ => inputs
  | v5 _ _ _ inputs _ _ _ => inputs
  | v6 _ _ _ inputs _ _ _ _ => inputs

def outputs : Transaction → List Output
  | v1 _ outputs _ => outputs
  | v2 _ outputs _ _ => outputs
  | v3 _ outputs _ _ _ => outputs
  | v4 _ outputs _ _ _ _ => outputs
  | v5 _ _ _ _ outputs _ _ => outputs
  | v6 _ _ _ _ outputs _ _ _ => outputs

/-- An expiry height of zero means no expiry. -/
def expiryHeightField (expiryHeight : UInt32) : Option UInt32 :=
  if expiryHeight = 0 then none else some expiryHeight

def expiryHeight : Transaction → Option UInt32
  | v1 .. => none
  | v2 .. => none
  | v3 _ _ _ expiryHeight _ => expiryHeightField expiryHeight
  | v4 _ _ _ expiryHeight _ _ => expiryHeightField expiryHeight
  | v5 _ _ expiryHeight _ _ _ _ => expiryHeightField expiryHeight
  | v6 _ _ expiryHeight _ _ _ _ _ => expiryHeightField expiryHeight

def orchardShieldedData : Transaction → Option Orchard.ShieldedData
  | v5 _ _ _ _ _ _ orchard => orchard
  | v6 _ _ _ _ _ _ orchard _ => orchard
  | _ => none

def ironwoodShieldedData : Transaction → Option Orchard.ShieldedData
  | v6 _ _ _ _ _ _ _ ironwood => ironwood
  | _ => none

def orchardActions (tx : Transaction) : List Orchard.Action :=
  tx.orchardShieldedData.toList.flatMap fun data =>
    data.actions.val.map Orchard.AuthorizedAction.action

/-- The zatoshis a bundle moves out of its pool; none without a bundle. -/
def bundleBalance (data : Option Orchard.ShieldedData) : Int :=
  match data with
  | some data => data.valueBalance.zatoshis
  | none => 0

def orchardValueBalance (tx : Transaction) : Int := bundleBalance tx.orchardShieldedData

def ironwoodValueBalance (tx : Transaction) : Int := bundleBalance tx.ironwoodShieldedData

def saplingValueBalance : Transaction → Int
  | v4 _ _ _ _ _ (some data) => data.valueBalance.zatoshis
  | v5 _ _ _ _ _ (some data) _ => data.valueBalance.zatoshis
  | v6 _ _ _ _ _ (some data) _ _ => data.valueBalance.zatoshis
  | _ => 0

/-! ## Serialization -/

def overwinterVersionGroupId : UInt32 := 0x03C48270

def saplingVersionGroupId : UInt32 := 0x892F2085

def txV5VersionGroupId : UInt32 := 0x26A7270A

def txV6VersionGroupId : UInt32 := 0xD884B698

/-- The {lit}`fOverwintered` flag, above the version. -/
def overwinteredFlag : Bool → UInt32
  | true => (1 : UInt32) <<< 31
  | false => 0

def header (tx : Transaction) : UInt32 := overwinteredFlag tx.isOverwintered ||| tx.version

/-- Only an upgrade with a branch identifier can be written. -/
def writeBranchId (nu : NetworkUpgrade) : Writer :=
  match nu.branchId with
  | some branchId => writeU32 branchId
  | none => .fail

/-- The Sapling part of a version 4 transaction, up to its binding signature. -/
def serializeSaplingV4 : Option Sapling.PerSpendAnchor → Writer
  | none => writeLe 8 0 ++ (serializeEmptyList ++ serializeEmptyList)
  | some data =>
    data.valueBalance.serialize ++
      (serializeVec Sapling.Spend.serialize data.transfers.spends ++
        serializeVec Sapling.Output.serialize data.transfers.outputs)

def serializeBindingSigV4 : Option Sapling.PerSpendAnchor → Writer
  | none => .bytes []
  | some data => writeBytes data.bindingSig

section Serialize

variable (libs : Libraries)

def serializeInputs (inputs : List Input) : Writer :=
  serializeVec (Input.serialize libs.pushNum) inputs

def serializeOutputs (outputs : List Output) : Writer :=
  serializeVec Output.serialize outputs

/-- {lit}`Transaction::zcash_serialize` -/
def serialize (tx : Transaction) : Writer :=
  writeU32 tx.header ++
    match tx with
    | v1 inputs outputs lockTime =>
      serializeInputs libs inputs ++ (serializeOutputs outputs ++ lockTime.serialize)
    | v2 inputs outputs lockTime joinsplitData =>
      serializeInputs libs inputs ++ (serializeOutputs outputs ++ (lockTime.serialize ++
        serializeJoinSplitData joinsplitData))
    | v3 inputs outputs lockTime expiryHeight joinsplitData =>
      writeU32 overwinterVersionGroupId ++ (serializeInputs libs inputs ++
        (serializeOutputs outputs ++ (lockTime.serialize ++ (writeU32 expiryHeight ++
          serializeJoinSplitData joinsplitData))))
    | v4 inputs outputs lockTime expiryHeight joinsplitData saplingShieldedData =>
      writeU32 saplingVersionGroupId ++ (serializeInputs libs inputs ++
        (serializeOutputs outputs ++ (lockTime.serialize ++ (writeU32 expiryHeight ++
          (serializeSaplingV4 saplingShieldedData ++
            (serializeJoinSplitData joinsplitData ++
              serializeBindingSigV4 saplingShieldedData))))))
    | v5 networkUpgrade lockTime expiryHeight inputs outputs sapling orchard =>
      writeU32 txV5VersionGroupId ++ (writeBranchId networkUpgrade ++
        (lockTime.serialize ++ (writeU32 expiryHeight ++ (serializeInputs libs inputs ++
          (serializeOutputs outputs ++ (Sapling.serializeV5 sapling ++
            Orchard.serializeBundle orchard))))))
    | v6 networkUpgrade lockTime expiryHeight inputs outputs sapling orchard ironwood =>
      writeU32 txV6VersionGroupId ++ (writeBranchId networkUpgrade ++
        (lockTime.serialize ++ (writeU32 expiryHeight ++ (serializeInputs libs inputs ++
          (serializeOutputs outputs ++ (Sapling.serializeV5 sapling ++
            (Orchard.serializeBundle orchard ++ Orchard.serializeBundle ironwood)))))))

end Serialize

/-! ## Deserialization -/

/-- The version bits of the header. -/
def low31Bits : UInt32 := ((1 : UInt32) <<< 31) - 1

/-- A coinbase has one input, a coinbase input. -/
def isCoinbase : List Input → Bool
  | [.coinbase ..] => true
  | _ => false

/-- Read a version group id. -/
def expectGroupId (groupId : UInt32) (msg : String) : Deserializer Unit := do
  let id ← readU32
  if id ≠ groupId then parseError msg else return ()

/-- Read the branch id of a network upgrade that is not older than {lit}`least`. -/
def readNetworkUpgrade (least : NetworkUpgrade) (msg : String) :
    Deserializer NetworkUpgrade := do
  let branchId ← readU32
  let networkUpgrade ← Reader.ofExcept (NetworkUpgrade.tryFrom branchId)
  if (compare networkUpgrade least).isLT then parseError msg else return networkUpgrade

section Deserialize

variable (libs : Libraries)

def deserializeInputs : Deserializer (List Input) :=
  deserializeVec Input.maxAllocation (Input.deserialize libs.pushNum)

def deserializeOutputs : Deserializer (List Output) :=
  deserializeVec Output.maxAllocation Output.deserialize

def deserializeV1 : Deserializer Transaction := do
  let inputs ← deserializeInputs libs
  let outputs ← deserializeOutputs
  let lockTime ← LockTime.deserialize
  return .v1 inputs outputs lockTime

def deserializeV2 : Deserializer Transaction := do
  let inputs ← deserializeInputs libs
  let outputs ← deserializeOutputs
  let lockTime ← LockTime.deserialize
  let joinsplitData ← deserializeJoinSplitData bctv14
  return .v2 inputs outputs lockTime joinsplitData

def deserializeV3 : Deserializer Transaction := do
  let _ ← expectGroupId overwinterVersionGroupId "expected OVERWINTER_VERSION_GROUP_ID"
  let inputs ← deserializeInputs libs
  let outputs ← deserializeOutputs
  let lockTime ← LockTime.deserialize
  let expiryHeight ← readU32
  let joinsplitData ← deserializeJoinSplitData bctv14
  return .v3 inputs outputs lockTime expiryHeight joinsplitData

/-- The Sapling bundle of a version 4 transaction, whose binding signature is the
last field of the transaction. -/
def assembleSaplingV4 (valueBalance : Amount .negativeAllowed)
    (spends : List (Sapling.Spend Bytes32)) (outputs : List Sapling.Output) :
    Deserializer (Option Sapling.PerSpendAnchor) :=
  if hspends : spends ≠ [] then do
    let bindingSig ← readBytes 64
    return some {
      valueBalance := valueBalance
      transfers := .spendsAndMaybeOutputs () ⟨spends, hspends⟩ outputs
      bindingSig := bindingSig }
  else if houtputs : outputs ≠ [] then do
    let bindingSig ← readBytes 64
    return some {
      valueBalance := valueBalance
      transfers := .justOutputs ⟨outputs, houtputs⟩
      bindingSig := bindingSig }
  else if valueBalance.zatoshis ≠ 0 then
    Reader.fail .badTransactionBalance
  else
    return none

def deserializeV4 : Deserializer Transaction := do
  let _ ← expectGroupId saplingVersionGroupId "expected SAPLING_VERSION_GROUP_ID"
  let inputs ← deserializeInputs libs
  let outputs ← deserializeOutputs
  let lockTime ← LockTime.deserialize
  let expiryHeight ← readU32
  let valueBalance ← Amount.deserialize .negativeAllowed
  let spendCount ← CompactSizeMessage.deserialize
  if isCoinbase inputs = true ∧ 0 < spendCount.size then
    parseError "coinbase transaction must not have Sapling spends"
  else
    let spends ← deserializeExternalCount Sapling.Spend.maxAllocation
      (Sapling.Spend.deserialize libs.curves) spendCount.size
    let shieldedOutputs ← deserializeVec Sapling.Output.maxAllocation
      (Sapling.Output.deserialize libs.curves)
    let joinsplitData ← deserializeJoinSplitData groth16
    let saplingShieldedData ← assembleSaplingV4 valueBalance spends.toList shieldedOutputs
    return .v4 inputs outputs lockTime expiryHeight joinsplitData saplingShieldedData

def deserializeV5 : Deserializer Transaction := do
  let _ ← expectGroupId txV5VersionGroupId "expected TX_V5_VERSION_GROUP_ID"
  let networkUpgrade ← readNetworkUpgrade .nu5
    "v5 transaction must have NU5 or later consensus branch ID"
  let lockTime ← LockTime.deserialize
  let expiryHeight ← readU32
  let inputs ← deserializeInputs libs
  let outputs ← deserializeOutputs
  let sapling ← Sapling.deserializeV5 libs.curves (isCoinbase inputs)
  let orchard ← Orchard.deserializeBundle libs.curves Orchard.preNu63Reserved
  let tx := .v5 networkUpgrade lockTime expiryHeight inputs outputs sapling orchard
  let _ ← Reader.ofExcept (libs.toLibrustzcash tx networkUpgrade)
  return tx

def deserializeV6 : Deserializer Transaction := do
  let _ ← expectGroupId txV6VersionGroupId "expected TX_V6_VERSION_GROUP_ID"
  let networkUpgrade ← readNetworkUpgrade .nu6_3
    "v6 transaction must have a NU6.3 or later consensus branch ID"
  let lockTime ← LockTime.deserialize
  let expiryHeight ← readU32
  let inputs ← deserializeInputs libs
  let outputs ← deserializeOutputs
  let sapling ← Sapling.deserializeV5 libs.curves (isCoinbase inputs)
  let orchard ← Orchard.deserializeBundle libs.curves Orchard.preNu63Reserved
  let ironwood ← Orchard.deserializeBundle libs.curves Orchard.nu63Reserved
  let tx := .v6 networkUpgrade lockTime expiryHeight inputs outputs sapling orchard ironwood
  let _ ← Reader.ofExcept (libs.toLibrustzcash tx networkUpgrade)
  return tx

/-- The transaction body, once the version and the flag are known. -/
def deserializeBody (version : UInt32) (overwintered : Bool) : Deserializer Transaction :=
  if version = 1 ∧ overwintered = false then deserializeV1 libs
  else if version = 2 ∧ overwintered = false then deserializeV2 libs
  else if version = 3 ∧ overwintered = true then deserializeV3 libs
  else if version = 4 ∧ overwintered = true then deserializeV4 libs
  else if version = 5 ∧ overwintered = true then deserializeV5 libs
  else if version = 6 ∧ overwintered = true then deserializeV6 libs
  else parseError "bad tx header"

/-- {lit}`Transaction::zcash_deserialize` on a reader -/
def deserialize : Deserializer Transaction := do
  let header ← readU32
  deserializeBody libs (header &&& low31Bits) (header >>> 31 != 0)

/-- {lit}`Transaction::zcash_deserialize` on a cursor over {lit}`raw`: the transaction
and the position behind it.  At most {lit}`maxBlockBytes` are read. -/
def zcashDeserialize (raw : Bytes) : Except SerializationError (Transaction × Nat) :=
  let limited := raw.take maxBlockBytes
  match (deserialize libs).run limited with
  | .ok (tx, rest) => .ok (tx, limited.length - rest.length)
  | .error e => .error e

end Deserialize

/-! ## Reading back -/

/-- What a transaction keeps when it is written and read again.  A transparent
input may come back as a coinbase, but it stays one input. -/
structure ReadsAs (written read : Transaction) : Prop where
  version : read.version = written.version
  inputs : read.inputs.length = written.inputs.length
  outputs : read.outputs = written.outputs
  expiryHeight : read.expiryHeight = written.expiryHeight
  saplingValueBalance : read.saplingValueBalance = written.saplingValueBalance
  orchardShieldedData : read.orchardShieldedData = written.orchardShieldedData
  ironwoodShieldedData : read.ironwoodShieldedData = written.ironwoodShieldedData

section ReadsBack

variable (libs : Libraries)

theorem readsBack_inputs (inputs : List Input) :
    ReadsBack (deserializeInputs libs) (serializeInputs libs inputs)
      (·.length = inputs.length) :=
  (readsBack_vec inputs (readsBack_input libs.pushNum)).mono fun _ h => h.length_eq.symm

theorem readsBack_outputs (outputs : List Output) :
    ReadsBack deserializeOutputs (serializeOutputs outputs) (· = outputs) :=
  readsBack_vec_eq outputs readsBack_output

theorem readsBack_groupId (groupId : UInt32) (msg : String) :
    ReadsBack (expectGroupId groupId msg) (writeU32 groupId) fun _ => True := by
  rw [← Writer.append_nil (writeU32 groupId)]
  apply (readsBack_u32 groupId).bind_eq
  exact .ite (fun _ => .fail _ _ _) fun _ => .pure trivial

theorem readsBack_branchId (nu least : NetworkUpgrade) (msg : String) :
    ReadsBack (readNetworkUpgrade least msg) (writeBranchId nu) (· = nu) := by
  unfold writeBranchId
  cases hbranch : nu.branchId with
  | none => exact .ofFail _ _
  | some branchId =>
    dsimp only
    rw [← Writer.append_nil (writeU32 branchId)]
    apply (readsBack_u32 branchId).bind_eq
    rw [NetworkUpgrade.tryFrom_branchId hbranch, ← Writer.append_nil (Writer.bytes [])]
    have hnu : ReadsBack (Reader.ofExcept (.ok nu : Except SerializationError _))
        (.bytes []) (· = nu) := .pure rfl
    apply hnu.bind_eq
    exact .ite (fun _ => .fail _ _ _) fun _ => .pure rfl

/-- The check by {lit}`librustzcash` consumes nothing. -/
theorem readsBack_checkLibrustzcash {written tx : Transaction} {nu : NetworkUpgrade}
    (h : ReadsAs written tx) :
    ReadsBack (do
      let _ ← Reader.ofExcept (libs.toLibrustzcash tx nu)
      return tx) (.bytes []) (ReadsAs written) := by
  rw [← Writer.append_nil (Writer.bytes [])]
  exact ReadsBack.bind (.ofExcept fun _ _ => trivial) fun _ _ => .pure h

theorem readsBack_v1 (inputs : List Input) (outputs : List Output) (lockTime : LockTime) :
    ReadsBack (deserializeV1 libs)
      (serializeInputs libs inputs ++ (serializeOutputs outputs ++ lockTime.serialize))
      (ReadsAs (.v1 inputs outputs lockTime)) := by
  apply (readsBack_inputs libs inputs).bind
  intro inputs' hinputs
  apply (readsBack_outputs outputs).bind_eq
  apply (readsBack_lockTime lockTime).bind_pure
  intro lockTime' _
  exact ⟨rfl, hinputs, rfl, rfl, rfl, rfl, rfl⟩

theorem readsBack_v2 (inputs : List Input) (outputs : List Output) (lockTime : LockTime)
    (joinsplitData : Option (JoinSplitData bctv14)) :
    ReadsBack (deserializeV2 libs)
      (serializeInputs libs inputs ++ (serializeOutputs outputs ++ (lockTime.serialize ++
        serializeJoinSplitData joinsplitData)))
      (ReadsAs (.v2 inputs outputs lockTime joinsplitData)) := by
  apply (readsBack_inputs libs inputs).bind
  intro inputs' hinputs
  apply (readsBack_outputs outputs).bind_eq
  apply (readsBack_lockTime lockTime).bind
  intro lockTime' _
  apply (readsBack_joinSplitData joinsplitData).bind_pure
  intro joinsplitData' _
  exact ⟨rfl, hinputs, rfl, rfl, rfl, rfl, rfl⟩

theorem readsBack_v3 (inputs : List Input) (outputs : List Output) (lockTime : LockTime)
    (expiryHeight : UInt32) (joinsplitData : Option (JoinSplitData bctv14)) :
    ReadsBack (deserializeV3 libs)
      (writeU32 overwinterVersionGroupId ++ (serializeInputs libs inputs ++
        (serializeOutputs outputs ++ (lockTime.serialize ++ (writeU32 expiryHeight ++
          serializeJoinSplitData joinsplitData)))))
      (ReadsAs (.v3 inputs outputs lockTime expiryHeight joinsplitData)) := by
  apply (readsBack_groupId _ _).bind
  intro _ _
  apply (readsBack_inputs libs inputs).bind
  intro inputs' hinputs
  apply (readsBack_outputs outputs).bind_eq
  apply (readsBack_lockTime lockTime).bind
  intro lockTime' _
  apply (readsBack_u32 expiryHeight).bind_eq
  apply (readsBack_joinSplitData joinsplitData).bind_pure
  intro joinsplitData' _
  exact ⟨rfl, hinputs, rfl, rfl, rfl, rfl, rfl⟩

/-- The zero balance of an absent bundle is the encoding of the zero amount. -/
theorem serialize_zeroAmount :
    writeLe 8 0 = (⟨0, by decide⟩ : Amount .negativeAllowed).serialize := rfl

/-- The end of a version 4 transaction: the binding signature is there exactly
when the bundle is. -/
theorem readsBack_assembleSaplingV4 (sapling : Option Sapling.PerSpendAnchor)
    {valueBalance : Amount .negativeAllowed} {spends : List (Sapling.Spend Bytes32)}
    {outputs : List Sapling.Output}
    (hsome : ∀ data, sapling = some data → valueBalance = data.valueBalance ∧
      spends = data.transfers.spends ∧ outputs = data.transfers.outputs)
    (hnone : sapling = none → spends = [] ∧ outputs = []) :
    ReadsBack (assembleSaplingV4 valueBalance spends outputs)
      (serializeBindingSigV4 sapling) (· = sapling) := by
  unfold assembleSaplingV4
  cases sapling with
  | none =>
    rcases hnone rfl with ⟨rfl, rfl⟩
    rw [dif_neg (not_not.mpr rfl), dif_neg (not_not.mpr rfl)]
    exact .ite (fun _ => .fail _ _ _) fun _ => .pure rfl
  | some data =>
    rcases hsome data rfl with ⟨rfl, rfl, rfl⟩
    rcases data with ⟨valueBalance, transfers, bindingSig⟩
    cases transfers with
    | spendsAndMaybeOutputs anchor spends maybeOutputs =>
      rw [dif_pos (by exact spends.property)]
      apply (readsBack_bytes bindingSig).bind_pure
      rintro _ rfl
      rfl
    | justOutputs outputs =>
      have hspends : ¬ (Sapling.TransferData.justOutputs outputs :
          Sapling.TransferData Unit Bytes32).spends ≠ [] := not_not.mpr rfl
      dsimp only
      rw [dif_neg hspends, dif_pos (by exact outputs.property)]
      apply (readsBack_bytes bindingSig).bind_pure
      rintro _ rfl
      rfl

theorem readsBack_v4 (inputs : List Input) (outputs : List Output) (lockTime : LockTime)
    (expiryHeight : UInt32) (joinsplitData : Option (JoinSplitData groth16))
    (sapling : Option Sapling.PerSpendAnchor) :
    ReadsBack (deserializeV4 libs)
      (writeU32 saplingVersionGroupId ++ (serializeInputs libs inputs ++
        (serializeOutputs outputs ++ (lockTime.serialize ++ (writeU32 expiryHeight ++
          (serializeSaplingV4 sapling ++ (serializeJoinSplitData joinsplitData ++
            serializeBindingSigV4 sapling)))))))
      (ReadsAs (.v4 inputs outputs lockTime expiryHeight joinsplitData sapling)) := by
  apply (readsBack_groupId _ _).bind
  intro _ _
  apply (readsBack_inputs libs inputs).bind
  intro inputs' hinputs
  apply (readsBack_outputs outputs).bind_eq
  apply (readsBack_lockTime lockTime).bind
  intro lockTime' _
  apply (readsBack_u32 expiryHeight).bind_eq
  have hreads : ReadsAs (.v4 inputs outputs lockTime expiryHeight joinsplitData sapling)
      (.v4 inputs' outputs lockTime' expiryHeight joinsplitData sapling) :=
    ⟨rfl, hinputs, rfl, rfl, by cases sapling <;> rfl, rfl, rfl⟩
  cases sapling with
  | none =>
    rw [serializeSaplingV4, serialize_zeroAmount, Writer.append_assoc, Writer.append_assoc]
    apply (readsBack_amount _).bind_eq
    apply (readsBack_len 0).bind
    rintro ⟨n, hn⟩ rfl
    refine .ite (fun _ => .fail _ _ _) fun _ => ?_
    rw [← Writer.nil_append (serializeEmptyList ++ _)]
    refine ReadsBack.bind
      (readsBack_externalCount List.length_nil Sapling.readsBack_spend) ?_
    intro spends hspends
    apply (readsBack_emptyList _ _).bind_eq
    apply (readsBack_joinSplitData joinsplitData).bind_eq
    refine (readsBack_assembleSaplingV4 none (by rintro _ ⟨⟩)
      fun _ => ⟨hspends, rfl⟩).bind_pure ?_
    rintro _ rfl
    exact hreads
  | some data =>
    rw [serializeSaplingV4, Writer.append_assoc, Writer.append_assoc,
      serializeVec, Writer.append_assoc]
    apply (readsBack_amount data.valueBalance).bind_eq
    apply (readsBack_len data.transfers.spends.length).bind
    rintro ⟨n, hn⟩ hlen
    refine .ite (fun _ => .fail _ _ _) fun _ => ?_
    apply ReadsBack.bind (readsBack_externalCount hlen.symm Sapling.readsBack_spend)
    intro spends hspends
    apply (readsBack_vec_eq data.transfers.outputs Sapling.readsBack_output).bind_eq
    apply (readsBack_joinSplitData joinsplitData).bind_eq
    refine (readsBack_assembleSaplingV4 (some data) ?_ (by rintro ⟨⟩)).bind_pure ?_
    · rintro _ ⟨⟩
      exact ⟨rfl, hspends, rfl⟩
    · rintro _ rfl
      exact hreads

theorem readsBack_v5 (networkUpgrade : NetworkUpgrade) (lockTime : LockTime)
    (expiryHeight : UInt32) (inputs : List Input) (outputs : List Output)
    (sapling : Option Sapling.SharedAnchor) (orchard : Option Orchard.ShieldedData) :
    ReadsBack (deserializeV5 libs)
      (writeU32 txV5VersionGroupId ++ (writeBranchId networkUpgrade ++
        (lockTime.serialize ++ (writeU32 expiryHeight ++ (serializeInputs libs inputs ++
          (serializeOutputs outputs ++ (Sapling.serializeV5 sapling ++
            Orchard.serializeBundle orchard)))))))
      (ReadsAs (.v5 networkUpgrade lockTime expiryHeight inputs outputs sapling orchard)) := by
  apply (readsBack_groupId _ _).bind
  intro _ _
  apply (readsBack_branchId networkUpgrade _ _).bind_eq
  apply (readsBack_lockTime lockTime).bind
  intro lockTime' _
  apply (readsBack_u32 expiryHeight).bind_eq
  apply (readsBack_inputs libs inputs).bind
  intro inputs' hinputs
  apply (readsBack_outputs outputs).bind_eq
  apply (Sapling.readsBack_v5Bundle _ sapling).bind_eq
  rw [← Writer.append_nil (Orchard.serializeBundle orchard)]
  apply (Orchard.readsBack_bundle (Or.inl rfl) orchard).bind_eq
  apply readsBack_checkLibrustzcash libs
  exact ⟨rfl, hinputs, rfl, rfl, by cases sapling <;> rfl, rfl, rfl⟩

theorem readsBack_v6 (networkUpgrade : NetworkUpgrade) (lockTime : LockTime)
    (expiryHeight : UInt32) (inputs : List Input) (outputs : List Output)
    (sapling : Option Sapling.SharedAnchor) (orchard ironwood : Option Orchard.ShieldedData) :
    ReadsBack (deserializeV6 libs)
      (writeU32 txV6VersionGroupId ++ (writeBranchId networkUpgrade ++
        (lockTime.serialize ++ (writeU32 expiryHeight ++ (serializeInputs libs inputs ++
          (serializeOutputs outputs ++ (Sapling.serializeV5 sapling ++
            (Orchard.serializeBundle orchard ++ Orchard.serializeBundle ironwood))))))))
      (ReadsAs
        (.v6 networkUpgrade lockTime expiryHeight inputs outputs sapling orchard ironwood)) := by
  apply (readsBack_groupId _ _).bind
  intro _ _
  apply (readsBack_branchId networkUpgrade _ _).bind_eq
  apply (readsBack_lockTime lockTime).bind
  intro lockTime' _
  apply (readsBack_u32 expiryHeight).bind_eq
  apply (readsBack_inputs libs inputs).bind
  intro inputs' hinputs
  apply (readsBack_outputs outputs).bind_eq
  apply (Sapling.readsBack_v5Bundle _ sapling).bind_eq
  apply (Orchard.readsBack_bundle (Or.inl rfl) orchard).bind_eq
  -- the Ironwood bundle has the layout of the Orchard bundle, under its own flag rule
  rw [← Writer.append_nil (Orchard.serializeBundle ironwood)]
  apply (Orchard.readsBack_bundle (Or.inr rfl) ironwood).bind_eq
  apply readsBack_checkLibrustzcash libs
  exact ⟨rfl, hinputs, rfl, rfl, by cases sapling <;> rfl, rfl, rfl⟩

/-- The reader of a version's body. -/
def bodyReader : Transaction → Deserializer Transaction
  | .v1 .. => deserializeV1 libs
  | .v2 .. => deserializeV2 libs
  | .v3 .. => deserializeV3 libs
  | .v4 .. => deserializeV4 libs
  | .v5 .. => deserializeV5 libs
  | .v6 .. => deserializeV6 libs

theorem header_version (tx : Transaction) : tx.header &&& low31Bits = tx.version := by
  cases tx <;> simp only [header, isOverwintered, version] <;> decide

theorem header_flag (tx : Transaction) :
    (tx.header >>> 31 != 0) = tx.isOverwintered := by
  cases tx <;> simp only [header, isOverwintered, version] <;> decide

/-- The header selects the body of the version it was written for. -/
theorem deserializeBody_header (tx : Transaction) :
    deserializeBody libs tx.version tx.isOverwintered = bodyReader libs tx := by
  cases tx <;> simp [deserializeBody, bodyReader, version, isOverwintered]

/-- A transaction of any version reads back. -/
theorem readsBack_transaction (tx : Transaction) :
    ReadsBack (deserialize libs) (serialize libs tx) (ReadsAs tx) := by
  apply (readsBack_u32 tx.header).bind_eq
  rw [header_version, header_flag, deserializeBody_header]
  cases tx with
  | v1 inputs outputs lockTime => exact readsBack_v1 libs inputs outputs lockTime
  | v2 inputs outputs lockTime joinsplitData =>
    exact readsBack_v2 libs inputs outputs lockTime joinsplitData
  | v3 inputs outputs lockTime expiryHeight joinsplitData =>
    exact readsBack_v3 libs inputs outputs lockTime expiryHeight joinsplitData
  | v4 inputs outputs lockTime expiryHeight joinsplitData sapling =>
    exact readsBack_v4 libs inputs outputs lockTime expiryHeight joinsplitData sapling
  | v5 networkUpgrade lockTime expiryHeight inputs outputs sapling orchard =>
    exact readsBack_v5 libs networkUpgrade lockTime expiryHeight inputs outputs sapling orchard
  | v6 networkUpgrade lockTime expiryHeight inputs outputs sapling orchard ironwood =>
    exact readsBack_v6 libs networkUpgrade lockTime expiryHeight inputs outputs sapling
      orchard ironwood

/-! ## The limited reader -/

variable {libs}

/-- An accepted input is the bytes read and the bytes left; the position is the
length of the former. -/
theorem zcashDeserialize_eq_ok {raw : Bytes} {tx : Transaction} {pos : Nat}
    (h : zcashDeserialize libs raw = .ok (tx, pos)) :
    ∃ rest, (deserialize libs).run (raw.take maxBlockBytes) = .ok (tx, rest) ∧
      pos = (raw.take maxBlockBytes).length - rest.length ∧
      rest.length ≤ (raw.take maxBlockBytes).length := by
  unfold zcashDeserialize at h
  cases hrun : (deserialize libs).run (raw.take maxBlockBytes) with
  | error e =>
    simp only [hrun] at h
    cases h
  | ok r =>
    rcases r with ⟨tx', rest⟩
    simp only [hrun, Except.ok.injEq, Prod.mk.injEq] at h
    rcases h with ⟨rfl, rfl⟩
    rcases (deserialize libs).prefixLocal hrun with ⟨w, hw, _⟩
    refine ⟨rest, rfl, rfl, ?_⟩
    rw [hw, List.length_append]
    omega

/-- The whole input was consumed exactly when the position is its length. -/
theorem zcashDeserialize_complete {raw : Bytes} {tx : Transaction} :
    zcashDeserialize libs raw = .ok (tx, raw.length) ↔
      raw.length ≤ maxBlockBytes ∧ (deserialize libs).run raw = .ok (tx, []) := by
  constructor
  · intro h
    rcases zcashDeserialize_eq_ok h with ⟨rest, hrun, hpos, hle⟩
    rw [List.length_take] at hpos hle
    by_cases hlen : raw.length ≤ maxBlockBytes
    · rw [List.take_of_length_le hlen] at hrun
      have hrest : rest = [] := by
        apply List.eq_nil_of_length_eq_zero
        omega
      rw [hrest] at hrun
      exact ⟨hlen, hrun⟩
    · omega
  · rintro ⟨hlen, hrun⟩
    unfold zcashDeserialize
    rw [List.take_of_length_le hlen]
    simp [hrun]

/-- Bytes behind a whole transaction are left over. -/
theorem zcashDeserialize_append {raw : Bytes} {tx : Transaction}
    (h : zcashDeserialize libs raw = .ok (tx, raw.length)) (extension : Bytes) :
    zcashDeserialize libs (raw ++ extension) = .ok (tx, raw.length) := by
  rcases zcashDeserialize_complete.mp h with ⟨hlen, hrun⟩
  unfold zcashDeserialize
  rw [List.take_append, List.take_of_length_le hlen]
  simp [Reader.run_append hrun]

/-- No proper prefix of a whole transaction is a whole transaction. -/
theorem zcashDeserialize_prefix {raw cut : Bytes} {tx tx' : Transaction}
    (h : zcashDeserialize libs (raw ++ cut) = .ok (tx, (raw ++ cut).length))
    (hcut : cut ≠ []) : zcashDeserialize libs raw ≠ .ok (tx', raw.length) := by
  intro hshort
  rcases zcashDeserialize_complete.mp h with ⟨_, hrun⟩
  rcases zcashDeserialize_complete.mp hshort with ⟨_, hrun'⟩
  exact Reader.not_complete_of_prefix hrun hcut hrun'

/-- A serialized transaction that is accepted is consumed exactly. -/
theorem zcashDeserialize_serialize {tx tx' : Transaction} {raw : Bytes} {pos : Nat}
    (hraw : (serialize libs tx).output = some raw) (hlen : raw.length ≤ maxBlockBytes)
    (h : zcashDeserialize libs raw = .ok (tx', pos)) :
    pos = raw.length ∧ ReadsAs tx tx' := by
  rcases zcashDeserialize_eq_ok h with ⟨rest, hrun, hpos, _⟩
  rw [List.take_of_length_le hlen] at hrun hpos
  rw [← List.append_nil raw] at hrun
  rcases readsBack_transaction libs tx raw hraw [] tx' rest hrun with ⟨rfl, hreads⟩
  exact ⟨hpos, hreads⟩

end ReadsBack

/-! ## Transaction ids -/

section TxId

variable (libs : Libraries)

/-- {lit}`Transaction::hash`.  Versions 1 to 4 hash their serialization; later ids
come from {lit}`librustzcash`.  The hash panics on a transaction that neither can
write. -/
def hash (tx : Transaction) : Option Hash :=
  match tx with
  | .v5 networkUpgrade .. => (libs.toLibrustzcash tx networkUpgrade).toOption
  | .v6 networkUpgrade .. => (libs.toLibrustzcash tx networkUpgrade).toOption
  | _ => (serialize libs tx).output.map libs.sha256d

end TxId

end Transaction

/-- A hexadecimal digit. -/
def hexDigit (n : Nat) : Char := Nat.digitChar n

/-- {lit}`hex::encode`, as characters -/
def hexEncode (bs : Bytes) : List Char :=
  bs.flatMap fun b => [hexDigit (b.toNat / 16), hexDigit (b.toNat % 16)]

/-- A transaction hash is displayed in reversed byte order. -/
def Hash.display (hash : Hash) : List Char := hexEncode hash.toList.reverse

end Zcash
end ZeroShim
