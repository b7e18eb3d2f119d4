import ZeroShim.Zcash.Encoding

/-!
# Transparent inputs and outputs

The transparent part of a transaction.  Coinbase inputs carry their block
height as a script push; the encoder of that push is a parameter.

Main results:

- Theorem {lit}`readsBack_input`: an input is consumed exactly, whether or not
  it reads back as a coinbase.
- Theorems {lit}`readsBack_output` and {lit}`readsBack_lockTime`.
-/

namespace ZeroShim
namespace Zcash

open Library

/-! ## Data -/

/-- A transaction hash, in wire order. -/
abbrev Hash := List.Vector UInt8 32

/-- A reference to an earlier transaction's output. -/
structure OutPoint where
  hash : Hash
  index : UInt32
deriving DecidableEq

/-- A transparent input. -/
inductive Input where
  | prevOut (outpoint : OutPoint) (unlockScript : Bytes) (sequence : UInt32)
  | coinbase (height : UInt32) (data : Bytes) (sequence : UInt32)
deriving DecidableEq

/-- A transparent output. -/
structure Output where
  value : Amount .nonNegative
  lockScript : Bytes
deriving DecidableEq

/-- A lock time: a block height, or seconds since the epoch. -/
inductive LockTime where
  | height (n : UInt32)
  | time (timestamp : Int)
deriving DecidableEq

/-- The maximum block height. -/
def maxHeight : Nat := 2 ^ 31 - 1

/-- The least lock time that is a timestamp. -/
def minTimestamp : Nat := 500000000

/-- The coinbase data of the genesis block. -/
def genesisCoinbaseScriptSig : Bytes :=
  [4, 255, 255, 7, 31, 1, 4, 69, 90, 99, 97, 115, 104, 48, 98, 57, 99, 52, 101, 101, 102,
    56, 98, 55, 99, 99, 52, 49, 55, 101, 101, 53, 48, 48, 49, 101, 51, 53, 48, 48, 57, 56,
    52, 98, 54, 102, 101, 97, 51, 53, 54, 56, 51, 97, 55, 99, 97, 99, 49, 52, 49, 97, 48, 52,
    51, 99, 52, 50, 48, 54, 52, 56, 51, 53, 100, 51, 52]

/-- The maximum size of a transaction: the size of a block. -/
def maxBlockBytes : Nat := 2000000

/-- {lit}`transparent::Input::max_allocation` -/
def Input.maxAllocation : Nat := maxBlockBytes / (32 + 4 + 4 + 1)

/-- {lit}`transparent::Output::max_allocation` -/
def Output.maxAllocation : Nat := maxBlockBytes / (8 + 1)

/-- The least and greatest length of a coinbase script. -/
def minCoinbaseScriptLen : Nat := 2

def maxCoinbaseScriptLen : Nat := 100

/-! ## Serialization -/

section PushNum

-- push_num(h).to_bytes(): the script that pushes a number
variable (pushNum : Int → Bytes)

/-- The script of a coinbase input. -/
def Input.coinbaseScript : Input → Option Bytes
  | .prevOut _ _ _ => none
  | .coinbase height data _ =>
    if height = 0 then
      if data = genesisCoinbaseScriptSig then some genesisCoinbaseScriptSig else none
    else
      some (pushNum (height.toNat : Int) ++ data)

/-- Write a coinbase script, when there is one. -/
def serializeCoinbaseScript : Option Bytes → Writer
  | some script => serializeBytes script
  | none => .fail

/-- Write an input; a coinbase is written with a null outpoint. -/
def Input.serialize : Input → Writer
  | .prevOut outpoint unlockScript sequence =>
    writeBytes outpoint.hash ++ (writeU32 outpoint.index ++
      (serializeBytes unlockScript ++ writeU32 sequence))
  | .coinbase height data sequence =>
    .bytes (zeros 32) ++ (writeU32 0xffffffff ++
      (serializeCoinbaseScript (Input.coinbaseScript pushNum (.coinbase height data sequence)) ++
        writeU32 sequence))

/-- Split a coinbase script into the height it pushes and the miner's data. -/
def parseCoinbaseHeight (scriptSig : Bytes) : Except SerializationError (UInt32 × Bytes) := do
  let first ←
    match scriptSig.head? with
    | some first => pure first
    | none => throw (.parse "Empty coinbase script")
  let (h, len) ←
    if 0x51 ≤ first.toNat ∧ first.toNat ≤ 0x60 then
      pure (first.toNat - 0x50, 1)
    else if 1 ≤ first.toNat ∧ first.toNat ≤ 5 then
      if first.toNat < scriptSig.length then
        pure (leNat (field scriptSig 1 first.toNat), 1 + first.toNat)
      else
        throw (.parse "Coinbase height push truncated")
    else
      throw (.parse "Invalid coinbase script prefix")
  if scriptSig.length < len then
    throw (.parse "Coinbase script too short")
  -- the height is trusted only when re-encoding it gives the same push
  if scriptSig.take len ≠ pushNum (h : Int) then
    throw (.parse "Non-canonical coinbase height encoding")
  if 2 ^ 32 ≤ h then
    throw (.parse "Negative coinbase height")
  if maxHeight < h then
    throw (.parse "Coinbase height exceeds Height::MAX")
  return (UInt32.ofNat h, scriptSig.drop len)

/-- Read an input; a null hash announces a coinbase. -/
def Input.deserialize : Deserializer Input := do
  let hash ← readBytes 32
  if hash.toList = zeros 32 then
    let index ← readU32
    if index ≠ 0xffffffff then
      parseError "Wrong index in coinbase"
    else
      let len ← CompactSizeMessage.deserialize
      if len.size < minCoinbaseScriptLen then
        parseError "Coinbase script is too short"
      else if maxCoinbaseScriptLen < len.size then
        parseError "Coinbase script is too long"
      else
        let scriptSig ← deserializeBytesExternalCount len.size
        let (height, data) ← Reader.ofExcept
          (if scriptSig = genesisCoinbaseScriptSig then
            .ok (0, genesisCoinbaseScriptSig)
          else
            parseCoinbaseHeight pushNum scriptSig)
        let sequence ← readU32
        return .coinbase height data sequence
  else
    let index ← readU32
    let unlockScript ← deserializeBytes
    let sequence ← readU32
    return .prevOut { hash := hash, index := index } unlockScript sequence

end PushNum

/-- Write an output. -/
def Output.serialize (output : Output) : Writer :=
  output.value.serialize ++ serializeBytes output.lockScript

/-- Read an output. -/
def Output.deserialize : Deserializer Output := do
  let value ← Amount.deserialize .nonNegative
  let lockScript ← deserializeBytes
  return { value := value, lockScript := lockScript }

/-- Write a lock time; a timestamp must fit 32 bits. -/
def LockTime.serialize : LockTime → Writer
  | .height n => writeU32 n
  | .time timestamp =>
    if 0 ≤ timestamp ∧ timestamp < 2 ^ 32 then writeU32 (UInt32.ofNat timestamp.toNat)
    else .fail

/-- Read a lock time. -/
def LockTime.deserialize : Deserializer LockTime := do
  let n ← readU32
  if n.toNat < minTimestamp then return .height n else return .time (n.toNat : Int)

/-! ## Reading back -/

/-- The common wire shape of an input: an outpoint, a script and a sequence.
It is consumed exactly, as a coinbase or not. -/
theorem readsBack_inputFields (pushNum : Int → Bytes) (hash : Hash) (index : UInt32)
    (script : Bytes) (sequence : UInt32) :
    ReadsBack (Input.deserialize pushNum)
      (writeBytes hash ++ (writeU32 index ++ (serializeBytes script ++ writeU32 sequence)))
      fun _ => True := by
  apply (readsBack_bytes hash).bind_eq
  refine .ite (fun _ => ?_) fun _ => ?_
  · apply (readsBack_u32 index).bind_eq
    refine .ite (fun _ => .fail _ _ _) fun _ => ?_
    rw [serializeBytes, Writer.append_assoc]
    apply (readsBack_len script.length).bind
    intro len hlen
    rw [hlen]
    refine .ite (fun _ => .fail _ _ _) fun _ => ?_
    refine .ite (fun _ => .fail _ _ _) fun _ => ?_
    apply (readsBack_bytesExternalCount script).bind_eq
    rw [← Writer.nil_append (writeU32 sequence)]
    refine ReadsBack.bind (.ofExcept fun _ _ => trivial) ?_
    intro heightData _
    exact (readsBack_u32 sequence).bind_pure fun _ _ => trivial
  · apply (readsBack_u32 index).bind_eq
    apply (readsBack_serializeBytes script).bind_eq
    exact (readsBack_u32 sequence).bind_pure fun _ _ => trivial

theorem readsBack_input (pushNum : Int → Bytes) (input : Input) :
    ReadsBack (Input.deserialize pushNum) (input.serialize pushNum) fun _ => True := by
  cases input with
  | prevOut outpoint unlockScript sequence =>
    exact readsBack_inputFields pushNum outpoint.hash outpoint.index unlockScript sequence
  | coinbase height data sequence =>
    rw [Input.serialize]
    cases Input.coinbaseScript pushNum (.coinbase height data sequence) with
    | none =>
      simp only [serializeCoinbaseScript, Writer.fail_append, Writer.append_fail]
      exact .ofFail _ _
    | some script =>
      exact readsBack_inputFields pushNum ⟨zeros 32, length_zeros 32⟩ 0xffffffff script
        sequence

theorem readsBack_output (output : Output) :
    ReadsBack Output.deserialize output.serialize (· = output) := by
  apply (readsBack_amount output.value).bind_eq
  apply (readsBack_serializeBytes output.lockScript).bind_pure
  rintro lockScript rfl
  rfl

/-- A lock time reads back as one that is written the same way. -/
theorem readsBack_lockTime (lockTime : LockTime) :
    ReadsBack LockTime.deserialize lockTime.serialize
      (·.serialize = lockTime.serialize) := by
  have hword : ∀ n : UInt32, ReadsBack LockTime.deserialize (writeU32 n)
      (·.serialize = writeU32 n) := by
    intro n
    have hn : n.toNat < 2 ^ 32 := n.toNat_lt
    rw [← Writer.append_nil (writeU32 n)]
    apply (readsBack_u32 n).bind_eq
    refine .ite (fun _ => .pure (by rw [Writer.append_nil]; rfl)) fun _ => .pure ?_
    rw [Writer.append_nil, LockTime.serialize, if_pos ⟨by omega, by exact_mod_cast hn⟩]
    simp
  cases lockTime with
  | height n => exact hword n
  | time timestamp =>
    by_cases h : 0 ≤ timestamp ∧ timestamp < 2 ^ 32
    · have hserialize : (LockTime.time timestamp).serialize =
          writeU32 (UInt32.ofNat timestamp.toNat) := if_pos h
      rw [hserialize]
      exact hword _
    · have hserialize : (LockTime.time timestamp).serialize = .fail := if_neg h
      rw [hserialize]
      exact .ofFail _ _

end Zcash
end ZeroShim
