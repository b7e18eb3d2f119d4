import Mathlib.Tactic.NormNum
import ZeroShim.Library.Reader

/-!
# Zcash serialization primitives

The integer, length, list and amount encodings that every transaction field is
built from, with what reading them back gives.

Main results:

- Theorem {lit}`readsBack_compactSize64`: canonical compact sizes read back.
- Theorem {lit}`readsBack_vec`: counted vectors read back item by item.
- Theorem {lit}`readsBack_amount`: amounts read back within their range.
-/

namespace ZeroShim
namespace Zcash

open Library

/-! ## Errors -/

/-- Why an integer is not a zatoshi amount. -/
inductive AmountError where
  | constraint (value lo hi : Int)
  | convert (value : Int)
deriving DecidableEq, Repr

/-- The text of an amount error. -/
def AmountError.text : AmountError → String
  | .constraint value lo hi =>
    "input " ++ toString value ++
      " is outside of valid range for zatoshi Amount, valid_range=" ++ toString lo ++
      "..=" ++ toString hi
  | .convert value => toString value ++ " could not be converted to an i64 Amount"

/-- A serialization error. -/
inductive SerializationError where
  | io (msg : String)
  | parse (msg : String)
  | tryFromInt
  | amount (source : AmountError)
  | badTransactionBalance
deriving DecidableEq, Repr

/-- The error of {lit}`read_exact` at the end of the input. -/
def SerializationError.unexpectedEof : SerializationError :=
  .io "failed to fill whole buffer"

/-- The displayed text of a serialization error. -/
def SerializationError.text : SerializationError → String
  | .io msg => "io error: " ++ msg
  | .parse msg => "parse error: " ++ msg
  | .tryFromInt =>
    "CompactSize too large: out of range integral type conversion attempted"
  | .amount source =>
    "input couldn't be parsed as a zatoshi `Amount`: " ++ source.text
  | .badTransactionBalance =>
    "transaction balance is non-zero but doesn't have Sapling shielded spends or outputs"

/-- A reader of consensus-critical data. -/
abbrev Deserializer (α : Type) := Reader SerializationError α

/-- Fail with a parse error. -/
def parseError {α : Type} (msg : String) : Deserializer α := Reader.fail (.parse msg)

/-! ## Arrays and integers -/

/-- Read a fixed-size array. -/
def readBytes (n : Nat) : Deserializer (List.Vector UInt8 n) :=
  Reader.readArray .unexpectedEof n

/-- Write a fixed-size array. -/
def writeBytes {n : Nat} (w : List.Vector UInt8 n) : Writer := .bytes w.toList

theorem readsBack_bytes {n : Nat} (w : List.Vector UInt8 n) :
    ReadsBack (readBytes n) (writeBytes w) (· = w) :=
  ReadsBack.readArray _ w

/-- Read a {lit}`k`-byte little-endian integer. -/
def readLe (k : Nat) : Deserializer Nat := do
  let bytes ← Reader.readExact SerializationError.unexpectedEof k
  return leNat bytes

/-- Write a {lit}`k`-byte little-endian integer. -/
def writeLe (k n : Nat) : Writer := .bytes (leBytes k n)

theorem readsBack_le {k n : Nat} (h : n < 256 ^ k) :
    ReadsBack (readLe k) (writeLe k n) (· = n) := by
  have hread := ReadsBack.readExact SerializationError.unexpectedEof (leBytes k n)
  rw [length_leBytes] at hread
  apply hread.bind_pure
  rintro bytes rfl
  exact leNat_leBytes h

/-- {lit}`read_u8` -/
def readU8 : Deserializer UInt8 := do
  let n ← readLe 1
  return UInt8.ofNat n

/-- {lit}`read_u32::<LittleEndian>` -/
def readU32 : Deserializer UInt32 := do
  let n ← readLe 4
  return UInt32.ofNat n

/-- {lit}`write_u8` -/
def writeU8 (x : UInt8) : Writer := writeLe 1 x.toNat

/-- {lit}`write_u32::<LittleEndian>` -/
def writeU32 (x : UInt32) : Writer := writeLe 4 x.toNat

theorem readsBack_u8 (x : UInt8) : ReadsBack readU8 (writeU8 x) (· = x) := by
  apply (readsBack_le (by simpa using x.toNat_lt)).bind_pure
  rintro n rfl
  exact UInt8.ofNat_toNat

theorem readsBack_u32 (x : UInt32) : ReadsBack readU32 (writeU32 x) (· = x) := by
  apply (readsBack_le (by simpa using x.toNat_lt)).bind_pure
  rintro n rfl
  exact UInt32.ofNat_toNat

/-! ## Compact sizes -/

/-- The maximum length of a Zcash message. -/
def maxProtocolMessageLen : Nat := 2 * 1024 * 1024

/-- A size that fits a network message. -/
structure CompactSizeMessage where
  size : Nat
  le_max : size ≤ maxProtocolMessageLen

/-- {lit}`CompactSizeMessage::try_from` -/
def CompactSizeMessage.tryFrom (size : Nat) : Except SerializationError CompactSizeMessage :=
  if 2 ^ 32 ≤ size then .error .tryFromInt
  else if h : size ≤ maxProtocolMessageLen then .ok ⟨size, h⟩
  else .error (.parse "CompactSize larger than protocol message limit")

/-- Write a compact size. -/
def CompactSize64.serialize (n : Nat) : Writer :=
  if n ≤ 0xfc then writeU8 (UInt8.ofNat n)
  else if n ≤ 0xffff then writeU8 0xfd ++ writeLe 2 n
  else if n ≤ 0xffffffff then writeU8 0xfe ++ writeLe 4 n
  else writeU8 0xff ++ writeLe 8 n

/-- Read a compact size; only the shortest encoding is accepted. -/
def CompactSize64.deserialize : Deserializer Nat := do
  let flag ← readU8
  if flag.toNat ≤ 0xfc then
    return flag.toNat
  else if flag = 0xfd then
    let n ← readLe 2
    if 0xfd ≤ n then return n else parseError "non-canonical CompactSize"
  else if flag = 0xfe then
    let n ← readLe 4
    if 0x10000 ≤ n then return n else parseError "non-canonical CompactSize"
  else
    let n ← readLe 8
    if 0x100000000 ≤ n then return n else parseError "non-canonical CompactSize"

/-- A multi-byte compact size keeps the number that follows its flag. -/
theorem readsBack_compactSizeTail {k n least : Nat} (hn : n < 256 ^ k) :
    ReadsBack (do
      let m ← readLe k
      if least ≤ m then return m else parseError "non-canonical CompactSize")
      (writeLe k n) (· = n) := by
  rw [← Writer.append_nil (writeLe k n)]
  apply (readsBack_le hn).bind_eq
  exact .ite (fun _ => .pure rfl) fun _ => .fail _ _ _

theorem readsBack_compactSize64 {n : Nat} (hn : n < 2 ^ 64) :
    ReadsBack CompactSize64.deserialize (CompactSize64.serialize n) (· = n) := by
  unfold CompactSize64.deserialize CompactSize64.serialize
  by_cases h8 : n ≤ 0xfc
  · rw [if_pos h8]
    have hflag : (UInt8.ofNat n).toNat = n := by
      rw [UInt8.toNat_ofNat']
      omega
    rw [← Writer.append_nil (writeU8 _)]
    apply (readsBack_u8 _).bind_eq
    rw [hflag, if_pos h8]
    exact .pure rfl
  · rw [if_neg h8]
    by_cases h16 : n ≤ 0xffff
    · rw [if_pos h16]
      apply (readsBack_u8 _).bind_eq
      rw [if_neg (by decide), if_pos rfl]
      exact readsBack_compactSizeTail (by omega)
    · rw [if_neg h16]
      by_cases h32 : n ≤ 0xffffffff
      · rw [if_pos h32]
        apply (readsBack_u8 _).bind_eq
        rw [if_neg (by decide), if_neg (by decide), if_pos rfl]
        exact readsBack_compactSizeTail (by omega)
      · rw [if_neg h32]
        apply (readsBack_u8 _).bind_eq
        rw [if_neg (by decide), if_neg (by decide), if_neg (by decide)]
        exact readsBack_compactSizeTail (by omega)

/-- Write a message size. -/
def CompactSizeMessage.serialize (size : CompactSizeMessage) : Writer :=
  CompactSize64.serialize size.size

/-- Read a message size. -/
def CompactSizeMessage.deserialize : Deserializer CompactSizeMessage := do
  let size ← CompactSize64.deserialize
  Reader.ofExcept (CompactSizeMessage.tryFrom size)

theorem readsBack_compactSizeMessage (size : CompactSizeMessage) :
    ReadsBack CompactSizeMessage.deserialize size.serialize (·.size = size.size) := by
  have hsize : size.size < 2 ^ 64 := by
    have hmax := size.le_max
    simp only [maxProtocolMessageLen] at hmax
    omega
  rw [← Writer.append_nil size.serialize]
  apply (readsBack_compactSize64 hsize).bind_eq
  refine .ofExcept ?_
  intro found hfound
  unfold CompactSizeMessage.tryFrom at hfound
  split_ifs at hfound
  rw [← Except.ok.inj hfound]

/-- Write the length of a list; too long a list cannot be serialized. -/
def serializeLen (n : Nat) : Writer :=
  match CompactSizeMessage.tryFrom n with
  | .ok size => size.serialize
  | .error _ => .fail

theorem readsBack_len (n : Nat) :
    ReadsBack CompactSizeMessage.deserialize (serializeLen n) (·.size = n) := by
  unfold serializeLen CompactSizeMessage.tryFrom
  split_ifs with h32 hmax
  · exact .ofFail _ _
  · exact readsBack_compactSizeMessage ⟨n, hmax⟩
  · exact .ofFail _ _

/-! ## Lists -/

/-- {lit}`zcash_deserialize_external_count`: a list whose length is known, within
the bound an honest peer can reach. -/
def deserializeExternalCount {α : Type} (maxAllocation : Nat) (p : Deserializer α)
    (externalCount : Nat) : Deserializer (List.Vector α externalCount) :=
  if maxAllocation < externalCount then
    parseError "Vector longer than max_allocation"
  else
    Reader.readMany p externalCount

/-- {lit}`Vec::zcash_deserialize` -/
def deserializeVec {α : Type} (maxAllocation : Nat) (p : Deserializer α) :
    Deserializer (List α) := do
  let len ← CompactSizeMessage.deserialize
  let xs ← deserializeExternalCount maxAllocation p len.size
  return xs.toList

/-- {lit}`Vec::zcash_serialize` -/
def serializeVec {α : Type} (f : α → Writer) (xs : List α) : Writer :=
  serializeLen xs.length ++ Writer.each f xs

/-- {lit}`zcash_serialize_empty_list` -/
def serializeEmptyList : Writer := serializeLen 0

theorem readsBack_externalCount {α : Type} {maxAllocation n : Nat} {p : Deserializer α}
    {f : α → Writer} {xs : List α} (hlen : xs.length = n)
    (h : ∀ x, ReadsBack p (f x) (· = x)) :
    ReadsBack (deserializeExternalCount maxAllocation p n) (Writer.each f xs)
      (·.toList = xs) := by
  subst hlen
  exact .ite (fun _ => .fail _ _ _) fun _ => .readMany_eq xs h

/-- A counted vector reads back item by item. -/
theorem readsBack_vec {α β : Type} {maxAllocation : Nat} {p : Deserializer α}
    {f : β → Writer} {R : β → α → Prop} (xs : List β) (h : ∀ x, ReadsBack p (f x) (R x)) :
    ReadsBack (deserializeVec maxAllocation p) (serializeVec f xs) (List.Forall₂ R xs) := by
  apply (readsBack_len xs.length).bind
  intro len hlen
  rw [hlen]
  have hcount : ReadsBack (deserializeExternalCount maxAllocation p xs.length)
      (Writer.each f xs) (fun ys => List.Forall₂ R xs ys.toList) :=
    .ite (fun _ => .fail _ _ _) fun _ => .readMany xs h
  exact hcount.bind_pure fun _ hys => hys

theorem readsBack_vec_eq {α : Type} {maxAllocation : Nat} {p : Deserializer α}
    {f : α → Writer} (xs : List α) (h : ∀ x, ReadsBack p (f x) (· = x)) :
    ReadsBack (deserializeVec maxAllocation p) (serializeVec f xs) (· = xs) := by
  apply (readsBack_len xs.length).bind
  intro len hlen
  rw [hlen]
  exact (readsBack_externalCount rfl h).bind_pure fun _ hys => hys

theorem readsBack_emptyList {α : Type} (maxAllocation : Nat) (p : Deserializer α) :
    ReadsBack (deserializeVec maxAllocation p) serializeEmptyList (· = []) := by
  have hempty : serializeEmptyList = serializeVec (fun _ : α => .fail) [] :=
    (Writer.append_nil _).symm
  rw [hempty]
  exact readsBack_vec_eq [] fun _ => .ofFail _ _

/-- The longest byte vector a message can carry. -/
def maxU8Allocation : Nat := maxProtocolMessageLen - 5

/-- {lit}`zcash_deserialize_bytes_external_count` -/
def deserializeBytesExternalCount (externalCount : Nat) : Deserializer Bytes :=
  if maxU8Allocation < externalCount then
    parseError "Byte vector longer than MAX_U8_ALLOCATION"
  else
    Reader.readExact .unexpectedEof externalCount

/-- {lit}`Vec<u8>::zcash_deserialize` -/
def deserializeBytes : Deserializer Bytes := do
  let len ← CompactSizeMessage.deserialize
  deserializeBytesExternalCount len.size

/-- {lit}`zcash_serialize_bytes` -/
def serializeBytes (bs : Bytes) : Writer := serializeLen bs.length ++ .bytes bs

theorem readsBack_bytesExternalCount (bs : Bytes) :
    ReadsBack (deserializeBytesExternalCount bs.length) (.bytes bs) (· = bs) :=
  .ite (fun _ => .fail _ _ _) fun _ => .readExact _ bs

theorem readsBack_serializeBytes (bs : Bytes) :
    ReadsBack deserializeBytes (serializeBytes bs) (· = bs) := by
  apply (readsBack_len bs.length).bind
  intro len hlen
  rw [hlen]
  exact readsBack_bytesExternalCount bs

/-! ## Amounts -/

/-- Zatoshis in one coin. -/
def coin : Int := 100000000

/-- The maximum zatoshi amount. -/
def maxMoney : Int := 21000000 * coin

/-- Which amounts a field admits. -/
inductive Constraint where
  | negativeAllowed
  | nonNegative
deriving DecidableEq, Repr

/-- The least amount a constraint admits. -/
def Constraint.lo : Constraint → Int
  | .negativeAllowed => -maxMoney
  | .nonNegative => 0

/-- A zatoshi amount within its range. -/
structure Amount (c : Constraint) where
  zatoshis : Int
  valid : c.lo ≤ zatoshis ∧ zatoshis ≤ maxMoney
deriving DecidableEq

/-- {lit}`Constraint::validate` -/
def Amount.validate (c : Constraint) (value : Int) : Except SerializationError (Amount c) :=
  if h : c.lo ≤ value ∧ value ≤ maxMoney then .ok ⟨value, h⟩
  else .error (.amount (.constraint value c.lo maxMoney))

/-- An amount is written as a 64-bit two's complement integer. -/
def Amount.serialize {c : Constraint} (amount : Amount c) : Writer :=
  writeLe 8 (amount.zatoshis % 2 ^ 64).toNat

/-- {lit}`read_i64::<LittleEndian>` -/
def readI64 : Deserializer Int := do
  let n ← readLe 8
  if n < 2 ^ 63 then return (n : Int) else return (n : Int) - 2 ^ 64

/-- Signed amounts are read as an {lit}`i64`, unsigned ones as a {lit}`u64` that
must convert to one. -/
def Amount.deserialize : (c : Constraint) → Deserializer (Amount c)
  | .negativeAllowed => do
    let value ← readI64
    Reader.ofExcept (Amount.validate .negativeAllowed value)
  | .nonNegative => do
    let value ← readLe 8
    if value < 2 ^ 63 then
      Reader.ofExcept (Amount.validate .nonNegative (value : Int))
    else
      Reader.fail (.amount (.convert value))

/-- A valid amount is a 64-bit signed integer. -/
theorem Amount.bounds {c : Constraint} (amount : Amount c) :
    -2 ^ 63 ≤ amount.zatoshis ∧ amount.zatoshis < 2 ^ 63 := by
  rcases amount.valid with ⟨hlo, hhi⟩
  cases c <;> simp only [Constraint.lo, maxMoney, coin] at hlo hhi <;> constructor <;> omega

theorem readsBack_validate {c : Constraint} (amount : Amount c) :
    ReadsBack (Reader.ofExcept (Amount.validate c amount.zatoshis)) (.bytes [])
      (· = amount) := by
  refine .ofExcept ?_
  intro found hfound
  rw [Amount.validate, dif_pos amount.valid] at hfound
  exact (Except.ok.inj hfound).symm

theorem readsBack_amount {c : Constraint} (amount : Amount c) :
    ReadsBack (Amount.deserialize c) amount.serialize (· = amount) := by
  rcases amount.bounds with ⟨hlo, hhi⟩
  have hempty := (Writer.append_nil amount.serialize).symm
  have hbytes : (amount.zatoshis % 2 ^ 64).toNat < 256 ^ 8 := by omega
  rw [hempty]
  cases c with
  | negativeAllowed =>
    have hread : ReadsBack readI64 amount.serialize (· = amount.zatoshis) := by
      rw [hempty]
      apply (readsBack_le hbytes).bind_eq
      exact .ite (fun h => .pure (by omega)) fun h => .pure (by omega)
    exact hread.bind_eq (readsBack_validate amount)
  | nonNegative =>
    have hnonneg : 0 ≤ amount.zatoshis := amount.valid.1
    apply (readsBack_le hbytes).bind_eq
    have hvalue : ((amount.zatoshis % 2 ^ 64).toNat : Int) = amount.zatoshis := by omega
    rw [if_pos (by omega), hvalue]
    exact readsBack_validate amount

end Zcash
end ZeroShim
