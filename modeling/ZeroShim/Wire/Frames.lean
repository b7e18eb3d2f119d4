import ZeroShim.Library.Bytes

/-!
# The shim-to-hub wire frames, version 1

{lit}`SubmitV1` out and {lit}`AckV1` back for a diverted migration,
{lit}`LookupV1` out and {lit}`LookupReplyV1` back for a hub-served lookup.
Every encoder and decoder works through checked slices, as the source indexes
its buffers.

Main results:

- Theorems {lit}`encodeSubmit_eq`, {lit}`encodeAck_eq`, {lit}`encodeLookup_eq`,
  {lit}`encodeLookupReply_eq`: each encoder writes its layout and leaves zeros.
- Theorems {lit}`decodeSubmit_eq`, {lit}`decodeAck_eq`, {lit}`decodeLookup_eq`,
  {lit}`decodeLookupReply_eq`: each decoder as a cascade of field checks.
-/

namespace ZeroShim
namespace Wire

open Library

/-! ## Sizes and magics -/

/-- The size of every {lit}`SubmitV1` and {lit}`LookupReplyV1`. -/
def frameBytes : Nat := 64 * 1024

/-- The size of every {lit}`AckV1`. -/
def ackBytes : Nat := 64

/-- The size of every {lit}`LookupV1`. -/
def lookupBytes : Nat := 64

/-- A 16-byte request nonce, the only correlation handle on the wire. -/
abbrev Nonce := List.Vector UInt8 16

/-- {lit}`b"ZNS1"` -/
def submitMagic : Bytes := [0x5A, 0x4E, 0x53, 0x31]

/-- {lit}`b"ZNA1"` -/
def ackMagic : Bytes := [0x5A, 0x4E, 0x41, 0x31]

/-- {lit}`b"ZNL1"` -/
def lookupMagic : Bytes := [0x5A, 0x4E, 0x4C, 0x31]

/-- {lit}`b"ZNR1"` -/
def lookupReplyMagic : Bytes := [0x5A, 0x4E, 0x52, 0x31]

/-- magic, nonce, tx_len -/
def submitHeaderBytes : Nat := 24

/-- magic, nonce, hash_len -/
def lookupHeaderBytes : Nat := 21

/-- magic, nonce, disp, height, tx_len -/
def lookupReplyHeaderBytes : Nat := 33

/-- The largest transaction a submit carries, bounded by the reply header. -/
def maxNymTxBytes : Nat := frameBytes - lookupReplyHeaderBytes

/-- The largest hash a lookup carries. -/
def maxLookupHashBytes : Nat := lookupBytes - lookupHeaderBytes

/-- The largest transaction a lookup reply serves. -/
def maxLookupReplyTxBytes : Nat := frameBytes - lookupReplyHeaderBytes

theorem frameBytes_eq : frameBytes = 65536 := rfl
theorem ackBytes_eq : ackBytes = 64 := rfl
theorem lookupBytes_eq : lookupBytes = 64 := rfl
theorem maxNymTxBytes_eq : maxNymTxBytes = 65503 := rfl
theorem maxLookupHashBytes_eq : maxLookupHashBytes = 43 := rfl
theorem maxLookupReplyTxBytes_eq : maxLookupReplyTxBytes = 65503 := rfl

/-! ## Errors and dispositions -/

/-- Why a frame could not be built or read. -/
inductive WireError where
  | wrongLength (expected got : Nat)
  | badMagic
  | txTooLarge (len budget : Nat)
  | txLenOverrunsFrame (declared : Nat)
  | hashTooLarge (len : Nat)
  | hashLenOverrunsFrame (declared : Nat)
  | unknownDisposition (byte : UInt8)
  | unknownRefusal (byte : UInt8)
  | strayReplyPayload
deriving DecidableEq, Repr

/-- The typed refusal an acknowledgement can carry. -/
inductive AckRefusal where
  | expiryTooTight
  | tooLarge
  | queueFull
  | tipStale
  | badFrame
deriving DecidableEq, Repr

/-- The on-wire code; {lit}`0` is reserved for "none". -/
def AckRefusal.code : AckRefusal → UInt8
  | .expiryTooTight => 1
  | .tooLarge => 2
  | .queueFull => 3
  | .tipStale => 4
  | .badFrame => 5

/-- Parse an on-wire refusal code. -/
def AckRefusal.fromCode (code : UInt8) : Option AckRefusal :=
  if code = 1 then some .expiryTooTight
  else if code = 2 then some .tooLarge
  else if code = 3 then some .queueFull
  else if code = 4 then some .tipStale
  else if code = 5 then some .badFrame
  else none

/-- Refusal codes are stable, and no code outside them parses. -/
theorem AckRefusal.fromCode_eq_some_iff (code : UInt8) (refusal : AckRefusal) :
    AckRefusal.fromCode code = some refusal ↔ code = refusal.code := by
  unfold AckRefusal.fromCode
  cases refusal <;> simp only [AckRefusal.code] <;> split_ifs <;> simp_all

/-- The disposition an acknowledgement carries. -/
inductive AckKind where
  | accepted
  | refused (refusal : AckRefusal)
deriving DecidableEq, Repr

/-- The disposition a lookup reply carries; height {lit}`0` is the mempool. -/
inductive LookupReply where
  | found (height : UInt64) (tx : Bytes)
  | notFound
  | error
deriving DecidableEq, Repr

/-! ## Shared accessors -/

/-- {lit}`nonce.copy_from_slice(..)` into a 16-byte array. -/
def nonceFromSlice (raw : Bytes) : Checked WireError Nonce :=
  if h : raw.length = 16 then .ok ⟨raw, h⟩ else .error .outOfRange

/-- {lit}`u32::from_be_bytes` of the four bytes indexed from {lit}`i`. -/
def u32BeAt (frame : Bytes) (i : Nat) : Checked WireError Nat := do
  let b0 ← byteAt frame i
  let b1 ← byteAt frame (i + 1)
  let b2 ← byteAt frame (i + 2)
  let b3 ← byteAt frame (i + 3)
  return beNat [b0, b1, b2, b3]

/-- The nonce field of a frame that is long enough to have one. -/
def nonceField (frame : Bytes) (h : 20 ≤ frame.length) : Nonce :=
  ⟨field frame 4 16, by rw [length_field]; omega⟩

theorem nonceFromSlice_field {frame : Bytes} (h : 20 ≤ frame.length) :
    nonceFromSlice (field frame 4 16) = .ok (nonceField frame h) := by
  have hlen : (field frame 4 16).length = 16 := (nonceField frame h).2
  simp only [nonceFromSlice, dif_pos hlen, nonceField]

theorem u32BeAt_eq_ok {frame : Bytes} {i : Nat} (h : i + 4 ≤ frame.length) :
    u32BeAt frame i = .ok (beNat (field frame i 4)) := by
  have hfield : field frame i 4 =
      [frame[i], frame[i + 1], frame[i + 2], frame[i + 3]] := by
    rw [field, List.drop_eq_getElem_cons (by omega : i < frame.length),
      List.drop_eq_getElem_cons (by omega : i + 1 < frame.length),
      List.drop_eq_getElem_cons (by omega : i + 1 + 1 < frame.length),
      List.drop_eq_getElem_cons (by omega : i + 1 + 1 + 1 < frame.length)]
    rfl
  simp only [u32BeAt, byteAt_eq_ok (show i < frame.length by omega),
    byteAt_eq_ok (show i + 1 < frame.length by omega),
    byteAt_eq_ok (show i + 2 < frame.length by omega),
    byteAt_eq_ok (show i + 3 < frame.length by omega), hfield]
  rfl

/-- The first two writes of every encoder. -/
theorem writeHeader_bind {size : Nat} {α : Type} (magic : Bytes) (nonce : Nonce)
    (next : Bytes → Checked WireError α) (hmagic : magic.length = 4)
    (hsize : 20 ≤ size) :
    ((copyFromSlice (zeros size) 0 4 magic).bind fun frame =>
      (copyFromSlice frame 4 20 nonce.toList).bind next) =
      next (padTo size (magic ++ nonce.toList)) := by
  have hfirst := copyFromSlice_padTo (ε := WireError) [] magic (i := 0) rfl
    (by omega : 0 + magic.length = 4) (by omega : 4 ≤ size)
  rw [padTo_nil, List.nil_append] at hfirst
  have hsecond := copyFromSlice_padTo (ε := WireError) magic nonce.toList hmagic
    (by simp : 4 + nonce.toList.length = 20) hsize
  simp only [hfirst, hsecond, Except.bind]

/-- The magic check and the nonce read that open every decoder. -/
theorem readHeader_bind {α : Type} (frame magic : Bytes)
    (next : Nonce → Checked WireError α) (h : 20 ≤ frame.length) :
    ((slice frame 0 4).bind fun found =>
      if found ≠ magic then raise .badMagic
      else (slice frame 4 20).bind fun raw => (nonceFromSlice raw).bind next) =
      if field frame 0 4 = magic then next (nonceField frame h)
      else .error (.raised .badMagic) := by
  have hmagic := slice_eq_ok (ε := WireError) frame (i := 0) (j := 4) (by omega) (by omega)
  have hraw := slice_eq_ok (ε := WireError) frame (i := 4) (j := 20) (by omega) (by omega)
  simp only [hmagic, hraw, Except.bind, Nat.sub_zero, Nat.reduceSub,
    nonceFromSlice_field h, ne_eq, ite_not, raise]

/-! ## SubmitV1 -/

/-- Build a {lit}`SubmitV1` frame carrying {lit}`tx` under {lit}`nonce`. -/
def encodeSubmit (nonce : Nonce) (tx : Bytes) : Checked WireError Bytes := do
  if tx.length > maxNymTxBytes then
    raise (.txTooLarge tx.length maxNymTxBytes)
  else
    let frame := zeros frameBytes
    let frame ← copyFromSlice frame 0 4 submitMagic
    let frame ← copyFromSlice frame 4 20 nonce.toList
    let frame ← copyFromSlice frame 20 24 (beBytes 4 (tx.length % 2 ^ 32))
    copyFromSlice frame submitHeaderBytes (submitHeaderBytes + tx.length) tx

/-- Read a {lit}`SubmitV1` frame back to its nonce and transaction bytes. -/
def decodeSubmit (frame : Bytes) : Checked WireError (Nonce × Bytes) := do
  if frame.length ≠ frameBytes then
    raise (.wrongLength frameBytes frame.length)
  else
    let magic ← slice frame 0 4
    if magic ≠ submitMagic then
      raise .badMagic
    else
      let raw ← slice frame 4 20
      let nonce ← nonceFromSlice raw
      let declared ← u32BeAt frame 20
      if declared > maxNymTxBytes then
        raise (.txLenOverrunsFrame declared)
      else
        let tx ← slice frame submitHeaderBytes (submitHeaderBytes + declared)
        return (nonce, tx)

/-- The bytes of a submit frame before its padding. -/
def submitLayout (x : Nonce × Bytes) : Bytes :=
  submitMagic ++ x.1.toList ++ beBytes 4 x.2.length ++ x.2

@[simp] theorem length_submitLayout (x : Nonce × Bytes) :
    (submitLayout x).length = submitHeaderBytes + x.2.length := by
  simp [submitLayout, submitMagic, submitHeaderBytes]
  omega

theorem encodeSubmit_eq {nonce : Nonce} {tx : Bytes} (h : tx.length ≤ maxNymTxBytes) :
    encodeSubmit nonce tx = .ok (padTo frameBytes (submitLayout (nonce, tx))) := by
  have hnot : ¬ tx.length > maxNymTxBytes := by omega
  rw [maxNymTxBytes_eq] at h
  have hmod : tx.length % 2 ^ 32 = tx.length := Nat.mod_eq_of_lt (by omega)
  have htxLen := copyFromSlice_padTo (ε := WireError) (submitMagic ++ nonce.toList)
    (beBytes 4 tx.length) (i := 20) (j := 24) (by simp [submitMagic]) (by simp)
    (by decide : 24 ≤ frameBytes)
  have htx := copyFromSlice_padTo (ε := WireError)
    (submitMagic ++ nonce.toList ++ beBytes 4 tx.length) tx (i := submitHeaderBytes)
    (by simp [submitMagic, submitHeaderBytes]) rfl
    (by rw [frameBytes_eq, submitHeaderBytes]; omega : _ ≤ frameBytes)
  simp only [encodeSubmit, if_neg hnot, hmod, bind]
  rw [writeHeader_bind submitMagic nonce _ rfl (by decide), htxLen]
  exact htx

theorem encodeSubmit_over {nonce : Nonce} {tx : Bytes} (h : ¬ tx.length ≤ maxNymTxBytes) :
    encodeSubmit nonce tx = .error (.raised (.txTooLarge tx.length maxNymTxBytes)) := by
  simp only [encodeSubmit, if_pos (show tx.length > maxNymTxBytes by omega)]
  rfl

theorem decodeSubmit_eq (frame : Bytes) :
    decodeSubmit frame =
      if h : frame.length = frameBytes then
        if field frame 0 4 = submitMagic then
          if beNat (field frame 20 4) ≤ maxNymTxBytes then
            .ok (nonceField frame (by rw [h, frameBytes_eq]; omega),
              field frame submitHeaderBytes (beNat (field frame 20 4)))
          else .error (.raised (.txLenOverrunsFrame (beNat (field frame 20 4))))
        else .error (.raised .badMagic)
      else .error (.raised (.wrongLength frameBytes frame.length)) := by
  by_cases h : frame.length = frameBytes
  · have hlen : frame.length = 65536 := h
    have hdeclared := u32BeAt_eq_ok (show 20 + 4 ≤ frame.length by omega)
    simp only [decodeSubmit, bind, ne_eq, h, not_true_eq_false, if_false]
    apply (readHeader_bind frame submitMagic _ (by omega)).trans
    congr 1
    simp only [hdeclared, Except.bind, raise, gt_iff_lt]
    split_ifs with hd hle hle
    · omega
    · rfl
    · rw [slice_eq_ok frame (by omega)
        (by rw [maxNymTxBytes_eq] at hle; simp only [submitHeaderBytes]; omega),
        Nat.add_sub_cancel_left]
      rfl
    · omega
  · simp only [decodeSubmit, h, raise, ne_eq, not_false_eq_true, if_true, dite_false]

/-! ## AckV1 -/

/-- Build an {lit}`AckV1` frame echoing {lit}`nonce` and carrying {lit}`kind`. -/
def encodeAck (nonce : Nonce) (kind : AckKind) : Checked WireError Bytes := do
  let frame := zeros ackBytes
  let frame ← copyFromSlice frame 0 4 ackMagic
  let frame ← copyFromSlice frame 4 20 nonce.toList
  let (disp, refusal) : UInt8 × UInt8 :=
    match kind with
    | .accepted => (0, 0)
    | .refused refusal => (1, refusal.code)
  let frame ← setByte frame 20 disp
  setByte frame 21 refusal

/-- Read an {lit}`AckV1` frame back to its nonce and disposition. -/
def decodeAck (frame : Bytes) : Checked WireError (Nonce × AckKind) := do
  if frame.length ≠ ackBytes then
    raise (.wrongLength ackBytes frame.length)
  else
    let magic ← slice frame 0 4
    if magic ≠ ackMagic then
      raise .badMagic
    else
      let raw ← slice frame 4 20
      let nonce ← nonceFromSlice raw
      let disp ← byteAt frame 20
      let refusal ← byteAt frame 21
      if disp = 0 then
        -- accepted rides with refusal byte 0
        if refusal ≠ 0 then raise (.unknownRefusal refusal)
        else return (nonce, .accepted)
      else if disp = 1 then
        match AckRefusal.fromCode refusal with
        | some refusal => return (nonce, .refused refusal)
        | none => raise (.unknownRefusal refusal)
      else
        raise (.unknownDisposition disp)

/-- The disposition and refusal bytes of an acknowledgement. -/
def ackDisposition : AckKind → Bytes
  | .accepted => [0, 0]
  | .refused refusal => [1, refusal.code]

/-- The bytes of an acknowledgement before its padding. -/
def ackLayout (x : Nonce × AckKind) : Bytes :=
  ackMagic ++ x.1.toList ++ ackDisposition x.2

@[simp] theorem length_ackDisposition (kind : AckKind) :
    (ackDisposition kind).length = 2 := by
  cases kind <;> rfl

@[simp] theorem length_ackLayout (x : Nonce × AckKind) : (ackLayout x).length = 22 := by
  simp [ackLayout, ackMagic]

theorem encodeAck_eq (nonce : Nonce) (kind : AckKind) :
    encodeAck nonce kind = .ok (padTo ackBytes (ackLayout (nonce, kind))) := by
  have hwrite : ∀ disp refusal : UInt8,
      ((setByte (ε := WireError) (padTo ackBytes (ackMagic ++ nonce.toList)) 20 disp).bind
        fun frame => setByte frame 21 refusal) =
      .ok (padTo ackBytes (ackMagic ++ nonce.toList ++ [disp, refusal])) := by
    intro disp refusal
    have hdisp := setByte_padTo (ε := WireError) (ackMagic ++ nonce.toList) disp
      (by simp [ackMagic] : _ = 20) (by decide : 20 < ackBytes)
    have hrefusal := setByte_padTo (ε := WireError) (ackMagic ++ nonce.toList ++ [disp])
      refusal (by simp [ackMagic] : _ = 21) (by decide : 21 < ackBytes)
    simp only [hdisp, hrefusal, Except.bind]
    simp
  simp only [encodeAck, bind]
  rw [writeHeader_bind ackMagic nonce _ rfl (by decide)]
  cases kind <;> exact hwrite _ _

theorem decodeAck_eq (frame : Bytes) :
    decodeAck frame =
      if h : frame.length = ackBytes then
        if field frame 0 4 = ackMagic then
          let nonce := nonceField frame (by rw [h, ackBytes_eq]; omega)
          let disp := frame.get ⟨20, by rw [h, ackBytes_eq]; omega⟩
          let refusal := frame.get ⟨21, by rw [h, ackBytes_eq]; omega⟩
          if disp = 0 then
            if refusal = 0 then .ok (nonce, .accepted)
            else .error (.raised (.unknownRefusal refusal))
          else if disp = 1 then
            match AckRefusal.fromCode refusal with
            | some refusal => .ok (nonce, .refused refusal)
            | none => .error (.raised (.unknownRefusal refusal))
          else .error (.raised (.unknownDisposition disp))
        else .error (.raised .badMagic)
      else .error (.raised (.wrongLength ackBytes frame.length)) := by
  by_cases h : frame.length = ackBytes
  · have hlen : frame.length = 64 := h
    simp only [decodeAck, bind, ne_eq, h, not_true_eq_false, if_false]
    apply (readHeader_bind frame ackMagic _ (by omega)).trans
    simp only [byteAt_eq_ok (show 20 < frame.length by omega),
      byteAt_eq_ok (show 21 < frame.length by omega), Except.bind, raise, ite_not, pure,
      Except.pure]
    rfl
  · simp only [decodeAck, h, raise, ne_eq, not_false_eq_true, if_true, dite_false]

/-! ## LookupV1 -/

/-- Build a {lit}`LookupV1` frame querying {lit}`hash` under {lit}`nonce`. -/
def encodeLookup (nonce : Nonce) (hash : Bytes) : Checked WireError Bytes := do
  if hash.length > maxLookupHashBytes then
    raise (.hashTooLarge hash.length)
  else
    let frame := zeros lookupBytes
    let frame ← copyFromSlice frame 0 4 lookupMagic
    let frame ← copyFromSlice frame 4 20 nonce.toList
    let frame ← setByte frame 20 (UInt8.ofNat hash.length)
    copyFromSlice frame lookupHeaderBytes (lookupHeaderBytes + hash.length) hash

/-- Read a {lit}`LookupV1` frame back to its nonce and queried hash. -/
def decodeLookup (frame : Bytes) : Checked WireError (Nonce × Bytes) := do
  if frame.length ≠ lookupBytes then
    raise (.wrongLength lookupBytes frame.length)
  else
    let magic ← slice frame 0 4
    if magic ≠ lookupMagic then
      raise .badMagic
    else
      let raw ← slice frame 4 20
      let nonce ← nonceFromSlice raw
      let declared ← byteAt frame 20
      if declared.toNat > maxLookupHashBytes then
        raise (.hashLenOverrunsFrame declared.toNat)
      else
        let hash ← slice frame lookupHeaderBytes (lookupHeaderBytes + declared.toNat)
        return (nonce, hash)

/-- The bytes of a lookup frame before its padding. -/
def lookupLayout (x : Nonce × Bytes) : Bytes :=
  lookupMagic ++ x.1.toList ++ [UInt8.ofNat x.2.length] ++ x.2

@[simp] theorem length_lookupLayout (x : Nonce × Bytes) :
    (lookupLayout x).length = lookupHeaderBytes + x.2.length := by
  simp [lookupLayout, lookupMagic, lookupHeaderBytes]
  omega

theorem encodeLookup_eq {nonce : Nonce} {hash : Bytes}
    (h : hash.length ≤ maxLookupHashBytes) :
    encodeLookup nonce hash = .ok (padTo lookupBytes (lookupLayout (nonce, hash))) := by
  have hnot : ¬ hash.length > maxLookupHashBytes := by omega
  rw [maxLookupHashBytes_eq] at h
  have hlen := setByte_padTo (ε := WireError) (lookupMagic ++ nonce.toList)
    (UInt8.ofNat hash.length) (by simp [lookupMagic] : _ = 20) (by decide : 20 < lookupBytes)
  have hhash := copyFromSlice_padTo (ε := WireError)
    (lookupMagic ++ nonce.toList ++ [UInt8.ofNat hash.length]) hash
    (i := lookupHeaderBytes) (by simp [lookupMagic, lookupHeaderBytes]) rfl
    (by rw [lookupBytes_eq, lookupHeaderBytes]; omega : _ ≤ lookupBytes)
  simp only [encodeLookup, if_neg hnot, bind]
  rw [writeHeader_bind lookupMagic nonce _ rfl (by decide), hlen]
  exact hhash

theorem encodeLookup_over {nonce : Nonce} {hash : Bytes}
    (h : ¬ hash.length ≤ maxLookupHashBytes) :
    encodeLookup nonce hash = .error (.raised (.hashTooLarge hash.length)) := by
  simp only [encodeLookup, if_pos (show hash.length > maxLookupHashBytes by omega)]
  rfl

theorem decodeLookup_eq (frame : Bytes) :
    decodeLookup frame =
      if h : frame.length = lookupBytes then
        if field frame 0 4 = lookupMagic then
          let declared := (frame.get ⟨20, by rw [h, lookupBytes_eq]; omega⟩).toNat
          if declared ≤ maxLookupHashBytes then
            .ok (nonceField frame (by rw [h, lookupBytes_eq]; omega),
              field frame lookupHeaderBytes declared)
          else .error (.raised (.hashLenOverrunsFrame declared))
        else .error (.raised .badMagic)
      else .error (.raised (.wrongLength lookupBytes frame.length)) := by
  by_cases h : frame.length = lookupBytes
  · have hlen : frame.length = 64 := h
    simp only [decodeLookup, bind, ne_eq, h, not_true_eq_false, if_false]
    apply (readHeader_bind frame lookupMagic _ (by omega)).trans
    congr 1
    simp only [byteAt_eq_ok (show 20 < frame.length by omega), Except.bind, raise,
      gt_iff_lt, List.get_eq_getElem]
    split_ifs with hd hle hle
    · omega
    · rfl
    · rw [slice_eq_ok frame (by omega)
        (by rw [maxLookupHashBytes_eq] at hle; simp only [lookupHeaderBytes]; omega),
        Nat.add_sub_cancel_left]
      rfl
    · omega
  · simp only [decodeLookup, h, raise, ne_eq, not_false_eq_true, if_true, dite_false]

/-! ## LookupReplyV1 -/

/-- Build a {lit}`LookupReplyV1` echoing {lit}`nonce` and carrying {lit}`reply`. -/
def encodeLookupReply (nonce : Nonce) (reply : LookupReply) : Checked WireError Bytes := do
  let frame := zeros frameBytes
  let frame ← copyFromSlice frame 0 4 lookupReplyMagic
  let frame ← copyFromSlice frame 4 20 nonce.toList
  match reply with
  | .found height tx =>
    if tx.length > maxLookupReplyTxBytes then
      raise (.txTooLarge tx.length maxLookupReplyTxBytes)
    else
      let frame ← setByte frame 20 0
      let frame ← copyFromSlice frame 21 29 (beBytes 8 height.toNat)
      let frame ← copyFromSlice frame 29 33 (beBytes 4 (tx.length % 2 ^ 32))
      copyFromSlice frame lookupReplyHeaderBytes (lookupReplyHeaderBytes + tx.length) tx
  | .notFound => setByte frame 20 1
  | .error => setByte frame 20 2

/-- Read a {lit}`LookupReplyV1` back to its nonce and disposition. -/
def decodeLookupReply (frame : Bytes) : Checked WireError (Nonce × LookupReply) := do
  if frame.length ≠ frameBytes then
    raise (.wrongLength frameBytes frame.length)
  else
    let magic ← slice frame 0 4
    if magic ≠ lookupReplyMagic then
      raise .badMagic
    else
      let raw ← slice frame 4 20
      let nonce ← nonceFromSlice raw
      let disp ← byteAt frame 20
      let height ← slice frame 21 29
      let height := UInt64.ofNat (beNat height)
      let declared ← u32BeAt frame 29
      if disp = 0 then
        if declared > maxLookupReplyTxBytes then
          raise (.txLenOverrunsFrame declared)
        else
          let tx ← slice frame lookupReplyHeaderBytes (lookupReplyHeaderBytes + declared)
          return (nonce, .found height tx)
      else if disp = 1 ∨ disp = 2 then
        -- a height or transaction bytes may not ride on the other dispositions
        if height ≠ 0 ∨ declared ≠ 0 then raise .strayReplyPayload
        else if disp = 1 then return (nonce, .notFound)
        else return (nonce, .error)
      else
        raise (.unknownDisposition disp)

/-- The disposition, height, length and transaction bytes of a lookup reply. -/
def replyPayload : LookupReply → Bytes
  | .found height tx => [0] ++ beBytes 8 height.toNat ++ beBytes 4 tx.length ++ tx
  | .notFound => [1] ++ zeros 12
  | .error => [2] ++ zeros 12

/-- The bytes of a lookup reply before its padding. -/
def lookupReplyLayout (x : Nonce × LookupReply) : Bytes :=
  lookupReplyMagic ++ x.1.toList ++ replyPayload x.2

/-- The transaction a lookup reply carries. -/
def LookupReply.txBytes : LookupReply → Bytes
  | .found _ tx => tx
  | .notFound => []
  | .error => []

@[simp] theorem length_lookupReplyLayout (x : Nonce × LookupReply) :
    (lookupReplyLayout x).length = lookupReplyHeaderBytes + x.2.txBytes.length := by
  rcases x with ⟨nonce, reply⟩
  cases reply <;>
    simp [lookupReplyLayout, lookupReplyMagic, replyPayload, lookupReplyHeaderBytes,
      LookupReply.txBytes]
  omega

theorem encodeLookupReply_eq {nonce : Nonce} {reply : LookupReply}
    (h : reply.txBytes.length ≤ maxLookupReplyTxBytes) :
    encodeLookupReply nonce reply =
      .ok (padTo frameBytes (lookupReplyLayout (nonce, reply))) := by
  simp only [encodeLookupReply, bind]
  rw [writeHeader_bind lookupReplyMagic nonce _ rfl (by decide)]
  have hdisp := fun disp => setByte_padTo (ε := WireError)
    (lookupReplyMagic ++ nonce.toList) disp (by simp [lookupReplyMagic] : _ = 20)
    (by decide : 20 < frameBytes)
  -- the zeros after the disposition byte are the height and length fields
  have hempty : ∀ disp : UInt8,
      padTo frameBytes (lookupReplyMagic ++ nonce.toList ++ [disp]) =
        padTo frameBytes (lookupReplyMagic ++ nonce.toList ++ ([disp] ++ zeros 12)) := by
    intro disp
    rw [← List.append_assoc, padTo_append_zeros]
    simp [lookupReplyMagic, frameBytes_eq]
  cases reply with
  | found height tx =>
    have hnot : ¬ tx.length > maxLookupReplyTxBytes := by
      simpa [LookupReply.txBytes] using h
    have hlen : tx.length ≤ 65503 := h
    have hmod : tx.length % 2 ^ 32 = tx.length := Nat.mod_eq_of_lt (by omega)
    have hheight := copyFromSlice_padTo (ε := WireError)
      (lookupReplyMagic ++ nonce.toList ++ [0]) (beBytes 8 height.toNat) (i := 21) (j := 29)
      (by simp [lookupReplyMagic]) (by simp) (by decide : 29 ≤ frameBytes)
    have htxLen := copyFromSlice_padTo (ε := WireError)
      (lookupReplyMagic ++ nonce.toList ++ [0] ++ beBytes 8 height.toNat)
      (beBytes 4 tx.length) (i := 29) (j := 33)
      (by simp [lookupReplyMagic]) (by simp) (by decide : 33 ≤ frameBytes)
    have htx := copyFromSlice_padTo (ε := WireError)
      (lookupReplyMagic ++ nonce.toList ++ [0] ++ beBytes 8 height.toNat ++
        beBytes 4 tx.length) tx (i := lookupReplyHeaderBytes)
      (by simp [lookupReplyMagic, lookupReplyHeaderBytes]) rfl
      (by rw [frameBytes_eq, lookupReplyHeaderBytes]; omega : _ ≤ frameBytes)
    simp only [if_neg hnot, hmod, hdisp, hheight, htxLen, htx, Except.bind]
    simp [lookupReplyLayout, replyPayload]
  | notFound => exact (hdisp 1).trans (congrArg Except.ok (hempty 1))
  | error => exact (hdisp 2).trans (congrArg Except.ok (hempty 2))

theorem encodeLookupReply_over {nonce : Nonce} {height : UInt64} {tx : Bytes}
    (h : ¬ tx.length ≤ maxLookupReplyTxBytes) :
    encodeLookupReply nonce (.found height tx) =
      .error (.raised (.txTooLarge tx.length maxLookupReplyTxBytes)) := by
  simp only [encodeLookupReply, bind]
  rw [writeHeader_bind lookupReplyMagic nonce _ rfl (by decide)]
  simp only [if_pos (show tx.length > maxLookupReplyTxBytes by omega), raise]

theorem decodeLookupReply_eq (frame : Bytes) :
    decodeLookupReply frame =
      if h : frame.length = frameBytes then
        if field frame 0 4 = lookupReplyMagic then
          let nonce := nonceField frame (by rw [h, frameBytes_eq]; omega)
          let disp := frame.get ⟨20, by rw [h, frameBytes_eq]; omega⟩
          let height := UInt64.ofNat (beNat (field frame 21 8))
          let declared := beNat (field frame 29 4)
          if disp = 0 then
            if declared ≤ maxLookupReplyTxBytes then
              .ok (nonce, .found height (field frame lookupReplyHeaderBytes declared))
            else .error (.raised (.txLenOverrunsFrame declared))
          else if disp = 1 ∨ disp = 2 then
            if height = 0 ∧ declared = 0 then
              .ok (nonce, if disp = 1 then .notFound else .error)
            else .error (.raised .strayReplyPayload)
          else .error (.raised (.unknownDisposition disp))
        else .error (.raised .badMagic)
      else .error (.raised (.wrongLength frameBytes frame.length)) := by
  by_cases h : frame.length = frameBytes
  · have hlen : frame.length = 65536 := h
    have hheight := slice_eq_ok (ε := WireError) frame (i := 21) (j := 29)
      (by omega) (by omega)
    have hdeclared := u32BeAt_eq_ok (show 29 + 4 ≤ frame.length by omega)
    simp only [decodeLookupReply, bind, ne_eq, h, not_true_eq_false, if_false]
    apply (readHeader_bind frame lookupReplyMagic _ (by omega)).trans
    congr 1
    simp only [byteAt_eq_ok (show 20 < frame.length by omega), hheight, hdeclared,
      Except.bind, raise, gt_iff_lt, Nat.reduceSub, pure, Except.pure, List.get_eq_getElem]
    by_cases hfound : frame[20] = 0
    · simp only [hfound, if_true]
      by_cases hle : beNat (field frame 29 4) ≤ maxLookupReplyTxBytes
      · rw [if_neg (by omega), if_pos hle, slice_eq_ok frame (by omega)
          (by rw [maxLookupReplyTxBytes_eq] at hle
              simp only [lookupReplyHeaderBytes]; omega), Nat.add_sub_cancel_left]
      · rw [if_pos (by omega), if_neg hle]
    · simp only [hfound, if_false]
      by_cases hempty : UInt64.ofNat (beNat (field frame 21 8)) = 0 ∧
          beNat (field frame 29 4) = 0
      · simp only [hempty.1, hempty.2, not_true_eq_false, or_self, if_false, and_self,
          if_true]
        split_ifs <;> rfl
      · rw [if_neg hempty, if_pos (not_and_or.mp hempty)]
  · simp only [decodeLookupReply, h, raise, ne_eq, not_false_eq_true, if_true, dite_false]

/-! ## Nonce recovery -/

/-- Best-effort recovery of the nonce from a frame that failed to decode: the
frame must reach past its header and carry its kind's magic. -/
def peekNonceOf (magic : Bytes) (headerBytes : Nat) (frame : Bytes) :
    Checked WireError (Option Nonce) := do
  if frame.length < headerBytes then
    return none
  else
    let found ← slice frame 0 4
    if found ≠ magic then
      return none
    else
      let raw ← slice frame 4 20
      let nonce ← nonceFromSlice raw
      return some nonce

/-- {lit}`peek_nonce` of a submit frame. -/
def peekNonce : Bytes → Checked WireError (Option Nonce) :=
  peekNonceOf submitMagic submitHeaderBytes

/-- {lit}`peek_lookup_nonce` of a lookup frame. -/
def peekLookupNonce : Bytes → Checked WireError (Option Nonce) :=
  peekNonceOf lookupMagic lookupHeaderBytes

theorem peekNonceOf_eq {magic : Bytes} {headerBytes : Nat} (hheader : 20 ≤ headerBytes)
    (frame : Bytes) :
    peekNonceOf magic headerBytes frame =
      .ok (if h : headerBytes ≤ frame.length ∧ field frame 0 4 = magic then
        some (nonceField frame (hheader.trans h.1)) else none) := by
  by_cases h : headerBytes ≤ frame.length
  · have hmagic := slice_eq_ok (ε := WireError) frame (i := 0) (j := 4)
      (by omega) (by omega)
    have hraw := slice_eq_ok (ε := WireError) frame (i := 4) (j := 20)
      (by omega) (by omega)
    have hnonce := nonceFromSlice_field (hheader.trans h)
    have hlt : ¬ frame.length < headerBytes := by omega
    by_cases hm : field frame 0 4 = magic
    · simp only [peekNonceOf, hlt, hmagic, hraw, hnonce, h, hm, ne_eq, not_true_eq_false,
        if_false, and_self, dite_true, bind, Except.bind, pure, Except.pure,
        Nat.sub_zero, Nat.reduceSub]
    · simp only [peekNonceOf, hlt, hmagic, hm, ne_eq, not_false_eq_true, if_false,
        if_true, and_false, dite_false, bind, Except.bind, pure, Except.pure, Nat.sub_zero]
  · have hlt : frame.length < headerBytes := by omega
    simp only [peekNonceOf, hlt, h, if_true, false_and, dite_false, pure, Except.pure]

end Wire
end ZeroShim
