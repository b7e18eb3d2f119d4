import ZeroShim.Library.FixedFrame
import ZeroShim.Wire.Frames

/-!
# Exactness of the wire codec

Each of the four frames is an exact fixed-size codec, no buffer is accepted as
two kinds of frame, and nonce recovery agrees with decoding.

Main results:

- Theorems {lit}`submit_fixedFrame`, {lit}`ack_fixedFrame`,
  {lit}`lookup_fixedFrame`, {lit}`lookupReply_fixedFrame`: exactness of each
  frame.
- Theorem {lit}`FrameKind.accepts_unique`: a buffer is a frame of at most one kind.
- Theorem {lit}`wireCodec_exact`: all of it for the whole wire.
-/

namespace ZeroShim
namespace Wire

open Library

/-! ## What a decoder accepts -/

/-- The header of an acceptable {lit}`SubmitV1`. -/
structure SubmitWellFormed (frame : Bytes) : Prop where
  length : frame.length = frameBytes
  magic : field frame 0 4 = submitMagic
  txLen : beNat (field frame 20 4) ≤ maxNymTxBytes

/-- The header of an acceptable {lit}`AckV1`: an accepted disposition carries
refusal byte zero, a refused one a known code. -/
structure AckWellFormed (frame : Bytes) : Prop where
  length : frame.length = ackBytes
  magic : field frame 0 4 = ackMagic
  disposition : field frame 20 1 = [0] ∧ field frame 21 1 = [0] ∨
    field frame 20 1 = [1] ∧ ∃ refusal : AckRefusal, field frame 21 1 = [refusal.code]

/-- The header of an acceptable {lit}`LookupV1`. -/
structure LookupWellFormed (frame : Bytes) : Prop where
  length : frame.length = lookupBytes
  magic : field frame 0 4 = lookupMagic
  hashLen : beNat (field frame 20 1) ≤ maxLookupHashBytes

/-- The header of an acceptable {lit}`LookupReplyV1`: only a found reply
carries a height or a transaction. -/
structure LookupReplyWellFormed (frame : Bytes) : Prop where
  length : frame.length = frameBytes
  magic : field frame 0 4 = lookupReplyMagic
  disposition : field frame 20 1 = [0] ∧ beNat (field frame 29 4) ≤ maxLookupReplyTxBytes ∨
    (field frame 20 1 = [1] ∨ field frame 20 1 = [2]) ∧
      beNat (field frame 21 8) = 0 ∧ beNat (field frame 29 4) = 0

/-! ## Decoders read exactly their layouts -/

/-- A frame starts with a magic, a nonce and a payload exactly when its header
fields hold them. -/
theorem header_prefix_iff {frame magic payload : Bytes} {nonce : Nonce}
    (hmagic : magic.length = 4) (h : 20 ≤ frame.length) :
    magic ++ nonce.toList ++ payload <+: frame ↔
      field frame 0 4 = magic ∧ nonceField frame h = nonce ∧ payload <+: frame.drop 20 := by
  have hnonce : field frame 4 16 = nonce.toList ↔ nonceField frame h = nonce := by
    constructor
    · intro heq
      exact List.Vector.eq _ _ heq
    · rintro rfl
      rfl
  have hsplit := append_prefix_drop_iff magic (nonce.toList ++ payload) frame 0
  rw [append_prefix_drop_iff nonce.toList, List.drop_zero, hmagic,
    List.Vector.toList_length, Nat.zero_add, ← List.append_assoc, hnonce] at hsplit
  exact hsplit

/-- A byte followed by a segment stands at offset {lit}`i` exactly when the
byte there and the field after it agree. -/
theorem byte_prefix_iff {frame payload : Bytes} {i : Nat} {x : UInt8}
    (h : i < frame.length) :
    [x] ++ payload <+: frame.drop i ↔ frame[i] = x ∧ payload <+: frame.drop (i + 1) := by
  rw [append_prefix_drop_iff, List.length_singleton, field_one h, List.cons.injEq]
  simp

theorem decodeSubmit_eq_ok_iff (frame : Bytes) (x : Nonce × Bytes) :
    decodeSubmit frame = .ok x ↔
      frame.length = frameBytes ∧ x.2.length ≤ maxNymTxBytes ∧ submitLayout x <+: frame := by
  rcases x with ⟨nonce, tx⟩
  rw [decodeSubmit_eq]
  by_cases hlen : frame.length = frameBytes
  · have h20 : 20 ≤ frame.length := by rw [hlen, frameBytes_eq]; omega
    have hsplit : submitLayout (nonce, tx) <+: frame ↔
        field frame 0 4 = submitMagic ∧ nonceField frame h20 = nonce ∧
          field frame 20 4 = beBytes 4 tx.length ∧
            field frame submitHeaderBytes tx.length = tx := by
      rw [submitLayout, List.append_assoc, header_prefix_iff rfl h20,
        append_prefix_drop_iff, prefix_drop_iff, length_beBytes]
      rfl
    rw [hsplit, dif_pos hlen]
    constructor
    · intro h
      split_ifs at h with hmagic hle
      simp only [Except.ok.injEq, Prod.mk.injEq] at h
      rcases h with ⟨hnonce, htx⟩
      have htxLen : tx.length = beNat (field frame 20 4) := by
        rw [← htx]
        apply length_field_of_le
        rw [hlen, frameBytes_eq, submitHeaderBytes]
        rw [maxNymTxBytes_eq] at hle
        omega
      refine ⟨hlen, htxLen ▸ hle, hmagic, hnonce, ?_, htxLen ▸ htx⟩
      rw [htxLen, beBytes_beNat (length_field_of_le (by rw [hlen, frameBytes_eq]; omega))]
    · rintro ⟨-, hbudget, hmagic, hnonce, htxLen, htx⟩
      have hread : beNat (field frame 20 4) = tx.length := by
        rw [htxLen]
        apply beNat_beBytes
        have hle : tx.length ≤ 65503 := hbudget
        omega
      simp only [hmagic, hread, hbudget, hnonce, htx, if_true]
  · simp [hlen]

/-- The disposition an acknowledgement's two bytes stand for. -/
theorem ackDisposition_prefix_iff {frame : Bytes} (kind : AckKind) (h : 21 < frame.length) :
    ackDisposition kind <+: frame.drop 20 ↔
      (kind = .accepted ∧ frame[20] = 0 ∧ frame[21] = 0) ∨
        ∃ refusal, kind = .refused refusal ∧ frame[20] = 1 ∧
          AckRefusal.fromCode frame[21] = some refusal := by
  have hsplit : ∀ disp refusal : UInt8,
      [disp, refusal] <+: frame.drop 20 ↔ frame[20] = disp ∧ frame[21] = refusal := by
    intro disp refusal
    have hbytes : [disp, refusal] = [disp] ++ ([refusal] ++ []) := rfl
    rw [hbytes, byte_prefix_iff (by omega), byte_prefix_iff h]
    simp
  cases kind with
  | accepted => simp [ackDisposition, hsplit]
  | refused refusal =>
    simp [ackDisposition, hsplit, AckRefusal.fromCode_eq_some_iff]

theorem decodeAck_eq_ok_iff (frame : Bytes) (x : Nonce × AckKind) :
    decodeAck frame = .ok x ↔ frame.length = ackBytes ∧ ackLayout x <+: frame := by
  rcases x with ⟨nonce, kind⟩
  rw [decodeAck_eq]
  by_cases hlen : frame.length = ackBytes
  · have h21 : 21 < frame.length := by rw [hlen, ackBytes_eq]; omega
    have h20 : 20 ≤ frame.length := by omega
    rw [ackLayout, header_prefix_iff rfl h20, ackDisposition_prefix_iff kind h21,
      dif_pos hlen]
    by_cases hmagic : field frame 0 4 = ackMagic
    · by_cases hdisp : frame[20] = 0
      · by_cases hrefusal : frame[21] = 0
        · simp [hlen, hmagic, hdisp, hrefusal, eq_comm]
        · simp [hmagic, hdisp, hrefusal]
      · by_cases hdisp' : frame[20] = 1
        · cases hcode : AckRefusal.fromCode frame[21] <;>
            simp [hlen, hmagic, hdisp', hcode, eq_comm]
        · simp [hmagic, hdisp, hdisp']
    · simp [hmagic]
  · simp [hlen]

theorem decodeLookup_eq_ok_iff (frame : Bytes) (x : Nonce × Bytes) :
    decodeLookup frame = .ok x ↔
      frame.length = lookupBytes ∧ x.2.length ≤ maxLookupHashBytes ∧
        lookupLayout x <+: frame := by
  rcases x with ⟨nonce, hash⟩
  rw [decodeLookup_eq]
  by_cases hlen : frame.length = lookupBytes
  · have h20 : 20 < frame.length := by rw [hlen, lookupBytes_eq]; omega
    have hsplit : lookupLayout (nonce, hash) <+: frame ↔
        field frame 0 4 = lookupMagic ∧ nonceField frame h20.le = nonce ∧
          frame[20] = UInt8.ofNat hash.length ∧
            field frame lookupHeaderBytes hash.length = hash := by
      rw [lookupLayout, List.append_assoc, header_prefix_iff rfl h20.le,
        byte_prefix_iff h20, prefix_drop_iff]
      rfl
    rw [hsplit, dif_pos hlen]
    constructor
    · intro h
      simp only at h
      split_ifs at h with hmagic hle
      simp only [Except.ok.injEq, Prod.mk.injEq] at h
      rcases h with ⟨hnonce, hhash⟩
      have hhashLen : hash.length = frame[20].toNat := by
        rw [← hhash]
        apply length_field_of_le
        rw [maxLookupHashBytes_eq] at hle
        simp only [lookupHeaderBytes, hlen, lookupBytes_eq]
        omega
      refine ⟨hlen, hhashLen ▸ hle, hmagic, hnonce, ?_, hhashLen ▸ hhash⟩
      rw [hhashLen, UInt8.ofNat_toNat]
    · rintro ⟨-, hbudget, hmagic, hnonce, hhashLen, hhash⟩
      have hread : frame[20].toNat = hash.length := by
        have hle : hash.length ≤ 43 := hbudget
        rw [hhashLen, UInt8.toNat_ofNat']
        omega
      simp only [List.get_eq_getElem, hmagic, hread, hbudget, hnonce, hhash, if_true]
  · simp [hlen]

/-- The disposition and fields a lookup reply's payload stands for. -/
theorem replyPayload_prefix_iff {frame : Bytes} (reply : LookupReply)
    (h : 33 ≤ frame.length) (hbudget : reply.txBytes.length ≤ maxLookupReplyTxBytes) :
    replyPayload reply <+: frame.drop 20 ↔
      match reply with
      | .found height tx => frame[20] = 0 ∧ UInt64.ofNat (beNat (field frame 21 8)) = height ∧
          beNat (field frame 29 4) = tx.length ∧
            field frame lookupReplyHeaderBytes tx.length = tx
      | .notFound => frame[20] = 1 ∧ UInt64.ofNat (beNat (field frame 21 8)) = 0 ∧
          beNat (field frame 29 4) = 0
      | .error => frame[20] = 2 ∧ UInt64.ofNat (beNat (field frame 21 8)) = 0 ∧
          beNat (field frame 29 4) = 0 := by
  have hheight : ∀ height : UInt64, field frame 21 8 = beBytes 8 height.toNat ↔
      UInt64.ofNat (beNat (field frame 21 8)) = height := by
    intro height
    have hlen : (field frame 21 8).length = 8 := length_field_of_le (by omega)
    have hlt : beNat (field frame 21 8) < 2 ^ 64 := beNat_lt hlen
    constructor
    · intro heq
      rw [heq, beNat_beBytes (by exact height.toNat_lt)]
      simp
    · rintro rfl
      rw [UInt64.toNat_ofNat', Nat.mod_eq_of_lt hlt, beBytes_beNat hlen]
  have hdeclared : ∀ n : Nat, n < 2 ^ 32 →
      (field frame 29 4 = beBytes 4 n ↔ beNat (field frame 29 4) = n) := by
    intro n hn
    have hlen : (field frame 29 4).length = 4 := length_field_of_le (by omega)
    constructor
    · intro heq
      rw [heq, beNat_beBytes (by exact hn)]
    · rintro rfl
      rw [beBytes_beNat hlen]
  have hempty : ∀ disp : UInt8, [disp] ++ zeros 12 <+: frame.drop 20 ↔
      frame[20] = disp ∧ UInt64.ofNat (beNat (field frame 21 8)) = 0 ∧
        beNat (field frame 29 4) = 0 := by
    intro disp
    have hzeros : zeros 12 = beBytes 8 (0 : UInt64).toNat ++ beBytes 4 0 := rfl
    rw [byte_prefix_iff (by omega), hzeros, append_prefix_drop_iff, prefix_drop_iff,
      length_beBytes, length_beBytes, hheight, hdeclared 0 (by decide)]
  cases reply with
  | found height tx =>
    have htx : tx.length ≤ 65503 := hbudget
    rw [replyPayload, List.append_assoc, List.append_assoc, byte_prefix_iff (by omega),
      append_prefix_drop_iff, append_prefix_drop_iff, prefix_drop_iff, length_beBytes,
      length_beBytes, hheight, hdeclared tx.length (by omega)]
    rfl
  | notFound => exact hempty 1
  | error => exact hempty 2

theorem decodeLookupReply_eq_ok_iff (frame : Bytes) (x : Nonce × LookupReply) :
    decodeLookupReply frame = .ok x ↔
      frame.length = frameBytes ∧ x.2.txBytes.length ≤ maxLookupReplyTxBytes ∧
        lookupReplyLayout x <+: frame := by
  rcases x with ⟨nonce, reply⟩
  rw [decodeLookupReply_eq]
  by_cases hlen : frame.length = frameBytes
  · have h33 : 33 ≤ frame.length := by rw [hlen, frameBytes_eq]; omega
    have h20 : 20 ≤ frame.length := by omega
    rw [dif_pos hlen, lookupReplyLayout, header_prefix_iff rfl h20]
    have hread : beNat (field frame 29 4) ≤ maxLookupReplyTxBytes →
        (field frame lookupReplyHeaderBytes (beNat (field frame 29 4))).length =
          beNat (field frame 29 4) := by
      intro hle
      apply length_field_of_le
      rw [hlen, frameBytes_eq, lookupReplyHeaderBytes]
      rw [maxLookupReplyTxBytes_eq] at hle
      omega
    by_cases hmagic : field frame 0 4 = lookupReplyMagic
    · rw [if_pos hmagic]
      constructor
      · intro h
        suffices hpayload : nonceField frame h20 = nonce ∧
            reply.txBytes.length ≤ maxLookupReplyTxBytes ∧
              (reply.txBytes.length ≤ maxLookupReplyTxBytes →
                replyPayload reply <+: frame.drop 20) from
          ⟨hlen, hpayload.2.1, hmagic, hpayload.1, hpayload.2.2 hpayload.2.1⟩
        simp only at h
        split_ifs at h with hfound hle hother hstray hone <;>
          simp only [Except.ok.injEq, Prod.mk.injEq] at h <;> obtain ⟨hnonce, rfl⟩ := h
        · refine ⟨hnonce, by simpa [LookupReply.txBytes, hread hle] using hle, ?_⟩
          intro hbudget
          rw [replyPayload_prefix_iff _ h33 hbudget]
          exact ⟨hfound, rfl, (hread hle).symm, by rw [hread hle]⟩
        · refine ⟨hnonce, Nat.zero_le _, ?_⟩
          intro hbudget
          rw [replyPayload_prefix_iff _ h33 hbudget]
          exact ⟨hone, hstray⟩
        · refine ⟨hnonce, Nat.zero_le _, ?_⟩
          intro hbudget
          rw [replyPayload_prefix_iff _ h33 hbudget]
          exact ⟨hother.resolve_left hone, hstray⟩
      · rintro ⟨-, hbudget, -, rfl, hpayload⟩
        rw [replyPayload_prefix_iff _ h33 hbudget] at hpayload
        cases reply with
        | found height tx =>
          rcases hpayload with ⟨hdisp, hheight, hdeclared, htx⟩
          have hle : tx.length ≤ maxLookupReplyTxBytes := hbudget
          simp only [List.get_eq_getElem, hdisp, hheight, hdeclared, htx, hle, if_true]
        | notFound =>
          rcases hpayload with ⟨hdisp, hheight, hdeclared⟩
          simp [hdisp, hheight, hdeclared]
        | error =>
          rcases hpayload with ⟨hdisp, hheight, hdeclared⟩
          simp [hdisp, hheight, hdeclared]
    · simp [hmagic]
  · simp [hlen]

/-! ## Decoders stay inside their buffer -/

theorem decodeSubmit_inRange (frame : Bytes) : decodeSubmit frame ≠ .error .outOfRange := by
  rw [decodeSubmit_eq]
  split_ifs <;> simp

theorem decodeAck_inRange (frame : Bytes) : decodeAck frame ≠ .error .outOfRange := by
  rw [decodeAck_eq]
  simp only
  split_ifs <;> try simp
  split <;> simp

theorem decodeLookup_inRange (frame : Bytes) : decodeLookup frame ≠ .error .outOfRange := by
  rw [decodeLookup_eq]
  simp only
  split_ifs <;> simp

theorem decodeLookupReply_inRange (frame : Bytes) :
    decodeLookupReply frame ≠ .error .outOfRange := by
  rw [decodeLookupReply_eq]
  simp only
  split_ifs <;> simp

/-! ## Acceptance is well-formedness -/

theorem decodeSubmit_isOk_iff (frame : Bytes) :
    (∃ x, decodeSubmit frame = .ok x) ↔ SubmitWellFormed frame := by
  rw [decodeSubmit_eq]
  constructor
  · rintro ⟨x, h⟩
    split_ifs at h with hlen hmagic hle
    exact ⟨hlen, hmagic, hle⟩
  · rintro ⟨hlen, hmagic, hle⟩
    rw [dif_pos hlen, if_pos hmagic, if_pos hle]
    exact ⟨_, rfl⟩

theorem decodeAck_isOk_iff (frame : Bytes) :
    (∃ x, decodeAck frame = .ok x) ↔ AckWellFormed frame := by
  by_cases hlen : frame.length = ackBytes
  · have h21 : 21 < frame.length := by rw [hlen, ackBytes_eq]; omega
    have h20 : 20 ≤ frame.length := by omega
    have hbyte : ∀ i (hi : i < frame.length) (x : UInt8),
        field frame i 1 = [x] ↔ frame[i] = x := by
      intro i hi x
      rw [field_one hi, List.cons.injEq]
      simp
    constructor
    · rintro ⟨⟨nonce, kind⟩, h⟩
      rw [decodeAck_eq_ok_iff, ackLayout, header_prefix_iff rfl h20,
        ackDisposition_prefix_iff kind h21] at h
      rcases h with ⟨-, hmagic, -, ⟨-, hdisp, hrefusal⟩ | ⟨refusal, -, hdisp, hcode⟩⟩
      · exact ⟨hlen, hmagic, .inl ⟨(hbyte _ _ _).mpr hdisp, (hbyte _ _ _).mpr hrefusal⟩⟩
      · rw [AckRefusal.fromCode_eq_some_iff] at hcode
        exact ⟨hlen, hmagic,
          .inr ⟨(hbyte _ _ _).mpr hdisp, refusal, (hbyte _ _ _).mpr hcode⟩⟩
    · rintro ⟨-, hmagic, ⟨hdisp, hrefusal⟩ | ⟨hdisp, refusal, hcode⟩⟩
      · refine ⟨(nonceField frame h20, .accepted), ?_⟩
        rw [decodeAck_eq_ok_iff, ackLayout, header_prefix_iff rfl h20,
          ackDisposition_prefix_iff _ h21]
        exact ⟨hlen, hmagic, rfl, .inl ⟨rfl, (hbyte _ _ _).mp hdisp,
          (hbyte _ _ _).mp hrefusal⟩⟩
      · refine ⟨(nonceField frame h20, .refused refusal), ?_⟩
        rw [decodeAck_eq_ok_iff, ackLayout, header_prefix_iff rfl h20,
          ackDisposition_prefix_iff _ h21]
        exact ⟨hlen, hmagic, rfl, .inr ⟨refusal, rfl, (hbyte _ _ _).mp hdisp,
          (AckRefusal.fromCode_eq_some_iff _ _).mpr ((hbyte _ _ _).mp hcode)⟩⟩
  · constructor
    · rintro ⟨x, h⟩
      exact absurd ((decodeAck_eq_ok_iff frame x).mp h).1 hlen
    · intro h
      exact absurd h.length hlen

theorem decodeLookup_isOk_iff (frame : Bytes) :
    (∃ x, decodeLookup frame = .ok x) ↔ LookupWellFormed frame := by
  have hread : ∀ h : 20 < frame.length, beNat (field frame 20 1) = frame[20].toNat := by
    intro h
    rw [field_one h]
    simp [beNat, leNat]
  rw [decodeLookup_eq]
  constructor
  · rintro ⟨x, h⟩
    simp only at h
    split_ifs at h with hlen hmagic hle
    exact ⟨hlen, hmagic, by rwa [hread]⟩
  · rintro ⟨hlen, hmagic, hle⟩
    rw [hread (by rw [hlen, lookupBytes_eq]; omega)] at hle
    rw [dif_pos hlen, if_pos hmagic]
    simp only [List.get_eq_getElem, if_pos hle]
    exact ⟨_, rfl⟩

theorem decodeLookupReply_isOk_iff (frame : Bytes) :
    (∃ x, decodeLookupReply frame = .ok x) ↔ LookupReplyWellFormed frame := by
  by_cases hlen : frame.length = frameBytes
  · have h20 : 20 < frame.length := by rw [hlen, frameBytes_eq]; omega
    have h29 : 29 ≤ frame.length := by rw [hlen, frameBytes_eq]; omega
    have hbyte : ∀ x : UInt8, field frame 20 1 = [x] ↔ frame[20] = x := by
      intro x
      rw [field_one h20, List.cons.injEq]
      simp
    have hheight : UInt64.ofNat (beNat (field frame 21 8)) = 0 ↔
        beNat (field frame 21 8) = 0 := by
      have hlt : beNat (field frame 21 8) < 2 ^ 64 := beNat_lt (length_field_of_le h29)
      rw [← UInt64.toNat_inj, UInt64.toNat_ofNat', Nat.mod_eq_of_lt hlt]
      simp
    rw [decodeLookupReply_eq, dif_pos hlen]
    simp only [hheight, List.get_eq_getElem]
    constructor
    · rintro ⟨x, h⟩
      split_ifs at h with hmagic hfound hle hother hstray <;> refine ⟨hlen, hmagic, ?_⟩
      · exact .inl ⟨(hbyte 0).mpr hfound, hle⟩
      all_goals
        exact .inr ⟨hother.imp (hbyte 1).mpr (hbyte 2).mpr, hstray⟩
    · rintro ⟨-, hmagic, ⟨hdisp, hle⟩ | ⟨hdisp, hstray⟩⟩
      · rw [if_pos hmagic, if_pos ((hbyte 0).mp hdisp), if_pos hle]
        exact ⟨_, rfl⟩
      · have hother : frame[20] = 1 ∨ frame[20] = 2 :=
          hdisp.imp (hbyte 1).mp (hbyte 2).mp
        have hfound : ¬ frame[20] = 0 := by
          rcases hother with h | h <;> rw [h] <;> decide
        rw [if_pos hmagic, if_neg hfound, if_pos hother, if_pos hstray]
        exact ⟨_, rfl⟩
  · constructor
    · rintro ⟨x, h⟩
      exact absurd ((decodeLookupReply_eq_ok_iff frame x).mp h).1 hlen
    · intro h
      exact absurd h.length hlen

/-! ## Exactness of each frame -/

/-- The declared region of a submit frame. -/
def submitDeclared (x : Nonce × Bytes) : Nat := submitHeaderBytes + x.2.length

/-- The declared region of an acknowledgement. -/
def ackDeclared (_ : Nonce × AckKind) : Nat := 22

/-- The declared region of a lookup frame. -/
def lookupDeclared (x : Nonce × Bytes) : Nat := lookupHeaderBytes + x.2.length

/-- The declared region of a lookup reply. -/
def lookupReplyDeclared (x : Nonce × LookupReply) : Nat :=
  lookupReplyHeaderBytes + x.2.txBytes.length

theorem submit_fixedFrame :
    FixedFrame (fun x : Nonce × Bytes => encodeSubmit x.1 x.2) decodeSubmit frameBytes
      submitDeclared (fun x => x.2.length ≤ maxNymTxBytes) SubmitWellFormed := by
  have hdeclared : submitDeclared = fun x => (submitLayout x).length := by
    funext x
    rw [length_submitLayout, submitDeclared]
  rw [hdeclared]
  apply FixedFrame.of_layout
  · intro x hx
    rw [maxNymTxBytes_eq] at hx
    rw [length_submitLayout, submitHeaderBytes, frameBytes_eq]
    omega
  · intro x hx
    exact encodeSubmit_eq hx
  · intro x hx
    exact ⟨_, encodeSubmit_over hx⟩
  · exact decodeSubmit_eq_ok_iff
  · exact decodeSubmit_inRange
  · exact decodeSubmit_isOk_iff

theorem ack_fixedFrame :
    FixedFrame (fun x : Nonce × AckKind => encodeAck x.1 x.2) decodeAck ackBytes
      ackDeclared (fun _ => True) AckWellFormed := by
  have hdeclared : ackDeclared = fun x => (ackLayout x).length := by
    funext x
    rw [length_ackLayout, ackDeclared]
  rw [hdeclared]
  apply FixedFrame.of_layout
  · intro x _
    rw [length_ackLayout, ackBytes_eq]
    omega
  · intro x _
    exact encodeAck_eq x.1 x.2
  · intro x hx
    exact absurd trivial hx
  · intro b x
    rw [decodeAck_eq_ok_iff, true_and]
  · exact decodeAck_inRange
  · exact decodeAck_isOk_iff

theorem lookup_fixedFrame :
    FixedFrame (fun x : Nonce × Bytes => encodeLookup x.1 x.2) decodeLookup lookupBytes
      lookupDeclared (fun x => x.2.length ≤ maxLookupHashBytes) LookupWellFormed := by
  have hdeclared : lookupDeclared = fun x => (lookupLayout x).length := by
    funext x
    rw [length_lookupLayout, lookupDeclared]
  rw [hdeclared]
  apply FixedFrame.of_layout
  · intro x hx
    rw [maxLookupHashBytes_eq] at hx
    rw [length_lookupLayout, lookupHeaderBytes, lookupBytes_eq]
    omega
  · intro x hx
    exact encodeLookup_eq hx
  · intro x hx
    exact ⟨_, encodeLookup_over hx⟩
  · exact decodeLookup_eq_ok_iff
  · exact decodeLookup_inRange
  · exact decodeLookup_isOk_iff

theorem lookupReply_fixedFrame :
    FixedFrame (fun x : Nonce × LookupReply => encodeLookupReply x.1 x.2)
      decodeLookupReply frameBytes lookupReplyDeclared
      (fun x => x.2.txBytes.length ≤ maxLookupReplyTxBytes) LookupReplyWellFormed := by
  have hdeclared : lookupReplyDeclared = fun x => (lookupReplyLayout x).length := by
    funext x
    rw [length_lookupReplyLayout, lookupReplyDeclared]
  rw [hdeclared]
  apply FixedFrame.of_layout
  · intro x hx
    rw [maxLookupReplyTxBytes_eq] at hx
    rw [length_lookupReplyLayout, lookupReplyHeaderBytes, frameBytes_eq]
    omega
  · intro x hx
    exact encodeLookupReply_eq hx
  · rintro ⟨nonce, reply⟩ hx
    cases reply with
    | found height tx => exact ⟨_, encodeLookupReply_over hx⟩
    | notFound => exact absurd (Nat.zero_le _) hx
    | error => exact absurd (Nat.zero_le _) hx
  · exact decodeLookupReply_eq_ok_iff
  · exact decodeLookupReply_inRange
  · exact decodeLookupReply_isOk_iff

/-! ## Frame kinds are disjoint -/

/-- The four kinds of frame on the wire. -/
inductive FrameKind where
  | submit
  | ack
  | lookup
  | lookupReply
deriving DecidableEq, Repr

/-- The magic of each kind. -/
def FrameKind.magic : FrameKind → Bytes
  | .submit => submitMagic
  | .ack => ackMagic
  | .lookup => lookupMagic
  | .lookupReply => lookupReplyMagic

/-- The decoder of a kind accepts a buffer. -/
def FrameKind.Accepts : FrameKind → Bytes → Prop
  | .submit, b => ∃ x, decodeSubmit b = .ok x
  | .ack, b => ∃ x, decodeAck b = .ok x
  | .lookup, b => ∃ x, decodeLookup b = .ok x
  | .lookupReply, b => ∃ x, decodeLookupReply b = .ok x

/-- An accepted buffer carries its kind's magic. -/
theorem FrameKind.magic_of_accepts {kind : FrameKind} {b : Bytes} (h : kind.Accepts b) :
    field b 0 4 = kind.magic := by
  cases kind with
  | submit => exact ((decodeSubmit_isOk_iff b).mp h).magic
  | ack => exact ((decodeAck_isOk_iff b).mp h).magic
  | lookup => exact ((decodeLookup_isOk_iff b).mp h).magic
  | lookupReply => exact ((decodeLookupReply_isOk_iff b).mp h).magic

theorem FrameKind.magic_injective : Function.Injective FrameKind.magic := by
  intro kind other h
  cases kind <;> cases other <;> first | rfl | exact absurd h (by decide)

/-- A buffer is a frame of at most one kind. -/
theorem FrameKind.accepts_unique {kind other : FrameKind} {b : Bytes}
    (h : kind.Accepts b) (hother : other.Accepts b) : kind = other :=
  FrameKind.magic_injective ((magic_of_accepts h).symm.trans (magic_of_accepts hother))

/-! ## Nonce recovery -/

/-- Nonce recovery agrees with a decoder: it returns the decoded nonce, the
nonce field when only the length field is bad, and nothing from a buffer
without the kind's magic or shorter than its header. -/
structure PeekExact {α : Type} (peek : Bytes → Checked WireError (Option Nonce))
    (decode : Bytes → Checked WireError (Nonce × α)) (magic : Bytes) (headerBytes : Nat)
    (overrun : Nat → WireError) : Prop where
  of_decode : ∀ b nonce x, decode b = .ok (nonce, x) → peek b = .ok (some nonce)
  of_overrun : ∀ b declared, decode b = .error (.raised (overrun declared)) →
    ∃ h : 20 ≤ b.length, peek b = .ok (some (nonceField b h))
  of_foreign : ∀ b, b.length < headerBytes ∨ field b 0 4 ≠ magic → peek b = .ok none

/-- Recovery from a frame of the right length and magic returns its nonce field. -/
theorem peekNonceOf_of_header {magic b : Bytes} {headerBytes : Nat}
    (hheader : 20 ≤ headerBytes) (hlen : headerBytes ≤ b.length)
    (hmagic : field b 0 4 = magic) :
    peekNonceOf magic headerBytes b = .ok (some (nonceField b (hheader.trans hlen))) := by
  rw [peekNonceOf_eq hheader, dif_pos ⟨hlen, hmagic⟩]

theorem peekNonceOf_of_foreign {magic b : Bytes} {headerBytes : Nat}
    (hheader : 20 ≤ headerBytes) (h : b.length < headerBytes ∨ field b 0 4 ≠ magic) :
    peekNonceOf magic headerBytes b = .ok none := by
  rw [peekNonceOf_eq hheader, dif_neg]
  rintro ⟨hlen, hmagic⟩
  rcases h with hshort | hne
  · omega
  · exact hne hmagic

theorem peekNonce_exact :
    PeekExact peekNonce decodeSubmit submitMagic submitHeaderBytes
      .txLenOverrunsFrame := by
  have hheader : 20 ≤ submitHeaderBytes := by decide
  constructor
  · intro b nonce x h
    rw [decodeSubmit_eq] at h
    split_ifs at h with hlen hmagic hle
    simp only [Except.ok.injEq, Prod.mk.injEq] at h
    rw [← h.1]
    exact peekNonceOf_of_header hheader (by rw [hlen]; decide) hmagic
  · intro b declared h
    rw [decodeSubmit_eq] at h
    split_ifs at h with hlen hmagic hle
    · exact ⟨_, peekNonceOf_of_header hheader (by rw [hlen]; decide) hmagic⟩
    · simp at h
    · simp at h
  · intro b h
    exact peekNonceOf_of_foreign hheader h

theorem peekLookupNonce_exact :
    PeekExact peekLookupNonce decodeLookup lookupMagic lookupHeaderBytes
      .hashLenOverrunsFrame := by
  have hheader : 20 ≤ lookupHeaderBytes := by decide
  constructor
  · intro b nonce x h
    rw [decodeLookup_eq] at h
    simp only at h
    split_ifs at h with hlen hmagic hle
    simp only [Except.ok.injEq, Prod.mk.injEq] at h
    rw [← h.1]
    exact peekNonceOf_of_header hheader (by rw [hlen]; decide) hmagic
  · intro b declared h
    rw [decodeLookup_eq] at h
    simp only at h
    split_ifs at h with hlen hmagic hle
    · exact ⟨_, peekNonceOf_of_header hheader (by rw [hlen]; decide) hmagic⟩
    · simp at h
    · simp at h
  · intro b h
    exact peekNonceOf_of_foreign hheader h

/-! ## The whole wire -/

/-- Every frame of the wire is an exact fixed-size codec, no buffer is accepted
by two decoders, and nonce recovery agrees with decoding. -/
theorem wireCodec_exact :
    FixedFrame (fun x : Nonce × Bytes => encodeSubmit x.1 x.2) decodeSubmit frameBytes
        submitDeclared (fun x => x.2.length ≤ maxNymTxBytes) SubmitWellFormed ∧
      FixedFrame (fun x : Nonce × AckKind => encodeAck x.1 x.2) decodeAck ackBytes
        ackDeclared (fun _ => True) AckWellFormed ∧
      FixedFrame (fun x : Nonce × Bytes => encodeLookup x.1 x.2) decodeLookup lookupBytes
        lookupDeclared (fun x => x.2.length ≤ maxLookupHashBytes) LookupWellFormed ∧
      FixedFrame (fun x : Nonce × LookupReply => encodeLookupReply x.1 x.2)
        decodeLookupReply frameBytes lookupReplyDeclared
        (fun x => x.2.txBytes.length ≤ maxLookupReplyTxBytes) LookupReplyWellFormed ∧
      (∀ (b : Bytes) (kind other : FrameKind),
        kind.Accepts b → other.Accepts b → kind = other) ∧
      PeekExact peekNonce decodeSubmit submitMagic submitHeaderBytes
        .txLenOverrunsFrame ∧
      PeekExact peekLookupNonce decodeLookup lookupMagic lookupHeaderBytes
        .hashLenOverrunsFrame :=
  ⟨submit_fixedFrame, ack_fixedFrame, lookup_fixedFrame, lookupReply_fixedFrame,
    fun _ _ _ h hother => FrameKind.accepts_unique h hother, peekNonce_exact,
    peekLookupNonce_exact⟩

end Wire
end ZeroShim
