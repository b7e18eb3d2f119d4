import ZeroShim.Intercept.GetTransaction

/-!
# Unframing on machine words

The unframing of both intercepted methods with the {lit}`usize` arithmetic and the indexing of
the code, where an index out of range traps.

Main results:

- Theorems {lit}`inspectWords_eq` and {lit}`decodeTxFilterWords_eq`: neither traps, whatever
  length is declared.
- Theorem {lit}`inspect_cases`: what is not classified is a fail-safe without bytes.
- Theorem {lit}`unframing_exact`: both accept the grammar of one frame and nothing else.
-/

namespace ZeroShim

open Library Zcash

/-! ## Words -/

/-- A target, whose {lit}`usize` holds a {lit}`u32`. -/
structure Target where
  bits : Nat
  wide : 32 ≤ bits

/-- A byte slice, whose length is a {lit}`usize`. -/
abbrev Target.Slice (target : Target) := { frame : Bytes // frame.length < 2 ^ target.bits }

/-- {lit}`usize::checked_add` -/
def Target.checkedAdd (target : Target) (a b : Nat) : Option Nat :=
  if a + b < 2 ^ target.bits then some (a + b) else none

/-- {lit}`slice::get`, for a range -/
def getRange (b : Bytes) (i j : Nat) : Option Bytes :=
  if i ≤ j ∧ j ≤ b.length then some (field b i (j - i)) else none

/-- Subtraction of lengths, which traps below zero. -/
def checkedSub {ε : Type} (a b : Nat) : Checked ε Nat :=
  if b ≤ a then .ok (a - b) else .error .outOfRange

theorem checkedSub_eq_ok {ε : Type} {a b : Nat} (h : b ≤ a) :
    checkedSub (ε := ε) a b = .ok (a - b) := if_pos h

/-- Where the sum is the length of a slice it does not overflow, and where it does it is longer
than the slice. -/
theorem Target.checkedAdd_eq_some_iff {target : Target} (frame : target.Slice) (a b : Nat) :
    target.checkedAdd a b = some frame.1.length ↔ a + b = frame.1.length := by
  have hframe := frame.2
  unfold checkedAdd
  split_ifs with h
  · rw [Option.some.injEq]
  · apply iff_of_false (by simp)
    omega

/-- A range up to a checked sum is the field there, or is out of the slice. -/
theorem Target.getRange_checkedAdd {target : Target} (frame : target.Slice) (a b : Nat) :
    (target.checkedAdd a b).bind (getRange frame.1 a) =
      if a + b ≤ frame.1.length then some (field frame.1 a b) else none := by
  have hframe := frame.2
  unfold checkedAdd
  by_cases hfit : a + b ≤ frame.1.length
  · have hle : a ≤ a + b := Nat.le_add_right a b
    rw [if_pos (by omega), if_pos hfit, Option.bind_some, getRange, if_pos ⟨hle, hfit⟩,
      Nat.add_sub_cancel_left]
  · rw [if_neg hfit]
    split_ifs with h
    · rw [Option.bind_some, getRange, if_neg fun hrange => hfit hrange.2]
    · rfl

/-! ## The functions of the code -/

/-- {lit}`u32::from_be_bytes` of the four bytes behind the flag. -/
def declaredPrefix {ε : Type} (frame : Bytes) : Checked ε Nat := do
  let b1 ← byteAt frame 1
  let b2 ← byteAt frame 2
  let b3 ← byteAt frame 3
  let b4 ← byteAt frame 4
  return beNat [b1, b2, b3, b4]

/-- The detail of a length mismatch. -/
def mismatchDetail {ε : Type} (frame : Bytes) (declared : Nat) : Checked ε String := do
  let carried ← checkedSub frame.length grpcPrefixLen
  return "declared " ++ toString declared ++ " bytes, body carries " ++ toString carried

section Words

variable (codecs : Codecs) (target : Target)

/-- {lit}`inspect` -/
def inspectWords (headers : HeaderMap) (frame : target.Slice) :
    Checked Empty (Inspection × Option Bytes) :=
  if identityCoded headers = false then
    return (.failsafe "grpc-encoding is not identity"
      ((headers.get "grpc-encoding").map codecs.fromUtf8Lossy), none)
  else if frame.1.length < grpcPrefixLen then
    return (.failsafe "gRPC frame shorter than its 5-byte prefix" none, none)
  else do
    let flag ← byteAt frame.1 0
    if flag ≠ 0 then
      return (.failsafe "gRPC compression flag set" none, none)
    else do
      let declared ← declaredPrefix frame.1
      match (target.checkedAdd grpcPrefixLen declared).bind (getRange frame.1 grpcPrefixLen) with
      | none => do
        let detail ← mismatchDetail frame.1 declared
        return (.failsafe "gRPC message truncated" (some detail), none)
      | some message => do
        let carried ← checkedSub frame.1.length grpcPrefixLen
        if message.length ≠ carried then do
          let detail ← mismatchDetail frame.1 declared
          return (.failsafe "trailing bytes after the unary gRPC message" (some detail), none)
        else
          match codecs.decodeRawTransaction message with
          | .ok raw =>
            return (.classified (classifyWithEvidence codecs.libs raw.data), some raw.data)
          | .error err => return (.failsafe "RawTransaction decode failed" (some err), none)

/-- {lit}`decode_tx_filter` -/
def decodeTxFilterWords (headers : HeaderMap) (frame : target.Slice) :
    Checked String TxFilter :=
  if identityCoded headers = false then
    raise "GetTransaction: a compressed request is not supported"
  else if frame.1.length < grpcPrefixLen then
    raise "GetTransaction: request is not a single identity-coded frame"
  else do
    let flag ← byteAt frame.1 0
    if flag ≠ 0 then
      raise "GetTransaction: request is not a single identity-coded frame"
    else do
      let declared ← declaredPrefix frame.1
      if target.checkedAdd grpcPrefixLen declared ≠ some frame.1.length then
        raise "GetTransaction: request frame length does not match its body"
      else do
        let message ← slice frame.1 grpcPrefixLen frame.1.length
        match codecs.decodeTxFilter message with
        | .ok filter => return filter
        | .error _ => raise "GetTransaction: could not decode TxFilter"

/-! ## Neither traps -/

theorem declaredPrefix_eq_ok {ε : Type} {frame : Bytes} (h : grpcPrefixLen ≤ frame.length) :
    declaredPrefix (ε := ε) frame = .ok (declaredLength frame) := by
  rw [grpcPrefixLen] at h
  have hfield : field frame 1 4 = [frame[1], frame[2], frame[3], frame[4]] := by
    rw [field, List.drop_eq_getElem_cons (by omega : 1 < frame.length),
      List.drop_eq_getElem_cons (by omega : 2 < frame.length),
      List.drop_eq_getElem_cons (by omega : 3 < frame.length),
      List.drop_eq_getElem_cons (by omega : 4 < frame.length)]
    rfl
  unfold declaredPrefix declaredLength
  rw [byteAt_eq_ok (by omega : 1 < frame.length), byteAt_eq_ok (by omega : 2 < frame.length),
    byteAt_eq_ok (by omega : 3 < frame.length), byteAt_eq_ok (by omega : 4 < frame.length),
    hfield]
  rfl

theorem mismatchDetail_eq_ok {ε : Type} {frame : Bytes} (h : grpcPrefixLen ≤ frame.length) :
    mismatchDetail (ε := ε) frame (declaredLength frame) = .ok (lengthDetail frame) := by
  unfold mismatchDetail
  rw [checkedSub_eq_ok h]
  rfl

/-- The flag is the first byte. -/
theorem head?_eq_zero_iff {frame : Bytes} (h : 0 < frame.length) :
    frame.head? = some 0 ↔ frame[0] = 0 := by
  cases frame with
  | nil => simp at h
  | cons flag rest => simp

variable {codecs target}

/-- Inspection never traps: on words it is {lit}`inspect`, whatever length is declared. -/
theorem inspectWords_eq (headers : HeaderMap) (frame : target.Slice) :
    inspectWords codecs target headers frame = .ok (inspect codecs headers frame.1) := by
  unfold inspectWords inspect
  by_cases hcoded : identityCoded headers = false
  · rw [if_pos hcoded, if_pos hcoded]
    rfl
  rw [if_neg hcoded, if_neg hcoded]
  by_cases hshort : frame.1.length < grpcPrefixLen
  · rw [if_pos hshort, if_pos hshort]
    rfl
  rw [if_neg hshort, if_neg hshort]
  rw [Nat.not_lt] at hshort
  have hpos : 0 < frame.1.length := Nat.lt_of_lt_of_le (by decide) hshort
  rw [byteAt_eq_ok hpos, declaredPrefix_eq_ok hshort]
  simp only [bind, Except.bind, Target.getRange_checkedAdd, mismatchDetail_eq_ok hshort,
    checkedSub_eq_ok hshort]
  by_cases hflag : frame.1[0] = 0
  · rw [if_neg (not_not.mpr hflag), if_neg (not_not.mpr ((head?_eq_zero_iff hpos).mpr hflag))]
    by_cases hfit : grpcPrefixLen + declaredLength frame.1 ≤ frame.1.length
    · have hmessage : field frame.1 grpcPrefixLen (declaredLength frame.1) =
          declaredMessage frame.1 := rfl
      rw [if_pos hfit, if_neg (Nat.not_lt.mpr hfit), hmessage]
      dsimp only
      split_ifs
      · rfl
      · cases codecs.decodeRawTransaction (declaredMessage frame.1) <;> rfl
    · rw [if_neg hfit, if_pos (Nat.lt_of_not_le hfit)]
      rfl
  · rw [if_pos hflag, if_pos fun hhead => hflag ((head?_eq_zero_iff hpos).mp hhead)]
    rfl

/-- Nor does the lookup request. -/
theorem decodeTxFilterWords_eq (headers : HeaderMap) (frame : target.Slice) :
    decodeTxFilterWords codecs target headers frame =
      (decodeTxFilter codecs headers frame.1).mapError .raised := by
  unfold decodeTxFilterWords decodeTxFilter
  by_cases hcoded : identityCoded headers = false
  · rw [if_pos hcoded, if_pos hcoded]
    rfl
  rw [if_neg hcoded, if_neg hcoded]
  by_cases hshort : frame.1.length < grpcPrefixLen
  · rw [if_pos hshort, if_pos (.inl hshort)]
    rfl
  rw [if_neg hshort]
  rw [Nat.not_lt] at hshort
  have hpos : 0 < frame.1.length := Nat.lt_of_lt_of_le (by decide) hshort
  rw [byteAt_eq_ok hpos, declaredPrefix_eq_ok hshort, slice_eq_ok _ hshort le_rfl]
  simp only [bind, Except.bind, ne_eq, Target.checkedAdd_eq_some_iff]
  by_cases hflag : frame.1[0] = 0
  · have hframe : ¬ (frame.1.length < grpcPrefixLen ∨ frame.1.head? ≠ some 0) := by
      rw [not_or, not_not]
      exact ⟨Nat.not_lt.mpr hshort, (head?_eq_zero_iff hpos).mpr hflag⟩
    rw [if_neg (not_not.mpr hflag), if_neg hframe]
    by_cases hdeclared : grpcPrefixLen + declaredLength frame.1 = frame.1.length
    · have hbody : field frame.1 grpcPrefixLen (frame.1.length - grpcPrefixLen) =
          frame.1.drop grpcPrefixLen := by
        rw [field]
        exact List.take_of_length_le (by rw [List.length_drop])
      rw [if_neg (not_not.mpr hdeclared), if_neg (not_not.mpr hdeclared), hbody]
      cases codecs.decodeTxFilter (frame.1.drop grpcPrefixLen) <;> rfl
    · rw [if_pos hdeclared, if_pos hdeclared]
      rfl
  · have hframe : frame.1.length < grpcPrefixLen ∨ frame.1.head? ≠ some 0 :=
      .inr fun hhead => hflag ((head?_eq_zero_iff hpos).mp hhead)
    rw [if_pos hflag, if_pos hframe]
    rfl

end Words

/-! ## The grammar -/

/-- The frame is one identity-coded message. -/
structure Frames (headers : HeaderMap) (frame message : Bytes) : Prop where
  encoding : headers.get "grpc-encoding" = none ∨
    headers.get "grpc-encoding" = some (asciiBytes "identity")
  length : message.length < 2 ^ 32
  frame : frame = [0] ++ beBytes 4 message.length ++ message

theorem identityCoded_iff (headers : HeaderMap) :
    identityCoded headers = true ↔ headers.get "grpc-encoding" = none ∨
      headers.get "grpc-encoding" = some (asciiBytes "identity") := by
  unfold identityCoded
  cases headers.get "grpc-encoding" <;> simp

section Grammar

variable {codecs : Codecs} {headers : HeaderMap} {frame : Bytes}

theorem frames_iff {message : Bytes} :
    Frames headers frame message ↔
      identityCoded headers = true ∧ message.length < 2 ^ 32 ∧ frame = grpcFrame message := by
  rw [identityCoded_iff]
  exact ⟨fun h => ⟨h.encoding, h.length, h.frame⟩, fun h => ⟨h.1, h.2.1, h.2.2⟩⟩

/-- A fail-safe diverts no bytes of its own. -/
theorem inspect_failsafe {reason : String} {detail : Option String} {data : Option Bytes}
    (h : inspect codecs headers frame = (.failsafe reason detail, data)) : data = none := by
  unfold inspect at h
  split_ifs at h
  · cases h
    rfl
  · cases h
    rfl
  · cases h
    rfl
  · cases h
    rfl
  · cases h
    rfl
  · split at h <;> cases h
    rfl

/-- The classifier is reached with the data of a decoded message, or the answer is a fail-safe
without bytes. -/
theorem inspect_cases (codecs : Codecs) (headers : HeaderMap) (frame : Bytes) :
    (∃ message raw, Frames headers frame message ∧
        codecs.decodeRawTransaction message = .ok raw ∧ inspect codecs headers frame =
          (.classified (classifyWithEvidence codecs.libs raw.data), some raw.data)) ∨
      (∀ message raw, Frames headers frame message →
        codecs.decodeRawTransaction message ≠ .ok raw) ∧
      ∃ reason detail, inspect codecs headers frame = (.failsafe reason detail, none) := by
  cases hinspect : inspect codecs headers frame with
  | mk inspection data =>
    cases inspection with
    | classified evidence =>
      obtain ⟨hcoded, message, raw, hlen, hframe, hdecode, rfl, rfl⟩ :=
        inspect_eq_classified_iff.mp hinspect
      exact .inl ⟨message, raw, frames_iff.mpr ⟨hcoded, hlen, hframe⟩, hdecode, rfl⟩
    | failsafe reason detail =>
      have hdata := inspect_failsafe hinspect
      refine .inr ⟨?_, reason, detail, by rw [hdata]⟩
      intro message raw hframes hdecode
      rcases frames_iff.mp hframes with ⟨hcoded, hlen, hframe⟩
      have hclassified := inspect_eq_classified_iff.mpr
        ⟨hcoded, message, raw, hlen, hframe, hdecode, rfl, rfl⟩
      rw [hinspect] at hclassified
      cases hclassified

/-- The frame that a unary reply carries. -/
theorem frames_grpcUnary {message : Bytes} (hencoding : headers.get "grpc-encoding" = none ∨
    headers.get "grpc-encoding" = some (asciiBytes "identity")) (hlen : message.length < 2 ^ 32) :
    Frames headers (grpcUnary message).body.dataBytes message := by
  refine ⟨hencoding, hlen, ?_⟩
  have hmod : message.length % 2 ^ 32 = message.length := Nat.mod_eq_of_lt hlen
  unfold grpcUnary
  rw [hmod]
  simp [Response.new, replayBody, replayFrames, Body.dataBytes, Frame.dataBytes]

/-- What the submission makes of an unframed message. -/
def inspectMessage (codecs : Codecs) (message : Bytes) : Inspection × Option Bytes :=
  match codecs.decodeRawTransaction message with
  | .ok raw => (.classified (classifyWithEvidence codecs.libs raw.data), some raw.data)
  | .error err => (.failsafe "RawTransaction decode failed" (some err), none)

/-- The submission unframes a framed message. -/
theorem inspect_of_frames {message : Bytes} (h : Frames headers frame message) :
    inspect codecs headers frame = inspectMessage codecs message := by
  rcases frames_iff.mp h with ⟨hcoded, hwell⟩
  rcases frame_wellFormed_iff.mpr hwell with ⟨hge, hhead, hdeclared, hdrop⟩
  have hmessage : declaredMessage frame = message := by
    rw [declaredMessage, field, hdrop]
    apply List.take_of_length_le
    rw [← hdrop, List.length_drop]
    omega
  have hlength : message.length = frame.length - grpcPrefixLen := by
    rw [← hdrop, List.length_drop]
  unfold inspect
  rw [if_neg (by simp [hcoded]), if_neg (Nat.not_lt.mpr hge), if_neg (not_not.mpr hhead),
    if_neg (Nat.not_lt.mpr hdeclared.le), hmessage, if_neg (not_not.mpr hlength)]
  rfl

/-- So does the lookup request. -/
theorem decodeTxFilter_of_frames {message : Bytes} (h : Frames headers frame message) :
    decodeTxFilter codecs headers frame = (codecs.decodeTxFilter message).mapError
      fun _ => "GetTransaction: could not decode TxFilter" := by
  rcases frames_iff.mp h with ⟨hcoded, hwell⟩
  rcases frame_wellFormed_iff.mpr hwell with ⟨hge, hhead, hdeclared, hdrop⟩
  have hframe : ¬ (frame.length < grpcPrefixLen ∨ frame.head? ≠ some 0) := by
    rw [not_or, not_not]
    exact ⟨Nat.not_lt.mpr hge, hhead⟩
  unfold decodeTxFilter
  rw [if_neg (by simp [hcoded]), if_neg hframe, if_neg (not_not.mpr hdeclared), hdrop]
  cases codecs.decodeTxFilter message <;> rfl

/-- The lookup request accepts the same frames, up to its own message. -/
theorem decodeTxFilter_eq_ok_iff_frames {filter : TxFilter} :
    decodeTxFilter codecs headers frame = .ok filter ↔
      ∃ message, Frames headers frame message ∧ codecs.decodeTxFilter message = .ok filter := by
  rw [decodeTxFilter_eq_ok_iff]
  constructor
  · intro h
    rcases h with ⟨hcoded, message, hlen, hframe, hdecode⟩
    exact ⟨message, frames_iff.mpr ⟨hcoded, hlen, hframe⟩, hdecode⟩
  · intro h
    rcases h with ⟨message, hframes, hdecode⟩
    rcases frames_iff.mp hframes with ⟨hcoded, hlen, hframe⟩
    exact ⟨hcoded, message, hlen, hframe, hdecode⟩

end Grammar

/-- Both intercepts unframe one grammar, on every target and for every declared length. -/
theorem unframing_exact (codecs : Codecs) (target : Target) (headers : HeaderMap)
    (frame : target.Slice) :
    (inspectWords codecs target headers frame = .ok (inspect codecs headers frame.1) ∧
      decodeTxFilterWords codecs target headers frame =
        (decodeTxFilter codecs headers frame.1).mapError .raised) ∧
    ((∃ message raw, Frames headers frame.1 message ∧
        codecs.decodeRawTransaction message = .ok raw ∧ inspect codecs headers frame.1 =
          (.classified (classifyWithEvidence codecs.libs raw.data), some raw.data)) ∨
      (∀ message raw, Frames headers frame.1 message →
        codecs.decodeRawTransaction message ≠ .ok raw) ∧
      ∃ reason detail, inspect codecs headers frame.1 = (.failsafe reason detail, none) ∧
        (Inspection.failsafe reason detail).treatAsMigration = true) ∧
    (∀ filter, decodeTxFilter codecs headers frame.1 = .ok filter ↔
      ∃ message, Frames headers frame.1 message ∧
        codecs.decodeTxFilter message = .ok filter) ∧
    ∀ message, message.length < 2 ^ 32 → frame.1 = (grpcUnary message).body.dataBytes →
      (headers.get "grpc-encoding" = none ∨
        headers.get "grpc-encoding" = some (asciiBytes "identity")) →
      inspect codecs headers frame.1 = inspectMessage codecs message ∧
        decodeTxFilter codecs headers frame.1 = (codecs.decodeTxFilter message).mapError
          fun _ => "GetTransaction: could not decode TxFilter" := by
  have hinspect := inspect_cases codecs headers frame.1
  refine ⟨⟨inspectWords_eq headers frame, decodeTxFilterWords_eq headers frame⟩, ?_,
    fun filter => decodeTxFilter_eq_ok_iff_frames, ?_⟩
  · cases hinspect with
    | inl hclassified => exact .inl hclassified
    | inr hfailsafe =>
      rcases hfailsafe with ⟨hnone, reason, detail, heq⟩
      exact .inr ⟨hnone, reason, detail, heq, rfl⟩
  · intro message hlen hframe hencoding
    have hframes : Frames headers frame.1 message := by
      rw [hframe]
      exact frames_grpcUnary hencoding hlen
    exact ⟨inspect_of_frames hframes, decodeTxFilter_of_frames hframes⟩

/-- A message of three bytes, after its flag and length. -/
theorem unframing_exact_threeBytes :
    inspect protoCodecs ⟨[]⟩ [0, 0, 0, 0, 3, 10, 1, 7] = inspectMessage protoCodecs [10, 1, 7] ∧
      decodeTxFilter protoCodecs ⟨[]⟩ [0, 0, 0, 0, 3, 10, 1, 7] =
        (protoCodecs.decodeTxFilter [10, 1, 7]).mapError
          fun _ => "GetTransaction: could not decode TxFilter" := by
  have hexact := unframing_exact protoCodecs ⟨64, by decide⟩ ⟨[]⟩
    ⟨[0, 0, 0, 0, 3, 10, 1, 7], by decide⟩
  exact hexact.2.2.2 [10, 1, 7] (by decide) rfl (.inl rfl)

end ZeroShim
