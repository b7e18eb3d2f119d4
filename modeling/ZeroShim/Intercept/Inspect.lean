import ZeroShim.Hub

/-!
# Unframing and inspection

Unwrapping one buffered unary request down to its message, for both intercepted
methods.  Anything that is not exactly one identity-coded message of the expected
type is a fail-safe.

Main results:

- Theorem {lit}`inspect_eq_classified_iff`: the classifier is reached exactly by the
  single identity-coded messages whose transaction decodes.
- Theorem {lit}`decodeTxFilter_eq_ok_iff`: the lookup request accepts the same frames.
-/

namespace ZeroShim

open Library Zcash

/-! ## Verdicts -/

/-- What the shim was able to learn about one {lit}`SendTransaction` body. -/
inductive Inspection where
  | classified (evidence : Evidence)
  | failsafe (reason : String) (detail : Option String)
deriving DecidableEq, Repr

/-- Whether the body named a consensus branch this build does not know. -/
def Inspection.isUnrecognisedBranch : Inspection → Bool
  | .classified evidence => evidence.isUnrecognisedBranch
  | .failsafe _ _ => false

/-- The routing decision; a fail-safe is a migration. -/
def Inspection.treatAsMigration : Inspection → Bool
  | .classified evidence => evidence.verdict.treatAsMigration
  | .failsafe _ _ => true

/-! ## Unframing -/

/-- A request that negotiates no message compression. -/
def identityCoded (headers : HeaderMap) : Bool :=
  match headers.get "grpc-encoding" with
  | some encoding => encoding = asciiBytes "identity"
  | none => true

/-- The message length a frame declares. -/
def declaredLength (frame : Bytes) : Nat := beNat (field frame 1 4)

/-- The message of the declared length, when the body is that long. -/
def declaredMessage (frame : Bytes) : Bytes := field frame grpcPrefixLen (declaredLength frame)

/-- The detail of a length mismatch. -/
def lengthDetail (frame : Bytes) : String :=
  "declared " ++ toString (declaredLength frame) ++ " bytes, body carries " ++
    toString (frame.length - grpcPrefixLen)

section Inspect

variable (codecs : Codecs)

/-- Unwrap one buffered unary request body down to the transaction bytes and
classify them. -/
def inspect (headers : HeaderMap) (frame : Bytes) : Inspection × Option Bytes :=
  if identityCoded headers = false then
    (.failsafe "grpc-encoding is not identity"
      ((headers.get "grpc-encoding").map codecs.fromUtf8Lossy), none)
  else if frame.length < grpcPrefixLen then
    (.failsafe "gRPC frame shorter than its 5-byte prefix" none, none)
  else if frame.head? ≠ some 0 then
    (.failsafe "gRPC compression flag set" none, none)
  else if frame.length < grpcPrefixLen + declaredLength frame then
    (.failsafe "gRPC message truncated" (some (lengthDetail frame)), none)
  else if (declaredMessage frame).length ≠ frame.length - grpcPrefixLen then
    (.failsafe "trailing bytes after the unary gRPC message" (some (lengthDetail frame)), none)
  else
    match codecs.decodeRawTransaction (declaredMessage frame) with
    | .ok raw => (.classified (classifyWithEvidence codecs.libs raw.data), some raw.data)
    | .error err => (.failsafe "RawTransaction decode failed" (some err), none)

/-- Unwrap a single {lit}`TxFilter` out of a {lit}`GetTransaction` request. -/
def decodeTxFilter (headers : HeaderMap) (frame : Bytes) : Except String TxFilter :=
  if identityCoded headers = false then
    .error "GetTransaction: a compressed request is not supported"
  else if frame.length < grpcPrefixLen ∨ frame.head? ≠ some 0 then
    .error "GetTransaction: request is not a single identity-coded frame"
  else if grpcPrefixLen + declaredLength frame ≠ frame.length then
    .error "GetTransaction: request frame length does not match its body"
  else
    match codecs.decodeTxFilter (frame.drop grpcPrefixLen) with
    | .ok filter => .ok filter
    | .error _ => .error "GetTransaction: could not decode TxFilter"

end Inspect

/-! ## The frame grammar -/

/-- One identity-coded message in its frame. -/
def grpcFrame (message : Bytes) : Bytes := 0 :: (beBytes 4 message.length ++ message)

/-- A frame whose flag is clear and whose declared length is the length of its body
is one message of at most 32-bit length. -/
theorem frame_wellFormed_iff {frame message : Bytes} :
    (grpcPrefixLen ≤ frame.length ∧ frame.head? = some 0 ∧
      grpcPrefixLen + declaredLength frame = frame.length ∧
        frame.drop grpcPrefixLen = message) ↔
    message.length < 2 ^ 32 ∧ frame = grpcFrame message := by
  constructor
  · rintro ⟨hlen, hhead, hdeclared, rfl⟩
    cases frame with
    | nil => simp at hhead
    | cons flag rest =>
      obtain rfl : flag = 0 := by simpa using hhead
      rw [grpcPrefixLen, List.length_cons] at hlen hdeclared
      have hfield : (rest.take 4).length = 4 := by
        rw [List.length_take]
        omega
      have hvalue : declaredLength (0 :: rest) = beNat (rest.take 4) := rfl
      have hbody : ((0 : UInt8) :: rest).drop grpcPrefixLen = rest.drop 4 := rfl
      have hbound := beNat_lt hfield
      have hcount : (rest.drop 4).length = beNat (rest.take 4) := by
        rw [List.length_drop]
        omega
      rw [hbody]
      refine ⟨by omega, ?_⟩
      rw [grpcFrame, hcount, beBytes_beNat hfield, List.take_append_drop]
  · rintro ⟨hlen, rfl⟩
    have hvalue : declaredLength (grpcFrame message) =
        beNat ((beBytes 4 message.length ++ message).take 4) := rfl
    have htake : (beBytes 4 message.length ++ message).take 4 =
        beBytes 4 message.length := List.take_left' (length_beBytes _ _)
    have hdrop : (grpcFrame message).drop grpcPrefixLen =
        (beBytes 4 message.length ++ message).drop 4 := rfl
    have hdrop' : (beBytes 4 message.length ++ message).drop 4 = message :=
      List.drop_left' (length_beBytes _ _)
    have hframe : (grpcFrame message).length = 5 + message.length := by
      rw [grpcFrame, List.length_cons, List.length_append, length_beBytes]
      omega
    rw [htake, beNat_beBytes (by omega)] at hvalue
    rw [hdrop, hdrop', hvalue, hframe, grpcPrefixLen]
    exact ⟨by omega, rfl, rfl, rfl⟩

section Inspect

variable {codecs : Codecs}

/-- The classifier is reached exactly by the single identity-coded messages whose
transaction decodes. -/
theorem inspect_eq_classified_iff {headers : HeaderMap} {frame : Bytes} {evidence : Evidence}
    {data : Option Bytes} :
    inspect codecs headers frame = (.classified evidence, data) ↔
      identityCoded headers = true ∧ ∃ message raw, message.length < 2 ^ 32 ∧
        frame = grpcFrame message ∧ codecs.decodeRawTransaction message = .ok raw ∧
          evidence = classifyWithEvidence codecs.libs raw.data ∧ data = some raw.data := by
  have hmessage : ∀ {message : Bytes}, message.length < 2 ^ 32 ∧ frame = grpcFrame message →
      declaredMessage frame = message ∧
        grpcPrefixLen + declaredLength frame = frame.length := by
    intro message h
    rcases frame_wellFormed_iff.mpr h with ⟨hlen, hhead, hdeclared, hdrop⟩
    refine ⟨?_, hdeclared⟩
    rw [declaredMessage, field, hdrop]
    apply List.take_of_length_le
    rw [← hdrop, List.length_drop]
    omega
  unfold inspect
  constructor
  · intro h
    split_ifs at h with hcoded hshort hflag htruncated htrailing
    · cases h
    · cases h
    · cases h
    · cases h
    · cases h
    · rw [declaredMessage, length_field] at htrailing
      have hcoded' : identityCoded headers = true := by simpa using hcoded
      have hdeclared : grpcPrefixLen + declaredLength frame = frame.length := by omega
      have hframe := frame_wellFormed_iff.mp
        ⟨by omega, not_not.mp hflag, hdeclared, rfl⟩
      rw [(hmessage hframe).1] at h
      cases hdecode : codecs.decodeRawTransaction (frame.drop grpcPrefixLen) with
      | error err =>
        rw [hdecode] at h
        cases h
      | ok raw =>
        rw [hdecode] at h
        cases h
        exact ⟨hcoded', _, raw, hframe.1, hframe.2, hdecode, rfl, rfl⟩
  · rintro ⟨hcoded, message, raw, hlen, hframe, hdecode, rfl, rfl⟩
    rcases hmessage ⟨hlen, hframe⟩ with ⟨hfield, hdeclared⟩
    rcases frame_wellFormed_iff.mpr ⟨hlen, hframe⟩ with ⟨hge, hhead, _, hdrop⟩
    have hbody : message.length = frame.length - grpcPrefixLen := by
      rw [← hdrop, List.length_drop]
    rw [if_neg (by simp [hcoded]), if_neg (by omega), if_neg (not_not.mpr hhead),
      if_neg (by omega), hfield, if_neg (not_not.mpr hbody), hdecode]

/-- A verdict that is not a migration comes from a decoded transaction that the
classifier passes through. -/
theorem inspect_passThrough {headers : HeaderMap} {frame : Bytes}
    (h : (inspect codecs headers frame).1.treatAsMigration = false) :
    identityCoded headers = true ∧ ∃ message raw, message.length < 2 ^ 32 ∧
      frame = grpcFrame message ∧ codecs.decodeRawTransaction message = .ok raw ∧
        classify codecs.libs raw.data = .passThrough := by
  cases hinspect : inspect codecs headers frame with
  | mk inspection data =>
    rw [hinspect] at h
    cases inspection with
    | failsafe reason detail => cases h
    | classified evidence =>
      obtain ⟨hcoded, message, raw, hlen, hframe, hdecode, rfl, _⟩ :=
        inspect_eq_classified_iff.mp hinspect
      exact ⟨hcoded, message, raw, hlen, hframe, hdecode,
        Class.treatAsMigration_eq_false_iff.mp h⟩

/-- The lookup request accepts the same frames, up to its own message. -/
theorem decodeTxFilter_eq_ok_iff {headers : HeaderMap} {frame : Bytes} {filter : TxFilter} :
    decodeTxFilter codecs headers frame = .ok filter ↔
      identityCoded headers = true ∧ ∃ message, message.length < 2 ^ 32 ∧
        frame = grpcFrame message ∧ codecs.decodeTxFilter message = .ok filter := by
  unfold decodeTxFilter
  constructor
  · intro h
    split_ifs at h with hcoded hframe hdeclared
    rw [not_or, not_not] at hframe
    rw [not_not] at hdeclared
    have hmessage := frame_wellFormed_iff.mp
      ⟨by omega, hframe.2, hdeclared, rfl⟩
    cases hdecode : codecs.decodeTxFilter (frame.drop grpcPrefixLen) with
    | error err =>
      rw [hdecode] at h
      cases h
    | ok found =>
      rw [hdecode] at h
      cases h
      exact ⟨by simpa using hcoded, _, hmessage.1, hmessage.2, hdecode⟩
  · rintro ⟨hcoded, message, hlen, hframe, hdecode⟩
    rcases frame_wellFormed_iff.mpr ⟨hlen, hframe⟩ with ⟨hge, hhead, hdeclared, hdrop⟩
    rw [if_neg (by simp [hcoded]), if_neg (by rw [not_or, not_not]; exact ⟨by omega, hhead⟩),
      if_neg (not_not.mpr hdeclared), hdrop, hdecode]

end Inspect

end ZeroShim
