import ZeroShim.Intercept.Send
import ZeroShim.Library.Protobuf

/-!
# GetTransaction

With a hub configured every lookup is answered through the hub and none reaches
the operator's indexer.  What the hub found is served when its transaction id is
the query; the check reads a transaction from the front of the bytes and does not
look at what follows it.

Main results:

- Theorem {lit}`getTransaction_spares`: a lookup never reaches the operator's indexer.
- Theorem {lit}`lookupIsForQuery_eq_ok_true_iff`: what the check establishes.
- Theorem {lit}`servesExactly_iff`: exactly the queried transaction is served unless the
  hub appended bytes to it.
-/

namespace ZeroShim

open Library Zcash

/-- Cap on a buffered {lit}`GetTransaction` body. -/
def maxTxFilterBytes : Nat := 1024

/-! ## The check -/

/-- Lowercase hex of the first {lit}`n` bytes. -/
def hexPrefix (bytes : Bytes) (n : Nat) : String := String.ofList (hexEncode (bytes.take n))

/-- {lit}`str::eq_ignore_ascii_case` -/
def eqIgnoreAsciiCase (s t : String) : Bool :=
  s.toList.map Char.toLower = t.toList.map Char.toLower

/-- Whether the transaction the hub returned is the one that was queried, in either
byte order. -/
def lookupIsForQuery (libs : Libraries) (txBytes wireHash : Bytes) : Except Failure Bool :=
  match Transaction.zcashDeserialize libs txBytes with
  | .error _ => .ok false
  | .ok (tx, _) =>
    match displayTxid libs tx with
    | .error failure => .error failure
    | .ok txid =>
      let direct := hexPrefix wireHash wireHash.length
      let reversed := hexPrefix wireHash.reverse wireHash.reverse.length
      .ok (eqIgnoreAsciiCase txid direct || eqIgnoreAsciiCase txid reversed)

/-! ## The intercepted method -/

/-- The message for an unknown transaction names its display id. -/
def notFoundMessage (wireHash : Bytes) : String :=
  "zero-indexer-shim: GetTransaction: getrawtransaction " ++
    hexPrefix wireHash.reverse wireHash.reverse.length ++
    " failed: -5: No such mempool or main chain transaction"

section GetTransaction

variable (codecs : Codecs) (world : World)

/-- A synthesized reply carrying the transaction the hub returned. -/
def getTransactionResponse (txBytes : Bytes) (height : UInt64) : Response :=
  grpcUnary (codecs.encodeRawTransaction ⟨txBytes, height⟩)

/-- The wallet's answer to what the hub transport returned. -/
def answerLookup (wireHash : Bytes) (lookup : Except Failure Lookup) : Task Response :=
  match lookup with
  | .ok (.found data height) => do
    let matches_ ← Traced.ofExcept (lookupIsForQuery codecs.libs data wireHash)
    if matches_ then
      return getTransactionResponse codecs data height
    else
      let _ ← logEvent .warn "zis::classify" ("the hub returned a transaction whose txid " ++
        "does not match the query; refusing it") []
      return grpcError grpcNotFound (notFoundMessage wireHash)
  | .ok .notFound => return grpcError grpcNotFound (notFoundMessage wireHash)
  | .error (.err err) => do
    let _ ← logEvent .warn "zis::classify" "hub lookup failed; failing closed" [("err", err)]
    return grpcError grpcUnavailable "zero-indexer-shim: hub unreachable"
  | .error .panicked => .fail .panicked

/-- What is wrong with a filter, when it is not one 32-byte transaction id. -/
def filterError (filter : TxFilter) : Option String :=
  if filter.hash.isEmpty then
    some ("zero-indexer-shim: " ++
      if filter.block.isSome then "GetTransaction: specify a txid, not a blockhash+num"
      else "GetTransaction: specify a txid")
  else if filter.hash.length ≠ 32 then
    some ("zero-indexer-shim: GetTransaction: transaction ID has invalid length: " ++
      toString filter.hash.length)
  else none

/-- The filter of a request, or the answer to a request without a valid one. -/
def readFilter (req : Request) : Except Response TxFilter :=
  match req.body.collect maxTxFilterBytes with
  | .error .timedOut => .error (grpcError grpcDeadlineExceeded
      "zero-indexer-shim: GetTransaction body read timed out")
  | .error _ => .error (grpcError grpcCancelled
      "zero-indexer-shim: GetTransaction body could not be read")
  | .ok collected =>
    match decodeTxFilter codecs req.headers collected.data with
    | .error reason =>
      .error (grpcError grpcInvalidArgument ("zero-indexer-shim: " ++ reason))
    | .ok filter =>
      match filterError filter with
      | some message => .error (grpcError grpcInvalidArgument message)
      | none => .ok filter

/-- {lit}`get_transaction` -/
def getTransaction (diversion : Option HubTransport) (req : Request) : Task Response :=
  match diversion with
  | none => passThrough world req
  | some hub =>
    match readFilter codecs req with
    | .error resp => return resp
    | .ok filter =>
      (hub.getTransaction world filter.hash).handle (answerLookup codecs filter.hash)

end GetTransaction

/-! ## Isolation -/

theorem emits_answerLookup {P : Action → Prop} (hlog : ∀ event, P (.log event)) (codecs : Codecs)
    (wireHash : Bytes) (lookup : Except Failure Lookup) :
    (answerLookup codecs wireHash lookup).Emits P := by
  unfold answerLookup
  split
  · refine .bind (.ofExcept _) fun _ _ => .ite (fun _ => .pure _) fun _ => ?_
    exact .bind (emits_logEvent hlog _ _ _ _) fun _ _ => .pure _
  · exact .pure _
  · exact .bind (emits_logEvent hlog _ _ _ _) fun _ _ => .pure _
  · exact .fail _

/-- With a hub, a lookup never reaches the operator's indexer. -/
theorem getTransaction_spares (codecs : Codecs) (world : World) (hub : HubTransport)
    (req : Request) : Spares (getTransaction codecs world (some hub) req) := by
  unfold getTransaction
  cases readFilter codecs req with
  | error resp => exact .pure _
  | ok filter =>
    exact .handle (hub.spares_getTransaction world filter.hash) fun _ _ =>
      emits_answerLookup sparesOperator_log codecs filter.hash _

/-! ## Hexadecimal -/

/-- Hex digits are lower-case and tell their values apart. -/
theorem hexDigit_toLower : ∀ n : Fin 16, (hexDigit n).toLower = hexDigit n := by decide

theorem hexDigit_injective : ∀ m n : Fin 16, hexDigit m = hexDigit n → m = n := by decide

theorem hexEncode_toLower (bs : Bytes) : (hexEncode bs).map Char.toLower = hexEncode bs := by
  induction bs with
  | nil => rfl
  | cons b bs ih =>
    have hhigh := hexDigit_toLower ⟨b.toNat / 16, by have := b.toNat_lt; omega⟩
    have hlow := hexDigit_toLower ⟨b.toNat % 16, by omega⟩
    simp only [hexEncode, List.flatMap_cons, List.map_append, List.map_cons,
      List.map_nil] at ih ⊢
    rw [ih, hhigh, hlow]

theorem hexEncode_injective : Function.Injective hexEncode := by
  intro bs cs h
  induction bs generalizing cs with
  | nil =>
    cases cs with
    | nil => rfl
    | cons c cs => simp [hexEncode] at h
  | cons b bs ih =>
    cases cs with
    | nil => simp [hexEncode] at h
    | cons c cs =>
      simp only [hexEncode, List.flatMap_cons, List.cons_append, List.nil_append,
        List.cons.injEq] at h
      rcases h with ⟨hhigh, hlow, hrest⟩
      have hb := b.toNat_lt
      have hc := c.toNat_lt
      have hhigh' := hexDigit_injective ⟨b.toNat / 16, by omega⟩ ⟨c.toNat / 16, by omega⟩ hhigh
      have hlow' := hexDigit_injective ⟨b.toNat % 16, by omega⟩ ⟨c.toNat % 16, by omega⟩ hlow
      simp only [Fin.mk.injEq] at hhigh' hlow'
      have hbyte : b = c := UInt8.toNat_inj.mp (by omega)
      rw [hbyte, ih hrest]

/-- Two hex renderings agree exactly when the bytes do. -/
theorem eqIgnoreAsciiCase_hex (bs cs : Bytes) :
    eqIgnoreAsciiCase (String.ofList (hexEncode bs)) (String.ofList (hexEncode cs)) = true ↔
      bs = cs := by
  unfold eqIgnoreAsciiCase
  rw [String.toList_ofList, String.toList_ofList, hexEncode_toLower, hexEncode_toLower,
    decide_eq_true_iff]
  exact hexEncode_injective.eq_iff

/-! ## What is served -/

/-- The transaction id is the query, in wire or in reversed byte order. -/
def Matches (libs : Libraries) (tx : Transaction) (wireHash : Bytes) : Prop :=
  ∃ id, tx.hash libs = some id ∧ (id.toList = wireHash ∨ id.toList.reverse = wireHash)

/-- The check reads a transaction from the front of the bytes; it says nothing of
what follows it. -/
theorem lookupIsForQuery_eq_ok_true_iff {libs : Libraries} {txBytes wireHash : Bytes} :
    lookupIsForQuery libs txBytes wireHash = .ok true ↔
      ∃ tx position, Transaction.zcashDeserialize libs txBytes = .ok (tx, position) ∧
        Matches libs tx wireHash := by
  unfold lookupIsForQuery
  cases Transaction.zcashDeserialize libs txBytes with
  | error err => simp
  | ok parsed =>
    rcases parsed with ⟨tx, position⟩
    simp only [Except.ok.injEq, Prod.mk.injEq, displayTxid, Matches]
    cases hhash : tx.hash libs with
    | none =>
      simp only [reduceCtorEq, false_iff]
      rintro ⟨_, _, ⟨rfl, rfl⟩, id, hid, _⟩
      rw [hhash] at hid
      cases hid
    | some id =>
      have hflip : id.toList.reverse = wireHash.reverse ↔ id.toList = wireHash :=
        List.reverse_inj
      simp only [Hash.display, hexPrefix, List.take_length, Except.ok.injEq, Bool.or_eq_true,
        eqIgnoreAsciiCase_hex, hflip]
      constructor
      · intro h
        exact ⟨tx, position, ⟨rfl, rfl⟩, id, hhash, h.symm⟩
      · rintro ⟨_, _, ⟨rfl, rfl⟩, id', hid', h⟩
        rw [hhash, Option.some.injEq] at hid'
        rw [hid']
        exact h.symm

section Serve

variable (codecs : Codecs) (world : World) (hub : HubTransport) (req : Request)

/-- What the hub found for the query of a request. -/
def hubFound (wireHash data : Bytes) (height : UInt64) : Prop :=
  (∃ filter, readFilter codecs req = .ok filter ∧ filter.hash = wireHash) ∧
    (hub.getTransaction world wireHash).result = .ok (.found data height)

/-- Whatever transaction is served is, in full, the queried one, at the height the hub
reported. -/
def ServesExactly : Prop :=
  ∀ raw : RawTransaction,
    (getTransaction codecs world (some hub) req).result =
      .ok (getTransactionResponse codecs raw.data raw.height) →
    ∃ wireHash, hubFound codecs world hub req wireHash raw.data raw.height ∧
      ∃ tx, Transaction.zcashDeserialize codecs.libs raw.data = .ok (tx, raw.data.length) ∧
        Matches codecs.libs tx wireHash

/-- The hub's reply is the queried transaction followed by further bytes. -/
def RepliesWithTrailingBytes : Prop :=
  ∃ wireHash data height, hubFound codecs world hub req wireHash data height ∧
    ∃ tx position, Transaction.zcashDeserialize codecs.libs data = .ok (tx, position) ∧
      position ≠ data.length ∧ Matches codecs.libs tx wireHash

variable {codecs world hub req}

theorem grpcError_ne_grpcUnary (code : Nat) (text : String) (message : Bytes) :
    grpcError code text ≠ grpcUnary message := by
  intro h
  have hframes := congrArg (fun resp => resp.body.frames) h
  simp [grpcError, grpcUnary, Response.new, Body.empty, replayBody, replayFrames] at hframes

/-- An answer that carries a transaction was found by the hub and passed the check. -/
theorem answerLookup_served {wireHash : Bytes} {lookup : Except Failure Lookup}
    {message : Bytes}
    (h : (answerLookup codecs wireHash lookup).result = .ok (grpcUnary message)) :
    ∃ data height, lookup = .ok (.found data height) ∧
      message = codecs.encodeRawTransaction ⟨data, height⟩ ∧
        lookupIsForQuery codecs.libs data wireHash = .ok true := by
  unfold answerLookup at h
  split at h
  · rename_i data height
    rw [Traced.result_bind_eq_ok] at h
    rcases h with ⟨isMatch, hmatch, h⟩
    cases isMatch with
    | true =>
      simp only [if_true, Traced.result_pure, Except.ok.injEq] at h
      exact ⟨data, height, rfl, (grpcUnary_injective h).symm, hmatch⟩
    | false =>
      simp only [Bool.false_eq_true, if_false, Traced.result_bind_eq_ok, Traced.result_pure,
        Except.ok.injEq] at h
      rcases h with ⟨_, _, h⟩
      exact absurd h (grpcError_ne_grpcUnary _ _ _)
  · simp only [Traced.result_pure, Except.ok.injEq] at h
    exact absurd h (grpcError_ne_grpcUnary _ _ _)
  · rw [Traced.result_bind_eq_ok] at h
    rcases h with ⟨_, _, h⟩
    simp only [Traced.result_pure, Except.ok.injEq] at h
    exact absurd h (grpcError_ne_grpcUnary _ _ _)
  · simp at h

/-- A reply that passes the check is served. -/
theorem answerLookup_serves {wireHash data : Bytes} {height : UInt64}
    (h : lookupIsForQuery codecs.libs data wireHash = .ok true) :
    (answerLookup codecs wireHash (.ok (.found data height))).result =
      .ok (getTransactionResponse codecs data height) := by
  unfold answerLookup
  rw [Traced.result_bind_eq_ok]
  exact ⟨true, h, rfl⟩

/-- The answer to a request without a valid filter carries no transaction. -/
theorem readFilter_error {resp : Response} {message : Bytes}
    (h : readFilter codecs req = .error resp) : resp ≠ grpcUnary message := by
  have herror : ∃ code text, resp = grpcError code text := by
    unfold readFilter at h
    split at h
    · exact ⟨_, _, (Except.error.inj h).symm⟩
    · exact ⟨_, _, (Except.error.inj h).symm⟩
    · split at h
      · exact ⟨_, _, (Except.error.inj h).symm⟩
      · split at h
        · exact ⟨_, _, (Except.error.inj h).symm⟩
        · cases h
  rcases herror with ⟨code, text, rfl⟩
  exact grpcError_ne_grpcUnary _ _ _

/-- A transaction is served exactly when the hub found it and it passed the check. -/
theorem getTransaction_served_iff
    (hcodec : ∀ raw, codecs.decodeRawTransaction (codecs.encodeRawTransaction raw) = .ok raw)
    (raw : RawTransaction) :
    (getTransaction codecs world (some hub) req).result =
      .ok (getTransactionResponse codecs raw.data raw.height) ↔
    ∃ wireHash, hubFound codecs world hub req wireHash raw.data raw.height ∧
      lookupIsForQuery codecs.libs raw.data wireHash = .ok true := by
  unfold getTransaction hubFound
  cases hfilter : readFilter codecs req with
  | error resp =>
    simp only [reduceCtorEq, false_and, exists_false, iff_false]
    intro h
    exact readFilter_error hfilter (Except.ok.inj h)
  | ok filter =>
    simp only [Except.ok.injEq, exists_eq_left', and_assoc]
    constructor
    · intro h
      rcases answerLookup_served h with ⟨data, height, hlookup, hmessage, hcheck⟩
      have hraw := congrArg codecs.decodeRawTransaction hmessage
      rw [hcodec, hcodec] at hraw
      cases Except.ok.inj hraw
      exact ⟨hlookup, hcheck⟩
    · rintro ⟨hlookup, hcheck⟩
      show (answerLookup codecs filter.hash (hub.getTransaction world filter.hash).result).result
        = _
      rw [hlookup]
      exact answerLookup_serves hcheck

/-- What is served is exactly the queried transaction, unless the hub's reply is the
queried transaction followed by further bytes, which are then served with it. -/
theorem servesExactly_iff
    (hcodec : ∀ raw, codecs.decodeRawTransaction (codecs.encodeRawTransaction raw) = .ok raw) :
    ServesExactly codecs world hub req ↔ ¬ RepliesWithTrailingBytes codecs world hub req := by
  constructor
  · rintro hserves ⟨wireHash, data, height, hfound, tx, position, hparse, hposition, hmatches⟩
    have hserved := (getTransaction_served_iff hcodec ⟨data, height⟩).mpr
      ⟨wireHash, hfound, lookupIsForQuery_eq_ok_true_iff.mpr ⟨tx, position, hparse, hmatches⟩⟩
    rcases hserves ⟨data, height⟩ hserved with ⟨_, _, tx', hwhole, _⟩
    rw [hparse, Except.ok.injEq, Prod.mk.injEq] at hwhole
    exact hposition hwhole.2
  · intro htrailing raw hserved
    rcases (getTransaction_served_iff hcodec raw).mp hserved with ⟨wireHash, hfound, hcheck⟩
    rcases lookupIsForQuery_eq_ok_true_iff.mp hcheck with ⟨tx, position, hparse, hmatches⟩
    refine ⟨wireHash, hfound, tx, ?_, hmatches⟩
    by_cases hposition : position = raw.data.length
    · rw [← hposition]
      exact hparse
    · exact absurd ⟨wireHash, raw.data, raw.height, hfound, tx, position, hparse, hposition,
        hmatches⟩ htrailing

end Serve

/-! ## A hub that appends a byte -/

/-- The protobuf messages of the lightwallet protocol. -/
def protoCodecs : Codecs where
  libs := plainLibraries
  decodeRawTransaction bs :=
    match Protobuf.decodeFields bs with
    | some fs =>
      .ok ⟨Protobuf.bytesField 1 fs, UInt64.ofNat (Protobuf.varintField 2 fs)⟩
    | none => .error "failed to decode Protobuf message"
  encodeRawTransaction raw :=
    Protobuf.encodeFields (Protobuf.ofBytes 1 raw.data ++ Protobuf.ofVarint 2 raw.height.toNat)
  decodeTxFilter bs :=
    match Protobuf.decodeFields bs with
    | some fs => .ok ⟨none, UInt64.ofNat (Protobuf.varintField 2 fs), Protobuf.bytesField 3 fs⟩
    | none => .error "failed to decode Protobuf message"
  encodeSendResponse response :=
    Protobuf.encodeFields (Protobuf.ofVarint 1 (response.errorCode % 2 ^ 64).toNat ++
      Protobuf.ofBytes 2 (asciiBytes response.errorMessage))
  parseHubResponse _ := .error "expected value at line 1 column 1"
  fromUtf8Lossy _ := ""

theorem protoCodecs_roundTrip (raw : RawTransaction) :
    protoCodecs.decodeRawTransaction (protoCodecs.encodeRawTransaction raw) = .ok raw := by
  simp [protoCodecs, Protobuf.decodeFields_encodeFields,
    Protobuf.bytesField_ofBytes_ofVarint, Protobuf.varintField_ofBytes_ofVarint]

/-- A lookup of the least version 1 transaction. -/
def lookupEmptyV1 : Request where
  method := "POST"
  uri := ⟨none, none, some ⟨"/cash.z.wallet.sdk.rpc.CompactTxStreamer/GetTransaction", none⟩⟩
  headers := ⟨[]⟩
  body := .full (grpcFrame ([0x1a, 0x20] ++ emptyV1Id.toList))

/-- The headers of a found transaction at height 7. -/
def foundHeaders : HeaderMap :=
  ⟨[("content-type", asciiBytes "application/octet-stream"), ("x-tx-height", asciiBytes "7")]⟩

/-- An environment whose hub answers every lookup with these bytes, at height 7. -/
def hubAnswering (data : Bytes) : World where
  canonicalReason
    | 200 => some "OK"
    | 404 => some "Not Found"
    | 502 => some "Bad Gateway"
    | _ => none
  poolGet := .error "backing indexer unreachable (dial backoff)"
  sendRequest _ := .timedOut
  bootproofd _ _ := .error "connection refused"
  hubRoundTrip _ := .done ⟨200, foundHeaders, .full data⟩
  submitNonce := ⟨zeros 16, rfl⟩
  nymSubmit _ := .error .transportGone
  nymLookup _ := .error .transportGone
  branchReported := false
  unixNow := 0

/-- An environment whose indexer answers every request, and whose hub finds nothing. -/
def indexerUp : World :=
  { hubAnswering [] with
    poolGet := .ok ⟨"127.0.0.1:9067"⟩
    sendRequest := fun _ => .done (Response.new .empty) }

theorem lookupEmptyV1_filter :
    readFilter protoCodecs lookupEmptyV1 = .ok ⟨none, 0, emptyV1Id.toList⟩ := by
  decide

/-- The hub found what it answered. -/
theorem hubAnswering_found {data : Bytes} (h : data.length ≤ 11) (wireHash : Bytes) :
    ((HubTransport.http ⟨"127.0.0.1:8090"⟩).getTransaction (hubAnswering data)
      wireHash).result = .ok (.found data 7) := by
  have hbody : (Body.full data).collect maxHubResponseBytes = .ok ⟨data, none⟩ := by
    apply Body.collect_full
    rw [maxHubResponseBytes]
    omega
  have hheight : txHeight ⟨200, foundHeaders, .empty⟩ = some 7 := by decide
  have hstream : octetStream ⟨200, foundHeaders, .empty⟩ = true := by decide
  show (HubClient.getTransaction _ _ _).result = _
  unfold HubClient.getTransaction
  rw [Traced.result_bind_eq_ok]
  refine ⟨(⟨200, foundHeaders, .full data⟩, data), ?_, ?_⟩
  · simp only [roundTrip, hubAnswering, Traced.result_act, hbody]
  · simp only [txHeight, octetStream] at hheight hstream ⊢
    simp only [hheight, hstream, if_true, Traced.result_pure]

/-- A transaction with a byte behind it passes the check and is served. -/
theorem trailingByte_served :
    ¬ ServesExactly protoCodecs (hubAnswering (emptyV1Bytes ++ [0]))
      (.http ⟨"127.0.0.1:8090"⟩) lookupEmptyV1 := by
  intro hserves
  have hparse : Transaction.zcashDeserialize protoCodecs.libs (emptyV1Bytes ++ [0]) =
      .ok (emptyV1, 10) :=
    Transaction.zcashDeserialize_append emptyV1_deserialize [0]
  have hmatches : Matches protoCodecs.libs emptyV1 emptyV1Id.toList :=
    ⟨emptyV1Id, rfl, Or.inl rfl⟩
  have hserved := (getTransaction_served_iff protoCodecs_roundTrip
    ⟨emptyV1Bytes ++ [0], 7⟩).mpr
    ⟨emptyV1Id.toList, ⟨⟨_, lookupEmptyV1_filter, rfl⟩, hubAnswering_found (by decide) _⟩,
      lookupIsForQuery_eq_ok_true_iff.mpr ⟨_, _, hparse, hmatches⟩⟩
  rcases hserves _ hserved with ⟨_, _, tx, hwhole, _⟩
  rw [hparse] at hwhole
  simp [emptyV1Bytes] at hwhole

/-- A hub that answers with the transaction alone is served exactly. -/
theorem servesExactly_emptyV1 :
    ServesExactly protoCodecs (hubAnswering emptyV1Bytes) (.http ⟨"127.0.0.1:8090"⟩)
      lookupEmptyV1 := by
  apply (servesExactly_iff protoCodecs_roundTrip).mpr
  rintro ⟨wireHash, data, height, ⟨_, hfound⟩, tx, position, hparse, hposition, _⟩
  rw [hubAnswering_found (by decide), Except.ok.injEq, Lookup.found.injEq] at hfound
  rcases hfound with ⟨rfl, rfl⟩
  have hwhole : Transaction.zcashDeserialize protoCodecs.libs emptyV1Bytes =
      .ok (emptyV1, 10) := emptyV1_deserialize
  rw [hwhole, Except.ok.injEq, Prod.mk.injEq] at hparse
  exact hposition hparse.2.symm

end ZeroShim
