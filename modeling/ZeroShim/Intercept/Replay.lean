import ZeroShim.Intercept.GetTransaction

/-!
# A replayed submission is the one passed through

A submission that the shim does not divert is read in full, classified and replayed.  What
the operator's indexer is handed then differs from a request passed through only in the
chunks of its data.

Main results:

- Theorem {lit}`collect_framed`: what a buffered body consists of.
- Theorem {lit}`entries_retarget`: which headers the indexer is handed.
- Theorem {lit}`replay_indistinguishable`: both paths hand over the same request and relay
  the same response.
-/

namespace ZeroShim

open Library Zcash

/-! ## Framed bodies -/

/-- A body of some data frames, and trailers if there are any. -/
def framedBody (chunks : List Bytes) (trailers : Option HeaderMap) : Body :=
  ⟨chunks.map .data ++ trailers.toList.map .trailers, .complete⟩

/-- The trailers of a body. -/
def Body.trailers (body : Body) : List HeaderMap :=
  body.frames.filterMap fun frame =>
    match frame with
    | .data _ => none
    | .trailers headers => some headers

/-- Two requests that differ at most in the chunks of their data. -/
structure SameRequest (r r' : Request) : Prop where
  method : r.method = r'.method
  uri : r.uri = r'.uri
  headers : r.headers = r'.headers
  data : r.body.dataBytes = r'.body.dataBytes
  trailers : r.body.trailers = r'.body.trailers
  ending : r.body.ending = r'.body.ending

section Framed

variable (chunks : List Bytes) (trailers : Option HeaderMap)

theorem dataBytes_framedBody : (framedBody chunks trailers).dataBytes = chunks.flatten := by
  have hdata : (chunks.map Frame.data).flatMap Frame.dataBytes = chunks.flatten := by
    induction chunks with
    | nil => rfl
    | cons chunk chunks ih => simp [Frame.dataBytes, ih]
  unfold Body.dataBytes framedBody
  rw [List.flatMap_append, hdata]
  cases trailers <;> simp [Frame.dataBytes]

theorem trailers_framedBody : (framedBody chunks trailers).trailers = trailers.toList := by
  have hdata : (chunks.map Frame.data).filterMap (fun frame =>
      match frame with
      | .data _ => none
      | .trailers headers => some headers) = ([] : List HeaderMap) := by
    induction chunks with
    | nil => rfl
    | cons chunk chunks ih => simp
  unfold Body.trailers framedBody
  rw [List.filterMap_append, hdata]
  cases trailers <;> rfl

theorem foldl_pushFrame_chunks (start : Collected) :
    (chunks.map Frame.data).foldl Collected.pushFrame start =
      { start with data := start.data ++ chunks.flatten } := by
  induction chunks generalizing start with
  | nil => simp
  | cons chunk chunks ih =>
    rw [List.map_cons, List.foldl_cons, ih]
    simp [Collected.pushFrame]

variable {chunks}

/-- What a buffered body consists of. -/
theorem collect_framed {limit : Nat} (h : chunks.flatten.length ≤ limit) :
    (framedBody chunks trailers).collect limit = .ok ⟨chunks.flatten, trailers⟩ := by
  have hlen : ((framedBody chunks trailers).frames.flatMap Frame.dataBytes).length ≤ limit := by
    have hdata := dataBytes_framedBody chunks trailers
    unfold Body.dataBytes at hdata
    rw [hdata]
    exact h
  unfold Body.collect
  rw [collectFrames_eq_ok_iff]
  refine ⟨rfl, hlen, ?_⟩
  unfold framedBody
  rw [List.foldl_append, foldl_pushFrame_chunks]
  cases trailers <;> simp [Collected.pushFrame]

end Framed

/-- A replayed body is framed. -/
theorem replayBody_eq (data : Bytes) (trailers : Option HeaderMap) :
    replayBody data trailers = framedBody (if data.isEmpty then [] else [data]) trailers := by
  unfold replayBody replayFrames framedBody
  cases trailers <;> split_ifs <;> simp

/-! ## Headers -/

/-- Every value of a header, in order. -/
def HeaderMap.values (headers : HeaderMap) (name : String) : List Bytes :=
  (headers.entries.filter fun entry => entry.1 = name).map Prod.snd

/-- The headers that no request to the indexer has. -/
def strippedHeaders : List String := "host" :: clientAddressHeaders

theorem entries_foldl_remove (names : List String) (headers : HeaderMap) :
    (names.foldl HeaderMap.remove headers).entries =
      headers.entries.filter fun entry => entry.1 ∉ names := by
  induction names generalizing headers with
  | nil => simp
  | cons name names ih =>
    rw [List.foldl_cons, ih, HeaderMap.remove, List.filter_filter]
    apply List.filter_congr
    intro entry _
    simp [not_or, Bool.and_comm]

/-- The indexer is handed the headers of the request without those. -/
theorem entries_retarget (upstream : Upstream) (req : Request) :
    (retarget upstream req).headers.entries =
      req.headers.entries.filter fun entry => entry.1 ∉ strippedHeaders :=
  entries_foldl_remove strippedHeaders req.headers

/-- The wallet is handed the indexer's headers, but for the encodings it accepts. -/
theorem values_normalizeResponseEncoding (headers : HeaderMap) (name : String) :
    (normalizeResponseEncoding headers).values name =
      if name = "grpc-accept-encoding" ∧ headers.values name ≠ [] then [asciiBytes "identity"]
      else headers.values name := by
  have hcontains : headers.containsKey "grpc-accept-encoding" = true ↔
      headers.values "grpc-accept-encoding" ≠ [] := by
    unfold HeaderMap.containsKey HeaderMap.get HeaderMap.values
    rw [Option.isSome_map, List.find?_isSome, ne_eq, List.map_eq_nil_iff,
      List.filter_eq_nil_iff]
    simp
  unfold normalizeResponseEncoding
  by_cases hsent : headers.containsKey "grpc-accept-encoding" = true
  · rw [if_pos hsent]
    have hinsert : (headers.insert "grpc-accept-encoding" (asciiBytes "identity")).values name =
        if name = "grpc-accept-encoding" then [asciiBytes "identity"]
        else headers.values name := by
      unfold HeaderMap.values HeaderMap.insert HeaderMap.remove
      by_cases hname : name = "grpc-accept-encoding"
      · subst hname
        rw [if_pos rfl, List.filter_append, List.filter_filter]
        simp
      · rw [if_neg hname, List.filter_append, List.filter_filter]
        have hother : ¬ "grpc-accept-encoding" = name := fun heq => hname heq.symm
        simp only [hother, decide_false, Bool.false_eq_true, not_false_eq_true,
          List.filter_cons_of_neg, List.filter_nil, List.append_nil]
        congr 1
        apply List.filter_congr
        intro entry _
        by_cases hentry : entry.1 = name <;> simp [hentry, hname]
    rw [hinsert]
    by_cases hname : name = "grpc-accept-encoding"
    · subst hname
      rw [if_pos rfl, if_pos ⟨rfl, hcontains.mp hsent⟩]
    · rw [if_neg hname, if_neg fun hboth => hname hboth.1]
  · rw [if_neg hsent]
    refine (if_neg ?_).symm
    rintro ⟨rfl, hvalues⟩
    exact hsent (hcontains.mpr hvalues)

/-! ## The two paths -/

/-- The request that an action hands to the indexer's sender. -/
def Action.handedOver? : Action → Option Request
  | .sendRequest req => some req
  | _ => none

/-- The requests that a task hands to the indexer's sender. -/
def handedOver (t : Task Response) : List Request := t.trace.filterMap Action.handedOver?

/-- The wallet is handed what the indexer answered, but for the encodings it accepts. -/
structure Relays (raw resp : Response) : Prop where
  status : resp.status = raw.status
  body : resp.body = raw.body
  headers : ∀ name, resp.headers.values name =
    if name = "grpc-accept-encoding" ∧ raw.headers.values name ≠ [] then [asciiBytes "identity"]
    else raw.headers.values name

/-- The indexer cannot tell a replayed submission from one passed through. -/
structure Replayed (codecs : Codecs) (world : World) (diversion : Option HubTransport)
    (req : Request) : Prop where
  same : List.Forall₂ SameRequest (handedOver (sendTransaction codecs world diversion req))
    (handedOver (passThrough world req))
  /-- Where it is reached, it is handed one request: the wallet's, without some headers. -/
  handed : ∀ upstream, world.poolGet = .ok upstream → ∃ r,
    handedOver (passThrough world req) = [r] ∧ r.method = req.method ∧
      r.uri.pathAndQuery = some (req.uri.pathAndQuery.getD ⟨"/", none⟩) ∧
      r.headers.entries = req.headers.entries.filter (fun entry => entry.1 ∉ strippedHeaders) ∧
      r.body = req.body
  relayed : ∀ t, t = sendTransaction codecs world diversion req ∨ t = passThrough world req →
    ∀ resp, t.result = .ok resp →
      ∃ r ∈ handedOver t, ∃ raw, world.sendRequest r = .done raw ∧ Relays raw resp
  /-- An indexer that does not look at chunks leaves the wallet none the wiser. -/
  result : (∀ r r', SameRequest r r' → world.sendRequest r = world.sendRequest r') →
    (sendTransaction codecs world diversion req).result = (passThrough world req).result

section Paths

variable {codecs : Codecs} {world : World} {diversion : Option HubTransport} {req : Request}

/-- What forwarding hands over, and what it returns. -/
theorem forward_eq (upstream : Upstream) (req : Request) :
    forward world upstream req = ⟨[.sendRequest (retarget upstream req)],
      match world.sendRequest (retarget upstream req) with
      | .done raw => .ok { raw with headers := normalizeResponseEncoding raw.headers }
      | .failed err => .error (.err err)
      | .timedOut =>
        .error (.err "backing indexer accepted the request but sent no response headers")⟩ := by
  unfold forward
  cases hsend : world.sendRequest (retarget upstream req) <;> simp only [hsend] <;> rfl

theorem relays_forward {upstream : Upstream} {resp : Response}
    (h : (forward world upstream req).result = .ok resp) :
    ∃ raw, world.sendRequest (retarget upstream req) = .done raw ∧ Relays raw resp := by
  rw [forward_eq] at h
  simp only at h
  split at h
  · next raw hsend =>
    cases h
    exact ⟨raw, hsend, rfl, rfl, values_normalizeResponseEncoding raw.headers⟩
  · cases h
  · cases h

/-- Passing through is forwarding over the pool's connection. -/
theorem handedOver_passThrough : handedOver (passThrough world req) =
    match world.poolGet with
    | .ok upstream => [retarget upstream req]
    | .error _ => [] := by
  unfold passThrough orErr
  cases hpool : world.poolGet with
  | error err => rfl
  | ok upstream =>
    simp only
    rw [Traced.bind_of_ok (a := upstream) rfl, forward_eq]
    cases hsend : world.sendRequest (retarget upstream req) <;> rfl

theorem result_passThrough : (passThrough world req).result =
    match world.poolGet with
    | .ok upstream => (forward world upstream req).result
    | .error err => .error (.err err) := by
  unfold passThrough orErr
  cases hpool : world.poolGet with
  | error err => rfl
  | ok upstream =>
    simp only
    rw [Traced.bind_of_ok (a := upstream) rfl, forward_eq]
    cases hsend : world.sendRequest (retarget upstream req) <;> rfl

/-- And so is replaying, of the buffered body. -/
theorem handedOver_replay (collected : Collected) : handedOver (replay world req collected) =
    match world.poolGet with
    | .ok upstream =>
      [retarget upstream { req with body := replayBody collected.data collected.trailers }]
    | .error _ => [] := by
  unfold replay orErr
  cases hpool : world.poolGet with
  | error err => rfl
  | ok upstream =>
    simp only
    rw [Traced.bind_of_ok (a := upstream) rfl, forward_eq]
    rfl

theorem result_replay (collected : Collected) : (replay world req collected).result =
    match world.poolGet with
    | .ok upstream =>
      (forward world upstream
        { req with body := replayBody collected.data collected.trailers }).result
    | .error err => .error (.err err) := by
  unfold replay orErr
  cases hpool : world.poolGet with
  | error err => rfl
  | ok upstream =>
    simp only
    rw [Traced.bind_of_ok (a := upstream) rfl]

theorem handedOver_logVerdict (inspection : Inspection) (frame : Bytes) :
    (logVerdict inspection frame).trace.filterMap Action.handedOver? = [] := by
  cases inspection <;> rfl

theorem handedOver_reportBranch (inspection : Inspection) :
    (reportBranch world inspection).trace.filterMap Action.handedOver? = [] := by
  unfold reportBranch
  split_ifs <;> rfl

variable (world) in
/-- A submission that is not diverted is replayed. -/
theorem sendTransaction_replays {collected : Collected}
    (hread : req.body.collect maxSendTxBytes = .ok collected)
    (hreplays : diversion = none ∨
      (inspect codecs req.headers collected.data).1.treatAsMigration = false) :
    handedOver (sendTransaction codecs world diversion req) =
        handedOver (replay world req collected) ∧
      (sendTransaction codecs world diversion req).result =
        (replay world req collected).result := by
  have hshape : sendTransaction codecs world diversion req =
      ⟨(logVerdict (inspect codecs req.headers collected.data).1 collected.data).trace ++
          ((reportBranch world (inspect codecs req.headers collected.data).1).trace ++
            (replay world req collected).trace),
        (replay world req collected).result⟩ := by
    unfold sendTransaction
    rw [hread]
    simp only
    rw [Traced.bind_of_ok (result_logVerdict _ _), Traced.bind_of_ok (result_reportBranch _ _)]
    rcases hreplays with rfl | hpasses
    · simp only [ite_self]
    · simp only [hpasses, Bool.false_eq_true, if_false]
  rw [hshape]
  constructor
  · unfold handedOver
    simp only [List.filterMap_append, handedOver_logVerdict, handedOver_reportBranch,
      List.nil_append]
  · rfl

/-- A body read in full and then replayed is the same body in other chunks. -/
theorem sameRequest_replay (upstream : Upstream) {chunks : List Bytes}
    {trailers : Option HeaderMap} (hbody : req.body = framedBody chunks trailers) :
    SameRequest (retarget upstream { req with body := replayBody chunks.flatten trailers })
      (retarget upstream req) where
  method := rfl
  uri := rfl
  headers := rfl
  data := by
    simp only [retarget, hbody, replayBody_eq, dataBytes_framedBody]
    by_cases hempty : chunks.flatten = []
    · simp [hempty]
    · simp [hempty]
  trailers := by simp only [retarget, hbody, replayBody_eq, trailers_framedBody]
  ending := by simp only [retarget, hbody]; rfl

/-- Whatever a submission's method, target, headers, chunks and trailers are: where it is
read in full and replayed, the indexer is handed, chunks aside, the request that would have
been passed through, and the wallet what the indexer answered to it. -/
theorem replay_indistinguishable {chunks : List Bytes} {trailers : Option HeaderMap}
    (hbody : req.body = framedBody chunks trailers)
    (hfits : chunks.flatten.length ≤ maxSendTxBytes)
    (hreplays : diversion = none ∨
      (inspect codecs req.headers chunks.flatten).1.treatAsMigration = false) :
    Replayed codecs world diversion req := by
  have hread : req.body.collect maxSendTxBytes = .ok ⟨chunks.flatten, trailers⟩ := by
    rw [hbody]
    exact collect_framed trailers hfits
  rcases sendTransaction_replays world hread hreplays with ⟨hhanded, hresult⟩
  rw [handedOver_replay] at hhanded
  rw [result_replay] at hresult
  have hpassed : handedOver (passThrough world req) = _ := handedOver_passThrough
  have hreturned : (passThrough world req).result = _ := result_passThrough
  cases hpool : world.poolGet with
  | error err =>
    simp only [hpool] at hhanded hresult hpassed hreturned
    constructor
    · rw [hhanded, hpassed]
      exact .nil
    · intro upstream heq
      rw [hpool] at heq
      cases heq
    · rintro t (rfl | rfl) resp hok
      · rw [hresult] at hok
        cases hok
      · rw [hreturned] at hok
        cases hok
    · intro _
      rw [hresult, hreturned]
  | ok upstream =>
    simp only [hpool] at hhanded hresult hpassed hreturned
    have hsame := sameRequest_replay upstream hbody
    constructor
    · rw [hhanded, hpassed]
      exact .cons hsame .nil
    · intro other heq
      rw [hpool] at heq
      cases heq
      exact ⟨_, hpassed, rfl, rfl, entries_retarget upstream req, rfl⟩
    · rintro t (rfl | rfl) resp hok
      · rw [hresult] at hok
        rw [hhanded]
        exact ⟨_, List.mem_singleton.mpr rfl, relays_forward hok⟩
      · rw [hreturned] at hok
        rw [hpassed]
        exact ⟨_, List.mem_singleton.mpr rfl, relays_forward hok⟩
    · intro halike
      rw [hresult, hreturned, forward_eq, forward_eq]
      simp only [halike _ _ hsame]

/-- A submission of the least version 1 transaction, in two chunks and with a trailer. -/
def chunkedEmptyV1 : Request where
  method := "POST"
  uri := ⟨none, none, none⟩
  headers := ⟨[("te", asciiBytes "trailers")]⟩
  body := framedBody [[0, 0, 0], [0, 12, 10, 10] ++ emptyV1Bytes]
    (some ⟨[("grpc-status", asciiBytes "0")]⟩)

/-- It is handed to an indexer, which answers it. -/
theorem replay_indistinguishable_chunked :
    Replayed protoCodecs indexerUp (some .nym) chunkedEmptyV1 ∧
      (handedOver (sendTransaction protoCodecs indexerUp (some .nym) chunkedEmptyV1)).length = 1 ∧
      (sendTransaction protoCodecs indexerUp (some .nym) chunkedEmptyV1).result.isOk = true :=
  ⟨replay_indistinguishable rfl (by decide) (.inr (by decide)), rfl, rfl⟩

end Paths

end ZeroShim
