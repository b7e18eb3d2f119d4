import ZeroShim.Nym.Lookup
import ZeroShim.Proxy.Answers

/-!
# What the wallet hears of a lookup

When the hub is asked, with what, and what each of its answers is answered with, over
either transport.

Main results:

- Theorem {lit}`readFilter_iff`: which requests are queries.
- Theorem {lit}`hub_settles`: the hub finds, does not find or fails.
- Theorem {lit}`lookup_failsClosed`: not found is heard only of a hub that said so, or
  whose transaction is not the query.
-/

namespace ZeroShim

open Library Zcash Nym

/-! ## The frames of a lookup over the mixnet -/

namespace Nym
namespace Calls

/-- A request asks for a hash, in a frame as long as any. -/
structure AsksFor (hash : Bytes) (request : Nym.Request) : Prop where
  decode : Wire.decodeLookup request.frame = .ok (request.nonce, hash)
  replySurbs : request.replySurbs = lookupReplySurbs

/-- What a lookup handed over, and what it is about to hand over, asks for its hash. -/
structure LookupAsks (call : LookupCall) (log : List LookupObserved) : Prop where
  handed : ∀ request, .handed request ∈ log → AsksFor call.hash request
  sending : ∀ attempt deadline parcel, call.phase = .sending attempt deadline parcel →
    Wire.encodeLookup parcel.nonce call.hash = .ok parcel.frame ∧
      parcel.replySurbs = lookupReplySurbs

theorem lookupAsks_begin (handle : NymHandle) (hash : Bytes) :
    LookupAsks (LookupCall.begin handle hash).2.1 (LookupCall.begin handle hash).2.2 := by
  unfold LookupCall.begin
  by_cases htargets : handle.targets = 0
  · simp only [htargets, if_true]
    exact ⟨by simp [LookupCall.finish], by simp [LookupCall.finish]⟩
  · simp only [htargets, if_false]
    exact ⟨by simp, by simp⟩

/-- What shows no hand-off and does not send keeps it. -/
theorem LookupAsks.quiet {call call' : LookupCall} {log o : List LookupObserved}
    (h : LookupAsks call log) (hhash : call'.hash = call.hash)
    (hquiet : ∀ request, .handed request ∉ o)
    (hphase : ∀ attempt deadline parcel, call'.phase ≠ .sending attempt deadline parcel) :
    LookupAsks call' (log ++ o) where
  handed request hmem := by
    rcases List.mem_append.mp hmem with hmem | hmem
    · rw [hhash]
      exact h.handed request hmem
    · exact absurd hmem (hquiet request)
  sending attempt deadline parcel heq := absurd heq (hphase attempt deadline parcel)

theorem LookupAsks.expire {call : LookupCall} {log : List LookupObserved} {attempt now : Nat}
    (h : LookupAsks call log) :
    LookupAsks (call.expire attempt now).1 (log ++ (call.expire attempt now).2) := by
  have hquiet : ∀ request, .handed request ∉ (call.expire attempt now).2 := by
    intro request hmem
    rcases expire_shows hmem with heq | heq <;> cases heq
  refine h.quiet ?_ hquiet ?_
  · unfold LookupCall.expire
    by_cases hnext : attempt + 1 < call.targets <;> simp [hnext, LookupCall.finish]
  · unfold LookupCall.expire
    by_cases hnext : attempt + 1 < call.targets <;> simp [hnext, LookupCall.finish]

/-- Every step of a lookup keeps to its hash. -/
theorem LookupAsks.step {handle : NymHandle} {s s' : Transport} {now : Nat}
    {call call' : LookupCall} {log o : List LookupObserved} (h : LookupAsks call log)
    (hstep : LookupCall.Stepped handle s now call s' call' o) :
    LookupAsks call' (log ++ o) := by
  cases hstep with
  | build hphase hencode =>
    refine ⟨fun request hmem => h.handed request (by simpa using hmem), ?_⟩
    intro attempt deadline parcel heq
    cases heq
    exact ⟨hencode, rfl⟩
  | @dispatch attempt deadline parcel s₁ request hphase haccept =>
    rcases h.sending attempt deadline parcel hphase with ⟨hencode, hsurbs⟩
    rcases Transport.of_accept haccept with ⟨hrequest, -⟩
    refine ⟨fun other hmem => ?_, by simp⟩
    rcases List.mem_append.mp hmem with hmem | hmem
    · exact h.handed other hmem
    · obtain rfl : other = request := by simpa using hmem
      rw [hrequest]
      exact ⟨Wire.lookup_fixedFrame.decode_encode (_, call.hash) _ hencode, hsurbs⟩
  | full | silent => exact h.expire
  | refuse | closed | reply | gone | cancel | cancelAwaiting =>
    exact h.quiet rfl (by simp) (by simp)

theorem lookupAsks_of_runs {timeout dispatchTimeout : Nat} {s : Calls} {t : List Observed}
    (h : Runs step (initial timeout dispatchTimeout) t s) (i : Nat) :
    ∀ call, s.lookups[i]? = some call → LookupAsks call (lookupLog i t) := by
  have htells := fun {s t} (h : Runs step (initial timeout dispatchTimeout) t s) =>
    (lookupTells_of_runs rfl h i).1
  refine h.invariant (P := fun t s => ∀ call, s.lookups[i]? = some call →
    LookupAsks call (lookupLog i t)) (by simp [initial]) ?_
  intro t s e o s' hrun ih hstep
  rw [lookupLog_append]
  rcases lookups_step hstep i with ⟨hsame, hlog⟩ | ⟨hnew, hash, hbegin, hlog⟩ |
    ⟨call, transport, call', hcall, hcall', hstepped⟩
  · rw [hsame, hlog, List.append_nil]
    exact ih
  · rw [hbegin, hlog, htells hrun hnew, List.nil_append]
    intro call heq
    cases heq
    exact lookupAsks_begin s.handle hash
  · rw [hcall']
    intro other heq
    cases heq
    exact (ih call hcall).step hstepped

/-- Only a hash over budget is refused by the encoder. -/
theorem LookupOutcome.over_of_encode {call : LookupCall} {log : List LookupObserved}
    {result : Except NymError Wire.LookupReply} {err : Wire.WireError}
    (h : LookupOutcome call log result) (hresult : result = .error (.encode err)) :
    Wire.maxLookupHashBytes < call.hash.length := by
  cases h with
  | refused _ hover => exact hover
  | noTarget | replied | gone | silent => cases hresult

end Calls
end Nym

/-! ## Queries -/

/-- The body is one identity-coded message, in time and within the limit, whose filter is
this 32-byte hash. -/
def Queries (codecs : Codecs) (req : Request) (hash : Bytes) : Prop :=
  req.body.ending = .complete ∧ req.body.dataBytes.length ≤ maxTxFilterBytes ∧
    identityCoded req.headers = true ∧
    ∃ message filter, message.length < 2 ^ 32 ∧ req.body.dataBytes = grpcFrame message ∧
      codecs.decodeTxFilter message = .ok filter ∧ filter.hash.length = 32 ∧ filter.hash = hash

theorem filterError_eq_none_iff (filter : TxFilter) :
    filterError filter = none ↔ filter.hash.length = 32 := by
  unfold filterError
  by_cases hempty : filter.hash = []
  · simp [hempty]
  · simp [hempty]

/-- A filter is read exactly from the queries. -/
theorem readFilter_iff {codecs : Codecs} {req : Request} {hash : Bytes} :
    (∃ filter, readFilter codecs req = .ok filter ∧ filter.hash = hash) ↔
      Queries codecs req hash := by
  constructor
  · rintro ⟨filter, hread, rfl⟩
    unfold readFilter at hread
    split at hread
    · cases hread
    · cases hread
    · next collected hcollect =>
      rcases Body.collect_data hcollect with ⟨hending, hlen, hdata⟩
      split at hread
      · cases hread
      · next filter' hdecode =>
        split at hread
        · cases hread
        · next hnone =>
          cases hread
          obtain ⟨hcoded, message, hmessage, hframe, hfilter⟩ :=
            decodeTxFilter_eq_ok_iff.mp hdecode
          rw [hdata] at hlen hframe
          exact ⟨hending, hlen, hcoded, message, filter, hmessage, hframe, hfilter,
            (filterError_eq_none_iff filter).mp hnone, rfl⟩
  · rintro ⟨hending, hlen, hcoded, message, filter, hmessage, hframe, hfilter, hhash, rfl⟩
    rcases Body.collect_eq_ok_iff.mpr ⟨hending, hlen⟩ with ⟨collected, hcollect⟩
    rcases Body.collect_data hcollect with ⟨-, -, hdata⟩
    rw [← hdata] at hframe
    have hdecode := decodeTxFilter_eq_ok_iff.mpr ⟨hcoded, message, hmessage, hframe, hfilter⟩
    refine ⟨filter, ?_, rfl⟩
    unfold readFilter
    rw [hcollect]
    simp only [hdecode, (filterError_eq_none_iff filter).mpr hhash]

/-- A request queries the hash of its filter and no other. -/
theorem queries_iff_of_readFilter {codecs : Codecs} {req : Request} {filter : TxFilter}
    (h : readFilter codecs req = .ok filter) {hash : Bytes} :
    Queries codecs req hash ↔ hash = filter.hash := by
  rw [← readFilter_iff]
  constructor
  · rintro ⟨other, hother, rfl⟩
    rw [h] at hother
    rw [Except.ok.inj hother]
  · rintro rfl
    exact ⟨filter, h, rfl⟩

theorem not_queries_of_readFilter {codecs : Codecs} {req : Request} {resp : Response}
    (h : readFilter codecs req = .error resp) (hash : Bytes) : ¬ Queries codecs req hash := by
  intro hquery
  rcases readFilter_iff.mpr hquery with ⟨filter, hfilter, -⟩
  rw [h] at hfilter
  cases hfilter

/-- Any other request is refused for what is wrong with it. -/
theorem readFilter_refuses {codecs : Codecs} {req : Request} {resp : Response}
    (h : readFilter codecs req = .error resp) :
    ∃ code ∈ [grpcInvalidArgument, grpcCancelled, grpcDeadlineExceeded],
      ∃ message, resp = grpcError code message := by
  unfold readFilter at h
  split at h
  · exact ⟨grpcDeadlineExceeded, by simp, _, (Except.error.inj h).symm⟩
  · exact ⟨grpcCancelled, by simp, _, (Except.error.inj h).symm⟩
  · split at h
    · exact ⟨grpcInvalidArgument, by simp, _, (Except.error.inj h).symm⟩
    · split at h
      · exact ⟨grpcInvalidArgument, by simp, _, (Except.error.inj h).symm⟩
      · cases h

/-! ## What the hub can do -/

section Hub

variable (world : World)

/-- The hub answers that there is no such transaction. -/
def HubNotFound (hub : HubTransport) (hash : Bytes) : Prop :=
  match hub with
  | .http client => ∃ resp body,
      HubReplies world (client.request "/transaction" hash) resp body ∧ resp.status = 404
  | .nym => world.nymLookup hash = .ok .notFound

/-- The hub answers with a transaction and its height. -/
def HubFound (hub : HubTransport) (hash data : Bytes) (height : UInt64) : Prop :=
  match hub with
  | .http client => ∃ resp,
      HubReplies world (client.request "/transaction" hash) resp data ∧ resp.status = 200 ∧
        txHeight resp = some height ∧ octetStream resp = true
  | .nym => world.nymLookup hash = .ok (.found height data)

/-- The hub gives no answer. -/
inductive HubFails (hash : Bytes) : HubTransport → Prop where
  /-- Not reached, not in time, or not readable. -/
  | unanswered {client} :
      (∀ resp body, ¬ HubReplies world (client.request "/transaction" hash) resp body) →
      HubFails hash (.http client)
  | status {client resp body} :
      HubReplies world (client.request "/transaction" hash) resp body → resp.status ≠ 200 →
      resp.status ≠ 404 → HubFails hash (.http client)
  /-- Without the type or the height that an answer has. -/
  | shape {client resp body} :
      HubReplies world (client.request "/transaction" hash) resp body → resp.status = 200 →
      txHeight resp = none ∨ octetStream resp = false → HubFails hash (.http client)
  | errorReply : world.nymLookup hash = .ok .error → HubFails hash .nym
  | failed {err} : world.nymLookup hash = .error err → HubFails hash .nym

/-- The hub finds, does not find or fails. -/
theorem hub_settles (hub : HubTransport) (hash : Bytes) :
    HubNotFound world hub hash ∨ (∃ data height, HubFound world hub hash data height) ∨
      HubFails world hash hub := by
  cases hub with
  | http client =>
    by_cases hreplies : ∃ resp body,
        HubReplies world (client.request "/transaction" hash) resp body
    · rcases hreplies with ⟨resp, body, hreply⟩
      by_cases hfound : resp.status = 200
      · by_cases hshape : (∃ height, txHeight resp = some height) ∧ octetStream resp = true
        · rcases hshape with ⟨⟨height, hheight⟩, hstream⟩
          exact .inr (.inl ⟨body, height, resp, hreply, hfound, hheight, hstream⟩)
        · refine .inr (.inr (.shape hreply hfound ?_))
          cases hheight : txHeight resp with
          | none => exact .inl rfl
          | some height => exact .inr (by simpa [hheight] using hshape)
      · by_cases hmissing : resp.status = 404
        · exact .inl ⟨resp, body, hreply, hmissing⟩
        · exact .inr (.inr (.status hreply hfound hmissing))
    · exact .inr (.inr (.unanswered fun resp body hreply => hreplies ⟨resp, body, hreply⟩))
  | nym =>
    cases hlookup : world.nymLookup hash with
    | error err => exact .inr (.inr (.failed hlookup))
    | ok reply =>
      cases reply with
      | found height tx => exact .inr (.inl ⟨tx, height, hlookup⟩)
      | notFound => exact .inl hlookup
      | error => exact .inr (.inr (.errorReply hlookup))

variable {world}

theorem result_getTransaction_http {client : HubClient} {hash body : Bytes} {resp : Response}
    (h : HubReplies world (client.request "/transaction" hash) resp body) :
    (HubTransport.getTransaction world (.http client) hash).result =
      (if resp.status = 200 then
        match txHeight resp with
        | some height =>
          if octetStream resp then .ok (.found body height)
          else .error (.err "hub lookup: 200 without the expected transaction shape")
        | none => .error (.err "hub lookup: 200 without the expected transaction shape")
      else if resp.status = 404 then .ok .notFound
      else .error (.err ("hub lookup: unexpected status " ++ world.displayStatus resp.status))) := by
  simp only [HubTransport.getTransaction, HubClient.getTransaction]
  rw [Traced.bind_of_ok (roundTrip_ok_iff.mpr h)]
  by_cases hfound : resp.status = 200
  · simp only [hfound, if_true]
    cases txHeight resp with
    | none => rfl
    | some height => cases octetStream resp <;> rfl
  · simp only [hfound, if_false]
    by_cases hmissing : resp.status = 404 <;> simp [hmissing]

theorem result_getTransaction_notFound {hub : HubTransport} {hash : Bytes}
    (h : HubNotFound world hub hash) :
    (hub.getTransaction world hash).result = .ok .notFound := by
  cases hub with
  | http client =>
    rcases h with ⟨resp, body, hreply, hstatus⟩
    rw [result_getTransaction_http hreply, if_neg (by omega), if_pos hstatus]
  | nym =>
    simp only [HubTransport.getTransaction]
    rw [Traced.bind_of_ok (Traced.result_act _ _), show world.nymLookup hash = _ from h]
    rfl

theorem result_getTransaction_found {hub : HubTransport} {hash data : Bytes} {height : UInt64}
    (h : HubFound world hub hash data height) :
    (hub.getTransaction world hash).result = .ok (.found data height) := by
  cases hub with
  | http client =>
    rcases h with ⟨resp, hreply, hstatus, hheight, hstream⟩
    rw [result_getTransaction_http hreply, if_pos hstatus, hheight]
    simp only [hstream, if_true]
  | nym =>
    simp only [HubTransport.getTransaction]
    rw [Traced.bind_of_ok (Traced.result_act _ _), show world.nymLookup hash = _ from h]
    rfl

theorem result_getTransaction_fails {hub : HubTransport} {hash : Bytes}
    (h : HubFails world hash hub) :
    ∃ err, (hub.getTransaction world hash).result = .error (.err err) := by
  cases h with
  | @unanswered client hnone =>
    rcases roundTrip_error "hub lookup timed out" hnone with ⟨err, herr⟩
    simp only [HubTransport.getTransaction, HubClient.getTransaction]
    rw [Traced.bind_of_error herr]
    exact ⟨err, rfl⟩
  | status hreply hfound hmissing =>
    rw [result_getTransaction_http hreply, if_neg hfound, if_neg hmissing]
    exact ⟨_, rfl⟩
  | shape hreply hfound hshape =>
    rw [result_getTransaction_http hreply, if_pos hfound]
    rcases hshape with hheight | hstream
    · rw [hheight]
      exact ⟨_, rfl⟩
    · rw [hstream]
      split <;> exact ⟨_, rfl⟩
  | errorReply hlookup | failed hlookup =>
    simp only [HubTransport.getTransaction]
    rw [Traced.bind_of_ok (Traced.result_act _ _), hlookup]
    exact ⟨_, rfl⟩

end Hub

/-! ## What a lookup is answered with -/

/-- A lookup over the mixnet: a call in some run of the calls on a handle, and what it
returned. -/
structure NymLookup (hash : Bytes) (result : Except NymError Wire.LookupReply) where
  timeout : Nat
  dispatchTimeout : Nat
  trace : List Calls.Observed
  state : Calls
  index : Nat
  call : LookupCall
  runs : Runs Calls.step (Calls.initial timeout dispatchTimeout) trace state
  found : state.lookups[index]? = some call
  carries : call.hash = hash
  returned : call.phase = .returned result

/-- What the hub is asked for a hash. -/
def HubTransport.lookupAction (hub : HubTransport) (hash : Bytes) : Action :=
  match hub with
  | .http client => .hubRoundTrip (client.request "/transaction" hash)
  | .nym => .nymLookup hash

/-- A 32-byte hash fits the frame, and is in every frame handed over. -/
theorem NymLookup.framed {hash : Bytes} {result : Except NymError Wire.LookupReply}
    (lookup : NymLookup hash result) (hlen : hash.length = 32) :
    (∀ request, .lookup lookup.index (.handed request) ∈ lookup.trace →
        Calls.AsksFor hash request) ∧
      ∀ len, result ≠ .error (.encode (.hashTooLarge len)) := by
  have hhash := lookup.carries
  constructor
  · intro request hmem
    have hasks := Calls.lookupAsks_of_runs lookup.runs lookup.index lookup.call lookup.found
    exact hhash ▸ hasks.handed request (Calls.mem_lookupLog.mpr hmem)
  · intro len hresult
    have htells := (Calls.lookupTells_of_runs rfl lookup.runs lookup.index).2 lookup.call
      lookup.found
    simp only [Calls.LookupTells, lookup.returned] at htells
    have hover := htells.over_of_encode hresult
    rw [hhash, hlen, Wire.maxLookupHashBytes_eq] at hover
    omega

section Lookup

variable (codecs : Codecs) (world : World)

/-- What the wallet hears of a lookup, and what was asked for it. -/
structure LookupHeard (hub : HubTransport) (req : Request) (reply : Except Failure Response)
    (actions : List Action) : Prop where
  asked_iff : (∃ action ∈ actions, action.contactsHub = true) ↔ ∃ hash, Queries codecs req hash
  asks : ∀ action ∈ actions, action.contactsHub = true →
    ∃ hash, Queries codecs req hash ∧ action = hub.lookupAction hash
  framed : ∀ hash, Queries codecs req hash → ∀ lookup : NymLookup hash (world.nymLookup hash),
    (∀ request, .lookup lookup.index (.handed request) ∈ lookup.trace →
      Calls.AsksFor hash request) ∧
    ∀ len, world.nymLookup hash ≠ .error (.encode (.hashTooLarge len))
  notFound : Refuses grpcNotFound reply → ∃ hash, Queries codecs req hash ∧
    (HubNotFound world hub hash ∨ ∃ data height, HubFound world hub hash data height ∧
      lookupIsForQuery codecs.libs data hash = .ok false)
  failsClosed : ∀ hash, Queries codecs req hash → HubFails world hash hub →
    Refuses grpcUnavailable reply
  malformed : (∀ hash, ¬ Queries codecs req hash) → actions = [] ∧
    ∃ code ∈ [grpcInvalidArgument, grpcCancelled, grpcDeadlineExceeded], Refuses code reply

variable {codecs world}

theorem trace_hubLookup (hub : HubTransport) (hash : Bytes) :
    (hub.getTransaction world hash).trace = [hub.lookupAction hash] := by
  cases hub with
  | http client =>
    simp only [HubTransport.getTransaction, HubClient.getTransaction, HubTransport.lookupAction]
    cases hround : (roundTrip world (client.request "/transaction" hash)
        "hub lookup timed out").result with
    | error failure =>
      rw [Traced.bind_of_error hround]
      rfl
    | ok answer =>
      rw [Traced.bind_of_ok hround, trace_roundTrip]
      by_cases hfound : answer.1.status = 200
      · simp only [hfound, if_true]
        cases txHeight answer.1 with
        | none => rfl
        | some height => cases octetStream answer.1 <;> rfl
      · simp only [hfound, if_false]
        by_cases hmissing : answer.1.status = 404 <;> simp [hmissing]
  | nym =>
    simp only [HubTransport.getTransaction, HubTransport.lookupAction]
    rw [Traced.bind_of_ok (Traced.result_act _ _)]
    rcases world.nymLookup hash with err | reply
    · rfl
    · cases reply <;> rfl

theorem contactsHub_lookupAction (hub : HubTransport) (hash : Bytes) :
    (hub.lookupAction hash).contactsHub = true := by
  cases hub <;> rfl

/-- The check fails only by a panic. -/
theorem lookupIsForQuery_error {libs : Libraries} {data hash : Bytes} {failure : Failure}
    (h : lookupIsForQuery libs data hash = .error failure) : failure = .panicked := by
  unfold lookupIsForQuery displayTxid at h
  split at h
  · cases h
  · next tx position hparse =>
    split at h
    · next failure' hid =>
      split at hid
      · cases hid
      · cases hid
        cases h
        rfl
    · cases h

/-- A lookup is always answered, short of a panic. -/
theorem answerLookup_answers (hash : Bytes) (lookup : Except Failure Lookup) (msg : String) :
    (answerLookup codecs hash lookup).result ≠ .error (.err msg) := by
  intro h
  unfold answerLookup at h
  split at h
  · next data height =>
    cases hcheck : lookupIsForQuery codecs.libs data hash with
    | error failure =>
      rw [hcheck, lookupIsForQuery_error hcheck] at h
      cases h
    | ok isMatch =>
      rw [hcheck] at h
      cases isMatch <;> cases h
  · cases h
  · cases h
  · cases h

theorem getTransaction_answers (hub : HubTransport) (req : Request) (msg : String) :
    (getTransaction codecs world (some hub) req).result ≠ .error (.err msg) := by
  unfold getTransaction
  cases readFilter codecs req with
  | error resp => simp
  | ok filter => exact answerLookup_answers _ _ msg

/-- So it is what the wallet hears. -/
theorem handle_getTransaction {hub : HubTransport} {caution : CautionRelay}
    {status : MixnetStatus} {req : Request} (hroute : routeFor req.uri.path = .getTransaction) :
    handle codecs world (some hub) caution status req =
      getTransaction codecs world (some hub) req := by
  have hdispatch : dispatch codecs world (some hub) caution status req =
      getTransaction codecs world (some hub) req := by
    unfold dispatch
    rw [hroute]
  have hanswers (msg : String) :
      (dispatch codecs world (some hub) caution status req).result ≠ .error (.err msg) := by
    rw [hdispatch]
    exact getTransaction_answers hub req msg
  rw [handle_of_answers hanswers, hdispatch]

/-- Not found is answered to a hub that said so, and to a transaction that is not the
query. -/
theorem answerLookup_notFound {hash : Bytes} {lookup : Except Failure Lookup}
    (h : Refuses grpcNotFound (answerLookup codecs hash lookup).result) :
    lookup = .ok .notFound ∨ ∃ data height, lookup = .ok (.found data height) ∧
      lookupIsForQuery codecs.libs data hash = .ok false := by
  unfold answerLookup at h
  split at h
  · next data height =>
    cases hcheck : lookupIsForQuery codecs.libs data hash with
    | error failure =>
      rw [hcheck] at h
      rcases h with ⟨message, heq⟩
      cases heq
    | ok isMatch =>
      rw [hcheck] at h
      cases isMatch with
      | true => exact absurd h (not_refuses_grpcUnary _ _)
      | false => exact .inr ⟨data, height, rfl, hcheck⟩
  · exact .inl rfl
  · exact absurd (status_of_refuses h) (by decide)
  · rcases h with ⟨message, heq⟩
    cases heq

/-- For every request and every behaviour of the hub: it is asked exactly for the queries,
and for their hash.  Only its own word, or a transaction that is not the query, is heard as
not found; where it fails, that is what the wallet hears. -/
theorem lookup_failsClosed {hub : HubTransport} {caution : CautionRelay} {status : MixnetStatus}
    {req : Request} (hroute : routeFor req.uri.path = .getTransaction) :
    LookupHeard codecs world hub req
      (handle codecs world (some hub) caution status req).result
      (handle codecs world (some hub) caution status req).trace := by
  rw [handle_getTransaction hroute]
  unfold getTransaction
  cases hread : readFilter codecs req with
  | error resp =>
    rcases readFilter_refuses hread with ⟨code, hcode, message, rfl⟩
    have hnone : ∀ hash, ¬ Queries codecs req hash := not_queries_of_readFilter hread
    constructor
    · simp only [hnone, exists_false, iff_false]
      rintro ⟨action, hmem, -⟩
      cases hmem
    · intro action hmem
      cases hmem
    · intro hash hquery
      exact absurd hquery (hnone hash)
    · intro hrefused
      have hstatus := status_of_refuses hrefused
      simp only [List.mem_cons, List.not_mem_nil, or_false] at hcode
      rcases hcode with rfl | rfl | rfl <;> exact absurd hstatus (by decide)
    · intro hash hquery
      exact absurd hquery (hnone hash)
    · exact fun _ => ⟨rfl, code, hcode, message, rfl⟩
  | ok filter =>
    have hquery : Queries codecs req filter.hash := (queries_iff_of_readFilter hread).mpr rfl
    simp only [Traced.handle, trace_hubLookup]
    have hafter : ∀ action ∈ (answerLookup codecs filter.hash
        (hub.getTransaction world filter.hash).result).trace, action.contactsHub = false :=
      emits_answerLookup contactsHub_log _ _ _
    constructor
    · refine ⟨fun _ => ⟨_, hquery⟩, fun _ => ?_⟩
      exact ⟨_, List.mem_append_left _ (List.mem_singleton.mpr rfl), contactsHub_lookupAction _ _⟩
    · intro action hmem hcontacts
      rcases List.mem_append.mp hmem with hmem | hmem
      · exact ⟨_, hquery, List.mem_singleton.mp hmem⟩
      · rw [hafter action hmem] at hcontacts
        cases hcontacts
    · intro hash hother lookup
      rcases hother with ⟨-, -, -, message, found, -, -, -, hlen, rfl⟩
      exact lookup.framed hlen
    · intro hrefused
      refine ⟨_, hquery, ?_⟩
      rcases hub_settles world hub filter.hash with hmissing | ⟨data, height, hfound⟩ | hfails
      · exact .inl hmissing
      · rw [result_getTransaction_found hfound] at hrefused
        rcases answerLookup_notFound hrefused with heq | ⟨data', height', heq, hcheck⟩
        · cases heq
        · cases heq
          exact .inr ⟨data, height, hfound, hcheck⟩
      · rcases result_getTransaction_fails hfails with ⟨err, herr⟩
        rw [herr] at hrefused
        rcases answerLookup_notFound hrefused with heq | ⟨data, height, heq, -⟩ <;> cases heq
    · intro hash hother hfails
      rw [(queries_iff_of_readFilter hread).mp hother] at hfails
      rcases result_getTransaction_fails hfails with ⟨err, herr⟩
      rw [herr]
      exact ⟨_, rfl⟩
    · exact fun hnone => absurd hquery (hnone _)

/-- A lookup that the hub answers with the transaction. -/
theorem lookup_failsClosed_emptyV1 :
    LookupHeard protoCodecs (hubAnswering emptyV1Bytes) (.http ⟨"127.0.0.1:8090"⟩) lookupEmptyV1
      (handle protoCodecs (hubAnswering emptyV1Bytes) (some (.http ⟨"127.0.0.1:8090"⟩))
        ⟨false, ""⟩ .initial lookupEmptyV1).result
      (handle protoCodecs (hubAnswering emptyV1Bytes) (some (.http ⟨"127.0.0.1:8090"⟩))
        ⟨false, ""⟩ .initial lookupEmptyV1).trace :=
  lookup_failsClosed (by decide)

end Lookup

end ZeroShim
