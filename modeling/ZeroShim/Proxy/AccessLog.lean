import ZeroShim.Intercept.Replay
import ZeroShim.Proxy.Lookups

/-!
# What the default log tells of a request

The line about a request that was proxied is below the default level.  The line about one
that could not be proxied is not, and it names the method and the path.

Main results:

- Theorem {lit}`shown_passThrough`: what is logged of a request that is passed through.
- Theorem {lit}`shown_lookup_eq_nil_iff`: the lookups that leave no line.
- Theorem {lit}`shown_eq_iff`: when two requests that differ in method and path leave the
  same lines.
-/

namespace ZeroShim

open Library Zcash Nym

/-! ## The default level -/

/-- The default filter, {lit}`info`. -/
def LogLevel.isShown : LogLevel → Bool
  | .debug => false
  | .info => true
  | .warn => true
  | .error => true

/-- The modules of the mixnet's own tasks and calls. -/
inductive MixnetModule where
  | nym
  | nymDriver
deriving DecidableEq, Repr

def MixnetModule.target : MixnetModule → String
  | .nym => "zero_indexer_shim::nym"
  | .nymDriver => "zero_indexer_shim::nym_driver"

/-- What a module of the mixnet logs. -/
structure MixnetEvent where
  source : MixnetModule
  level : LogLevel
  message : String
  fields : List (String × String)
deriving DecidableEq, Repr

def MixnetEvent.event (entry : MixnetEvent) : LogEvent :=
  ⟨entry.level, entry.source.target, entry.message, entry.fields⟩

section Shown

-- What the mixnet's tasks and calls log on the way of a lookup.
variable (mixnet : Bytes → List MixnetEvent)

/-- The lines of what the mixnet logs for a hash. -/
def mixnetLines (hash : Bytes) : List LogEvent :=
  ((mixnet hash).map MixnetEvent.event).filter fun event => event.level.isShown

/-- The lines that one action leaves in the default log. -/
def Action.shown : Action → List LogEvent
  | .log event => if event.level.isShown then [event] else []
  | .nymLookup hash => mixnetLines mixnet hash
  | _ => []

/-- The lines that a computation leaves in the default log. -/
def shown {α : Type} (t : Task α) : List LogEvent := t.trace.flatMap (Action.shown mixnet)

end Shown

/-! ## Two requests -/

/-- Two requests that differ only in method and path. -/
structure AlikeButTarget (r r' : Request) : Prop where
  scheme : r.uri.scheme = r'.uri.scheme
  authority : r.uri.authority = r'.uri.authority
  query : r.uri.pathAndQuery.bind PathAndQuery.query =
    r'.uri.pathAndQuery.bind PathAndQuery.query
  headers : r.headers = r'.headers
  body : r.body = r'.body

/-- How the indexer fails a request that is passed through, if it does. -/
def indexerFailure (world : World) (req : Request) : Option String :=
  match world.poolGet with
  | .error err => some err
  | .ok upstream =>
    match world.sendRequest (retarget upstream req) with
    | .done _ => none
    | .failed err => some err
    | .timedOut => some "backing indexer accepted the request but sent no response headers"

section Requests

variable (codecs : Codecs) (world : World) (mixnet : Bytes → List MixnetEvent)

/-- The request is looked up over the hub. -/
def LooksUp (diversion : Option HubTransport) (req : Request) : Prop :=
  diversion ≠ none ∧ routeFor req.uri.path = .getTransaction

/-- Where the hub is asked, the mixnet has nothing to report, and the hub does not fail or
answer with a transaction that is not the query. -/
def HubAnswersQuietly (hub : HubTransport) (req : Request) : Prop :=
  ∀ hash, Queries codecs req hash →
    (hub = .nym → mixnetLines mixnet hash = []) ∧ ¬ HubFails world hash hub ∧
      ∀ data height, HubFound world hub hash data height →
        lookupIsForQuery codecs.libs data hash ≠ .ok false

/-- Nobody fails the request. -/
def AnsweredQuietly (diversion : Option HubTransport) (req : Request) : Prop :=
  (∀ hub, diversion = some hub → routeFor req.uri.path = .getTransaction →
    HubAnswersQuietly codecs world mixnet hub req) ∧
  (¬ LooksUp diversion req → indexerFailure world req = none)

end Requests

/-! ## Passing through -/

/-- The line about a request that could not be proxied. -/
def proxyingFailed (req : Request) (err : String) : LogEvent :=
  ⟨.warn, "zero_indexer_shim::proxy", "proxying failed",
    [("method", req.method), ("path", req.uri.path), ("err", err)]⟩

section Lines

variable {codecs : Codecs} {world : World} {mixnet : Bytes → List MixnetEvent}
variable {diversion : Option HubTransport} {caution : CautionRelay} {status : MixnetStatus}

theorem shown_handle {α β : Type} (t : Task α) (f : Except Failure α → Task β) :
    shown mixnet (t.handle f) = shown mixnet t ++ shown mixnet (f t.result) := by
  unfold shown Traced.handle
  rw [List.flatMap_append]

/-- A request that is passed through leaves a line exactly when the indexer fails it. -/
theorem shown_passThrough (req : Request) :
    shown mixnet ((passThrough world req).handle (answerFailure req)) =
      ((indexerFailure world req).map (proxyingFailed req)).toList := by
  rw [shown_handle, result_passThrough]
  unfold indexerFailure passThrough orErr
  cases hpool : world.poolGet with
  | error err => rfl
  | ok upstream =>
    simp only
    rw [Traced.bind_of_ok (a := upstream) rfl, forward_eq]
    cases hsend : world.sendRequest (retarget upstream req) <;> rfl

/-- A request that is not looked up over the hub is passed through. -/
theorem dispatch_passThrough {req : Request}
    (hroute : routeFor req.uri.path = .passThrough ∨ routeFor req.uri.path = .getTransaction)
    (hlooks : ¬ LooksUp diversion req) :
    dispatch codecs world diversion caution status req = passThrough world req := by
  unfold dispatch
  rcases hroute with hroute | hroute
  · rw [hroute]
  · rw [hroute]
    cases diversion with
    | none => rfl
    | some hub => exact absurd ⟨by simp, hroute⟩ hlooks

/-! ## Looking up -/

/-- What a lookup over the hub leaves: nothing that depends on its method or path. -/
theorem shown_lookup {hub : HubTransport} {req : Request}
    (hroute : routeFor req.uri.path = .getTransaction) :
    shown mixnet (handle codecs world (some hub) caution status req) =
      match readFilter codecs req with
      | .error _ => []
      | .ok filter => Action.shown mixnet (hub.lookupAction filter.hash) ++
          shown mixnet (answerLookup codecs filter.hash
            (hub.getTransaction world filter.hash).result) := by
  rw [handle_getTransaction hroute]
  unfold getTransaction
  cases readFilter codecs req with
  | error resp => rfl
  | ok filter =>
    rw [shown_handle]
    unfold shown
    rw [trace_hubLookup, List.flatMap_singleton]

/-- An answer leaves a line exactly where the hub failed, or found what was not asked
for. -/
theorem shown_answerLookup_eq_nil_iff (hash : Bytes) (lookup : Except Failure Lookup) :
    shown mixnet (answerLookup codecs hash lookup) = [] ↔
      (∀ err, lookup ≠ .error (.err err)) ∧
        ∀ data height, lookup = .ok (.found data height) →
          lookupIsForQuery codecs.libs data hash ≠ .ok false := by
  unfold answerLookup
  split
  · next data height =>
    cases hcheck : lookupIsForQuery codecs.libs data hash with
    | error failure =>
      refine iff_of_true rfl ⟨by simp, ?_⟩
      rintro data' height' ⟨⟩ heq
      rw [hcheck] at heq
      cases heq
    | ok isMatch =>
      cases isMatch with
      | true =>
        refine iff_of_true rfl ⟨by simp, ?_⟩
        rintro data' height' ⟨⟩ heq
        rw [hcheck] at heq
        cases heq
      | false =>
        apply iff_of_false (List.cons_ne_nil _ _)
        rintro ⟨-, hall⟩
        exact hall data height rfl hcheck
  · exact iff_of_true rfl ⟨by simp, by simp⟩
  · next err =>
    apply iff_of_false (List.cons_ne_nil _ _)
    rintro ⟨hall, -⟩
    exact hall err rfl
  · exact iff_of_true rfl ⟨by simp, by simp⟩

theorem hubLookup_fails_iff {hub : HubTransport} {hash : Bytes} :
    (∃ err, (hub.getTransaction world hash).result = .error (.err err)) ↔
      HubFails world hash hub := by
  refine ⟨?_, result_getTransaction_fails⟩
  rintro ⟨err, herr⟩
  rcases hub_settles world hub hash with hmissing | ⟨data, height, hfound⟩ | hfails
  · rw [result_getTransaction_notFound hmissing] at herr
    cases herr
  · rw [result_getTransaction_found hfound] at herr
    cases herr
  · exact hfails

theorem hubLookup_found_iff {hub : HubTransport} {hash data : Bytes} {height : UInt64} :
    (hub.getTransaction world hash).result = .ok (.found data height) ↔
      HubFound world hub hash data height := by
  refine ⟨?_, result_getTransaction_found⟩
  intro hok
  rcases hub_settles world hub hash with hmissing | ⟨data', height', hfound⟩ | hfails
  · rw [result_getTransaction_notFound hmissing] at hok
    cases hok
  · rw [result_getTransaction_found hfound] at hok
    cases hok
    exact hfound
  · rcases result_getTransaction_fails hfails with ⟨err, herr⟩
    rw [herr] at hok
    cases hok

/-- A lookup over the hub leaves no line exactly when nobody fails it. -/
theorem shown_lookup_eq_nil_iff {hub : HubTransport} {req : Request}
    (hroute : routeFor req.uri.path = .getTransaction) :
    shown mixnet (handle codecs world (some hub) caution status req) = [] ↔
      HubAnswersQuietly codecs world mixnet hub req := by
  rw [shown_lookup hroute]
  cases hread : readFilter codecs req with
  | error resp =>
    apply iff_of_true rfl
    intro hash hquery
    exact absurd hquery (not_queries_of_readFilter hread hash)
  | ok filter =>
    have hquery : Queries codecs req filter.hash := (queries_iff_of_readFilter hread).mpr rfl
    have hasked : Action.shown mixnet (hub.lookupAction filter.hash) = [] ↔
        (hub = .nym → mixnetLines mixnet filter.hash = []) := by
      cases hub <;> simp [HubTransport.lookupAction, Action.shown]
    have hanswered : shown mixnet (answerLookup codecs filter.hash
        (hub.getTransaction world filter.hash).result) = [] ↔
        ¬ HubFails world filter.hash hub ∧ ∀ data height,
          HubFound world hub filter.hash data height →
            lookupIsForQuery codecs.libs data filter.hash ≠ .ok false := by
      simp only [shown_answerLookup_eq_nil_iff, ← hubLookup_fails_iff, ← hubLookup_found_iff,
        not_exists, ne_eq]
    simp only [List.append_eq_nil_iff, hasked, hanswered]
    constructor
    · rintro hall hash hother
      rw [(queries_iff_of_readFilter hread).mp hother]
      exact hall
    · intro hall
      exact hall filter.hash hquery

/-- The lines of a pass-through name its method and its path. -/
theorem proxyingFailed_inj {r r' : Request} {err err' : String} :
    proxyingFailed r err = proxyingFailed r' err' ↔
      r.method = r'.method ∧ r.uri.path = r'.uri.path ∧ err = err' := by
  simp [proxyingFailed]

theorem target_answerLookup {hash : Bytes} {lookup : Except Failure Lookup} {event : LogEvent}
    (h : event ∈ shown mixnet (answerLookup codecs hash lookup)) :
    event.target = "zis::classify" := by
  unfold answerLookup at h
  split at h
  · next data height =>
    cases hcheck : lookupIsForQuery codecs.libs data hash with
    | error failure =>
      rw [hcheck] at h
      cases h
    | ok isMatch =>
      rw [hcheck] at h
      cases isMatch with
      | true => cases h
      | false =>
        have hevent := List.mem_singleton.mp h
        rw [hevent]
  · cases h
  · have hevent := List.mem_singleton.mp h
    rw [hevent]
  · cases h

/-- No lookup leaves the line of a pass-through. -/
theorem proxyingFailed_notMem {hub : HubTransport} {r req : Request} {err : String}
    (hroute : routeFor req.uri.path = .getTransaction) :
    proxyingFailed r err ∉ shown mixnet (handle codecs world (some hub) caution status req) := by
  rw [shown_lookup hroute]
  cases readFilter codecs req with
  | error resp => simp
  | ok filter =>
    intro hmem
    rcases List.mem_append.mp hmem with hmem | hmem
    · cases hub with
      | http client => cases hmem
      | nym =>
        have hlines : proxyingFailed r err ∈ mixnetLines mixnet filter.hash := hmem
        unfold mixnetLines at hlines
        rcases List.mem_map.mp (List.mem_of_mem_filter hlines) with ⟨entry, -, hevent⟩
        have htarget := congrArg LogEvent.target hevent
        rcases entry with ⟨source, level, message, fields⟩
        cases source <;> simp [MixnetEvent.event, MixnetModule.target, proxyingFailed] at htarget
    · have htarget := target_answerLookup hmem
      simp [proxyingFailed] at htarget

/-! ## Two runs -/

theorem shown_of_not_looksUp {req : Request}
    (hroute : routeFor req.uri.path = .passThrough ∨ routeFor req.uri.path = .getTransaction)
    (hlooks : ¬ LooksUp diversion req) :
    shown mixnet (handle codecs world diversion caution status req) =
      ((indexerFailure world req).map (proxyingFailed req)).toList := by
  unfold handle
  rw [dispatch_passThrough hroute hlooks]
  exact shown_passThrough req

/-- A request leaves no line exactly when nobody fails it. -/
theorem shown_eq_nil_iff {req : Request}
    (hroute : routeFor req.uri.path = .passThrough ∨ routeFor req.uri.path = .getTransaction) :
    shown mixnet (handle codecs world diversion caution status req) = [] ↔
      AnsweredQuietly codecs world mixnet diversion req := by
  by_cases hlooks : LooksUp diversion req
  · rcases Option.ne_none_iff_exists'.mp hlooks.1 with ⟨hub, rfl⟩
    rw [shown_lookup_eq_nil_iff hlooks.2]
    constructor
    · intro hquiet
      refine ⟨?_, fun hnot => absurd hlooks hnot⟩
      rintro hub' heq -
      cases heq
      exact hquiet
    · intro hquiet
      exact hquiet.1 hub rfl hlooks.2
  · rw [shown_of_not_looksUp hroute hlooks, Option.toList_eq_nil_iff, Option.map_eq_none_iff]
    constructor
    · intro hnone
      refine ⟨?_, fun _ => hnone⟩
      intro hub hsome hlookup
      exact absurd ⟨by simp [hsome], hlookup⟩ hlooks
    · exact fun hquiet => hquiet.2 hlooks

/-- A lookup over the hub leaves the lines of any other for the same filter. -/
theorem shown_lookup_congr {r r' : Request} (halike : AlikeButTarget r r')
    (hlooks : LooksUp diversion r) (hlooks' : LooksUp diversion r') :
    shown mixnet (handle codecs world diversion caution status r) =
      shown mixnet (handle codecs world diversion caution status r') := by
  rcases Option.ne_none_iff_exists'.mp hlooks.1 with ⟨hub, rfl⟩
  have hfilter : readFilter codecs r = readFilter codecs r' := by
    unfold readFilter
    rw [halike.body, halike.headers]
  rw [shown_lookup hlooks.2, shown_lookup hlooks'.2, hfilter]

/-- A lookup and a request passed through leave the same lines only where both leave none. -/
theorem shown_mixed {r r' : Request}
    (hroute' : routeFor r'.uri.path = .passThrough ∨ routeFor r'.uri.path = .getTransaction)
    (hlooks : LooksUp diversion r) (hpasses : ¬ LooksUp diversion r')
    (h : shown mixnet (handle codecs world diversion caution status r) =
      shown mixnet (handle codecs world diversion caution status r')) :
    shown mixnet (handle codecs world diversion caution status r) = [] := by
  rcases Option.ne_none_iff_exists'.mp hlooks.1 with ⟨hub, rfl⟩
  rw [shown_of_not_looksUp hroute' hpasses] at h
  cases hfails : indexerFailure world r' with
  | none =>
    rw [hfails] at h
    exact h
  | some err =>
    rw [hfails] at h
    have hmem : proxyingFailed r' err ∈
        shown mixnet (handle codecs world (some hub) caution status r) := by
      rw [h]
      exact List.mem_singleton.mpr rfl
    exact absurd hmem (proxyingFailed_notMem hlooks.2)

/-- Two requests that are passed through or looked up, and differ only in method and path,
leave the same lines exactly when both are looked up over the hub, or nobody fails either, or
the indexer fails both alike and they do not differ in what is logged. -/
theorem shown_eq_iff {r r' : Request} (halike : AlikeButTarget r r')
    (hroute : routeFor r.uri.path = .passThrough ∨ routeFor r.uri.path = .getTransaction)
    (hroute' : routeFor r'.uri.path = .passThrough ∨ routeFor r'.uri.path = .getTransaction) :
    shown mixnet (handle codecs world diversion caution status r) =
        shown mixnet (handle codecs world diversion caution status r') ↔
      (LooksUp diversion r ∧ LooksUp diversion r') ∨
      (AnsweredQuietly codecs world mixnet diversion r ∧
        AnsweredQuietly codecs world mixnet diversion r') ∨
      (¬ LooksUp diversion r ∧ ¬ LooksUp diversion r' ∧ r.method = r'.method ∧
        r.uri.path = r'.uri.path ∧ indexerFailure world r = indexerFailure world r') := by
  constructor
  · intro h
    by_cases hlooks : LooksUp diversion r
    · by_cases hlooks' : LooksUp diversion r'
      · exact .inl ⟨hlooks, hlooks'⟩
      · have hnil := shown_mixed hroute' hlooks hlooks' h
        exact .inr (.inl ⟨(shown_eq_nil_iff hroute).mp hnil,
          (shown_eq_nil_iff hroute').mp (h ▸ hnil)⟩)
    · by_cases hlooks' : LooksUp diversion r'
      · have hnil := shown_mixed hroute hlooks' hlooks h.symm
        exact .inr (.inl ⟨(shown_eq_nil_iff hroute).mp (h ▸ hnil),
          (shown_eq_nil_iff hroute').mp hnil⟩)
      · cases hfails : indexerFailure world r with
        | none =>
          have hnil : shown mixnet (handle codecs world diversion caution status r) = [] := by
            rw [shown_of_not_looksUp hroute hlooks, hfails]
            rfl
          exact .inr (.inl ⟨(shown_eq_nil_iff hroute).mp hnil,
            (shown_eq_nil_iff hroute').mp (h ▸ hnil)⟩)
        | some err =>
          rw [shown_of_not_looksUp hroute hlooks, shown_of_not_looksUp hroute' hlooks',
            hfails] at h
          cases hfails' : indexerFailure world r' with
          | none =>
            rw [hfails'] at h
            cases h
          | some err' =>
            rw [hfails'] at h
            have hline := List.singleton_inj.mp h
            rcases proxyingFailed_inj.mp hline with ⟨hmethod, hpath, herr⟩
            exact .inr (.inr ⟨hlooks, hlooks', hmethod, hpath, by rw [herr]⟩)
  · rintro (⟨hlooks, hlooks'⟩ | ⟨hquiet, hquiet'⟩ | ⟨hlooks, hlooks', hmethod, hpath, hfails⟩)
    · exact shown_lookup_congr halike hlooks hlooks'
    · rw [(shown_eq_nil_iff hroute).mpr hquiet, (shown_eq_nil_iff hroute').mpr hquiet']
    · have hline : proxyingFailed r = proxyingFailed r' := by
        funext err
        exact proxyingFailed_inj.mpr ⟨hmethod, hpath, rfl⟩
      rw [shown_of_not_looksUp hroute hlooks, shown_of_not_looksUp hroute' hlooks', hfails,
        hline]

end Lines

/-! ## An indexer that cannot be dialled -/

/-- A wallet's call of a method that is passed through. -/
def plainCall (rpc : String) : Request where
  method := "POST"
  uri := ⟨none, none, some ⟨"/cash.z.wallet.sdk.rpc.CompactTxStreamer/" ++ rpc, none⟩⟩
  headers := ⟨[]⟩
  body := .full (grpcFrame [])

theorem routeFor_latestBlock :
    routeFor (plainCall "GetLatestBlock").uri.path = .passThrough := by decide

theorem routeFor_taddressTxids :
    routeFor (plainCall "GetTaddressTxids").uri.path = .passThrough := by decide

/-- An indexer that cannot be dialled has the log name the method. -/
theorem refusedDial_namesMethod :
    ∃ r r', AlikeButTarget r r' ∧ routeFor r.uri.path = .passThrough ∧
      routeFor r'.uri.path = .passThrough ∧
      shown (fun _ => []) (handle protoCodecs (hubAnswering []) none ⟨false, ""⟩ .initial r) ≠
        shown (fun _ => []) (handle protoCodecs (hubAnswering []) none ⟨false, ""⟩ .initial r') :=
  by
  have hlooks (rpc : String) : ¬ LooksUp none (plainCall rpc) := fun h => h.1 rfl
  refine ⟨plainCall "GetLatestBlock", plainCall "GetTaddressTxids", ⟨rfl, rfl, rfl, rfl, rfl⟩,
    routeFor_latestBlock, routeFor_taddressTxids, ?_⟩
  rw [shown_of_not_looksUp (.inl routeFor_latestBlock) (hlooks _),
    shown_of_not_looksUp (.inl routeFor_taddressTxids) (hlooks _)]
  decide

/-- An environment whose indexer answers every request. -/
def indexerAnswering : World :=
  { hubAnswering [] with
    poolGet := .ok ⟨"127.0.0.1:9067"⟩
    sendRequest := fun _ => .done (Response.new .empty) }

/-- An indexer that answers leaves two methods alike in the log. -/
theorem shown_eq_iff_answering :
    shown (fun _ => []) (handle protoCodecs indexerAnswering none ⟨false, ""⟩ .initial
        (plainCall "GetLatestBlock")) =
      shown (fun _ => []) (handle protoCodecs indexerAnswering none ⟨false, ""⟩ .initial
        (plainCall "GetTaddressTxids")) := by
  have hquiet : ∀ rpc, AnsweredQuietly protoCodecs indexerAnswering (fun _ => []) none
      (plainCall rpc) := by
    intro rpc
    refine ⟨?_, fun _ => rfl⟩
    intro hub heq
    cases heq
  have halike : AlikeButTarget (plainCall "GetLatestBlock") (plainCall "GetTaddressTxids") :=
    ⟨rfl, rfl, rfl, rfl, rfl⟩
  apply (shown_eq_iff halike (.inl routeFor_latestBlock) (.inl routeFor_taddressTxids)).mpr
  exact .inr (.inl ⟨hquiet _, hquiet _⟩)

end ZeroShim
