import ZeroShim.Intercept.GetTransaction

/-!
# Routing and handling one request

The route is a pure function of the path.  Only the pass-through arms and the
intercepted submission can reach the operator's indexer.

Main results:

- Theorem {lit}`routeFor_intercept_iff`: which paths are classified.
- Theorem {lit}`handle_isolatesOperator`: with a hub configured, exactly which requests
  may reach the operator's indexer.
-/

namespace ZeroShim

open Library Zcash

/-! ## Routes -/

def sendTransactionPath : String := "/cash.z.wallet.sdk.rpc.CompactTxStreamer/SendTransaction"

def getTransactionPath : String := "/cash.z.wallet.sdk.rpc.CompactTxStreamer/GetTransaction"

def cautionHealthPath : String := "/.well-known/caution/health"

def cautionAttestationPath : String := "/attestation"

def shimHealthPath : String := "/healthz"

def shimNymStatusPath : String := "/nym-status"

def shimNymDiagPath : String := "/nym-diag"

/-- Where one request goes. -/
inductive Route where
  | intercept
  | interceptNearMiss
  | getTransaction
  | cautionHealth
  | cautionAttestation
  | shimHealth
  | shimNymStatus
  | shimNymDiag
  | passThrough
deriving DecidableEq, Repr

/-- The last segment of a path, trailing slashes aside. -/
def lastSegment (path : String) : List Char :=
  ((path.toList.reverse.dropWhile (· = '/')).takeWhile (· ≠ '/')).reverse

/-- The whole routing predicate. -/
def routeFor (path : String) : Route :=
  if path = sendTransactionPath then .intercept
  else if path = getTransactionPath then .getTransaction
  else if path = cautionHealthPath then .cautionHealth
  else if path = cautionAttestationPath then .cautionAttestation
  else if path = shimHealthPath then .shimHealth
  else if path = shimNymStatusPath then .shimNymStatus
  else if path = shimNymDiagPath then .shimNymDiag
  else if (lastSegment path).map Char.toLower = "sendtransaction".toList then .interceptNearMiss
  else .passThrough

/-! ## Handling -/

/-- Whether, and how, the shim owns the platform's control-plane paths. -/
structure CautionRelay where
  enabled : Bool
  bootproofdAddr : String
deriving DecidableEq, Repr

/-- Relay an attestation request to bootproofd. -/
def forwardToBootproofd (world : World) (addr : String) (req : Request) : Task Response :=
  let outbound : Request :=
    { req with
      uri := ⟨none, none, some (req.uri.pathAndQuery.getD ⟨"/attestation", none⟩)⟩
      headers := (stripClientAddressHeaders (req.headers.remove "host")).insert "host"
        (asciiBytes addr) }
  .act (.bootproofd addr outbound) (orErr (world.bootproofd addr outbound))

section Handle

variable (codecs : Codecs) (world : World) (diversion : Option HubTransport)
variable (caution : CautionRelay) (status : MixnetStatus)

/-- The arm of {lit}`handle` that a route selects. -/
def dispatch (req : Request) : Task Response :=
  match routeFor req.uri.path with
  | .cautionHealth =>
    if caution.enabled then return cautionHealthOk else passThrough world req
  | .cautionAttestation =>
    if caution.enabled then forwardToBootproofd world caution.bootproofdAddr req
    else passThrough world req
  | .shimHealth =>
    return if status.isHealthy then textResponse 200 "ok"
      else textResponse 503 "mixnet client not connected"
  | .shimNymStatus => return jsonResponse status.toJson
  | .shimNymDiag =>
    if status.diagEnabled then return jsonResponse (status.diagJson world.unixNow)
    else passThrough world req
  | .passThrough => passThrough world req
  | .getTransaction => getTransaction codecs world diversion req
  | .interceptNearMiss => do
    let _ ← logEvent .warn "zis::classify"
      "path is not the SendTransaction method but spells it: classifying anyway"
      [("method", req.method), ("path", req.uri.path)]
    sendTransaction codecs world diversion req
  | .intercept => sendTransaction codecs world diversion req

/-- The answer to a request whose handling failed. -/
def answerFailure (req : Request) (result : Except Failure Response) : Task Response :=
  match result with
  | .ok resp => return resp
  | .error (.err err) => do
    let _ ← logEvent .warn "zero_indexer_shim::proxy" "proxying failed"
      [("method", req.method), ("path", req.uri.path), ("err", err)]
    return grpcError grpcUnavailable ("zero-indexer-shim: " ++ err)
  | .error .panicked => .fail .panicked

/-- Route one request, converting any internal failure into a gRPC status. -/
def handle (req : Request) : Task Response :=
  (dispatch codecs world diversion caution status req).handle (answerFailure req)

end Handle

/-- A request whose handling did not fail is answered as it was handled. -/
theorem handle_of_answers {codecs : Codecs} {world : World} {diversion : Option HubTransport}
    {caution : CautionRelay} {status : MixnetStatus} {req : Request}
    (h : ∀ msg, (dispatch codecs world diversion caution status req).result ≠
      .error (.err msg)) :
    handle codecs world diversion caution status req =
      dispatch codecs world diversion caution status req := by
  unfold handle
  generalize dispatch codecs world diversion caution status req = handled at h
  rcases handled with ⟨trace, result⟩
  have hanswer : answerFailure req result = ⟨[], result⟩ := by
    cases result with
    | ok resp => rfl
    | error failure =>
      cases failure with
      | err msg => exact absurd rfl (h msg)
      | panicked => rfl
  simp only [Traced.handle, hanswer, List.append_nil]

/-! ## The interception set -/

/-- A path is classified exactly when it is the method's path or its last segment
spells the method, and it is none of the other fixed paths. -/
theorem routeFor_intercept_iff (path : String) :
    (routeFor path = .intercept ∨ routeFor path = .interceptNearMiss) ↔
      path = sendTransactionPath ∨
        ((lastSegment path).map Char.toLower = "sendtransaction".toList ∧
          path ∉ [getTransactionPath, cautionHealthPath, cautionAttestationPath,
            shimHealthPath, shimNymStatusPath, shimNymDiagPath]) := by
  unfold routeFor
  simp only [List.mem_cons, List.not_mem_nil, or_false, not_or]
  split_ifs <;> simp_all

/-! ## Isolation -/

section Handle

variable (codecs : Codecs) (caution : CautionRelay) (status : MixnetStatus)

/-- The one message a submission carries, when its body was read within the limit, is
identity-coded, decodes, and is passed through by the classifier. -/
def PassesClassifier (req : Request) : Prop :=
  req.body.ending = .complete ∧ req.body.dataBytes.length ≤ maxSendTxBytes ∧
    identityCoded req.headers = true ∧
      ∃ message raw, message.length < 2 ^ 32 ∧ req.body.dataBytes = grpcFrame message ∧
        codecs.decodeRawTransaction message = .ok raw ∧
          classify codecs.libs raw.data = .passThrough

/-- The requests that may reach the operator's indexer. -/
def MayReachOperator (req : Request) : Prop :=
  match routeFor req.uri.path with
  | .passThrough => True
  | .cautionHealth => caution.enabled = false
  | .cautionAttestation => caution.enabled = false
  | .shimNymDiag => status.diagEnabled = false
  | .intercept => PassesClassifier codecs req
  | .interceptNearMiss => PassesClassifier codecs req
  | .getTransaction => False
  | .shimHealth => False
  | .shimNymStatus => False

variable {codecs}

theorem passesClassifier_of_replayable {req : Request} (h : Replayable codecs req) :
    PassesClassifier codecs req := by
  rcases h with ⟨collected, hcollect, hverdict⟩
  rcases Body.collect_data hcollect with ⟨hending, hlen, hdata⟩
  obtain ⟨hcoded, message, raw, hmessage, hframe, hdecode, hclass⟩ :=
    inspect_passThrough hverdict
  rw [hdata] at hlen hframe
  exact ⟨hending, hlen, hcoded, message, raw, hmessage, hframe, hdecode, hclass⟩

variable (codecs) (world : World) (hub : HubTransport)

theorem emits_of_true {α : Type} (t : Task α) {P : Prop} (hP : P) :
    t.Emits fun action => action.reachesOperator = true → P :=
  fun _ _ _ => hP

theorem spares_forwardToBootproofd (addr : String) (req : Request) :
    Spares (forwardToBootproofd world addr req) :=
  .act _ _ rfl

theorem dispatch_isolates (req : Request) :
    (dispatch codecs world (some hub) caution status req).Emits fun action =>
      action.reachesOperator = true → MayReachOperator codecs caution status req := by
  unfold dispatch MayReachOperator
  cases routeFor req.uri.path with
  | passThrough => exact emits_of_true _ trivial
  | cautionHealth =>
    refine .ite (fun _ => .pure _) fun hgate => ?_
    exact emits_of_true _ ((Bool.not_eq_true _).mp hgate)
  | cautionAttestation =>
    refine .ite (fun _ => ?_) fun hgate => ?_
    · exact emits_of_spares (spares_forwardToBootproofd world _ req) _
    · exact emits_of_true _ ((Bool.not_eq_true _).mp hgate)
  | shimHealth => exact .pure _
  | shimNymStatus => exact .pure _
  | shimNymDiag =>
    refine .ite (fun _ => .pure _) fun hgate => ?_
    exact emits_of_true _ ((Bool.not_eq_true _).mp hgate)
  | getTransaction => exact emits_of_spares (getTransaction_spares codecs world hub req) _
  | interceptNearMiss =>
    refine .bind (emits_of_spares (emits_logEvent sparesOperator_log _ _ _ _) _) fun _ _ => ?_
    refine (sendTransaction_isolates codecs world hub req).mono ?_
    intro action h hreaches
    exact passesClassifier_of_replayable (h hreaches)
  | intercept =>
    refine (sendTransaction_isolates codecs world hub req).mono ?_
    intro action h hreaches
    exact passesClassifier_of_replayable (h hreaches)

theorem spares_answerFailure (req : Request) (result : Except Failure Response) :
    Spares (answerFailure req result) := by
  unfold answerFailure
  split
  · exact .pure _
  · exact .bind (emits_logEvent sparesOperator_log _ _ _ _) fun _ _ => .pure _
  · exact .fail _

/-- With a hub configured, whatever the hub and the operator answer, a request reaches
the operator's indexer only if its route passes through, or its own gate is closed, or
it is a submission that was read in full, is one identity-coded message, decodes, and is
passed through by the classifier.  No lookup reaches it, and no submission that is
unreadable, a fail-safe, unparseable or a migration. -/
theorem handle_isolatesOperator (req : Request) :
    ((handle codecs world (some hub) caution status req).Emits fun action =>
      action.reachesOperator = true → MayReachOperator codecs caution status req) ∧
    (routeFor req.uri.path = .getTransaction →
      Spares (handle codecs world (some hub) caution status req)) ∧
    (routeFor req.uri.path = .intercept ∨ routeFor req.uri.path = .interceptNearMiss →
      (∀ collected, req.body.collect maxSendTxBytes = .ok collected →
        (inspect codecs req.headers collected.data).1.treatAsMigration = true) →
      Spares (handle codecs world (some hub) caution status req)) := by
  have hdispatch := dispatch_isolates codecs caution status world hub req
  have hanswer := fun result => spares_answerFailure req result
  refine ⟨?_, ?_, ?_⟩
  · exact .handle hdispatch fun _ _ => emits_of_spares (hanswer _) _
  · intro hroute
    refine .handle ?_ fun _ _ => hanswer _
    unfold dispatch
    rw [hroute]
    exact getTransaction_spares codecs world hub req
  · intro hroute hmigration
    have hspared : Spares (sendTransaction codecs world (some hub) req) := by
      intro action hmem
      by_contra hreaches
      have hreach : action.reachesOperator = true := by
        simpa [Action.SparesOperator] using hreaches
      obtain ⟨collected, hcollect, hverdict⟩ :=
        sendTransaction_isolates codecs world hub req action hmem hreach
      rw [hmigration collected hcollect] at hverdict
      cases hverdict
    refine .handle ?_ fun _ _ => hanswer _
    unfold dispatch
    rcases hroute with hroute | hroute <;> rw [hroute]
    · exact hspared
    · exact .bind (emits_logEvent sparesOperator_log _ _ _ _) fun _ _ => hspared

end Handle

end ZeroShim
