import ZeroShim.Nym.Submit
import ZeroShim.Proxy.Handle

/-!
# What the wallet hears of a diverted submission

Its answer over either transport, for every behaviour of the hub.

Main results:

- Theorem {lit}`httpSubmit`: what becomes of a submission over HTTP.
- Theorem {lit}`divert_honest`: what each outcome of a diverted submission is answered
  with.
-/

namespace ZeroShim

open Library Zcash Nym

/-! ## Replies -/

/-- The reply carries a status and nothing else. -/
def Refuses (code : Nat) (reply : Except Failure Response) : Prop :=
  ∃ message, reply = .ok (grpcError code message)

theorem grpcStatus_grpcError (code : Nat) (message : String) :
    (grpcError code message).headers.get "grpc-status" = some (asciiBytes (toString code)) := by
  simp [grpcError, Response.new, HeaderMap.insert, HeaderMap.remove, HeaderMap.get,
    HeaderMap.empty]

/-- A refusal says which one it is. -/
theorem status_of_refuses {code other : Nat} {message : String}
    (h : Refuses code (.ok (grpcError other message))) :
    asciiBytes (toString other) = asciiBytes (toString code) := by
  rcases h with ⟨text, heq⟩
  have hheaders := congrArg (fun resp => resp.headers.get "grpc-status") (Except.ok.inj heq)
  simp only [grpcStatus_grpcError, Option.some.injEq] at hheaders
  exact hheaders

theorem not_refuses_grpcUnary (code : Nat) (message : Bytes) :
    ¬ Refuses code (.ok (grpcUnary message)) := by
  rintro ⟨text, heq⟩
  exact grpcError_ne_grpcUnary code text message (Except.ok.inj heq).symm

/-- The actions that ask something of the hub. -/
def Action.contactsHub : Action → Bool
  | .hubRoundTrip _ => true
  | .nymSubmit _ => true
  | .nymLookup _ => true
  | _ => false

/-- None of the actions asks anything of the hub. -/
def LeavesHub (actions : List Action) : Prop := ∀ action ∈ actions, action.contactsHub = false

theorem LeavesHub.append {front back : List Action} (hfront : LeavesHub front)
    (hback : LeavesHub back) : LeavesHub (front ++ back) := by
  intro action hmem
  rcases List.mem_append.mp hmem with hmem | hmem
  · exact hfront action hmem
  · exact hback action hmem

/-- A log line asks nothing of the hub. -/
theorem contactsHub_log (event : LogEvent) : (Action.log event).contactsHub = false := rfl

/-! ## The hub over HTTP -/

/-- The hub's answer to a request, read in full. -/
def HubReplies (world : World) (req : Request) (resp : Response) (body : Bytes) : Prop :=
  world.hubRoundTrip req = .done resp ∧
    ∃ collected, resp.body.collect maxHubResponseBytes = .ok collected ∧ collected.data = body

/-- An exchange returns exactly the answer that could be read in full. -/
theorem roundTrip_ok_iff {world : World} {req : Request} {timeoutMsg : String} {resp : Response}
    {body : Bytes} :
    (roundTrip world req timeoutMsg).result = .ok (resp, body) ↔
      HubReplies world req resp body := by
  unfold roundTrip HubReplies
  rw [Traced.result_act]
  cases hexchange : world.hubRoundTrip req with
  | failed err => simp
  | timedOut => simp
  | done answer =>
    cases hcollect : answer.body.collect maxHubResponseBytes with
    | ok collected =>
      simp only [hcollect, Except.ok.injEq, Prod.mk.injEq, Exchange.done.injEq]
      constructor
      · rintro ⟨rfl, rfl⟩
        exact ⟨rfl, collected, hcollect, rfl⟩
      · rintro ⟨rfl, other, hother, rfl⟩
        rw [hcollect] at hother
        exact ⟨rfl, by rw [Except.ok.inj hother]⟩
    | error failure =>
      constructor
      · intro h
        cases failure <;> simp [hcollect] at h
      · rintro ⟨heq, other, hother, -⟩
        rw [← Exchange.done.inj heq, hcollect] at hother
        cases hother

/-- Otherwise it fails. -/
theorem roundTrip_error {world : World} {req : Request} (timeoutMsg : String)
    (h : ∀ resp body, ¬ HubReplies world req resp body) :
    ∃ err, (roundTrip world req timeoutMsg).result = .error (.err err) := by
  cases hresult : (roundTrip world req timeoutMsg).result with
  | ok answer => exact absurd (roundTrip_ok_iff.mp hresult) (h answer.1 answer.2)
  | error failure =>
    cases failure with
    | err err => exact ⟨err, rfl⟩
    | panicked =>
      unfold roundTrip at hresult
      rw [Traced.result_act] at hresult
      split at hresult
      · cases hresult
      · cases hresult
      · split at hresult <;> cases hresult

theorem trace_roundTrip (world : World) (req : Request) (timeoutMsg : String) :
    (roundTrip world req timeoutMsg).trace = [.hubRoundTrip req] := rfl

theorem hubReplies_unique {world : World} {req : Request} {resp resp' : Response}
    {body body' : Bytes} (h : HubReplies world req resp body)
    (h' : HubReplies world req resp' body') : resp = resp' ∧ body = body' := by
  rcases h with ⟨hdone, collected, hcollect, rfl⟩
  rcases h' with ⟨hdone', collected', hcollect', rfl⟩
  rw [hdone] at hdone'
  cases hdone'
  rw [hcollect] at hcollect'
  rw [Except.ok.inj hcollect']
  exact ⟨rfl, rfl⟩

/-! ## Submissions over HTTP -/

section Submit

variable (codecs : Codecs) (world : World)

/-- The hub's answer to a submission over HTTP. -/
def SubmitReplies (client : HubClient) (tx : Bytes) (resp : Response) (body : Bytes) : Prop :=
  ∃ frame, Wire.encodeSubmit world.submitNonce tx = .ok frame ∧
    HubReplies world (client.request "/" frame) resp body

/-- What becomes of a submission over HTTP. -/
inductive HttpSubmit (client : HubClient) (tx : Bytes) : Except Failure Submit → Prop where
  | tooLarge : Wire.maxNymTxBytes < tx.length →
      HttpSubmit client tx (.ok (.tooLarge Wire.maxNymTxBytes))
  | refused {resp body} : SubmitReplies world client tx resp body → resp.status = 413 →
      HttpSubmit client tx (.ok (.tooLarge Wire.frameBytes))
  | disposed {resp body parsed} : SubmitReplies world client tx resp body → resp.status ≠ 413 →
      codecs.parseHubResponse body = .ok parsed → HttpSubmit client tx (.ok parsed.verdict)
  | unparsable {resp body err} : SubmitReplies world client tx resp body → resp.status ≠ 413 →
      codecs.parseHubResponse body = .error err → HttpSubmit client tx (.error (.err err))
  | failed {err} : tx.length ≤ Wire.maxNymTxBytes →
      (∀ resp body, ¬ SubmitReplies world client tx resp body) →
      HttpSubmit client tx (.error (.err err))

variable {codecs world}

theorem httpSubmit (client : HubClient) (tx : Bytes) :
    HttpSubmit codecs world client tx (client.submit codecs world tx).result := by
  unfold HubClient.submit
  by_cases hbudget : tx.length ≤ Wire.maxNymTxBytes
  · have hencode : Wire.encodeSubmit world.submitNonce tx = _ := Wire.encodeSubmit_eq hbudget
    rw [hencode]
    simp only
    by_cases hreplies : ∃ resp body, HubReplies world
        (client.request "/" (padTo Wire.frameBytes (Wire.submitLayout (world.submitNonce, tx))))
        resp body
    · rcases hreplies with ⟨resp, body, hreply⟩
      have hsubmit : SubmitReplies world client tx resp body := ⟨_, hencode, hreply⟩
      rw [Traced.bind_of_ok (roundTrip_ok_iff.mpr hreply)]
      by_cases hstatus : resp.status = 413
      · simp only [hstatus, if_true]
        exact .refused hsubmit hstatus
      · simp only [hstatus, if_false]
        cases hparse : codecs.parseHubResponse body with
        | ok parsed => exact .disposed hsubmit hstatus hparse
        | error err => exact .unparsable hsubmit hstatus hparse
    · have hnone : ∀ resp body, ¬ SubmitReplies world client tx resp body := by
        rintro resp body ⟨frame, hframe, hreply⟩
        rw [hencode] at hframe
        cases hframe
        exact hreplies ⟨resp, body, hreply⟩
      obtain ⟨err, herr⟩ := roundTrip_error "hub submission timed out"
        fun resp body hreply => hreplies ⟨resp, body, hreply⟩
      rw [Traced.bind_of_error herr]
      exact .failed hbudget hnone
  · rw [Wire.encodeSubmit_over hbudget]
    exact .tooLarge (Nat.lt_of_not_le hbudget)

/-- A transaction over budget costs no exchange. -/
theorem trace_submit_tooLarge {client : HubClient} {tx : Bytes}
    (h : Wire.maxNymTxBytes < tx.length) : (client.submit codecs world tx).trace = [] := by
  unfold HubClient.submit
  rw [Wire.encodeSubmit_over (Nat.not_le_of_lt h)]
  rfl

theorem submitReplies_unique {client : HubClient} {tx : Bytes} {resp resp' : Response}
    {body body' : Bytes} (h : SubmitReplies world client tx resp body)
    (h' : SubmitReplies world client tx resp' body') : resp = resp' ∧ body = body' := by
  rcases h with ⟨frame, hframe, hreply⟩
  rcases h' with ⟨frame', hframe', hreply'⟩
  rw [hframe] at hframe'
  cases hframe'
  exact hubReplies_unique hreply hreply'

theorem submitReplies_budget {client : HubClient} {tx : Bytes} {resp : Response} {body : Bytes}
    (h : SubmitReplies world client tx resp body) : tx.length ≤ Wire.maxNymTxBytes := by
  rcases h with ⟨frame, hframe, -⟩
  exact Calls.encodeSubmit_budget hframe

/-- An answer that is not a refusal of the size is taken at its word. -/
theorem submit_of_replies {client : HubClient} {tx : Bytes} {resp : Response} {body : Bytes}
    (hsubmit : SubmitReplies world client tx resp body) (hstatus : resp.status ≠ 413) :
    (client.submit codecs world tx).result =
      match codecs.parseHubResponse body with
      | .ok parsed => .ok parsed.verdict
      | .error err => .error (.err err) := by
  have hcases : HttpSubmit codecs world client tx _ := httpSubmit client tx
  have hbudget := submitReplies_budget hsubmit
  generalize (client.submit codecs world tx).result = result at hcases
  cases hcases with
  | tooLarge hover => exact absurd hover (Nat.not_lt_of_le hbudget)
  | refused hother hrefused =>
    rcases submitReplies_unique hsubmit hother with ⟨rfl, -⟩
    exact absurd hrefused hstatus
  | disposed hother _ hparse =>
    rcases submitReplies_unique hsubmit hother with ⟨-, rfl⟩
    rw [hparse]
  | unparsable hother _ hparse =>
    rcases submitReplies_unique hsubmit hother with ⟨-, rfl⟩
    rw [hparse]
  | failed _ hnone => exact absurd hsubmit (hnone _ _)

end Submit

/-! ## What a diverted submission is answered with -/

/-- A submission over the mixnet: a call in some run of the calls on a handle, and what it
returned. -/
structure NymSubmission (tx : Bytes) (result : Except NymError Unit) where
  timeout : Nat
  dispatchTimeout : Nat
  trace : List Calls.Observed
  state : Calls
  index : Nat
  call : SubmitCall
  runs : Runs Calls.step (Calls.initial timeout dispatchTimeout) trace state
  found : state.submits[index]? = some call
  carries : call.tx = tx
  returned : call.phase = .returned result

/-- The requests of a submission that the transport accepted. -/
def NymSubmission.handed {tx : Bytes} {result : Except NymError Unit}
    (submission : NymSubmission tx result) : List Nym.Request :=
  Calls.handedOf (Calls.submitLog submission.index submission.trace)

theorem NymSubmission.honest {tx : Bytes} {result : Except NymError Unit}
    (submission : NymSubmission tx result) :
    Calls.SubmitHonest submission.trace submission.index submission.call result :=
  Calls.submit_honest submission.runs submission.found submission.returned

section Divert

variable (codecs : Codecs) (world : World)

/-- What the wallet hears of a transaction sent over HTTP. -/
structure HttpDiverted (client : HubClient) (tx : Bytes) (reply : Except Failure Response)
    (actions : List Action) : Prop where
  /-- Success is the hub's word. -/
  success : ∀ message, reply = .ok (grpcSendResponse codecs 0 message) →
    ∃ resp body parsed, SubmitReplies world client tx resp body ∧
      codecs.parseHubResponse body = .ok parsed ∧
      (parsed.disposition = "accepted" ∨ parsed.disposition = "already_known")
  tooLarge : Wire.maxNymTxBytes < tx.length →
    Refuses grpcResourceExhausted reply ∧ LeavesHub actions
  refused : ∀ resp body, SubmitReplies world client tx resp body → resp.status = 413 →
    Refuses grpcResourceExhausted reply
  rejected : ∀ resp body parsed, SubmitReplies world client tx resp body → resp.status ≠ 413 →
    codecs.parseHubResponse body = .ok parsed → parsed.disposition ≠ "accepted" →
    parsed.disposition ≠ "already_known" →
    ∃ reason, reply = .ok (grpcSendResponse codecs (-1) reason)
  unparsable : ∀ resp body err, SubmitReplies world client tx resp body → resp.status ≠ 413 →
    codecs.parseHubResponse body = .error err → Refuses grpcUnavailable reply
  failed : tx.length ≤ Wire.maxNymTxBytes →
    (∀ resp body, ¬ SubmitReplies world client tx resp body) → Refuses grpcUnavailable reply

/-- What the wallet hears of a transaction sent over the mixnet. -/
structure NymDiverted (tx : Bytes) (reply : Except Failure Response)
    (submission : NymSubmission tx (world.nymSubmit tx)) : Prop where
  /-- Success is a frame of the transaction that the transport accepted. -/
  success : ∀ message, reply = .ok (grpcSendResponse codecs 0 message) →
    ∃ request ∈ submission.handed, Calls.Carries tx request ∧
      .transport (.accepted request) ∈ submission.trace
  tooLarge : 0 < submission.call.targets → Wire.maxNymTxBytes < tx.length →
    Refuses grpcResourceExhausted reply
  silent : Wire.maxNymTxBytes < tx.length → submission.handed = []
  failed : tx.length ≤ Wire.maxNymTxBytes → world.nymSubmit tx ≠ .ok () →
    Refuses grpcUnavailable reply
  /-- No address was known. -/
  unaddressed : submission.call.targets = 0 → Refuses grpcUnavailable reply

/-- What the wallet hears of a submission that is treated as a migration. -/
structure Diverted (hub : HubTransport) (txData : Option Bytes)
    (reply : Except Failure Response) (actions : List Action) : Prop where
  unread : txData = none → Refuses grpcUnavailable reply ∧ LeavesHub actions
  empty : txData = some [] → Refuses grpcInvalidArgument reply ∧ LeavesHub actions
  success : ∀ message, reply = .ok (grpcSendResponse codecs 0 message) →
    ∃ tx, txData = some tx ∧ tx ≠ []
  http : ∀ client tx, hub = .http client → txData = some tx → tx ≠ [] →
    HttpDiverted codecs world client tx reply actions
  nym : ∀ tx, hub = .nym → txData = some tx → tx ≠ [] →
    ∀ submission : NymSubmission tx (world.nymSubmit tx),
      NymDiverted codecs world tx reply submission

variable {codecs world}

theorem grpcSendResponse_ne_grpcError (code : Int) (message : String) (status : Nat)
    (text : String) : grpcError status text ≠ grpcSendResponse codecs code message :=
  grpcError_ne_grpcUnary _ _ _

variable (codecs) in
/-- The verdict of a parsed answer is a success only for two dispositions. -/
theorem answerSubmit_verdict (parsed : HubResponse) :
    (∃ message, (answerSubmit codecs (.ok parsed.verdict)).result =
        .ok (grpcSendResponse codecs 0 message) ∧
      (parsed.disposition = "accepted" ∨ parsed.disposition = "already_known")) ∨
    ((answerSubmit codecs (.ok parsed.verdict)).result =
        .ok (grpcSendResponse codecs (-1) (parsed.reason.getD parsed.disposition)) ∧
      parsed.disposition ≠ "accepted" ∧ parsed.disposition ≠ "already_known") := by
  unfold HubResponse.verdict
  by_cases haccepted : parsed.disposition = "accepted"
  · rw [if_pos haccepted]
    exact .inl ⟨_, rfl, .inl haccepted⟩
  · rw [if_neg haccepted]
    by_cases hknown : parsed.disposition = "already_known"
    · rw [if_pos hknown]
      exact .inl ⟨_, rfl, .inr hknown⟩
    · rw [if_neg hknown]
      exact .inr ⟨rfl, haccepted, hknown⟩

theorem httpDiverted (hzero : ∀ message reason,
      codecs.encodeSendResponse ⟨0, message⟩ ≠ codecs.encodeSendResponse ⟨-1, reason⟩)
    (client : HubClient) (tx : Bytes) {reply : Except Failure Response}
    (hreply : reply = (answerSubmit codecs (client.submit codecs world tx).result).result) :
    HttpDiverted codecs world client tx reply
      ((client.submit codecs world tx).handle (answerSubmit codecs)).trace := by
  have hcases : HttpSubmit codecs world client tx _ := httpSubmit client tx
  constructor
  · rintro message hsuccess
    rw [hsuccess] at hreply
    generalize (client.submit codecs world tx).result = result at hcases hreply
    cases hcases with
    | tooLarge | refused | unparsable | failed =>
      exact absurd (Except.ok.inj hreply).symm (grpcSendResponse_ne_grpcError _ _ _ _)
    | @disposed resp body parsed hsubmit hstatus hparse =>
      refine ⟨resp, body, parsed, hsubmit, hparse, ?_⟩
      rcases answerSubmit_verdict codecs parsed with
        ⟨text, -, hdisposition⟩ | ⟨hrejected, -, -⟩
      · exact hdisposition
      · rw [hrejected] at hreply
        exact absurd (grpcUnary_injective (Except.ok.inj hreply)) (hzero _ _)
  · intro hover
    have hresult : (client.submit codecs world tx).result =
        .ok (.tooLarge Wire.maxNymTxBytes) := by
      unfold HubClient.submit
      rw [Wire.encodeSubmit_over (Nat.not_le_of_lt hover)]
      rfl
    rw [hreply, hresult]
    refine ⟨⟨_, rfl⟩, ?_⟩
    refine Traced.Emits.handle ?_ fun verdict _ =>
      emits_answerSubmit contactsHub_log codecs verdict
    intro action hmem
    rw [trace_submit_tooLarge hover] at hmem
    cases hmem
  · intro resp body hsubmit hstatus
    rw [hreply]
    generalize (client.submit codecs world tx).result = result at hcases
    cases hcases with
    | tooLarge | refused => exact ⟨_, rfl⟩
    | disposed hother hnot | unparsable hother hnot =>
      rcases submitReplies_unique hsubmit hother with ⟨rfl, -⟩
      exact absurd hstatus hnot
    | failed _ hnone => exact absurd hsubmit (hnone _ _)
  · intro resp body parsed hsubmit hstatus hparse haccepted hknown
    rw [hreply, submit_of_replies hsubmit hstatus, hparse]
    rcases answerSubmit_verdict codecs parsed with
      ⟨text, -, hdisposition⟩ | ⟨hrejected, -, -⟩
    · exact absurd hdisposition (by simp [haccepted, hknown])
    · exact ⟨_, hrejected⟩
  · intro resp body err hsubmit hstatus hparse
    rw [hreply, submit_of_replies hsubmit hstatus, hparse]
    exact ⟨_, rfl⟩
  · intro hbudget hnone
    rw [hreply]
    generalize (client.submit codecs world tx).result = result at hcases
    cases hcases with
    | tooLarge hover => omega
    | refused hother | disposed hother | unparsable hother => exact absurd hother (hnone _ _)
    | failed => exact ⟨_, rfl⟩

/-- The verdict of the mixnet on a submission, but for the local id. -/
theorem nymSubmit_error {tx : Bytes} {err : NymError} (h : world.nymSubmit tx = .error err)
    (hencode : ∀ len budget, err ≠ .encode (.txTooLarge len budget)) :
    (HubTransport.submit codecs world .nym tx).result = .error (.err err.text) := by
  unfold HubTransport.submit
  rw [Traced.bind_of_ok (Traced.result_act _ _), h]
  cases err with
  | encode wire =>
    cases wire with
    | txTooLarge len budget => exact absurd rfl (hencode len budget)
    | _ => rfl
  | _ => rfl

theorem nymSubmit_tooLarge {tx : Bytes} {len budget : Nat}
    (h : world.nymSubmit tx = .error (.encode (.txTooLarge len budget))) :
    (HubTransport.submit codecs world .nym tx).result = .ok (.tooLarge budget) := by
  unfold HubTransport.submit
  rw [Traced.bind_of_ok (Traced.result_act _ _), h]
  rfl

theorem nymDiverted (tx : Bytes) {reply : Except Failure Response}
    (hreply : reply =
      (answerSubmit codecs (HubTransport.submit codecs world .nym tx).result).result)
    (submission : NymSubmission tx (world.nymSubmit tx)) :
    NymDiverted codecs world tx reply submission := by
  have hhonest := submission.honest
  have htx := submission.carries
  -- the size error is the one error that is not answered with unavailability
  have unavailable (hfailed : world.nymSubmit tx ≠ .ok ())
      (hsize : ¬ (0 < submission.call.targets ∧ Wire.maxNymTxBytes < submission.call.tx.length)) :
      Refuses grpcUnavailable reply := by
    obtain ⟨err, herr⟩ : ∃ err, world.nymSubmit tx = .error err := by
      cases hresult : world.nymSubmit tx with
      | ok => exact absurd hresult hfailed
      | error err => exact ⟨err, rfl⟩
    rw [hreply, nymSubmit_error herr ?_]
    · exact ⟨_, rfl⟩
    · rintro len budget rfl
      have hover := hhonest.encode _ herr
      exact hsize (hhonest.tooLarge_iff.mp (hover ▸ herr))
  have unhanded (htargets : submission.call.targets = 0) : submission.handed = [] :=
    List.length_eq_zero_iff.mp (Nat.le_zero.mp (htargets ▸ hhonest.le))
  constructor
  · intro message hsuccess
    by_cases hok : world.nymSubmit tx = .ok ()
    · rcases List.exists_mem_of_ne_nil _ (hhonest.ok_iff.mp hok) with ⟨request, hmem⟩
      exact ⟨request, hmem, htx ▸ hhonest.carries request hmem, hhonest.accepted request hmem⟩
    · by_cases hsize : 0 < submission.call.targets ∧
          Wire.maxNymTxBytes < submission.call.tx.length
      · rw [hsuccess, nymSubmit_tooLarge (hhonest.tooLarge_iff.mpr hsize)] at hreply
        exact absurd (Except.ok.inj hreply).symm (grpcSendResponse_ne_grpcError _ _ _ _)
      · rcases unavailable hok hsize with ⟨text, hrefused⟩
        rw [hsuccess] at hrefused
        exact absurd (Except.ok.inj hrefused).symm (grpcSendResponse_ne_grpcError _ _ _ _)
  · intro htargets hover
    rw [← htx] at hover
    rw [hreply, nymSubmit_tooLarge (hhonest.tooLarge_iff.mpr ⟨htargets, hover⟩)]
    exact ⟨_, rfl⟩
  · intro hover
    rcases Nat.eq_zero_or_pos submission.call.targets with htargets | htargets
    · exact unhanded htargets
    · rw [← htx] at hover
      have hresult := hhonest.tooLarge_iff.mpr ⟨htargets, hover⟩
      by_contra hsome
      have hok := hhonest.ok_iff.mpr hsome
      rw [hresult] at hok
      cases hok
  · intro hbudget hfailed
    refine unavailable hfailed fun hsize => ?_
    rw [htx] at hsize
    exact absurd hsize.2 (Nat.not_lt_of_le hbudget)
  · intro htargets
    refine unavailable (fun hok => ?_) fun hsize => ?_
    · exact hhonest.ok_iff.mp hok (unhanded htargets)
    · exact absurd htargets (Nat.ne_of_gt hsize.1)

/-- A transaction that is there is submitted. -/
theorem divert_some {hub : HubTransport} {tx : Bytes} (htx : tx ≠ []) :
    divert codecs world hub (some tx) =
      (hub.submit codecs world tx).handle (answerSubmit codecs) := by
  simp only [divert]
  rw [if_neg (by simpa using htx)]

/-- A diverted submission is always answered, short of a panic. -/
theorem divert_answers (hub : HubTransport) (txData : Option Bytes) (msg : String) :
    (divert codecs world hub txData).result ≠ .error (.err msg) := by
  have answers (verdict : Except Failure Submit) :
      (answerSubmit codecs verdict).result ≠ .error (.err msg) := by
    intro h
    unfold answerSubmit at h
    split at h <;> cases h
  cases txData with
  | none => intro h; cases h
  | some tx =>
    by_cases htx : tx = []
    · subst htx
      intro h
      cases h
    · rw [divert_some htx]
      exact answers _

section Handle

variable {hub : HubTransport} {caution : CautionRelay} {status : MixnetStatus} {req : Request}
variable {collected : Collected}

variable (world hub) in
/-- A migration is diverted, after some log lines. -/
theorem sendTransaction_of_migration
    (hread : req.body.collect maxSendTxBytes = .ok collected)
    (hmigration : (inspect codecs req.headers collected.data).1.treatAsMigration = true) :
    ∃ front, LeavesHub front ∧ sendTransaction codecs world (some hub) req =
      ⟨front ++ (divert codecs world hub (inspect codecs req.headers collected.data).2).trace,
        (divert codecs world hub (inspect codecs req.headers collected.data).2).result⟩ := by
  let inspection := (inspect codecs req.headers collected.data).1
  have hverdict : LeavesHub (logVerdict inspection collected.data).trace :=
    emits_logVerdict contactsHub_log inspection collected.data
  have hreport : LeavesHub (reportBranch world inspection).trace :=
    emits_reportBranch (P := fun action => action.contactsHub = false) contactsHub_log rfl world
      inspection
  refine ⟨_, hverdict.append hreport, ?_⟩
  unfold sendTransaction
  rw [hread]
  simp only
  rw [Traced.bind_of_ok (result_logVerdict _ _), Traced.bind_of_ok (result_reportBranch _ _),
    if_pos hmigration, List.append_assoc]

variable (world hub caution status) in
/-- And what the wallet hears is what diverting it answers. -/
theorem handle_of_migration
    (hroute : routeFor req.uri.path = .intercept ∨ routeFor req.uri.path = .interceptNearMiss)
    (hread : req.body.collect maxSendTxBytes = .ok collected)
    (hmigration : (inspect codecs req.headers collected.data).1.treatAsMigration = true) :
    ∃ front, LeavesHub front ∧ handle codecs world (some hub) caution status req =
      ⟨front ++ (divert codecs world hub (inspect codecs req.headers collected.data).2).trace,
        (divert codecs world hub (inspect codecs req.headers collected.data).2).result⟩ := by
  rcases sendTransaction_of_migration world hub hread hmigration with ⟨front, hfront, hsend⟩
  have hdispatch : ∃ front, LeavesHub front ∧
      dispatch codecs world (some hub) caution status req =
      ⟨front ++ (divert codecs world hub (inspect codecs req.headers collected.data).2).trace,
        (divert codecs world hub (inspect codecs req.headers collected.data).2).result⟩ := by
    unfold dispatch
    rcases hroute with hroute | hroute <;> rw [hroute]
    · exact ⟨front, hfront, hsend⟩
    · simp only
      rw [Traced.bind_of_ok (a := ()) rfl, hsend]
      refine ⟨_ ++ front, LeavesHub.append ?_ hfront, by rw [List.append_assoc]⟩
      exact emits_logEvent contactsHub_log _ _ _ _
  rcases hdispatch with ⟨front, hfront, hdispatch⟩
  have hanswers (msg : String) :
      (dispatch codecs world (some hub) caution status req).result ≠ .error (.err msg) := by
    rw [hdispatch]
    exact divert_answers hub _ msg
  refine ⟨front, hfront, ?_⟩
  rw [handle_of_answers hanswers, hdispatch]

end Handle

/-- What the wallet hears of a submission treated as a migration, whatever the hub and the
transport to it do.  Success is never invented, and nothing is asked of the hub for bytes
that are absent or empty. -/
theorem divert_honest {hub : HubTransport} {caution : CautionRelay} {status : MixnetStatus}
    {req : Request} {collected : Collected}
    (hzero : ∀ message reason,
      codecs.encodeSendResponse ⟨0, message⟩ ≠ codecs.encodeSendResponse ⟨-1, reason⟩)
    (hroute : routeFor req.uri.path = .intercept ∨ routeFor req.uri.path = .interceptNearMiss)
    (hread : req.body.collect maxSendTxBytes = .ok collected)
    (hmigration : (inspect codecs req.headers collected.data).1.treatAsMigration = true) :
    Diverted codecs world hub (inspect codecs req.headers collected.data).2
      (handle codecs world (some hub) caution status req).result
      (handle codecs world (some hub) caution status req).trace := by
  obtain ⟨front, hfront, hhandle⟩ := handle_of_migration world hub caution status hroute
    hread hmigration
  rw [hhandle]
  generalize (inspect codecs req.headers collected.data).2 = txData
  constructor
  · rintro rfl
    exact ⟨⟨_, rfl⟩, hfront.append <|
      Traced.Emits.bind (emits_logEvent contactsHub_log _ _ _ _) fun _ _ => .pure _⟩
  · rintro rfl
    exact ⟨⟨_, rfl⟩, hfront.append <|
      Traced.Emits.bind (emits_logEvent contactsHub_log _ _ _ _) fun _ _ => .pure _⟩
  · intro message hsuccess
    cases txData with
    | none => exact absurd (Except.ok.inj hsuccess) (grpcSendResponse_ne_grpcError _ _ _ _)
    | some tx =>
      refine ⟨tx, rfl, ?_⟩
      rintro rfl
      exact absurd (Except.ok.inj hsuccess) (grpcSendResponse_ne_grpcError _ _ _ _)
  · rintro client tx rfl rfl htx
    rw [divert_some htx]
    have hhttp : HttpDiverted codecs world client tx _ _ := httpDiverted hzero client tx rfl
    exact { hhttp with tooLarge := fun hover => ⟨(hhttp.tooLarge hover).1,
      hfront.append (hhttp.tooLarge hover).2⟩ }
  · rintro tx rfl rfl htx submission
    rw [divert_some htx]
    exact nymDiverted tx rfl submission

/-! ## A transaction over budget without an address -/

theorem protoCodecs_errorCode (message reason : String) :
    protoCodecs.encodeSendResponse ⟨0, message⟩ ≠ protoCodecs.encodeSendResponse ⟨-1, reason⟩ := by
  intro h
  have hfields := congrArg Protobuf.decodeFields h
  simp only [protoCodecs, Protobuf.decodeFields_encodeFields, Option.some.injEq,
    Protobuf.ofVarint, Protobuf.ofBytes] at hfields
  split_ifs at hfields <;> simp_all

/-- The least version 1 transaction with zeros behind it. -/
def paddedV1 (n : Nat) : Bytes := emptyV1Bytes ++ zeros n

theorem length_paddedV1 (n : Nat) : (paddedV1 n).length = 10 + n := by
  simp [paddedV1, emptyV1Bytes]
  omega

/-- Bytes behind a transaction make it unreadable to the classifier. -/
theorem classify_paddedV1 {n : Nat} (h : 0 < n) :
    classify protoCodecs.libs (paddedV1 n) = .unparseable := by
  rw [classify_eq_unparseable_iff]
  intro tx hparse
  have hfront : Transaction.zcashDeserialize protoCodecs.libs (paddedV1 n) = .ok (emptyV1, 10) :=
    Transaction.zcashDeserialize_append emptyV1_deserialize (zeros n)
  rw [hparse, length_paddedV1] at hfront
  have hposition := (Prod.mk.inj (Except.ok.inj hfront)).2
  omega

/-- A wallet's submission of some transaction bytes. -/
def sendOf (tx : Bytes) : Request where
  method := "POST"
  uri := ⟨none, none, some ⟨sendTransactionPath, none⟩⟩
  headers := ⟨[]⟩
  body := .full (grpcFrame (protoCodecs.encodeRawTransaction ⟨tx, 0⟩))

theorem length_encodeRawTransaction (tx : Bytes) :
    (protoCodecs.encodeRawTransaction ⟨tx, 0⟩).length ≤ 2 * tx.length + 12 := by
  have hkey := Protobuf.length_encodeVarint 10
  have hlen := Protobuf.length_encodeVarint tx.length
  by_cases htx : tx = []
  · simp [protoCodecs, Protobuf.ofBytes, Protobuf.ofVarint, Protobuf.encodeFields, htx]
  · simp [protoCodecs, Protobuf.ofBytes, Protobuf.ofVarint, Protobuf.encodeFields,
      Protobuf.encodeField, htx]
    omega

/-- Its body is read in full. -/
theorem collect_sendOf {tx : Bytes} (h : tx.length ≤ 2 ^ 20 + 10) :
    (sendOf tx).body.collect maxSendTxBytes =
      .ok ⟨grpcFrame (protoCodecs.encodeRawTransaction ⟨tx, 0⟩), none⟩ := by
  have hmessage := length_encodeRawTransaction tx
  have hframe : (grpcFrame (protoCodecs.encodeRawTransaction ⟨tx, 0⟩)).length =
      5 + (protoCodecs.encodeRawTransaction ⟨tx, 0⟩).length := by
    simp [grpcFrame]
    omega
  apply Body.collect_full
  rw [hframe, maxSendTxBytes]
  omega

/-- It is unwrapped and classified, whatever reads the transaction. -/
theorem inspect_sendOf {codecs : Codecs} {tx : Bytes} (h : tx.length ≤ 2 ^ 20 + 10)
    (hdecode : codecs.decodeRawTransaction = protoCodecs.decodeRawTransaction) :
    inspect codecs (sendOf tx).headers (grpcFrame (protoCodecs.encodeRawTransaction ⟨tx, 0⟩)) =
      (.classified (classifyWithEvidence codecs.libs tx), some tx) := by
  have hmessage := length_encodeRawTransaction tx
  apply inspect_eq_classified_iff.mpr
  refine ⟨rfl, _, ⟨tx, 0⟩, by omega, rfl, ?_, rfl, rfl⟩
  rw [hdecode]
  exact protoCodecs_roundTrip _

/-- It is read, unwrapped and treated as a migration. -/
theorem sendOf_migration {n : Nat} (hpos : 0 < n) (hle : n ≤ 2 ^ 20) :
    ∃ collected, (sendOf (paddedV1 n)).body.collect maxSendTxBytes = .ok collected ∧
      (inspect protoCodecs (sendOf (paddedV1 n)).headers collected.data).1.treatAsMigration = true ∧
      (inspect protoCodecs (sendOf (paddedV1 n)).headers collected.data).2 =
        some (paddedV1 n) := by
  have hlen : (paddedV1 n).length ≤ 2 ^ 20 + 10 := by
    rw [length_paddedV1]
    omega
  have hclass := classify_paddedV1 hpos
  refine ⟨_, collect_sendOf hlen, ?_, ?_⟩
  · rw [inspect_sendOf hlen rfl]
    simp only [classify] at hclass
    simp only [Inspection.treatAsMigration, hclass]
    rfl
  · rw [inspect_sendOf hlen rfl]

theorem routeFor_sendOf (tx : Bytes) : routeFor (sendOf tx).uri.path = .intercept := by
  have hpath : routeFor sendTransactionPath = .intercept := by decide
  exact hpath

/-- A hub that answers a submission with bytes that are no JSON. -/
theorem divert_honest_unparsable : ∃ txData,
    Diverted protoCodecs (hubAnswering emptyV1Bytes) (.http ⟨"127.0.0.1:8090"⟩) txData
      (handle protoCodecs (hubAnswering emptyV1Bytes) (some (.http ⟨"127.0.0.1:8090"⟩))
        ⟨false, ""⟩ .initial (sendOf (paddedV1 1))).result
      (handle protoCodecs (hubAnswering emptyV1Bytes) (some (.http ⟨"127.0.0.1:8090"⟩))
        ⟨false, ""⟩ .initial (sendOf (paddedV1 1))).trace := by
  obtain ⟨collected, hread, hmigration, -⟩ := sendOf_migration (n := 1) (by omega) (by omega)
  exact ⟨_, divert_honest protoCodecs_errorCode (.inl (routeFor_sendOf _)) hread hmigration⟩

/-- The size of a transaction that is treated as a migration is not what the wallet hears of
before an address is known. -/
theorem oversized_unavailable : ¬ ∀ world tx collected, Wire.maxNymTxBytes < tx.length →
    (sendOf tx).body.collect maxSendTxBytes = .ok collected →
    (inspect protoCodecs (sendOf tx).headers collected.data).1.treatAsMigration = true →
    Nonempty (NymSubmission tx (world.nymSubmit tx)) →
    Refuses grpcResourceExhausted
      (handle protoCodecs world (some .nym) ⟨false, ""⟩ .initial (sendOf tx)).result := by
  intro hclaim
  let world := hubAnswering []
  let tx := paddedV1 65494
  have hover : Wire.maxNymTxBytes < tx.length := by
    rw [length_paddedV1, Wire.maxNymTxBytes_eq]
    omega
  have htx : tx ≠ [] := List.ne_nil_of_length_pos (by rw [length_paddedV1]; omega)
  let submission : NymSubmission tx (world.nymSubmit tx) :=
    { timeout := 90000
      dispatchTimeout := 5000
      trace := _
      state := _
      index := 0
      call := _
      runs := Runs.single (e := .startSubmit tx) rfl
      found := rfl
      carries := rfl
      returned := rfl }
  obtain ⟨collected, hread, hmigration, hdata⟩ :=
    sendOf_migration (n := 65494) (by omega) (by omega)
  obtain ⟨front, -, hhandle⟩ := handle_of_migration world .nym ⟨false, ""⟩ .initial
    (.inl (routeFor_sendOf tx)) hread hmigration
  have hdiverted : NymDiverted protoCodecs world tx _ submission := nymDiverted tx rfl submission
  rcases hdiverted.unaddressed rfl with ⟨message, hrefused⟩
  have hresult := hclaim world tx collected hover hread hmigration ⟨submission⟩
  rw [hhandle, hdata, divert_some htx] at hresult
  simp only [Traced.handle, hrefused] at hresult
  exact absurd (status_of_refuses hresult) (by decide)

end Divert

end ZeroShim
