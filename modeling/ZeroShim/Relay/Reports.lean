import ZeroShim.Relay.Seats

/-!
# What a wallet is told, and what became of it

The answers of the whole shim, held against the one outbound path.

Main results:

- Theorem {lit}`submission_reported`: what is told of a submission.
- Theorem {lit}`lookup_reported`: what is shown for a lookup.
- Theorem {lit}`calls_commissioned`: what the mixnet carries, wallets asked for.
-/

namespace ZeroShim
namespace Relay

open Library Nym

/-! ## The outbound path alone -/

@[simp] def Observed.outbound? : Observed → Option Outbound.Observed
  | .outbound o => some o
  | _ => none

def outboundTrace (t : List Observed) : List Outbound.Observed := t.filterMap Observed.outbound?

section Parts

variable (t t' : List Observed)

@[simp] theorem outboundTrace_append :
    outboundTrace (t ++ t') = outboundTrace t ++ outboundTrace t' :=
  List.filterMap_append

@[simp] theorem outboundTrace_outbound (o : List Outbound.Observed) :
    outboundTrace (o.map .outbound) = o := by
  induction o with
  | nil => rfl
  | cons x o ih => simpa [outboundTrace] using ih

@[simp] theorem outboundTrace_wallet (connection : Nat) (o : List WalletConnection.Observed) :
    outboundTrace (o.map (.wallet connection)) = [] := by
  induction o with
  | nil => rfl
  | cons x o ih => simp [outboundTrace]

end Parts

section Runs

variable {codecs : Codecs} {caution : CautionRelay} {authority : String}
variable {policy : RotationPolicy} {hubAddresses : List Recipient} {gateways : List String}
variable {timeout dispatchTimeout : Nat} {s s' : Relay} {t o : List Observed} {e : Event}

/-- Under any wallets the outbound path makes one of its own runs. -/
theorem outbound_runs (h : Runs (step codecs caution authority)
      (initial policy hubAddresses gateways timeout dispatchTimeout) t s) :
    Runs Outbound.step (.initial policy hubAddresses gateways timeout dispatchTimeout)
      (outboundTrace t) s.outbound := by
  refine h.invariant (P := fun t s => Runs Outbound.step
    (.initial policy hubAddresses gateways timeout dispatchTimeout) (outboundTrace t) s.outbound)
    .refl ?_
  intro t s e o s' _ ih hstep
  rw [outboundTrace_append]
  cases stepped_of_step hstep with
  | outbound howned houtbound =>
    rw [outboundTrace_outbound]
    exact ih.snoc houtbound
  | wallet | returns =>
    rw [outboundTrace_wallet, List.append_nil]
    exact ih
  | drops hcalling hwallet hcancel =>
    rw [outboundTrace_append, outboundTrace_wallet, outboundTrace_outbound, List.append_nil]
    rcases hcancel with hcancel | ⟨rfl, rfl⟩
    · exact ih.snoc hcancel
    · rw [List.append_nil]
      exact ih
  | @begins seat errand outbound o hcalling hnext houtbound =>
    have hbegan : outboundTrace (.began seat errand (nextCall s.outbound.calls errand) ::
        o.map .outbound) = o := outboundTrace_outbound o
    rw [hbegan]
    exact ih.snoc houtbound

/-! ## Answers -/

/-- An answer is that of the last request at its seat, whose one call, if it asks anything of
the hub, returned what the answer is made of. -/
theorem answered_of_runs (h : Runs (step codecs caution authority)
      (initial policy hubAddresses gateways timeout dispatchTimeout) t s)
    (hstep : s.step codecs caution authority e = some (s', o)) (seat : Seat)
    {result : Except Failure Response}
    (hanswered : .wallet seat.connection ⟨seat.stream, .answered result⟩ ∈ o) :
    ∃ now world, occasion seat t = some now ∧
      result = (handle codecs world (some .nym) caution now.status now.req).result ∧
      ∀ asks, errand codecs now.req = some asks → ∃ call, now.calls = [call] ∧
        errandOf s.outbound.calls call = some asks ∧
        agrees s.outbound.calls world call = true := by
  have hmarks : Observed.marks seat
      (.wallet seat.connection ⟨seat.stream, .answered result⟩) = true := by
    simp [Observed.marks, WalletConnection.Deed.bounds]
  have hnot {o' : List Observed} (hunmarked : Unmarked seat o')
      (hmem : .wallet seat.connection ⟨seat.stream, .answered result⟩ ∈ o') : False := by
    rw [hunmarked _ hmem] at hmarks
    cases hmarks
  cases fared_of_stepped (stepped_of_step hstep) seat with
  | stays _ _ hunmarked | acts _ _ _ _ _ hunmarked | returns _ _ _ _ _ _ hunmarked
  | leaves _ _ hunmarked => exact (hnot hunmarked hanswered).elim
  | arrives _ _ _ ho =>
    rw [ho] at hanswered
    simp at hanswered
  | begins _ _ _ _ _ _ _ ho hunmarked =>
    rw [ho] at hanswered
    rcases List.mem_cons.mp hanswered with heq | hmem
    · cases heq
    · exact (hnot hunmarked hmem).elim
  | @answers stream hsome htodo _ _ ho =>
    rw [ho] at hanswered
    obtain rfl : result = stream.result := by simpa using hanswered
    rcases (seated_of_runs h seat).of_some hsome with ⟨now, hnow, hresult, hstage⟩
    refine ⟨now, stream.world, hnow, hresult, ?_⟩
    intro asks herrand
    cases hstage with
    | due hnone hidle hasked =>
      rw [htodo, herrand] at hasked
      cases hasked
    | waits _ _ _ hsome => cases htodo.symm.trans hsome
    | done herrand' hcalls hidle hasked hcall hagrees =>
      cases herrand.symm.trans herrand'
      exact ⟨_, hcalls, hcall, hagrees⟩

/-! ## A submission -/

theorem step_outbound {e : Outbound.Event} {outbound : Outbound} {o : List Outbound.Observed}
    (howned : isOwned e = false) (h : s.outbound.step e = some (outbound, o)) :
    s.step codecs caution authority (.outbound e) =
      some ({ s with outbound }, o.map .outbound) := by
  simp [step, howned, h]

/-- An environment that has a submission succeed. -/
def handsOver : World := { hubAnswering [] with nymSubmit := fun _ => .ok () }

/-- A wallet is told of a submission that was handed over. -/
theorem told_runs : ∃ t s s' o now, Runs (step protoCodecs ⟨false, ""⟩ "127.0.0.1:9067")
        (initial .never ["hub"] [] 90000 5000) t s ∧
      s.step protoCodecs ⟨false, ""⟩ "127.0.0.1:9067" (.wallet 0 (.stream 1 .finish)) =
        some (s', o) ∧
      .wallet 0 ⟨1, .answered (.ok (grpcSendResponse protoCodecs 0 ""))⟩ ∈ o ∧
      occasion ⟨0, 1⟩ t = some now ∧ errand protoCodecs now.req = some (.submit [0]) ∧
      errands s.outbound.calls = [.submit [0]] := by
  -- The frame stays a variable: it is padded to the length of every submission.
  obtain ⟨frame, hframe⟩ : ∃ frame,
      Wire.encodeSubmit (List.Vector.replicate 16 0) [0] = .ok frame :=
    ⟨_, Wire.encodeSubmit_eq (by rw [Wire.maxNymTxBytes_eq]; decide)⟩
  have hstart : execute (step protoCodecs ⟨false, ""⟩ "127.0.0.1:9067")
      (initial .never ["hub"] [] 90000 5000)
      [.outbound (.driver (.start 0)), .outbound (.driver (.built (some "self"))),
        .wallet 0 (.request 1 (sendOf [0]) .initial handsOver), .wallet 0 (.stream 1 .act),
        .wallet 0 (.stream 1 .act), .begins ⟨0, 1⟩] = some (_, _) := rfl
  have hframed := execute_snoc hstart (step_outbound (e := .calls (.submit 0 (.frame _))) rfl
    (Outbound.step_calls rfl (Calls.step_submit (show [_][0]? = some _ from rfl)
      (SubmitCall.step_frame rfl hframe))))
  have hsent := execute_snoc hframed (e := .outbound (.calls (.submit 0 .dispatch)))
    (show _ = some (_, _) from rfl)
  have hback := execute_snoc hsent (e := .returns ⟨0, 1⟩) (show _ = some (_, _) from rfl)
  have hlogged := execute_snoc hback (e := .wallet 0 (.stream 1 .act))
    (show _ = some (_, _) from rfl)
  exact ⟨_, _, _, _, _, Runs.of_execute hlogged, rfl, List.mem_singleton.mpr rfl, rfl, rfl,
    rfl⟩

/-! ## Submissions -/

/-- What a wallet is told of a submission, and what became of it. -/
structure SubmissionReported (codecs : Codecs) (hubAddresses : List Recipient)
    (t : List Outbound.Observed) (s : Outbound) (now : Occasion)
    (result : Except Failure Response) (tx : Bytes) (i : Nat) (call : SubmitCall) : Prop where
  /-- It made one call, for its own transaction. -/
  called : now.calls = [.submit i]
  found : s.calls.submits[i]? = some call
  carries : call.tx = tx
  /-- Success is told of a transaction that was handed over, every frame of which is accounted
  for. -/
  success : ∀ message, result = .ok (grpcSendResponse codecs 0 message) →
    0 < call.dispatched ∧
      (s.driver.phase ≠ .returned → Outbound.Accounted hubAddresses t s i call)
  /-- A refusal is told of one that was not. -/
  refusal : ∀ code, Refuses code result →
    Calls.handedOf (Calls.submitLog i (Outbound.callsTrace t)) = []

/-- A submission that failed handed nothing over. -/
theorem handedOf_of_error {call : SubmitCall} {log : List SubmitObserved} {err : NymError}
    (htells : Calls.SubmitTells call log) (houtcome : Calls.SubmitOutcome call log (.error err)) :
    Calls.handedOf log = [] := by
  have hnone : call.dispatched = 0 := by
    cases houtcome with
    | noTarget htargets => exact Nat.le_zero.mp (htargets ▸ htells.le)
    | unsent hnone => exact hnone
    | tooLarge hnone => exact hnone
  exact List.length_eq_zero_iff.mp ((Calls.length_handed htells).trans hnone)

/-- In every run of the whole shim, when a wallet is answered a submission that is diverted, one
call was made for it.  If it is told success, the transaction was handed over and every frame
of it is accounted for; if it is refused, nothing of it was handed over. -/
theorem submission_reported (h : Runs (step codecs caution authority)
      (initial policy hubAddresses gateways timeout dispatchTimeout) t s)
    (hstep : s.step codecs caution authority e = some (s', o)) (seat : Seat)
    {result : Except Failure Response}
    (hanswered : .wallet seat.connection ⟨seat.stream, .answered result⟩ ∈ o) {now : Occasion}
    (hnow : occasion seat t = some now) {tx : Bytes}
    (hasks : errand codecs now.req = some (.submit tx)) :
    ∃ i call, SubmissionReported codecs hubAddresses (outboundTrace t) s.outbound now result tx
      i call := by
  rcases answered_of_runs h hstep seat hanswered with ⟨now', world, hnow', rfl, hcalls⟩
  obtain rfl : now = now' := Option.some.inj (hnow.symm.trans hnow')
  rcases hcalls _ hasks with ⟨id, hcalled, herrand, hagrees⟩
  rcases errandOf_eq_iff.mp herrand with ⟨i, tx', rfl, heq, -⟩ | ⟨i, hash, rfl, heq, -⟩
  · cases heq
    rcases agrees_submit_iff.mp hagrees with ⟨call, hfound, hreturned⟩
    have hcarries : call.tx = tx := by simpa [errandOf, hfound] using herrand
    have hrun := outbound_runs h
    have htells := (Calls.submitTells_of_runs (Outbound.calls_runs hrun) i).2 call hfound
    have houtcome : Calls.SubmitOutcome call
        (Calls.submitLog i (Outbound.callsTrace (outboundTrace t))) (world.nymSubmit tx) := by
      simpa [Calls.PhaseTells, hreturned, hcarries] using htells.phase
    refine ⟨i, call, hcalled, hfound, hcarries, ?_, ?_⟩
    · intro message htold
      rw [sent_of_told hasks htold] at houtcome
      refine ⟨?_, fun hrunning => Outbound.accounted_of_outcome hrun hrunning htells houtcome⟩
      cases houtcome with
      | sent hpos => exact hpos
    · intro code hrefused
      rcases unsent_of_refused hasks hrefused with ⟨err, herr⟩
      rw [herr] at houtcome
      exact handedOf_of_error htells houtcome
  · cases heq

/-- A submission whose success is told. -/
theorem submission_reported_told : ∃ t s now i call,
    SubmissionReported protoCodecs ["hub"] t s now (.ok (grpcSendResponse protoCodecs 0 "")) [0]
      i call := by
  rcases told_runs with ⟨t, s, s', o, now, hrun, hstep, hanswered, hnow, hasks, -⟩
  exact ⟨_, _, now, submission_reported hrun hstep ⟨0, 1⟩ hanswered hnow hasks⟩

/-! ## Lookups -/

/-- What a wallet is told of a lookup, and where it comes from. -/
structure LookupReported (codecs : Codecs) (t : List Outbound.Observed) (s : Outbound)
    (now : Occasion) (result : Except Failure Response) (hash : Bytes) (i : Nat)
    (call : LookupCall) : Prop where
  /-- It made one call, for its own hash. -/
  called : now.calls = [.lookup i]
  found : s.calls.lookups[i]? = some call
  carries : call.hash = hash
  /-- A transaction that is shown came in a reply to an attempt of that call, and is the
  query. -/
  shown : ∀ body, result = .ok (grpcUnary body) → ∃ data height,
    Calls.Delivered (Outbound.callsTrace t) i (.found height data) ∧
      body = codecs.encodeRawTransaction ⟨data, height⟩ ∧
      lookupIsForQuery codecs.libs data hash = .ok true
  /-- It is said to be unknown only where such a reply says so, or brings another. -/
  unknown : Refuses grpcNotFound result →
    Calls.Delivered (Outbound.callsTrace t) i .notFound ∨ ∃ data height,
      Calls.Delivered (Outbound.callsTrace t) i (.found height data) ∧
        lookupIsForQuery codecs.libs data hash = .ok false

/-- What a lookup returned was delivered to it. -/
theorem delivered_of_returned {calls : Calls} {log : List Calls.Observed}
    (h : Runs Calls.step (.initial timeout dispatchTimeout) log calls) {i : Nat}
    {call : LookupCall} (hfound : calls.lookups[i]? = some call) {reply : Wire.LookupReply}
    (hreturned : call.phase = .returned (.ok reply)) : Calls.Delivered log i reply := by
  have htells := (Calls.lookupTells_of_runs rfl h i).2 call hfound
  simp only [Calls.LookupTells, hreturned] at htells
  cases htells with
  | replied _ _ _ hlog =>
    refine Calls.delivered_of_runs h (Calls.mem_lookupLog.mp ?_)
    rw [hlog]
    simp

/-- In every run of the whole shim, when a wallet is answered a lookup, one call was made for
it, and what the wallet is shown, absence included, came in a reply to an attempt of that
call. -/
theorem lookup_reported (h : Runs (step codecs caution authority)
      (initial policy hubAddresses gateways timeout dispatchTimeout) t s)
    (hstep : s.step codecs caution authority e = some (s', o)) (seat : Seat)
    {result : Except Failure Response}
    (hanswered : .wallet seat.connection ⟨seat.stream, .answered result⟩ ∈ o) {now : Occasion}
    (hnow : occasion seat t = some now) {hash : Bytes}
    (hasks : errand codecs now.req = some (.lookup hash)) :
    ∃ i call, LookupReported codecs (outboundTrace t) s.outbound now result hash i call := by
  rcases answered_of_runs h hstep seat hanswered with ⟨now', world, hnow', rfl, hcalls⟩
  obtain rfl : now = now' := Option.some.inj (hnow.symm.trans hnow')
  rcases hcalls _ hasks with ⟨id, hcalled, herrand, hagrees⟩
  rcases errandOf_eq_iff.mp herrand with ⟨i, tx, rfl, heq, -⟩ | ⟨i, hash', rfl, heq, -⟩
  · cases heq
  · cases heq
    rcases agrees_lookup_iff.mp hagrees with ⟨call, hfound, hreturned⟩
    have hcarries : call.hash = hash := by simpa [errandOf, hfound] using herrand
    rw [hcarries] at hreturned
    have delivered {reply : Wire.LookupReply} (hreply : world.nymLookup hash = .ok reply) :
        Calls.Delivered (Outbound.callsTrace (outboundTrace t)) i reply :=
      delivered_of_returned (Outbound.calls_runs (outbound_runs h)) hfound
        (hreturned.trans (by rw [hreply]))
    refine ⟨i, call, hcalled, hfound, hcarries, ?_, ?_⟩
    · intro body hshown
      rcases found_of_shown hasks hshown with ⟨data, height, hreply, hbody, hquery⟩
      exact ⟨data, height, delivered hreply, hbody, hquery⟩
    · intro hrefused
      rcases notFound_of_shown hasks hrefused with hreply | ⟨data, height, hreply, hother⟩
      · exact .inl (delivered hreply)
      · exact .inr ⟨data, height, delivered hreply, hother⟩

/-- A run goes on with a message that fires what it carries. -/
theorem runs_fired {s₀ : Relay} {c : Correlator} {firing : Firing} {bytes : Bytes}
    {fromMixnet : Channel Bytes 32} (h : Runs (step codecs caution authority) s₀ t s)
    (hcorrelator : s.outbound.calls.transport.correlator = some c)
    (hrecv : s.outbound.calls.transport.fromMixnet.recv = .item bytes fromMixnet)
    (hcarried : firing.CarriedBy bytes)
    (hlookup : c.pending.lookup firing.nonce = some firing.waiter) :
    let fired := Transport.fireTurn s.outbound.calls.transport c firing bytes fromMixnet
    Runs (step codecs caution authority) s₀
      (t ++ ((fired.2.map Calls.Observed.transport).map Outbound.Observed.calls).map .outbound)
      { s with
        outbound :=
          { s.outbound with calls := { s.outbound.calls with transport := fired.1 } } } :=
  h.snoc (e := .outbound (.calls (.turn .message))) (by
    simp only [step, isOwned, Outbound.step, Outbound.isDriven, Bool.false_eq_true, if_false,
      Calls.step_turn (Transport.turn_of_carried hcorrelator hrecv hcarried hlookup),
      Option.map_some])

/-- An environment that has a lookup answered. -/
def answersLookup (reply : Wire.LookupReply) : World :=
  { hubAnswering [] with nymLookup := fun _ => .ok reply }

/-- A lookup is answered with the transaction it asks for. -/
theorem lookup_reported_found : ∃ t s now i call,
    LookupReported protoCodecs t s now
      (.ok (grpcUnary (protoCodecs.encodeRawTransaction ⟨emptyV1Bytes, 7⟩)))
      emptyV1Id.toList i call := by
  have hfits : (Wire.LookupReply.found 7 emptyV1Bytes).txBytes.length ≤
      Wire.maxLookupReplyTxBytes := by
    rw [Wire.maxLookupReplyTxBytes_eq]
    decide
  obtain ⟨message, -, hdecode⟩ := Wire.lookupReply_fixedFrame.exists_frame
    (x := ((.replicate 16 0 : Wire.Nonce), .found 7 emptyV1Bytes)) hfits
  obtain ⟨byte, rest, rfl⟩ : ∃ byte rest, message = byte :: rest := by
    apply List.exists_cons_of_ne_nil
    rintro rfl
    have hlength := ((Wire.decodeLookupReply_eq_ok_iff [] _).mp hdecode).1
    simp [Wire.frameBytes_eq] at hlength
  have harrived := Runs.of_execute (show execute (step protoCodecs ⟨false, ""⟩ "127.0.0.1:9067")
      (initial .never ["hub"] [] 90000 5000)
      [.outbound (.driver (.start 0)), .outbound (.driver (.built (some "self"))),
        .wallet 0 (.request 1 lookupEmptyV1 .initial (answersLookup (.found 7 emptyV1Bytes))),
        .begins ⟨0, 1⟩, .outbound (.calls (.lookup 0 (.build (.replicate 16 0)))),
        .outbound (.calls (.lookup 0 .dispatch)), .outbound (.calls (.turn .reserve)),
        .outbound (.calls (.turn .receive)), .outbound (.driver .takeFrame),
        .outbound (.driver (.sent true)), .outbound (.calls (.tick 900)),
        .outbound (.driver (.arrive (some [byte :: rest]) 0)),
        .outbound (.driver (.delivered 0))] = some (_, _) from rfl)
  have hfired := runs_fired harrived rfl rfl (Firing.carriedBy_of_reply hdecode 0) rfl
  have hreturned := hfired.trans (Runs.of_execute (show execute (step protoCodecs ⟨false, ""⟩
    "127.0.0.1:9067") _ [.outbound (.calls (.lookup 0 .poll)), .returns ⟨0, 1⟩] =
      some (_, _) from rfl))
  exact ⟨_, _, _, lookup_reported hreturned (e := .wallet 0 (.stream 1 .finish))
    (show _ = some (_, _) from rfl) ⟨0, 1⟩ (List.mem_singleton.mpr rfl) rfl rfl⟩

/-! ## What the mixnet carries -/

/-- What an arriving request has the hub asked. -/
def Observed.wanted? (codecs : Codecs) : Observed → Option (Seat × Errand)
  | .wallet connection ⟨stream, .arrived req _⟩ =>
    (errand codecs req).map fun asks => (⟨connection, stream⟩, asks)
  | _ => none

/-- What a call is begun for. -/
def Observed.begun? : Observed → Option (Seat × Errand)
  | .began seat asks _ => some (seat, asks)
  | _ => none

/-- What the requests that arrived have the hub asked, at their seats. -/
def wanted (codecs : Codecs) (t : List Observed) : List (Seat × Errand) :=
  t.filterMap (Observed.wanted? codecs)

def begun (t : List Observed) : List (Seat × Errand) := t.filterMap Observed.begun?

theorem begun_outbound (o : List Outbound.Observed) : begun (o.map .outbound) = [] := by
  induction o with
  | nil => rfl
  | cons x o ih => exact ih

theorem begun_wallet (connection : Nat) (o : List WalletConnection.Observed) :
    begun (o.map (.wallet connection)) = [] := by
  induction o with
  | nil => rfl
  | cons x o ih => exact ih

theorem begun_append (t t' : List Observed) : begun (t ++ t') = begun t ++ begun t' :=
  List.filterMap_append

theorem wanted_append (t t' : List Observed) :
    wanted codecs (t ++ t') = wanted codecs t ++ wanted codecs t' :=
  List.filterMap_append

theorem startedBy_of_owned {e : Calls.Event} (h : isOwned (.calls e) = false) :
    startedBy e = none := by
  cases e <;> first | rfl | cases h

theorem startedBy_cancel (call : CallId) : startedBy (cancelOf call) = none := by
  cases call <;> rfl

/-- The calls are those that were begun. -/
theorem errands_of_runs (h : Runs (step codecs caution authority)
      (initial policy hubAddresses gateways timeout dispatchTimeout) t s) :
    (errands s.outbound.calls).Perm ((begun t).map Prod.snd) := by
  refine h.invariant (P := fun t s => (errands s.outbound.calls).Perm ((begun t).map Prod.snd))
    (.refl _) ?_
  intro t s e o s' _ ih hstep
  rw [begun_append, List.map_append]
  cases stepped_of_step hstep with
  | @outbound oe outbound o howned houtbound =>
    have hnone : ∀ ce, oe = .calls ce → startedBy ce = none := by
      rintro ce rfl
      exact startedBy_of_owned howned
    rw [begun_outbound, List.map_nil, List.append_nil, errands_of_outbound houtbound hnone]
    exact ih
  | wallet | returns =>
    rw [begun_wallet, List.map_nil, List.append_nil]
    exact ih
  | @drops connection id call wallet o outbound o' hcalling hwallet hcancel =>
    rw [begun_append, begun_outbound, begun_wallet, List.append_nil, List.map_nil,
      List.append_nil]
    rcases hcancel with hcancel | ⟨rfl, -⟩
    · have hnone : ∀ ce, Outbound.Event.calls (cancelOf call) = .calls ce →
          startedBy ce = none := by
        intro ce heq
        cases heq
        exact startedBy_cancel call
      rw [errands_of_outbound hcancel hnone]
      exact ih
    · exact ih
  | @begins seat asks outbound o hcalling hnext houtbound =>
    have hbegun : begun (.began seat asks (nextCall s.outbound.calls asks) ::
        o.map .outbound) = [(seat, asks)] :=
      congrArg _ (begun_outbound o)
    rw [hbegun]
    refine (errands_of_start houtbound).1.trans ?_
    exact (List.Perm.cons asks ih).trans (List.perm_append_singleton _ _).symm

/-- The request at a seat has still to ask. -/
def Owes (s : Relay) (seat : Seat) (asks : Errand) : Prop :=
  s.calling seat = none ∧ ∃ stream, s.stream? seat = some stream ∧ asked stream.todo = [asks]

/-- At a seat no more is asked than was wanted, what is still owed included. -/
structure Spent (codecs : Codecs) (t : List Observed) (s : Relay) (seat : Seat)
    (asks : Errand) : Prop where
  le : (begun t).count (seat, asks) ≤ (wanted codecs t).count (seat, asks)
  lt : Owes s seat asks → (begun t).count (seat, asks) < (wanted codecs t).count (seat, asks)

theorem count_unmarked (codecs : Codecs) {seat : Seat} (h : Unmarked seat o) (asks : Errand) :
    (begun o).count (seat, asks) = 0 ∧ (wanted codecs o).count (seat, asks) = 0 := by
  constructor
  · apply List.count_eq_zero.mpr
    intro hmem
    rcases List.mem_filterMap.mp hmem with ⟨x, hx, hbegun⟩
    have hmark := h x hx
    cases x with
    | began other asks' call =>
      cases hbegun
      simp [Observed.marks] at hmark
    | outbound | wallet => cases hbegun
  · apply List.count_eq_zero.mpr
    intro hmem
    rcases List.mem_filterMap.mp hmem with ⟨x, hx, hwanted⟩
    have hmark := h x hx
    cases x with
    | wallet connection x =>
      rcases x with ⟨stream, what⟩
      cases what with
      | arrived req status =>
        rcases Option.map_eq_some_iff.mp hwanted with ⟨asks', -, heq⟩
        cases heq
        simp [Observed.marks, WalletConnection.Deed.bounds] at hmark
      | pool | did | answered => cases hwanted
    | outbound | began => cases hwanted

/-- What does not mark a seat adds nothing there. -/
theorem Spent.unmarked {seat : Seat} {asks : Errand} (h : Spent codecs t s seat asks)
    (hunmarked : Unmarked seat o) (howes : Owes s' seat asks → Owes s seat asks) :
    Spent codecs (t ++ o) s' seat asks := by
  rcases count_unmarked codecs hunmarked asks with ⟨hbegun, hwanted⟩
  constructor
  · rw [begun_append, wanted_append, List.count_append, List.count_append, hbegun, hwanted]
    exact h.le
  · intro howed
    rw [begun_append, wanted_append, List.count_append, List.count_append, hbegun, hwanted]
    exact h.lt (howes howed)

theorem not_owes {seat : Seat} {asks : Errand} (h : s.stream? seat = none) :
    ¬ Owes s seat asks := by
  rintro ⟨-, stream, hsome, -⟩
  cases h.symm.trans hsome

theorem Spent.arrive {seat : Seat} {asks : Errand} {req : Request} {status : MixnetStatus}
    {world : World} (h : Spent codecs t s seat asks)
    (hnew : s'.stream? seat = some ⟨world,
      (handle codecs world (some .nym) caution status req).trace,
      (handle codecs world (some .nym) caution status req).result, none⟩) :
    Spent codecs (t ++ [.wallet seat.connection ⟨seat.stream, .arrived req status⟩]) s' seat
      asks := by
  constructor
  · rw [begun_append, wanted_append, List.count_append, List.count_append]
    exact Nat.add_le_add h.le (Nat.zero_le _)
  · rintro ⟨-, stream, hsome, hasked⟩
    obtain rfl := Option.some.inj (hnew.symm.trans hsome)
    have herrand : errand codecs req = some asks := by
      rw [asked_handle] at hasked
      cases hreq : errand codecs req <;> simp_all
    have hwanted : wanted codecs
        [.wallet seat.connection ⟨seat.stream, .arrived req status⟩] = [(seat, asks)] := by
      simp [wanted, Observed.wanted?, herrand]
    rw [begun_append, wanted_append, List.count_append, List.count_append, hwanted,
      List.count_singleton_self]
    exact Nat.lt_succ_of_le h.le

theorem Spent.begin {seat : Seat} {asks asks' : Errand} {call : CallId}
    (h : Spent codecs t s seat asks) (howes : Owes s seat asks')
    (hbusy : s'.calling seat = some call) (hunmarked : Unmarked seat o) :
    Spent codecs (t ++ .began seat asks' call :: o) s' seat asks := by
  rcases count_unmarked codecs hunmarked asks with ⟨hbegun, hwanted⟩
  constructor
  · have hnew : (begun (.began seat asks' call :: o)).count (seat, asks) =
        if asks' = asks then 1 else 0 := by
      have hcons : begun (.began seat asks' call :: o) = (seat, asks') :: begun o := rfl
      rw [hcons, List.count_cons, hbegun]
      simp
    have hsame : wanted codecs (.began seat asks' call :: o) = wanted codecs o := rfl
    rw [begun_append, wanted_append, List.count_append, List.count_append, hnew, hsame, hwanted]
    split_ifs with hasks
    · subst hasks
      exact h.lt howes
    · exact h.le
  · rintro ⟨hidle, -⟩
    cases hbusy.symm.trans hidle

/-- A seat never asks for more than what arrived there wants. -/
theorem Spent.step {seat : Seat} {asks : Errand} (h : Spent codecs t s seat asks)
    (hseated : Seated codecs caution t s seat) (hfared : Fared codecs caution s s' o seat) :
    Spent codecs (t ++ o) s' seat asks := by
  cases hfared with
  | stays hsame hcalling hunmarked =>
    refine h.unmarked hunmarked ?_
    rintro ⟨hidle, stream, hsome, hasked⟩
    exact ⟨hcalling ▸ hidle, stream, hsame ▸ hsome, hasked⟩
  | arrives hnone hnew hcalling ho =>
    rw [ho]
    exact h.arrive hnew
  | acts hsome htodo hother hnew hcalling hunmarked =>
    refine h.unmarked hunmarked ?_
    rintro ⟨hidle, stream, hsome', hasked⟩
    obtain rfl := Option.some.inj (hnew.symm.trans hsome')
    refine ⟨hcalling ▸ hidle, _, hsome, ?_⟩
    rw [htodo, asked_cons, hother]
    exact hasked
  | begins hsome htodo hasks hidle hsame hcalling hcall ho hunmarked =>
    rw [ho]
    refine h.begin ⟨hidle, _, hsome, ?_⟩ hcalling hunmarked
    rcases hseated.of_some hsome with ⟨now, -, -, hstage⟩
    rw [htodo, asked_cons, hasks, (hstage.first_ask hidle htodo hasks).2.2]
    rfl
  | returns hsome htodo hbusy hagrees hnew hcalling hunmarked =>
    refine h.unmarked hunmarked ?_
    rintro ⟨-, stream, hsome', hasked⟩
    obtain rfl := Option.some.inj (hnew.symm.trans hsome')
    rcases hseated.of_some hsome with ⟨now, -, -, hstage⟩
    cases hstage with
    | due hnone hidle => cases hidle.symm.trans hbusy
    | waits herrand hcalls hbusy' htodo' hasks hlater hcall =>
      cases htodo.symm.trans htodo'
      cases hlater.symm.trans hasked
    | done herrand hcalls hidle => cases hidle.symm.trans hbusy
  | answers hsome htodo hnone hcalling ho =>
    rw [ho]
    constructor
    · rw [begun_append, wanted_append, List.count_append, List.count_append]
      exact Nat.add_le_add h.le (Nat.zero_le _)
    · exact fun howes => absurd howes (not_owes hnone)
  | leaves hnone hidle hunmarked =>
    exact h.unmarked hunmarked fun howes => absurd howes (not_owes hnone)

theorem spent_of_runs (h : Runs (step codecs caution authority)
      (initial policy hubAddresses gateways timeout dispatchTimeout) t s) (seat : Seat)
    (asks : Errand) : Spent codecs t s seat asks := by
  refine h.invariant (P := fun t s => Spent codecs t s seat asks) ⟨Nat.le_refl _, ?_⟩ ?_
  · exact fun howes => absurd howes (not_owes rfl)
  intro t s e o s' hrun ih hstep
  exact ih.step (seated_of_runs hrun seat) (fared_of_stepped (stepped_of_step hstep) seat)

/-- A frame carries what was asked. -/
def Frames (bytes : Bytes) : Errand → Prop
  | .submit tx => ∃ nonce, Wire.decodeSubmit bytes = .ok (nonce, tx)
  | .lookup hash => ∃ nonce, Wire.decodeLookup bytes = .ok (nonce, hash)

/-- What the mixnet carries for the wallets. -/
structure Commissioned (codecs : Codecs) (t : List Observed) (s : Relay) : Prop where
  /-- The calls are among what was asked for, each request counting once. -/
  calls : (errands s.outbound.calls : Multiset Errand) ≤ ((wanted codecs t).map Prod.snd)
  /-- Every frame that the SDK took carries something that was asked for. -/
  frames : ∀ out message, .outbound (.driver (.settled out (.passed message))) ∈ t →
    ∃ asks ∈ (wanted codecs t).map Prod.snd, Frames message.bytes asks

/-- On every run of the whole shim, the calls on the handle are among what the requests of the
wallets asked for, transaction by transaction and hash by hash, and every frame that the SDK
took carries one of these: nothing is asked twice for one request, and nothing is made up. -/
theorem calls_commissioned (h : Runs (step codecs caution authority)
      (initial policy hubAddresses gateways timeout dispatchTimeout) t s) :
    Commissioned codecs t s := by
  have hcalls : (errands s.outbound.calls : Multiset Errand) ≤
      ((wanted codecs t).map Prod.snd) := by
    have hle : (begun t : Multiset (Seat × Errand)) ≤ wanted codecs t := by
      rw [Multiset.coe_le, List.subperm_ext_iff]
      intro x _
      exact (spent_of_runs h x.1 x.2).le
    rw [Multiset.coe_eq_coe.mpr (errands_of_runs h)]
    exact Multiset.map_le_map hle
  refine ⟨hcalls, ?_⟩
  have asked {asks : Errand} (hmem : asks ∈ errands s.outbound.calls) :
      asks ∈ (wanted codecs t).map Prod.snd :=
    Multiset.mem_of_le hcalls (Multiset.mem_coe.mpr hmem)
  intro out message hpassed
  have hmem : .driver (.settled out (.passed message)) ∈ outboundTrace t :=
    List.mem_filterMap.mpr ⟨_, hpassed, rfl⟩
  rcases Outbound.origin_of_passed (outbound_runs h) hmem with
    ⟨request, horigin, -, hbytes, -⟩
  cases horigin with
  | @submit i call hcall hhanded hcarries =>
    refine ⟨.submit call.tx, asked ?_, request.nonce, hbytes ▸ hcarries.decode⟩
    have htx := List.mem_map_of_mem (f := SubmitCall.tx) (List.mem_of_getElem? hcall)
    exact List.mem_append_left _ (List.mem_map_of_mem htx)
  | @lookup i call hcall hhanded hasksFor =>
    refine ⟨.lookup call.hash, asked ?_, request.nonce, hbytes ▸ hasksFor.decode⟩
    have hhash := List.mem_map_of_mem (f := LookupCall.hash) (List.mem_of_getElem? hcall)
    exact List.mem_append_right _ (List.mem_map_of_mem hhash)

/-- One submission, of what one wallet asked for. -/
theorem calls_commissioned_told : ∃ t s, Commissioned protoCodecs t s ∧
    errands s.outbound.calls = [.submit [0]] := by
  rcases told_runs with ⟨t, s, s', o, now, hrun, -, -, -, -, herrands⟩
  exact ⟨t, s, calls_commissioned hrun, herrands⟩

end Runs

end Relay
end ZeroShim
