import ZeroShim.Intercept.LocalTxid
import ZeroShim.Proxy.AccessLog
import ZeroShim.Proxy.Answers

/-!
# What the default log tells of a transaction

The lines of {lit}`send_transaction` and {lit}`divert` about two transactions of one class,
where the hub and the transport behave alike.

Main results:

- Theorem {lit}`sameSubmit_of_over`: two calls of the mixnet that are over budget end alike.
- Theorem {lit}`alike_submit`: two submissions that the hub answers alike have alike
  verdicts.
- Theorem {lit}`shown_sendTransaction_eq`: two classified transactions leave the same
  lines.
-/

namespace ZeroShim

open Library Zcash Nym

/-! ## Alike requests -/

/-- The body of a request is read, and classified as a transaction. -/
def Inspected (codecs : Codecs) (req : Request) (evidence : Evidence) (tx : Bytes) : Prop :=
  ∃ collected, req.body.collect maxSendTxBytes = .ok collected ∧
    inspect codecs req.headers collected.data = (.classified evidence, some tx)

/-- Two outcomes of a submission over the mixnet, equal but for the size in a size error. -/
inductive SameSubmit : Except NymError Unit → Except NymError Unit → Prop where
  | same (outcome) : SameSubmit outcome outcome
  | tooLarge (len len' budget) :
      SameSubmit (.error (.encode (.txTooLarge len budget)))
        (.error (.encode (.txTooLarge len' budget)))

/-- Two calls over budget that know an address end alike. -/
theorem sameSubmit_of_over {tx tx' : Bytes} {outcome outcome' : Except NymError Unit}
    (submission : NymSubmission tx outcome) (submission' : NymSubmission tx' outcome')
    (haddressed : 0 < submission.call.targets) (haddressed' : 0 < submission'.call.targets)
    (hover : Wire.maxNymTxBytes < tx.length) (hover' : Wire.maxNymTxBytes < tx'.length) :
    SameSubmit outcome outcome' := by
  rw [← submission.carries] at hover
  rw [← submission'.carries] at hover'
  rw [submission.honest.tooLarge_iff.mpr ⟨haddressed, hover⟩,
    submission'.honest.tooLarge_iff.mpr ⟨haddressed', hover'⟩]
  exact .tooLarge _ _ _

/-- The hub answers two transactions alike, or the way to it fails alike. -/
def SameOutcome (world world' : World) (tx tx' : Bytes) : HubTransport → Prop
  | .http client => ∀ frame frame', Wire.encodeSubmit world.submitNonce tx = .ok frame →
      Wire.encodeSubmit world'.submitNonce tx' = .ok frame' →
      world.hubRoundTrip (client.request "/" frame) =
        world'.hubRoundTrip (client.request "/" frame')
  | .nym => SameSubmit (world.nymSubmit tx) (world'.nymSubmit tx')

/-- Two transactions that the default log may not tell apart. -/
structure AlikeInClass (diversion : Option HubTransport) (world world' : World)
    (evidence evidence' : Evidence) (tx tx' : Bytes) : Prop where
  verdict : evidence.verdict = evidence'.verdict
  branch : evidence.isUnrecognisedBranch = evidence'.isUnrecognisedBranch
  reported : world.branchReported = world'.branchReported
  empty : tx = [] ↔ tx' = []
  budget : tx.length ≤ Wire.maxNymTxBytes ↔ tx'.length ≤ Wire.maxNymTxBytes
  outcome : ∀ hub, diversion = some hub → SameOutcome world world' tx tx' hub

/-- Verdicts that differ at most in the id of a transaction that was accepted. -/
inductive SameVerdict : Submit → Submit → Prop where
  | same (verdict) : SameVerdict verdict verdict
  | accepted (txid txid') : SameVerdict (.accepted txid) (.accepted txid')

section Log

variable {codecs : Codecs} {world world' : World} {mixnet : Bytes → List MixnetEvent}

/-! ## The verdict -/

theorem alike_logEvent (level : LogLevel) (target message : String)
    (fields : List (String × String)) :
    (logEvent level target message fields).Alike (Action.shown mixnet) (· = ·)
      (logEvent level target message fields) :=
  .act rfl (.ok rfl)

/-- What is logged at the debug level does not show. -/
theorem alike_debug (target message : String) (fields fields' : List (String × String)) :
    (logEvent .debug target message fields).Alike (Action.shown mixnet) (· = ·)
      (logEvent .debug target message fields') :=
  .act rfl (.ok rfl)

/-- The verdict line tells the class alone. -/
theorem alike_logVerdict {evidence evidence' : Evidence} (frame frame' : Bytes)
    (h : evidence.verdict = evidence'.verdict) :
    (logVerdict (.classified evidence) frame).Alike (Action.shown mixnet) (· = ·)
      (logVerdict (.classified evidence') frame') := by
  unfold logVerdict
  dsimp only [Inspection.treatAsMigration]
  rw [h]
  exact .bind (alike_logEvent _ _ _ _) fun _ _ _ => alike_debug _ _ _ _

theorem alike_reportBranch {inspection inspection' : Inspection}
    (hbranch : inspection.isUnrecognisedBranch = inspection'.isUnrecognisedBranch)
    (hreported : world.branchReported = world'.branchReported) :
    (reportBranch world inspection).Alike (Action.shown mixnet) (· = ·)
      (reportBranch world' inspection') := by
  unfold reportBranch
  rw [hbranch, hreported]
  refine .ite Iff.rfl (fun _ _ => ?_) fun _ _ => .pure rfl
  exact .bind (.act rfl (.ok rfl)) fun _ _ _ => alike_logEvent _ _ _ _

/-! ## The submission -/

/-- Two exchanges that end alike. -/
theorem alike_roundTrip {req req' : Request} (timeoutMsg : String)
    (h : world.hubRoundTrip req = world'.hubRoundTrip req') :
    (roundTrip world req timeoutMsg).Alike (Action.shown mixnet) (· = ·)
      (roundTrip world' req' timeoutMsg) := by
  unfold roundTrip
  rw [h]
  refine .act ?_ (.refl _)
  rfl

/-- A submission over HTTP that the hub answers alike has the same verdict. -/
theorem alike_httpSubmit {client : HubClient} {tx tx' : Bytes}
    (hbudget : tx.length ≤ Wire.maxNymTxBytes ↔ tx'.length ≤ Wire.maxNymTxBytes)
    (h : SameOutcome world world' tx tx' (.http client)) :
    (client.submit codecs world tx).Alike (Action.shown mixnet) SameVerdict
      (client.submit codecs world' tx') := by
  unfold HubClient.submit
  by_cases hfits : tx.length ≤ Wire.maxNymTxBytes
  · have hencode : Wire.encodeSubmit world.submitNonce tx = _ := Wire.encodeSubmit_eq hfits
    have hencode' : Wire.encodeSubmit world'.submitNonce tx' = _ :=
      Wire.encodeSubmit_eq (hbudget.mp hfits)
    have hreplies := h _ _ hencode hencode'
    rw [hencode, hencode']
    refine .bind (alike_roundTrip _ hreplies) ?_
    intro reply reply' heq
    rw [heq]
    refine .ite Iff.rfl (fun _ _ => .pure (.same _)) fun _ _ => ?_
    refine .bind (.ofExcept (.refl _)) ?_
    intro parsed parsed' heq
    rw [heq]
    exact .pure (.same _)
  · rw [Wire.encodeSubmit_over hfits, Wire.encodeSubmit_over (mt hbudget.mpr hfits)]
    exact .pure (.same _)

/-- A submission over the mixnet that ends alike has the same verdict, but for the id of
the transaction. -/
theorem alike_nymSubmit (hzero : codecs.libs.pushNum 0 = [0]) {tx tx' : Bytes}
    (h : SameSubmit (world.nymSubmit tx) (world'.nymSubmit tx')) :
    (HubTransport.nym.submit codecs world tx).Alike (Action.shown mixnet) SameVerdict
      (HubTransport.nym.submit codecs world' tx') := by
  unfold HubTransport.submit
  refine .bind (R := SameSubmit) (.act rfl (.ok h)) ?_
  intro outcome outcome' hsame
  cases hsame with
  | tooLarge len len' budget => exact .pure (.same _)
  | same =>
    cases outcome with
    | ok _ =>
      rcases localTxid_total hzero tx with ⟨txid, htxid⟩
      rcases localTxid_total hzero tx' with ⟨txid', htxid'⟩
      simp only [htxid, htxid']
      refine .bind (R := fun _ _ => True) (.ofExcept (.ok trivial)) ?_
      intro txid txid' _
      exact .pure (.accepted txid txid')
    | error err =>
      split
      · contradiction
      · exact .pure (.same _)
      · exact .fail _

theorem alike_submit (hzero : codecs.libs.pushNum 0 = [0]) (hub : HubTransport)
    {tx tx' : Bytes}
    (hbudget : tx.length ≤ Wire.maxNymTxBytes ↔ tx'.length ≤ Wire.maxNymTxBytes)
    (h : SameOutcome world world' tx tx' hub) :
    (hub.submit codecs world tx).Alike (Action.shown mixnet) SameVerdict
      (hub.submit codecs world' tx') := by
  cases hub with
  | http client => exact alike_httpSubmit hbudget h
  | nym => exact alike_nymSubmit hzero h

/-! ## The answer -/

/-- The line about a diverted transaction tells only whether it was accepted. -/
theorem alike_answerVerdict (errorCode : Int) (message message' : String) :
    (answerVerdict codecs errorCode message).Alike (Action.shown mixnet) (fun _ _ => True)
      (answerVerdict codecs errorCode message') :=
  .bind (alike_logEvent _ _ _ _) fun _ _ _ => .pure trivial

theorem alike_answerSubmit {verdict verdict' : Except Failure Submit}
    (h : Traced.Related SameVerdict verdict verdict') :
    (answerSubmit codecs verdict).Alike (Action.shown mixnet) (fun _ _ => True)
      (answerSubmit codecs verdict') := by
  cases h with
  | error failure =>
    cases failure with
    | err err => exact .bind (alike_logEvent _ _ _ _) fun _ _ _ => .pure trivial
    | panicked => exact .fail _
  | @ok verdict verdict' hsame =>
    cases hsame with
    | accepted txid txid' => exact alike_answerVerdict _ _ _
    | same =>
      cases verdict with
      | tooLarge limit => exact .bind (alike_logEvent _ _ _ _) fun _ _ _ => .pure trivial
      | accepted | alreadyKnown | rejected => exact alike_answerVerdict _ _ _

/-- Two diverted transactions, both empty or both not, leave the same lines. -/
theorem alike_divert (hzero : codecs.libs.pushNum 0 = [0]) (hub : HubTransport)
    {tx tx' : Bytes} (hempty : tx = [] ↔ tx' = [])
    (hbudget : tx.length ≤ Wire.maxNymTxBytes ↔ tx'.length ≤ Wire.maxNymTxBytes)
    (h : SameOutcome world world' tx tx' hub) :
    (divert codecs world hub (some tx)).Alike (Action.shown mixnet) (fun _ _ => True)
      (divert codecs world' hub (some tx')) := by
  unfold divert
  refine .ite (by simpa using hempty) (fun _ _ => ?_) fun _ _ => ?_
  · exact .bind (alike_logEvent _ _ _ _) fun _ _ _ => .pure trivial
  · exact .handle (alike_submit hzero hub hbudget h) fun _ _ => alike_answerSubmit

/-- A replayed request leaves no line. -/
theorem shown_replay (req : Request) (collected : Collected) :
    shown mixnet (replay world req collected) = [] := by
  unfold replay
  cases hpool : world.poolGet with
  | error err => rfl
  | ok upstream =>
    rw [Traced.bind_of_ok (a := upstream) rfl, forward_eq]
    rfl

/-! ## Two transactions -/

/-- Two classified transactions that are alike in their class leave the same lines in the
default log. -/
theorem shown_sendTransaction_eq (hzero : codecs.libs.pushNum 0 = [0])
    {diversion : Option HubTransport} {req req' : Request} {evidence evidence' : Evidence}
    {tx tx' : Bytes} (hinspected : Inspected codecs req evidence tx)
    (hinspected' : Inspected codecs req' evidence' tx')
    (halike : AlikeInClass diversion world world' evidence evidence' tx tx') :
    shown mixnet (sendTransaction codecs world diversion req) =
      shown mixnet (sendTransaction codecs world' diversion req') := by
  rcases hinspected with ⟨collected, hread, hinspect⟩
  rcases hinspected' with ⟨collected', hread', hinspect'⟩
  have hbranch : (Inspection.classified evidence).isUnrecognisedBranch =
      (Inspection.classified evidence').isUnrecognisedBranch := halike.branch
  have hmigration : (Inspection.classified evidence).treatAsMigration =
      (Inspection.classified evidence').treatAsMigration :=
    congrArg Class.treatAsMigration halike.verdict
  unfold sendTransaction
  rw [hread, hread']
  dsimp only
  rw [hinspect, hinspect']
  apply Traced.Alike.seen_bind (alike_logVerdict _ _ halike.verdict)
  intro _ _ _
  apply Traced.Alike.seen_bind (alike_reportBranch hbranch halike.reported)
  intro _ _ _
  dsimp only
  by_cases hdiverts : (Inspection.classified evidence').treatAsMigration = true
  · rw [if_pos (hmigration.trans hdiverts), if_pos hdiverts]
    cases diversion with
    | none => exact (shown_replay _ _).trans (shown_replay _ _).symm
    | some hub =>
      have houtcome := halike.outcome hub rfl
      exact (alike_divert hzero hub halike.empty halike.budget houtcome).seen
  · rw [if_neg (hmigration ▸ hdiverts), if_neg hdiverts]
    exact (shown_replay _ _).trans (shown_replay _ _).symm

end Log

/-! ## Two bodies that do not parse -/

/-- An environment whose mixnet takes every submission. -/
def mixnetTaking : World :=
  { hubAnswering [] with nymSubmit := fun _ => .ok () }

theorem inspected_sendOf {tx : Bytes} (h : tx.length ≤ 2 ^ 20 + 10) :
    Inspected scriptCodecs (sendOf tx) (classifyWithEvidence scriptCodecs.libs tx) tx :=
  ⟨_, collect_sendOf h, inspect_sendOf h rfl⟩

/-- Two bodies of different lengths, neither of which is a transaction, over the mixnet. -/
theorem shown_sendTransaction_lengths :
    shown (fun _ => [])
        (sendTransaction scriptCodecs mixnetTaking (some .nym) (sendOf (zeros 4))) =
      shown (fun _ => [])
        (sendTransaction scriptCodecs mixnetTaking (some .nym) (sendOf (zeros 5))) := by
  have hparse : Transaction.zcashDeserialize scriptCodecs.libs (zeros 4) =
      Transaction.zcashDeserialize scriptCodecs.libs (zeros 5) := rfl
  obtain ⟨err, herr⟩ : ∃ err, Transaction.zcashDeserialize scriptCodecs.libs (zeros 5) =
      .error err := ⟨_, rfl⟩
  have hevidence : classifyWithEvidence scriptCodecs.libs (zeros 4) =
      .unparseable 4 err.text := by rw [classifyWithEvidence, hparse, herr]; rfl
  have hevidence' : classifyWithEvidence scriptCodecs.libs (zeros 5) =
      .unparseable 5 err.text := by rw [classifyWithEvidence, herr]; rfl
  apply shown_sendTransaction_eq rfl (inspected_sendOf (by simp [zeros]))
    (inspected_sendOf (by simp [zeros]))
  rw [hevidence, hevidence']
  refine ⟨rfl, rfl, rfl, by simp [zeros], by simp [Wire.maxNymTxBytes_eq], ?_⟩
  intro hub heq
  cases heq
  exact .same _

end ZeroShim
