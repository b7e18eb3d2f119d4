import ZeroShim.Intercept.Inspect

/-!
# SendTransaction

The body is buffered, unwrapped and classified.  A migration is diverted to the
hub; anything else, or a migration without a hub, is replayed to the operator's
indexer.

Main results:

- Theorem {lit}`spares_divert`: diverting never reaches the operator's indexer.
- Theorem {lit}`sendTransaction_isolates`: with a hub, the operator's indexer is
  reached only for a body that was read, unwrapped and passed through.
-/

namespace ZeroShim

open Library Zcash

/-- Cap on a buffered {lit}`SendTransaction` body. -/
def maxSendTxBytes : Nat := 4 * 1024 * 1024

/-! ## Log lines -/

/-- A signed decimal that always shows its sign. -/
def showSigned (n : Int) : String := if 0 ≤ n then "+" ++ toString n else toString n

/-- An optional value as a log field shows it. -/
def showExpiry : Option UInt32 → String
  | some height => "Some(" ++ toString height ++ ")"
  | none => "None"

/-- The class as the verdict line names it. -/
def Class.logName : Class → String
  | .migration => "migration"
  | .passThrough => "passthrough"
  | .unparseable => "unparseable"

/-- Log the classification verdict: at the default level only the class. -/
def logVerdict (inspection : Inspection) (frame : Bytes) : Task Unit :=
  let diverted := toString inspection.treatAsMigration
  match inspection with
  | .classified evidence => do
    let _ ← logEvent .info "zis::classify" "SendTransaction classified"
      [("class", evidence.verdict.logName), ("diverted_in_production", diverted)]
    logEvent .debug "zis::classify" "classification evidence"
      [("class", evidence.verdict.logName), ("version", evidence.version),
        ("orchard_actions", toString evidence.orchardActions),
        ("orchard_vb", showSigned evidence.orchardVb),
        ("ironwood_vb", showSigned evidence.ironwoodVb),
        ("sapling_vb", showSigned evidence.saplingVb),
        ("expiry", showExpiry evidence.expiryHeight), ("inputs", toString evidence.inputs),
        ("outputs", toString evidence.outputs), ("tx_len", toString evidence.len),
        ("error", evidence.error.getD "(none)"), ("frame_len", toString frame.length)]
  | .failsafe reason detail =>
    logEvent .warn "zis::classify"
      "MIGRATION-FAILSAFE: SendTransaction body could not be classified, treating as migration"
      [("reason", reason), ("detail", detail.getD "(none)"),
        ("frame_len", toString frame.length), ("diverted_in_production", diverted)]

/-- Report an unrecognised consensus branch, once per process. -/
def reportBranch (world : World) (inspection : Inspection) : Task Unit :=
  if inspection.isUnrecognisedBranch = true ∧ world.branchReported = false then do
    let _ ← (Traced.act .markReported (.ok ()) : Task Unit)
    logEvent .warn "zis::classify"
      ("UNRECOGNISED CONSENSUS BRANCH: this build cannot parse transactions for the active " ++
        "network upgrade, so every one of them classifies as a migration and is diverted to " ++
        "the hub. Redeploy against a zebra that knows this branch. Reported once per process")
      []
  else
    return ()

/-- The answer to a body that could not be read. -/
def bodyReadFailed (failure : ReadFailure) : Task Response :=
  match failure with
  | .timedOut => do
    let _ ← logEvent .warn "zis::classify"
      ("MIGRATION-FAILSAFE: SendTransaction body read timed out,                  " ++
        "refusing to forward a body that could not be classified") []
    return grpcError grpcDeadlineExceeded
      "zero-indexer-shim: SendTransaction body read timed out"
  | .lengthLimit => do
    let _ ← logEvent .warn "zis::classify"
      ("MIGRATION-FAILSAFE: SendTransaction body exceeded the buffer limit, " ++
        "refusing to forward a body that could not be classified")
      [("limit", toString maxSendTxBytes), ("err", "length limit exceeded")]
    return grpcError grpcResourceExhausted
      "zero-indexer-shim: SendTransaction body too large to classify"
  | .stream err => do
    let _ ← logEvent .warn "zis::classify"
      ("MIGRATION-FAILSAFE: SendTransaction body could not be read from the client, " ++
        "refusing to forward a body that could not be classified") [("err", err)]
    return grpcError grpcCancelled
      "zero-indexer-shim: SendTransaction body could not be read"

section Send

variable (codecs : Codecs) (world : World)

/-! ## Diverting -/

/-- A synthesized {lit}`SendTransaction` response. -/
def grpcSendResponse (errorCode : Int) (errorMessage : String) : Response :=
  grpcUnary (codecs.encodeSendResponse ⟨errorCode, errorMessage⟩)

/-- The wallet's answer to a verdict other than {lit}`TooLarge`. -/
def answerVerdict (errorCode : Int) (message : String) : Task Response := do
  let _ ← logEvent .info "zis::classify" "migration diverted to the hub"
    [("accepted", toString (errorCode == 0))]
  return grpcSendResponse codecs errorCode message

/-- The wallet's answer to what the hub transport returned. -/
def answerSubmit (verdict : Except Failure Submit) : Task Response :=
  match verdict with
  | .ok (.tooLarge limit) => do
    let _ ← logEvent .warn "zis::classify"
      ("MIGRATION: too large for the hub frame; refusing rather than diverting or " ++
        "forwarding") [("limit", toString limit)]
    return grpcError grpcResourceExhausted ("zero-indexer-shim: transaction exceeds the " ++
      toString limit ++ "-byte hub frame limit")
  | .ok (.accepted txid) => answerVerdict codecs 0 txid
  | .ok (.alreadyKnown txid) => answerVerdict codecs 0 (txid.getD "")
  | .ok (.rejected reason) => answerVerdict codecs (-1) reason
  | .error (.err err) => do
    let _ ← logEvent .warn "zis::classify" "hub unreachable; failing closed" [("err", err)]
    return grpcError grpcUnavailable "zero-indexer-shim: hub unreachable"
  | .error .panicked => .fail .panicked

/-- Send a migration to the hub instead of the operator's indexer. -/
def divert (hub : HubTransport) (txData : Option Bytes) : Task Response :=
  match txData with
  | none => do
    let _ ← logEvent .warn "zis::classify"
      ("MIGRATION: body could not be read cleanly; failing closed rather than diverting " ++
        "or forwarding") []
    return grpcError grpcUnavailable "zero-indexer-shim: could not divert transaction"
  | some txData =>
    if txData.isEmpty then do
      -- empty is not absent: it decodes, and it would cost a full frame
      let _ ← logEvent .warn "zis::classify"
        ("MIGRATION-FAILSAFE: empty transaction body; refusing rather than spending a " ++
          "mixnet frame on it") []
      return grpcError grpcInvalidArgument "zero-indexer-shim: empty transaction"
    else
      (hub.submit codecs world txData).handle (answerSubmit codecs)

/-! ## The intercepted method -/

/-- Replay the buffered request to the operator's indexer. -/
def replay (req : Request) (collected : Collected) : Task Response := do
  let upstream ← .act .poolGet (orErr world.poolGet)
  forward world upstream { req with body := replayBody collected.data collected.trailers }

/-- {lit}`send_transaction` -/
def sendTransaction (diversion : Option HubTransport) (req : Request) : Task Response :=
  match req.body.collect maxSendTxBytes with
  | .error failure => bodyReadFailed failure
  | .ok collected => do
    let (inspection, txData) := inspect codecs req.headers collected.data
    let _ ← logVerdict inspection collected.data
    let _ ← reportBranch world inspection
    if inspection.treatAsMigration then
      match diversion with
      | some hub => divert codecs world hub txData
      | none => replay world req collected
    else
      replay world req collected

end Send

/-! ## Isolation -/

section Logs

-- A policy that allows every log line.
variable {P : Action → Prop} (hlog : ∀ event, P (.log event))
include hlog

theorem emits_logEvent (level : LogLevel) (target message : String)
    (fields : List (String × String)) : (logEvent level target message fields).Emits P :=
  .act _ _ (hlog _)

theorem emits_logVerdict (inspection : Inspection) (frame : Bytes) :
    (logVerdict inspection frame).Emits P := by
  cases inspection with
  | classified evidence =>
    exact .bind (emits_logEvent hlog _ _ _ _) fun _ _ => emits_logEvent hlog _ _ _ _
  | failsafe reason detail => exact emits_logEvent hlog _ _ _ _

theorem emits_reportBranch (hmark : P .markReported) (world : World) (inspection : Inspection) :
    (reportBranch world inspection).Emits P := by
  refine .ite (fun _ => ?_) fun _ => .pure _
  exact .bind (.act _ _ hmark) fun _ _ => emits_logEvent hlog _ _ _ _

theorem emits_bodyReadFailed (failure : ReadFailure) : (bodyReadFailed failure).Emits P := by
  cases failure <;> exact .bind (emits_logEvent hlog _ _ _ _) fun _ _ => .pure _

theorem emits_answerSubmit (codecs : Codecs) (verdict : Except Failure Submit) :
    (answerSubmit codecs verdict).Emits P := by
  unfold answerSubmit
  split
  case h_6 => exact .fail _
  all_goals exact .bind (emits_logEvent hlog _ _ _ _) fun _ _ => .pure _

end Logs

theorem sparesOperator_log (event : LogEvent) : (Action.log event).SparesOperator := rfl

/-- Logging a verdict succeeds. -/
theorem result_logVerdict (inspection : Inspection) (frame : Bytes) :
    (logVerdict inspection frame).result = .ok () := by
  cases inspection <;> rfl

theorem result_reportBranch (world : World) (inspection : Inspection) :
    (reportBranch world inspection).result = .ok () := by
  unfold reportBranch
  split_ifs <;> rfl

/-- A task that spares the operator obeys every policy about reaching it. -/
theorem emits_of_spares {α : Type} {t : Task α} (ht : Spares t) (P : Prop) :
    t.Emits fun action => action.reachesOperator = true → P := by
  refine ht.mono ?_
  intro action hspares hreaches
  rw [Action.SparesOperator] at hspares
  rw [hspares] at hreaches
  cases hreaches

section Send

variable (codecs : Codecs) (world : World)

/-- Diverting never reaches the operator's indexer, whatever the hub does. -/
theorem spares_divert (hub : HubTransport) (txData : Option Bytes) :
    Spares (divert codecs world hub txData) := by
  cases txData with
  | none => exact .bind (emits_logEvent sparesOperator_log _ _ _ _) fun _ _ => .pure _
  | some txData =>
    refine .ite (fun _ => ?_) fun _ => ?_
    · exact .bind (emits_logEvent sparesOperator_log _ _ _ _) fun _ _ => .pure _
    · exact .handle (hub.spares_submit codecs world txData) fun _ _ =>
        emits_answerSubmit sparesOperator_log codecs _

/-- A body that was read and that the shim does not treat as a migration. -/
def Replayable (req : Request) : Prop :=
  ∃ collected, req.body.collect maxSendTxBytes = .ok collected ∧
    (inspect codecs req.headers collected.data).1.treatAsMigration = false

/-- With a hub, the operator's indexer is reached only by a replayable request. -/
theorem sendTransaction_isolates (hub : HubTransport) (req : Request) :
    (sendTransaction codecs world (some hub) req).Emits fun action =>
      action.reachesOperator = true → Replayable codecs req := by
  unfold sendTransaction
  cases hcollect : req.body.collect maxSendTxBytes with
  | error failure => exact emits_of_spares (emits_bodyReadFailed sparesOperator_log failure) _
  | ok collected =>
    refine .bind (emits_of_spares (emits_logVerdict sparesOperator_log _ _) _) fun _ _ => ?_
    refine .bind (emits_of_spares (emits_reportBranch sparesOperator_log rfl _ _) _) fun _ _ => ?_
    refine .ite (fun _ => emits_of_spares (spares_divert codecs world hub _) _) fun hverdict => ?_
    intro action _ _
    exact ⟨collected, hcollect, (Bool.not_eq_true _).mp hverdict⟩

end Send

end ZeroShim
