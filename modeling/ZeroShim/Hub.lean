import ZeroShim.Classify
import ZeroShim.Proxy.Upstream

/-!
# The hub client

Submission and lookup over either transport: HTTP, where the hub answers on the
same exchange, and the mixnet, where a hand-off is the success of a submission.
The protobuf and JSON codecs are parameters.

Main results:

- Theorems {lit}`HubTransport.spares_submit` and
  {lit}`HubTransport.spares_getTransaction`: neither transport reaches the operator's
  indexer, whatever the hub answers.
-/

namespace ZeroShim

open Library Zcash

/-! ## Codecs -/

/-- {lit}`RawTransaction` -/
structure RawTransaction where
  data : Bytes
  height : UInt64
deriving DecidableEq, Repr

/-- {lit}`SendResponse` -/
structure SendResponse where
  errorCode : Int
  errorMessage : String
deriving DecidableEq, Repr

/-- {lit}`BlockId` -/
structure BlockId where
  height : UInt64
  hash : Bytes
deriving DecidableEq, Repr

/-- {lit}`TxFilter` -/
structure TxFilter where
  block : Option BlockId
  index : UInt64
  hash : Bytes
deriving DecidableEq, Repr

/-- The hub's JSON answer to a submission. -/
structure HubResponse where
  disposition : String
  txid : Option String
  reason : Option String
deriving DecidableEq, Repr

/-- The codecs of other libraries. -/
structure Codecs where
  libs : Libraries
  decodeRawTransaction : Bytes → Except String RawTransaction
  encodeRawTransaction : RawTransaction → Bytes
  decodeTxFilter : Bytes → Except String TxFilter
  encodeSendResponse : SendResponse → Bytes
  parseHubResponse : Bytes → Except String HubResponse
  /-- {lit}`String::from_utf8_lossy` -/
  fromUtf8Lossy : Bytes → String

/-! ## Verdicts -/

/-- The hub's verdict on a submission. -/
inductive Submit where
  | accepted (txid : String)
  | alreadyKnown (txid : Option String)
  | rejected (reason : String)
  | tooLarge (limit : Nat)
deriving DecidableEq, Repr

/-- The hub's verdict on a lookup. -/
inductive Lookup where
  | found (data : Bytes) (height : UInt64)
  | notFound
deriving DecidableEq, Repr

/-- A decimal digit. -/
def digitValue (b : UInt8) : Option Nat :=
  if 48 ≤ b.toNat ∧ b.toNat ≤ 57 then some (b.toNat - 48) else none

/-- The number that a string of decimal digits continues. -/
def parseDigits (acc : Nat) : Bytes → Option Nat
  | [] => some acc
  | b :: bs =>
    match digitValue b with
    | some d => parseDigits (10 * acc + d) bs
    | none => none

/-- {lit}`str::parse::<u64>`: digits, after an optional plus sign. -/
def parseU64 (value : Bytes) : Option UInt64 :=
  let digits := match value with
    | 43 :: rest => rest
    | _ => value
  match digits with
  | [] => none
  | _ =>
    match parseDigits 0 digits with
    | some n => if n < 2 ^ 64 then some (UInt64.ofNat n) else none
    | none => none

/-- The displayed id of a transaction; hashing panics on one that cannot be
written. -/
def displayTxid (libs : Libraries) (tx : Transaction) : Except Failure String :=
  match tx.hash libs with
  | some hash => .ok (String.ofList (Hash.display hash))
  | none => .error .panicked

/-- {lit}`local_txid`: empty for bytes that do not parse. -/
def localTxid (libs : Libraries) (tx : Bytes) : Except Failure String :=
  match Transaction.zcashDeserialize libs tx with
  | .ok (tx, _) => displayTxid libs tx
  | .error _ => .ok ""

/-! ## HTTP -/

/-- A hub reached over HTTP. -/
structure HubClient where
  authority : String
deriving DecidableEq, Repr

/-- Cap on a hub response. -/
def maxHubResponseBytes : Nat := 4 * 1024 * 1024

/-- A request to the hub. -/
def HubClient.request (client : HubClient) (path : String) (body : Bytes) : Request where
  method := "POST"
  uri := ⟨none, none, some ⟨path, none⟩⟩
  headers :=
    (HeaderMap.empty.insert "host" (asciiBytes client.authority)).insert "content-type"
      (asciiBytes "application/octet-stream")
  body := .full body

/-- One exchange with the hub, its body included, under one deadline. -/
def roundTrip (world : World) (req : Request) (timeoutMsg : String) : Task (Response × Bytes) :=
  .act (.hubRoundTrip req) <| match world.hubRoundTrip req with
    | .failed err => .error (.err err)
    | .timedOut => .error (.err timeoutMsg)
    | .done resp =>
      match resp.body.collect maxHubResponseBytes with
      | .ok collected => .ok (resp, collected.data)
      | .error .timedOut => .error (.err timeoutMsg)
      | .error _ => .error (.err "hub response exceeded the size limit")

/-- The verdict in a parsed answer. -/
def HubResponse.verdict (parsed : HubResponse) : Submit :=
  if parsed.disposition = "accepted" then .accepted (parsed.txid.getD "")
  else if parsed.disposition = "already_known" then .alreadyKnown parsed.txid
  else .rejected (parsed.reason.getD parsed.disposition)

/-- {lit}`HubClient::submit` -/
def HubClient.submit (codecs : Codecs) (world : World) (client : HubClient) (tx : Bytes) :
    Task Submit :=
  match Wire.encodeSubmit world.submitNonce tx with
  | .error .outOfRange => .fail .panicked
  | .error (.raised _) => pure (.tooLarge Wire.maxNymTxBytes)
  | .ok frame => do
    let (resp, body) ← roundTrip world (client.request "/" frame) "hub submission timed out"
    if resp.status = 413 then
      return .tooLarge Wire.frameBytes
    else
      let parsed ← Traced.ofExcept (orErr (codecs.parseHubResponse body))
      return parsed.verdict

/-- A lookup answer of the expected shape. -/
def octetStream (resp : Response) : Bool :=
  match (resp.headers.get "content-type").bind headerText with
  | some value => "application/octet-stream".toList.isPrefixOf value
  | none => false

def txHeight (resp : Response) : Option UInt64 := (resp.headers.get "x-tx-height").bind parseU64

/-- {lit}`HubClient::get_transaction` -/
def HubClient.getTransaction (world : World) (client : HubClient) (wireHash : Bytes) :
    Task Lookup := do
  let (resp, body) ← roundTrip world (client.request "/transaction" wireHash)
    "hub lookup timed out"
  if resp.status = 200 then
    match txHeight resp with
    | some height =>
      if octetStream resp then
        return .found body height
      else
        Traced.fail (.err "hub lookup: 200 without the expected transaction shape")
    | none => Traced.fail (.err "hub lookup: 200 without the expected transaction shape")
  else if resp.status = 404 then
    return .notFound
  else
    Traced.fail (.err ("hub lookup: unexpected status " ++ world.displayStatus resp.status))

/-! ## Either transport -/

/-- How the hub is reached. -/
inductive HubTransport where
  | http (client : HubClient)
  | nym
deriving DecidableEq, Repr

/-- {lit}`HubTransport::submit` -/
def HubTransport.submit (codecs : Codecs) (world : World) (hub : HubTransport) (tx : Bytes) :
    Task Submit :=
  match hub with
  | .http client => client.submit codecs world tx
  | .nym => (Traced.act (.nymSubmit tx) (.ok (world.nymSubmit tx)) : Task _) >>= fun verdict =>
    match verdict with
    | .ok () => do
      let txid ← Traced.ofExcept (localTxid codecs.libs tx)
      return .accepted txid
    | .error (.encode (.txTooLarge _ budget)) => return .tooLarge budget
    | .error err => Traced.fail (.err err.text)

/-- {lit}`HubTransport::get_transaction` -/
def HubTransport.getTransaction (world : World) (hub : HubTransport) (wireHash : Bytes) :
    Task Lookup :=
  match hub with
  | .http client => client.getTransaction world wireHash
  | .nym => (Traced.act (.nymLookup wireHash) (.ok (world.nymLookup wireHash)) : Task _) >>=
    fun verdict =>
    match verdict with
    | .ok (.found height tx) => return .found tx height
    | .ok .notFound => return .notFound
    | .ok .error => Traced.fail (.err "hub could not answer the lookup")
    | .error err => Traced.fail (.err err.text)

/-! ## Isolation -/

/-- An action that does not reach the operator's indexer. -/
def Action.SparesOperator (action : Action) : Prop := action.reachesOperator = false

/-- No action of the task reaches the operator's indexer. -/
abbrev Spares {α : Type} (t : Task α) : Prop := t.Emits Action.SparesOperator

theorem spares_roundTrip (world : World) (req : Request) (timeoutMsg : String) :
    Spares (roundTrip world req timeoutMsg) :=
  .act _ _ rfl

theorem HubClient.spares_submit (codecs : Codecs) (world : World) (client : HubClient)
    (tx : Bytes) : Spares (client.submit codecs world tx) := by
  unfold HubClient.submit
  cases Wire.encodeSubmit world.submitNonce tx with
  | error trap =>
    cases trap with
    | outOfRange => exact .fail _
    | raised err => exact .pure _
  | ok frame =>
    refine .bind (spares_roundTrip _ _ _) ?_
    intro reply _
    refine .ite (fun _ => .pure _) fun _ => ?_
    exact .bind (.ofExcept _) fun _ _ => .pure _

theorem HubClient.spares_getTransaction (world : World) (client : HubClient)
    (wireHash : Bytes) : Spares (client.getTransaction world wireHash) := by
  refine .bind (spares_roundTrip _ _ _) ?_
  intro reply _
  refine .ite (fun _ => ?_) fun _ => .ite (fun _ => .pure _) fun _ => .fail _
  cases txHeight reply.1 with
  | none => exact .fail _
  | some height => exact .ite (fun _ => .pure _) fun _ => .fail _

/-- Submitting to the hub never reaches the operator's indexer. -/
theorem HubTransport.spares_submit (codecs : Codecs) (world : World) (hub : HubTransport)
    (tx : Bytes) : Spares (hub.submit codecs world tx) := by
  cases hub with
  | http client => exact client.spares_submit codecs world tx
  | nym =>
    refine .bind (.act _ _ rfl) ?_
    intro verdict _
    split
    · exact .bind (.ofExcept _) fun _ _ => .pure _
    · exact .pure _
    · exact .fail _

/-- Looking a transaction up at the hub never reaches the operator's indexer. -/
theorem HubTransport.spares_getTransaction (world : World) (hub : HubTransport)
    (wireHash : Bytes) : Spares (hub.getTransaction world wireHash) := by
  cases hub with
  | http client => exact client.spares_getTransaction world wireHash
  | nym =>
    refine .bind (.act _ _ rfl) ?_
    intro verdict _
    split
    · exact .pure _
    · exact .pure _
    · exact .fail _
    · exact .fail _

end ZeroShim
