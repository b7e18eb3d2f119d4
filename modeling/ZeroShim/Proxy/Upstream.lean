import ZeroShim.Library.Traced
import ZeroShim.Nym.Status
import ZeroShim.Proxy.Http
import ZeroShim.Wire.Frames

/-!
# The egress to the operator's indexer

What a request handler does is a list of actions: it may ask the pool for a
connection to the operator's indexer, hand a request to that connection, talk to
the hub, or log.  How the outside answers is a parameter.

Main results:

- Theorem {lit}`forward_hides_client`: no client-address header reaches the
  operator's indexer.
-/

namespace ZeroShim

open Library

/-! ## Actions -/

inductive LogLevel where
  | debug
  | info
  | warn
  | error
deriving DecidableEq, Repr

/-- One log event. -/
structure LogEvent where
  level : LogLevel
  target : String
  message : String
  fields : List (String × String)
deriving DecidableEq, Repr

/-- What a handler does to its environment. -/
inductive Action where
  /-- {lit}`UpstreamPool::get` -/
  | poolGet
  /-- {lit}`send_request` to the operator's indexer -/
  | sendRequest (req : Request)
  /-- relay to bootproofd -/
  | bootproofd (addr : String) (req : Request)
  /-- a round trip to the hub over HTTP -/
  | hubRoundTrip (req : Request)
  /-- {lit}`NymHandle::submit` -/
  | nymSubmit (tx : Bytes)
  /-- {lit}`NymHandle::get_transaction` -/
  | nymLookup (hash : Bytes)
  /-- the first report of an unrecognised branch -/
  | markReported
  | log (event : LogEvent)
deriving DecidableEq, Repr

/-- The actions that reach the operator's indexer. -/
def Action.reachesOperator : Action → Bool
  | .poolGet => true
  | .sendRequest _ => true
  | _ => false

/-- Why a handler stopped: an error it reports, or a panic. -/
inductive Failure where
  | err (msg : String)
  | panicked
deriving DecidableEq, Repr

/-- A handler's computation. -/
abbrev Task (α : Type) := Traced Action Failure α

/-- A connection to the operator's indexer. -/
structure Upstream where
  authority : String
deriving DecidableEq, Repr

/-- How the environment answers one request's actions. -/
structure World where
  /-- {lit}`http::StatusCode::canonical_reason` -/
  canonicalReason : Nat → Option String
  poolGet : Except String Upstream
  sendRequest : Request → Exchange Response
  bootproofd : String → Request → Except String Response
  hubRoundTrip : Request → Exchange Response
  submitNonce : Wire.Nonce
  nymSubmit : Bytes → Except NymError Unit
  nymLookup : Bytes → Except NymError Wire.LookupReply
  branchReported : Bool
  unixNow : Nat

/-- A status code as {lit}`http` displays it. -/
def World.displayStatus (world : World) (status : Nat) : String :=
  toString status ++ " " ++ (world.canonicalReason status).getD "<unknown status code>"

/-- Log an event. -/
def logEvent (level : LogLevel) (target message : String)
    (fields : List (String × String)) : Task Unit :=
  .act (.log ⟨level, target, message, fields⟩) (.ok ())

/-- An error of the environment, as an error of the task. -/
def orErr {α : Type} (r : Except String α) : Except Failure α :=
  match r with
  | .ok a => .ok a
  | .error msg => .error (.err msg)

/-! ## Responses of the shim itself -/

def grpcUnavailable : Nat := 14

def grpcResourceExhausted : Nat := 8

def grpcCancelled : Nat := 1

def grpcDeadlineExceeded : Nat := 4

def grpcNotFound : Nat := 5

def grpcInvalidArgument : Nat := 3

/-- Anything outside printable ASCII is replaced. -/
def sanitizeGrpcMessage (message : String) : String :=
  String.ofList (message.toList.map fun c => if ' ' ≤ c ∧ c ≤ '~' then c else '.')

/-- A trailers-only gRPC error: HTTP 200 with the status in the headers. -/
def grpcError (code : Nat) (message : String) : Response :=
  let resp := Response.new .empty
  { resp with
    headers := ((resp.headers.insert "content-type" (asciiBytes "application/grpc")).insert
      "grpc-status" (asciiBytes (toString code))).insert
      "grpc-message" (asciiBytes (sanitizeGrpcMessage message)) }

/-- A small plain-text reply. -/
def textResponse (status : Nat) (body : String) : Response :=
  ⟨status, HeaderMap.empty.insert "content-type" (asciiBytes "text/plain; charset=utf-8"),
    .full (asciiBytes body)⟩

/-- A small JSON reply. -/
def jsonResponse (body : String) : Response :=
  ⟨200, HeaderMap.empty.insert "content-type" (asciiBytes "application/json"),
    .full (asciiBytes body)⟩

def cautionHealthOk : Response := Response.new .empty

/-- Length of the gRPC message header. -/
def grpcPrefixLen : Nat := 5

/-- Frame one unary message with a {lit}`grpc-status: 0` trailer. -/
def grpcUnary (message : Bytes) : Response :=
  let resp := Response.new (replayBody (0 :: (beBytes 4 (message.length % 2 ^ 32) ++ message))
    (some (HeaderMap.empty.insert "grpc-status" (asciiBytes "0"))))
  { resp with
    headers := resp.headers.insert "content-type" (asciiBytes "application/grpc") }

/-- The message can be read back from its frame. -/
theorem grpcUnary_injective : Function.Injective grpcUnary := by
  intro m m' h
  have hbody : (grpcUnary m).body = (grpcUnary m').body := by rw [h]
  have hdata := congrArg Body.dataBytes hbody
  simp only [grpcUnary, Response.new, replayBody, replayFrames, Body.dataBytes,
    List.isEmpty_cons, Bool.false_eq_true, if_false, List.cons_append, List.nil_append,
    List.flatMap_cons, List.flatMap_nil, Frame.dataBytes, List.append_nil] at hdata
  have hdrop := congrArg (List.drop grpcPrefixLen) hdata
  simpa [grpcPrefixLen, List.drop_append] using hdrop

/-! ## Forwarding -/

/-- The headers a fronting proxy adds about the client. -/
def clientAddressHeaders : List String :=
  ["x-forwarded-for", "x-forwarded-host", "x-forwarded-proto", "x-forwarded-port",
    "x-real-ip", "forwarded", "via"]

def stripClientAddressHeaders (headers : HeaderMap) : HeaderMap :=
  clientAddressHeaders.foldl HeaderMap.remove headers

/-- The indexer may not negotiate message compression through the shim. -/
def normalizeResponseEncoding (headers : HeaderMap) : HeaderMap :=
  if headers.containsKey "grpc-accept-encoding" then
    headers.insert "grpc-accept-encoding" (asciiBytes "identity")
  else headers

/-- The request as the operator's indexer sees it: retargeted, and without the
headers that name the client. -/
def retarget (upstream : Upstream) (req : Request) : Request :=
  { req with
    uri :=
      { scheme := some "http"
        authority := some upstream.authority
        pathAndQuery := some (req.uri.pathAndQuery.getD ⟨"/", none⟩) }
    headers := stripClientAddressHeaders (req.headers.remove "host") }

/-- The single egress point to the operator's indexer. -/
def forward (world : World) (upstream : Upstream) (req : Request) : Task Response := do
  let outbound := retarget upstream req
  let resp ← .act (.sendRequest outbound)
    (match world.sendRequest outbound with
      | .done resp => .ok resp
      | .failed err => .error (.err err)
      | .timedOut =>
        .error (.err "backing indexer accepted the request but sent no response headers"))
  return { resp with headers := normalizeResponseEncoding resp.headers }

/-- Forward a request that is not decoded. -/
def passThrough (world : World) (req : Request) : Task Response := do
  let upstream ← .act .poolGet (orErr world.poolGet)
  let resp ← forward world upstream req
  let grpcStatus := ((resp.headers.get "grpc-status").bind headerText).map String.ofList
  let _ ← logEvent .debug "zis::proxy" "proxied"
    [("method", req.method), ("path", req.uri.path), ("status", toString resp.status),
      ("grpc_status", grpcStatus.getD "(in trailers)")]
  return resp

theorem HeaderMap.get_remove (headers : HeaderMap) (name removed : String) :
    (headers.remove removed).get name = if name = removed then none else headers.get name := by
  unfold remove get
  rw [List.find?_filter]
  by_cases h : name = removed
  · subst h
    rw [if_pos rfl]
    simp
  · rw [if_neg h]
    congr 2
    funext entry
    by_cases hentry : entry.1 = name
    · simp [hentry, h]
    · simp [hentry]

theorem foldl_remove_get (names : List String) (headers : HeaderMap) (name : String) :
    (names.foldl HeaderMap.remove headers).get name =
      if name ∈ names then none else headers.get name := by
  induction names generalizing headers with
  | nil => simp
  | cons removed names ih =>
    rw [List.foldl_cons, ih, HeaderMap.get_remove]
    by_cases hmem : name ∈ names
    · simp [hmem]
    · by_cases heq : name = removed <;> simp [hmem, heq]

/-- Every other header reaches the indexer with its first value; the headers that
name the client do not. -/
theorem forward_hides_client (upstream : Upstream) (req : Request) (name : String) :
    (retarget upstream req).headers.get name =
      if name ∈ "host" :: clientAddressHeaders then none else req.headers.get name := by
  unfold retarget stripClientAddressHeaders
  dsimp only
  rw [foldl_remove_get, HeaderMap.get_remove]
  by_cases hmem : name ∈ clientAddressHeaders
  · simp [hmem]
  · by_cases heq : name = "host" <;> simp [hmem, heq]

end ZeroShim
