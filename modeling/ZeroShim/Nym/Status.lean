import ZeroShim.Wire.Frames

/-!
# Mixnet status and errors

The externally observable health of the mixnet client, and why a request over the
mixnet produced no verdict.

Main results:

- Theorem {lit}`MixnetStatus.toJson_eq_of_polled`: the polled status shows four fields
  and nothing else.
- Theorem {lit}`MixnetStatus.isHealthy_eq_of_polled`: health is read off those fields.
-/

namespace ZeroShim

open Library

/-! ## Texts -/

/-- The displayed text of a frame error: budgets, never a transaction's own length. -/
def Wire.WireError.text : Wire.WireError → String
  | .wrongLength expected got =>
    "wrong frame length: expected " ++ toString expected ++ ", got " ++ toString got
  | .badMagic => "bad frame magic"
  | .txTooLarge _ budget =>
    "transaction exceeds the " ++ toString budget ++ "-byte frame budget"
  | .txLenOverrunsFrame declared =>
    "declared tx_len " ++ toString declared ++ " overruns the frame"
  | .hashTooLarge _ =>
    "hash exceeds the " ++ toString Wire.maxLookupHashBytes ++ "-byte lookup budget"
  | .hashLenOverrunsFrame declared =>
    "declared hash_len " ++ toString declared ++ " overruns the frame"
  | .unknownDisposition byte => "unknown disposition byte " ++ toString byte
  | .unknownRefusal byte => "unknown refusal byte " ++ toString byte
  | .strayReplyPayload =>
    "not_found/error reply carries a height or transaction bytes"

/-- Why a request produced no verdict. -/
inductive NymError where
  | encode (err : Wire.WireError)
  | timeout
  | transportGone
deriving DecidableEq, Repr

/-- The displayed text of a mixnet error. -/
def NymError.text : NymError → String
  | .encode err => "could not frame the request: " ++ err.text
  | .timeout => "no reply from the hub within the timeout"
  | .transportGone => "the mixnet transport is not running"

/-! ## Status -/

/-- Externally observable health of the mixnet client.  Only the first four fields
are in the polled status; the traffic counters are for the gated endpoint. -/
structure MixnetStatus where
  configured : Bool
  connected : Bool
  deaths : Nat
  consecutiveFailures : Nat
  diagEnabled : Bool
  repliesReceived : Nat
  emptyInbound : Nat
  sendsDispatched : Nat
  lastReplyUnix : Nat
  startedUnix : Nat
  address : Option String
deriving DecidableEq, Repr

namespace MixnetStatus

/-- The status before anything happened. -/
def initial : MixnetStatus where
  configured := false
  connected := false
  deaths := 0
  consecutiveFailures := 0
  diagEnabled := false
  repliesReceived := 0
  emptyInbound := 0
  sendsDispatched := 0
  lastReplyUnix := 0
  startedUnix := 0
  address := none

/-- Diversion is configured. -/
def setConfigured (status : MixnetStatus) (unixNow : Nat) : MixnetStatus :=
  { status with configured := true, startedUnix := unixNow }

/-- A client is up. -/
def setConnected (status : MixnetStatus) : MixnetStatus :=
  { status with connected := true, consecutiveFailures := 0 }

/-- The client died. -/
def setDied (status : MixnetStatus) : MixnetStatus :=
  { status with connected := false, deaths := status.deaths + 1 }

/-- A rebuild attempt failed. -/
def setRebuildFailed (status : MixnetStatus) : MixnetStatus :=
  { status with connected := false, consecutiveFailures := status.consecutiveFailures + 1 }

/-- One frame handed to the SDK sender. -/
def recordSend (status : MixnetStatus) : MixnetStatus :=
  { status with sendsDispatched := status.sendsDispatched + 1 }

/-- One inbound mixnet message. -/
def recordInbound (status : MixnetStatus) (empty : Bool) (unixNow : Nat) : MixnetStatus :=
  if empty then { status with emptyInbound := status.emptyInbound + 1 }
  else
    { status with
      repliesReceived := status.repliesReceived + 1
      lastReplyUnix := unixNow }

/-- Every inbound mixnet message seen. -/
def inboundTotal (status : MixnetStatus) : Nat := status.repliesReceived + status.emptyInbound

/-- Publish the client's own address. -/
def setAddress (status : MixnetStatus) (address : String) : MixnetStatus :=
  { status with address := some address }

/-- Whether the shim can currently carry a migration. -/
def isHealthy (status : MixnetStatus) : Bool := !status.configured || status.connected

/-- One member of a JSON object. -/
def jsonMember (name value : String) : String := "\"" ++ name ++ "\":" ++ value

def jsonObject (members : List String) : String :=
  "\x7b" ++ String.intercalate "," members ++ "\x7d"

/-- The status as the JSON the endpoint serves. -/
def toJson (status : MixnetStatus) : String :=
  jsonObject
    [jsonMember "diversion_configured" (toString status.configured),
      jsonMember "mixnet_connected" (toString status.connected),
      jsonMember "client_deaths" (toString status.deaths),
      jsonMember "consecutive_rebuild_failures" (toString status.consecutiveFailures)]

/-- The gateway half of an address. -/
def gatewayOf (address : String) : String :=
  String.ofList (address.toList.reverse.takeWhile (· ≠ '@')).reverse

/-- The diagnostic payload. -/
def diagJson (status : MixnetStatus) (unixNow : Nat) : String :=
  jsonObject
    [jsonMember "replies_received" (toString status.repliesReceived),
      jsonMember "empty_inbound" (toString status.emptyInbound),
      jsonMember "sends_dispatched" (toString status.sendsDispatched),
      jsonMember "last_reply_unix" (toString status.lastReplyUnix),
      jsonMember "started_unix" (toString status.startedUnix),
      jsonMember "uptime_secs" (toString (unixNow - status.startedUnix)),
      jsonMember "gateway" ("\"" ++ gatewayOf (status.address.getD "") ++ "\""),
      jsonMember "mixnet_connected" (toString status.connected),
      jsonMember "client_deaths" (toString status.deaths),
      jsonMember "consecutive_rebuild_failures" (toString status.consecutiveFailures)]

/-- The fields that the polled status shows. -/
def polled (status : MixnetStatus) : Bool × Bool × Nat × Nat :=
  (status.configured, status.connected, status.deaths, status.consecutiveFailures)

/-- The polled status shows nothing else. -/
theorem toJson_eq_of_polled {status other : MixnetStatus} (h : status.polled = other.polled) :
    status.toJson = other.toJson := by
  simp only [polled, Prod.mk.injEq] at h
  simp only [toJson, h]

theorem isHealthy_eq_of_polled {status other : MixnetStatus} (h : status.polled = other.polled) :
    status.isHealthy = other.isHealthy := by
  simp only [polled, Prod.mk.injEq] at h
  simp only [isHealthy, h]

section Polled

variable {status other : MixnetStatus}

@[simp] theorem polled_recordSend (status : MixnetStatus) :
    status.recordSend.polled = status.polled := rfl

@[simp] theorem polled_recordInbound (status : MixnetStatus) (empty : Bool) (unixNow : Nat) :
    (status.recordInbound empty unixNow).polled = status.polled := by
  cases empty <;> rfl

@[simp] theorem polled_setAddress (status : MixnetStatus) (address : String) :
    (status.setAddress address).polled = status.polled := rfl

/-- What becomes of the polled fields depends on them alone. -/
theorem polled_setConfigured (h : status.polled = other.polled) (unixNow : Nat) :
    (status.setConfigured unixNow).polled = (other.setConfigured unixNow).polled := by
  simp only [polled, Prod.mk.injEq] at h
  simp [polled, setConfigured, h]

theorem polled_setConnected (h : status.polled = other.polled) :
    status.setConnected.polled = other.setConnected.polled := by
  simp only [polled, Prod.mk.injEq] at h
  simp [polled, setConnected, h]

theorem polled_setDied (h : status.polled = other.polled) :
    status.setDied.polled = other.setDied.polled := by
  simp only [polled, Prod.mk.injEq] at h
  simp [polled, setDied, h]

theorem polled_setRebuildFailed (h : status.polled = other.polled) :
    status.setRebuildFailed.polled = other.setRebuildFailed.polled := by
  simp only [polled, Prod.mk.injEq] at h
  simp [polled, setRebuildFailed, h]

end Polled

end MixnetStatus

end ZeroShim
