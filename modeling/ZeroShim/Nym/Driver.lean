import ZeroShim.Nym.Correlate
import ZeroShim.Nym.Status
import ZeroShim.Nym.Supervisor

/-!
# The driver

{lit}`run_driver` as a state machine over the channels it holds an end of.  Its steps
are the stretches between its awaits: an arm of the {lit}`select!`, or the end of a
build, of a {lit}`send` or of a {lit}`disconnect`.  What the SDK does is decided
outside: whether a build succeeds and under which address, whether a message handed
over is accepted, and what arrives.

Main results:

- Theorem {lit}`stepped_of_step`: what a step can do.
- Theorem {lit}`sending_of_stepped`: a frame taken is in flight until it is settled.
- Theorem {lit}`outFrames_of_stepped`: frames leave the queue only by being taken.
- Theorem {lit}`told_of_stepped`: what shows right before a frame is settled.
- Theorem {lit}`handed_of_stepped`: what the SDK is handed, and its answers.
-/

namespace ZeroShim
namespace Nym

open Library

/-- A Nym address, as text. -/
abbrev Recipient := String

/-- A message handed to the SDK. -/
structure SdkMessage where
  recipient : Recipient
  bytes : Bytes
  surbs : Nat
deriving DecidableEq

/-! ## Entry gateways -/

/-- A rotating chooser over the configured entry gateways. -/
structure GatewaySelector where
  gateways : List String
  next : UInt64
deriving DecidableEq, Repr

namespace GatewaySelector

def new (gateways : List String) : GatewaySelector := ⟨gateways, 0⟩

/-- The gateway for the next build; none lets the SDK choose. -/
def take (selector : GatewaySelector) : Option String × GatewaySelector :=
  if selector.gateways = [] then (none, selector)
  else
    (selector.gateways[selector.next.toNat % selector.gateways.length]?,
      { selector with next := selector.next + 1 })

end GatewaySelector

/-! ## State -/

/-- A mixnet client: how many were built before it, and its own address. -/
structure Client where
  number : Nat
  address : Recipient
deriving DecidableEq, Repr

/-- The send in flight, with what it took of the loop's locals as it began: the sender it goes
through, and for a probe the address it goes to. -/
inductive InFlight where
  | frame (sender : Nat) (out : OutFrame)
  | probe (sender : Nat) (own : Recipient)
deriving DecidableEq, Repr

@[simp] def InFlight.isProbe : InFlight → Bool
  | .frame _ _ => false
  | .probe _ _ => true

/-- What became of a frame taken off the queue. -/
inductive Fate where
  | passed (message : SdkMessage)
  /-- The SDK refused it. -/
  | refused
  /-- No hub address under its target. -/
  | unaddressed
  /-- Its client was torn down. -/
  | abandoned
deriving DecidableEq

/-- Why a client is torn down. -/
inductive Teardown where
  | stop
  | rebuild
  | died
deriving DecidableEq, Repr

/-- Who called {lit}`build_when_told`. -/
inductive Caller where
  /-- The first connect. -/
  | connect
  /-- The loop. -/
  | loop
deriving DecidableEq, Repr

namespace Driver

/-- Where the driver is. -/
inductive Phase where
  | starting
  /-- In the first {lit}`build_client`. -/
  | connecting
  /-- In the loop's {lit}`select!`. -/
  | serving (client : Client)
  /-- Reporting, in the probe arm, a client that is not delivered to. -/
  | reportingSilence (client : Client)
  /-- Passing inbound messages on. -/
  | delivering (client : Client) (message : Bytes) (rest : List Bytes)
  /-- Disconnecting the client, to stop or to build another one. -/
  | disconnecting (client : Client) (stop : Bool)
  /-- In the {lit}`build_client` of a rebuild. -/
  | rebuilding
  /-- Reporting, without a client, the death of one or a failed build. -/
  | reporting (caller : Caller) (dead : Option Client)
  /-- In {lit}`build_when_told`, waiting for a command. -/
  | waiting (caller : Caller)
  /-- In {lit}`build_when_told`, building. -/
  | building (caller : Caller)
  | returned
deriving DecidableEq

/-- The client that is held, live and connected. -/
def Phase.client? : Phase → Option Client
  | .serving client => some client
  | .reportingSilence client => some client
  | .delivering client _ _ => some client
  | .disconnecting client _ => some client
  | _ => none

/-- The driver waits for the end of a build. -/
def Phase.isBuilding : Phase → Bool
  | .connecting => true
  | .rebuilding => true
  | .building _ => true
  | _ => false

/-- The channels the driver holds an end of. -/
structure Ports where
  outFrames : Channel OutFrame 8
  inbound : Channel Bytes 32
  link : Link

end Driver

/-- The driver and its locals. -/
structure Driver where
  hubAddresses : List Recipient
  gateways : GatewaySelector
  status : MixnetStatus
  /-- The clients built so far. -/
  built : Nat
  /-- The number of the client that the sender was split off.  Both this and the address are
  first set as the first client is built. -/
  sender : Nat
  /-- Our own address, which the probes go to. -/
  own : Recipient
  inFlight : Option InFlight
  inboundAtProbe : Option Nat
  silentRounds : Nat
  phase : Driver.Phase

namespace Driver

/-- What a driver shows. -/
inductive Observed where
  /-- It published how many addresses it holds. -/
  | published (targets : Nat)
  /-- A build began, through a gateway if one is pinned. -/
  | requested (gateway : Option String)
  | connected (client : Client)
  | failed
  /-- The probe ticked, with so many frames queued. -/
  | ticked (queued : Nat)
  | took (out : OutFrame)
  /-- A frame's message was handed to a sender, which accepted or refused it. -/
  | handed (sender : Nat) (message : SdkMessage) (accepted : Bool)
  | settled (out : OutFrame) (fate : Fate)
  | probed (sender : Nat) (message : SdkMessage) (accepted : Bool)
  | received (messages : List Bytes)
  | gaveUp (client : Client)
  /-- {lit}`Died` was sent, for a client or for a build that failed. -/
  | reported (client : Option Client)
  /-- A command was received while a client was held, or none. -/
  | told (command : ClientCommand) (client : Option Client)
  /-- {lit}`report_abandoned`. -/
  | abandoned (why : Teardown) (queued : Nat) (sending : Bool)
  | disconnected (client : Client)
  /-- It returned, and dropped what was still queued. -/
  | returned (dropped : List OutFrame)

/-- What can happen next. -/
inductive Event where
  | start (unixNow : Nat)
  /-- A build ends. -/
  | built (outcome : Option Recipient)
  | tick
  | command
  | takeFrame
  /-- The send in flight completes, accepted by the SDK or refused. -/
  | sent (accepted : Bool)
  /-- Messages arrive, or the SDK has given up. -/
  | arrive (messages : Option (List Bytes)) (unixNow : Nat)
  /-- The {lit}`send` of an inbound message completes. -/
  | delivered (unixNow : Nat)
  /-- The {lit}`send` of {lit}`Died` completes. -/
  | reported
  | disconnected
deriving DecidableEq

/-- Consecutive silent rounds before a client is reported. -/
def silentRoundsBeforeRebuild : Nat := 2

/-! ## Sends -/

/-- {lit}`send_frame`, where the SDK accepts the message or not. -/
def sendFrame (hubAddresses : List Recipient) (out : OutFrame) (accepted : Bool) : Fate :=
  match hubAddresses[out.target]? with
  | none => .unaddressed
  | some recipient =>
    if accepted then .passed ⟨recipient, out.frame, out.replySurbs⟩ else .refused

/-- What it hands to the SDK. -/
def handOver (hubAddresses : List Recipient) (sender : Nat) (out : OutFrame) (accepted : Bool) :
    List Observed :=
  match hubAddresses[out.target]? with
  | none => []
  | some recipient => [.handed sender ⟨recipient, out.frame, out.replySurbs⟩ accepted]

/-- The liveness probe: an empty message to our own address. -/
def probeMessage (own : Recipient) : SdkMessage := ⟨own, [], 0⟩

/-- The frame of the send in flight. -/
def sending (d : Driver) : List OutFrame :=
  match d.inFlight with
  | some (.frame _ out) => [out]
  | _ => []

/-- It is a probe. -/
def probing (d : Driver) : Bool := d.inFlight.any InFlight.isProbe

/-- What becomes of the send in flight when its client goes away. -/
def drop (d : Driver) : List Observed := d.sending.map fun out => .settled out .abandoned

/-! ## Lifecycle -/

/-- The driver returns: what it holds and its channel ends are dropped. -/
def leave (d : Driver) (ports : Ports) : Driver × Ports × List Observed :=
  ({ d with phase := .returned, inFlight := none },
    ⟨ports.outFrames.dropReceiver, ports.inbound.dropSenders,
      ⟨ports.link.events.dropSenders, ports.link.commands.dropReceiver⟩⟩,
    d.drop ++ [.returned ports.outFrames.queue])

/-- A build begins, through the next gateway. -/
def request (d : Driver) (phase : Phase) : Driver × List Observed :=
  ({ d with gateways := d.gateways.take.2, phase := phase }, [.requested d.gateways.take.1])

/-- A build succeeded: the loop begins with the new client, whose sender it splits off and whose
address is published where the caller does so. -/
def connect (d : Driver) (address : Recipient) (publish : Bool) : Driver × List Observed :=
  ({ d with
     status :=
       if publish then d.status.setConnected.setAddress address else d.status.setConnected
     built := d.built + 1
     sender := d.built
     own := address
     inboundAtProbe := none
     silentRounds := 0
     phase := .serving ⟨d.built, address⟩ },
    [.connected ⟨d.built, address⟩])

/-- A build failed, and is reported. -/
def fail (d : Driver) (caller : Caller) : Driver × List Observed :=
  ({ d with status := d.status.setRebuildFailed, phase := .reporting caller none }, [.failed])

/-- A build ends.  The first connect publishes its address only where it did not have to
be rebuilt. -/
def endBuild (d : Driver) (outcome : Option Recipient) : Option (Driver × List Observed) :=
  match d.phase, outcome with
  | .connecting, some address => some (d.connect address true)
  | .rebuilding, some address => some (d.connect address true)
  | .building caller, some address => some (d.connect address (caller = .loop))
  | .connecting, none => some (d.fail .connect)
  | .rebuilding, none => some (d.fail .loop)
  | .building caller, none => some (d.fail caller)
  | _, _ => none

/-- {lit}`Step::Stop`: the client is disconnected, and the driver returns. -/
def stop (d : Driver) (client : Client) (queued : Nat) : Driver × List Observed :=
  ({ d with phase := .disconnecting client true },
    [.abandoned .stop queued d.inFlight.isSome])

/-- {lit}`Step::Rebuild`: the client is disconnected, and another one built. -/
def rebuild (d : Driver) (client : Client) (queued : Nat) : Driver × List Observed :=
  ({ d with phase := .disconnecting client false, inFlight := none },
    .abandoned .rebuild queued d.inFlight.isSome :: d.drop)

/-- {lit}`Step::Died`: the client is gone, and that is reported. -/
def die (d : Driver) (client : Client) (queued : Nat) : Driver × List Observed :=
  ({ d with
     phase := .reporting .loop (some client)
     inFlight := none
     status := d.status.setDied },
    .gaveUp client :: .abandoned .died queued d.inFlight.isSome :: d.drop)

/-! ## The arms of the loop -/

/-- The probe's tick: nothing arrived since the last probe while nothing was queued, or
there is no such probe. -/
def tick (d : Driver) (client : Client) (queued : Nat) : Driver :=
  if d.inboundAtProbe = some d.status.inboundTotal ∧ queued = 0 then
    if silentRoundsBeforeRebuild ≤ d.silentRounds + 1 then
      { d with silentRounds := 0, inboundAtProbe := none, phase := .reportingSilence client }
    else { d with
        silentRounds := d.silentRounds + 1
        inFlight := some (.probe d.sender d.own) }
  else { d with silentRounds := 0, inFlight := some (.probe d.sender d.own) }

/-- The send in flight completed, through the sender it began with. -/
def endSend (d : Driver) (accepted : Bool) : InFlight → Driver × List Observed
  | .frame sender out =>
    ({ d with inFlight := none, status := d.status.recordSend },
      handOver d.hubAddresses sender out accepted ++
        [.settled out (sendFrame d.hubAddresses out accepted)])
  | .probe sender own =>
    ({ d with inFlight := none, inboundAtProbe := some d.status.inboundTotal },
      [.probed sender (probeMessage own) accepted])

/-- Go through inbound messages up to the next one to pass on. -/
def forward (d : Driver) (client : Client) (unixNow : Nat) : List Bytes → Driver
  | [] => { d with phase := .serving client }
  | [] :: rest =>
    forward { d with status := d.status.recordInbound true unixNow } client unixNow rest
  | message :: rest =>
    { d with
      status := d.status.recordInbound false unixNow
      phase := .delivering client message rest }

/-! ## Steps -/

/-- A step that leaves the channels alone. -/
def alone (ports : Ports) (out : Driver × List Observed) :
    Option (Driver × Ports × List Observed) :=
  some (out.1, ports, out.2)

/-- {lit}`events.send(Died)`; without a receiver it fails, which is ignored. -/
def report (ports : Ports) (d : Driver) (client : Option Client) (phase : Phase) :
    Option (Driver × Ports × List Observed) :=
  if ports.link.events.receiver then
    match ports.link.events.send .died with
    | some events =>
      some ({ d with phase := phase },
        { ports with link := { ports.link with events := events } }, [.reported client])
    | none => none
  else some ({ d with phase := phase }, ports, [])

/-- A command received in the loop. -/
def obey (ports : Ports) (d : Driver) (client : Client) :
    Option (Driver × Ports × List Observed) :=
  match ports.link.commands.recv with
  | .item .rebuild commands =>
    some ((d.rebuild client ports.outFrames.queue.length).1,
      { ports with link := { ports.link with commands := commands } },
      .told .rebuild (some client) :: (d.rebuild client ports.outFrames.queue.length).2)
  | .item .disconnect commands =>
    some ((d.stop client ports.outFrames.queue.length).1,
      { ports with link := { ports.link with commands := commands } },
      .told .disconnect (some client) :: (d.stop client ports.outFrames.queue.length).2)
  | .ended => alone ports (d.stop client ports.outFrames.queue.length)
  | .pending => none

/-- A command received in {lit}`build_when_told`. -/
def await (ports : Ports) (d : Driver) (caller : Caller) :
    Option (Driver × Ports × List Observed) :=
  match ports.link.commands.recv with
  | .item .rebuild commands =>
    some ((d.request (.building caller)).1,
      { ports with link := { ports.link with commands := commands } },
      .told .rebuild none :: (d.request (.building caller)).2)
  | .item .disconnect commands =>
    some ((d.leave ports).1,
      (d.leave { ports with link := { ports.link with commands := commands } }).2.1,
      .told .disconnect none :: (d.leave ports).2.2)
  | .ended => some (d.leave ports)
  | .pending => none

/-- The next frame. -/
def takeFrame (ports : Ports) (d : Driver) (client : Client) :
    Option (Driver × Ports × List Observed) :=
  match ports.outFrames.recv with
  | .item out outFrames =>
    some ({ d with inFlight := some (.frame d.sender out) },
      { ports with outFrames := outFrames }, [.took out])
  | .ended => alone ports (d.stop client ports.outFrames.queue.length)
  | .pending => none

/-- An inbound message is passed on; without a receiver that fails, which is ignored. -/
def passOn (ports : Ports) (d : Driver) (client : Client) (message : Bytes)
    (rest : List Bytes) (unixNow : Nat) : Option (Driver × Ports × List Observed) :=
  if ports.inbound.receiver then
    match ports.inbound.send message with
    | some inbound =>
      some (d.forward client unixNow rest, { ports with inbound := inbound }, [])
    | none => none
  else some (d.forward client unixNow rest, ports, [])

/-- One step. -/
def step (ports : Ports) (d : Driver) (e : Event) : Option (Driver × Ports × List Observed) :=
  match d.phase, e with
  | .starting, .start unixNow =>
    alone ports
      ((({ d with status := d.status.setConfigured unixNow }).request .connecting).1,
        .published d.hubAddresses.length :: (d.request .connecting).2)
  | .serving client, .tick =>
    if d.inFlight = none then
      alone ports
        (d.tick client ports.outFrames.queue.length, [.ticked ports.outFrames.queue.length])
    else none
  | .serving client, .command => obey ports d client
  | .serving client, .takeFrame =>
    if d.inFlight = none then takeFrame ports d client else none
  | .serving _, .sent accepted =>
    match d.inFlight with
    | some inFlight => alone ports (d.endSend accepted inFlight)
    | none => none
  | .serving client, .arrive (some messages) unixNow =>
    some (d.forward client unixNow messages, ports, [.received messages])
  | .serving client, .arrive none _ => alone ports (d.die client ports.outFrames.queue.length)
  | .reportingSilence client, .reported => report ports d (some client) (.serving client)
  | .reporting caller dead, .reported => report ports d dead (.waiting caller)
  | .delivering client message rest, .delivered unixNow =>
    passOn ports d client message rest unixNow
  | .waiting caller, .command => await ports d caller
  | .disconnecting client true, .disconnected =>
    some ((d.leave ports).1, (d.leave ports).2.1, .disconnected client :: (d.leave ports).2.2)
  | .disconnecting client false, .disconnected =>
    alone ports
      ((({ d with status := d.status.setDied }).request .rebuilding).1,
        .disconnected client :: (d.request .rebuilding).2)
  | _, .built outcome => (d.endBuild outcome).map fun out => (out.1, ports, out.2)
  | _, _ => none

/-- The driver before it starts. -/
def initial (hubAddresses : List Recipient) (gateways : List String) : Driver where
  hubAddresses := hubAddresses
  gateways := .new gateways
  status := .initial
  built := 0
  sender := 0
  own := ""
  inFlight := none
  inboundAtProbe := none
  silentRounds := 0
  phase := .starting

/-! ## What a step can do -/

/-- The effects of a step. -/
inductive Stepped (ports : Ports) (d : Driver) :
    Event → Driver → Ports → List Observed → Prop where
  | start {unixNow} : d.phase = .starting →
      Stepped ports d (.start unixNow)
        (({ d with status := d.status.setConfigured unixNow }).request .connecting).1 ports
        (.published d.hubAddresses.length :: (d.request .connecting).2)
  | tick {client} : d.phase = .serving client → d.inFlight = none →
      Stepped ports d .tick (d.tick client ports.outFrames.queue.length) ports
        [.ticked ports.outFrames.queue.length]
  | rebuild {client commands} : d.phase = .serving client →
      ports.link.commands.recv = .item .rebuild commands →
      Stepped ports d .command (d.rebuild client ports.outFrames.queue.length).1
        { ports with link := { ports.link with commands := commands } }
        (.told .rebuild (some client) :: (d.rebuild client ports.outFrames.queue.length).2)
  | disconnect {client commands} : d.phase = .serving client →
      ports.link.commands.recv = .item .disconnect commands →
      Stepped ports d .command (d.stop client ports.outFrames.queue.length).1
        { ports with link := { ports.link with commands := commands } }
        (.told .disconnect (some client) :: (d.stop client ports.outFrames.queue.length).2)
  | stop {client e} : d.phase = .serving client →
      ports.link.commands.recv = .ended ∨ ports.outFrames.recv = .ended →
      Stepped ports d e (d.stop client ports.outFrames.queue.length).1 ports
        (d.stop client ports.outFrames.queue.length).2
  | takeFrame {client out outFrames} : d.phase = .serving client → d.inFlight = none →
      ports.outFrames.recv = .item out outFrames →
      Stepped ports d .takeFrame { d with inFlight := some (.frame d.sender out) }
        { ports with outFrames := outFrames } [.took out]
  | sent {client accepted inFlight} : d.phase = .serving client → d.inFlight = some inFlight →
      Stepped ports d (.sent accepted) (d.endSend accepted inFlight).1 ports
        (d.endSend accepted inFlight).2
  | receive {client messages unixNow} : d.phase = .serving client →
      Stepped ports d (.arrive (some messages) unixNow) (d.forward client unixNow messages)
        ports [.received messages]
  | die {client unixNow} : d.phase = .serving client →
      Stepped ports d (.arrive none unixNow) (d.die client ports.outFrames.queue.length).1 ports
        (d.die client ports.outFrames.queue.length).2
  | reportSilence {client d' ports' o} : d.phase = .reportingSilence client →
      report ports d (some client) (.serving client) = some (d', ports', o) →
      Stepped ports d .reported d' ports' o
  | report {caller dead d' ports' o} : d.phase = .reporting caller dead →
      report ports d dead (.waiting caller) = some (d', ports', o) →
      Stepped ports d .reported d' ports' o
  | passOn {client message rest unixNow inbound} : d.phase = .delivering client message rest →
      (ports.inbound.receiver = true ∧ ports.inbound.send message = some inbound ∨
        ports.inbound.receiver = false ∧ inbound = ports.inbound) →
      Stepped ports d (.delivered unixNow) (d.forward client unixNow rest)
        { ports with inbound := inbound } []
  | rebuildAgain {caller commands} : d.phase = .waiting caller →
      ports.link.commands.recv = .item .rebuild commands →
      Stepped ports d .command (d.request (.building caller)).1
        { ports with link := { ports.link with commands := commands } }
        (.told .rebuild none :: (d.request (.building caller)).2)
  | leaveTold {caller commands} : d.phase = .waiting caller →
      ports.link.commands.recv = .item .disconnect commands →
      Stepped ports d .command (d.leave ports).1
        (d.leave { ports with link := { ports.link with commands := commands } }).2.1
        (.told .disconnect none :: (d.leave ports).2.2)
  | leave {caller} : d.phase = .waiting caller → ports.link.commands.recv = .ended →
      Stepped ports d .command (d.leave ports).1 (d.leave ports).2.1 (d.leave ports).2.2
  | disconnectedLast {client} : d.phase = .disconnecting client true →
      Stepped ports d .disconnected (d.leave ports).1 (d.leave ports).2.1
        (.disconnected client :: (d.leave ports).2.2)
  | disconnected {client} : d.phase = .disconnecting client false →
      Stepped ports d .disconnected
        (({ d with status := d.status.setDied }).request .rebuilding).1 ports
        (.disconnected client :: (d.request .rebuilding).2)
  | connect {address publish} : d.phase.isBuilding = true →
      Stepped ports d (.built (some address)) (d.connect address publish).1 ports
        (d.connect address publish).2
  | fail {caller} : d.phase.isBuilding = true →
      Stepped ports d (.built none) (d.fail caller).1 ports (d.fail caller).2

theorem stepped_of_endBuild {ports : Ports} {d d' : Driver} {outcome : Option Recipient}
    {o : List Observed} (h : d.endBuild outcome = some (d', o)) :
    Stepped ports d (.built outcome) d' ports o := by
  unfold endBuild at h
  split at h <;> cases h
  · next hphase => exact .connect (by simp [hphase, Phase.isBuilding])
  · next hphase => exact .connect (by simp [hphase, Phase.isBuilding])
  · next hphase => exact .connect (by simp [hphase, Phase.isBuilding])
  · next hphase => exact .fail (by simp [hphase, Phase.isBuilding])
  · next hphase => exact .fail (by simp [hphase, Phase.isBuilding])
  · next hphase => exact .fail (by simp [hphase, Phase.isBuilding])

theorem stepped_of_step {ports ports' : Ports} {d d' : Driver} {e : Event} {o : List Observed}
    (h : d.step ports e = some (d', ports', o)) : Stepped ports d e d' ports' o := by
  unfold step at h
  split at h
  · next hphase =>
    cases h
    exact .start hphase
  · next client hphase =>
    split_ifs at h with hidle
    · cases h
      exact .tick hphase hidle
  · next client hphase =>
    unfold obey at h
    split at h
    · next commands hrecv =>
      cases h
      exact .rebuild hphase hrecv
    · next commands hrecv =>
      cases h
      exact .disconnect hphase hrecv
    · next hrecv =>
      cases h
      exact .stop hphase (.inl hrecv)
    · cases h
  · next client hphase =>
    split_ifs at h with hidle
    · unfold takeFrame at h
      split at h
      · next out outFrames hrecv =>
        cases h
        exact .takeFrame hphase hidle hrecv
      · next hrecv =>
        cases h
        exact .stop hphase (.inr hrecv)
      · cases h
  · next accepted hphase =>
    split at h
    · next inFlight hinFlight =>
      cases h
      exact .sent hphase hinFlight
    · cases h
  · next client messages unixNow hphase =>
    cases h
    exact .receive hphase
  · next client unixNow hphase =>
    cases h
    exact .die hphase
  · next client hphase => exact .reportSilence hphase h
  · next caller dead hphase => exact .report hphase h
  · next client message rest unixNow hphase =>
    unfold passOn at h
    split_ifs at h with hreceiver
    · split at h
      · next inbound hsend =>
        cases h
        exact .passOn hphase (.inl ⟨hreceiver, hsend⟩)
      · cases h
    · cases h
      exact .passOn hphase (.inr ⟨by simpa using hreceiver, rfl⟩)
  · next caller hphase =>
    unfold await at h
    split at h
    · next commands hrecv =>
      cases h
      exact .rebuildAgain hphase hrecv
    · next commands hrecv =>
      cases h
      exact .leaveTold hphase hrecv
    · next hrecv =>
      cases h
      exact .leave hphase hrecv
    · cases h
  · next client hphase =>
    cases h
    exact .disconnectedLast hphase
  · next client hphase =>
    cases h
    exact .disconnected hphase
  · rcases Option.map_eq_some_iff.mp h with ⟨⟨d₁, o₁⟩, hbuild, heq⟩
    cases heq
    exact stepped_of_endBuild hbuild
  · cases h

/-- The end of a build is decided by its outcome. -/
theorem step_built (ports : Ports) (d : Driver) (outcome : Option Recipient) :
    d.step ports (.built outcome) = (d.endBuild outcome).map fun out => (out.1, ports, out.2) := by
  unfold step
  cases d.phase with
  | disconnecting client stop => cases stop <;> rfl
  | _ => rfl

/-- Nothing happens to a driver that has returned. -/
theorem running_of_stepped {ports ports' : Ports} {d d' : Driver} {e : Event} {o : List Observed}
    (h : Stepped ports d e d' ports' o) : d.phase ≠ .returned := by
  intro hreturned
  cases h with
  | connect hbuilding | fail hbuilding => simp [hreturned, Phase.isBuilding] at hbuilding
  | start hphase | tick hphase | rebuild hphase | disconnect hphase | stop hphase
  | takeFrame hphase | sent hphase | receive hphase | die hphase | reportSilence hphase
  | report hphase | passOn hphase | rebuildAgain hphase | leaveTold hphase | leave hphase
  | disconnectedLast hphase | disconnected hphase =>
    rw [hreturned] at hphase
    cases hphase

/-! ## The frames along a step -/

@[simp] def Observed.took? : Observed → Option OutFrame
  | .took out => some out
  | _ => none

@[simp] def Observed.settled? : Observed → Option (OutFrame × Fate)
  | .settled out fate => some (out, fate)
  | _ => none

@[simp] def Observed.handed? : Observed → Option (SdkMessage × Bool)
  | .handed _ message accepted => some (message, accepted)
  | _ => none

/-- The frames taken off the queue, in order. -/
def taken (o : List Observed) : List OutFrame := o.filterMap Observed.took?

/-- The frames settled, in order, and how. -/
def settled (o : List Observed) : List (OutFrame × Fate) := o.filterMap Observed.settled?

/-- The messages of frames that were handed to the SDK, in order, and whether it accepted
them. -/
def handed (o : List Observed) : List (SdkMessage × Bool) := o.filterMap Observed.handed?

section Parts

variable (o o' : List Observed) (x : Observed)

@[simp] theorem taken_nil : taken [] = [] := rfl

@[simp] theorem settled_nil : settled [] = [] := rfl

@[simp] theorem handed_nil : handed [] = [] := rfl

@[simp] theorem taken_append : taken (o ++ o') = taken o ++ taken o' := List.filterMap_append

@[simp] theorem settled_append : settled (o ++ o') = settled o ++ settled o' :=
  List.filterMap_append

@[simp] theorem handed_append : handed (o ++ o') = handed o ++ handed o' :=
  List.filterMap_append

@[simp] theorem taken_cons : taken (x :: o) = x.took?.toList ++ taken o := by
  unfold taken
  rw [List.filterMap_cons]
  cases x.took? <;> rfl

@[simp] theorem settled_cons : settled (x :: o) = x.settled?.toList ++ settled o := by
  unfold settled
  rw [List.filterMap_cons]
  cases x.settled? <;> rfl

@[simp] theorem handed_cons : handed (x :: o) = x.handed?.toList ++ handed o := by
  unfold handed
  rw [List.filterMap_cons]
  cases x.handed? <;> rfl

end Parts

section HandOver

variable (hubAddresses : List Recipient) (sender : Nat) (out : OutFrame) (accepted : Bool)

/-- All that is shown of a message handed to the SDK. -/
theorem forall_handOver {p : Observed → Prop}
    (h : ∀ message, p (.handed sender message accepted)) :
    ∀ x ∈ handOver hubAddresses sender out accepted, p x := by
  intro x hx
  unfold handOver at hx
  split at hx
  · cases hx
  · rw [List.mem_singleton.mp hx]
    exact h _

@[simp] theorem taken_handOver : taken (handOver hubAddresses sender out accepted) = [] := by
  unfold handOver
  split <;> rfl

@[simp] theorem settled_handOver : settled (handOver hubAddresses sender out accepted) = [] := by
  unfold handOver
  split <;> rfl

/-- All that is shown as a send completes. -/
theorem forall_endSend (d : Driver) (accepted : Bool) {p : Observed → Prop}
    (hhanded : ∀ sender message, p (.handed sender message accepted))
    (hsettled : ∀ out fate, p (.settled out fate))
    (hprobed : ∀ sender message, p (.probed sender message accepted)) (inFlight : InFlight) :
    ∀ x ∈ (d.endSend accepted inFlight).2, p x := by
  intro x hx
  cases inFlight with
  | frame sender out =>
    rcases List.mem_append.mp hx with hx | hx
    · exact forall_handOver _ _ _ _ (hhanded sender) x hx
    · rw [List.mem_singleton.mp hx]
      exact hsettled out _
  | probe sender own =>
    rw [List.mem_singleton.mp hx]
    exact hprobed sender _

end HandOver

section Locals

variable (d : Driver) (client : Client) (unixNow : Nat) (messages : List Bytes)

@[simp] theorem taken_drop : taken d.drop = [] := by
  unfold drop sending
  split <;> rfl

@[simp] theorem settled_drop : settled d.drop = d.sending.map (·, .abandoned) := by
  unfold drop sending
  split <;> rfl

@[simp] theorem handed_drop : handed d.drop = [] := by
  unfold drop sending
  split <;> rfl

/-- Going through inbound messages changes the status and the phase. -/
theorem forward_eq : d.forward client unixNow messages =
    { d with
      status := (d.forward client unixNow messages).status
      phase := (d.forward client unixNow messages).phase } := by
  induction messages generalizing d with
  | nil => rfl
  | cons message rest ih =>
    cases message with
    | nil => exact ih _
    | cons b message => rfl

/-- It stops at a message to pass on, or goes back to the {lit}`select!`. -/
theorem phase_forward : (d.forward client unixNow messages).phase = .serving client ∨
    ∃ message rest, (d.forward client unixNow messages).phase =
      .delivering client message rest := by
  induction messages generalizing d with
  | nil => exact .inl rfl
  | cons message rest ih =>
    cases message with
    | nil => exact ih _
    | cons b message => exact .inr ⟨_, _, rfl⟩

/-- A view of the phase that takes no notice of the message passed on sees the
{lit}`select!`. -/
theorem view_forward {α : Type} (view : Phase → α)
    (h : ∀ message rest, view (.delivering client message rest) = view (.serving client)) :
    view (d.forward client unixNow messages).phase = view (.serving client) := by
  rcases phase_forward d client unixNow messages with hserving | ⟨message, rest, hdelivering⟩
  · rw [hserving]
  · rw [hdelivering, h]

/-- And the client is still held. -/
theorem client?_forward : (d.forward client unixNow messages).phase.client? = some client := by
  apply view_forward d client unixNow messages Phase.client?
  exact fun _ _ => rfl

theorem inFlight_forward : (d.forward client unixNow messages).inFlight = d.inFlight := by
  rw [forward_eq]

theorem hubAddresses_forward :
    (d.forward client unixNow messages).hubAddresses = d.hubAddresses := by
  rw [forward_eq]

theorem built_forward : (d.forward client unixNow messages).built = d.built := by
  rw [forward_eq]

end Locals

/-- What sending {lit}`Died` does. -/
theorem of_report {ports ports' : Ports} {d d' : Driver} {client : Option Client} {phase : Phase}
    {o : List Observed} (h : report ports d client phase = some (d', ports', o)) :
    d' = { d with phase := phase } ∧
      ((∃ events, ports.link.events.receiver = true ∧
          ports.link.events.send .died = some events ∧
          ports' = { ports with link := { ports.link with events := events } } ∧
          o = [.reported client]) ∨
        ports.link.events.receiver = false ∧ ports' = ports ∧ o = []) := by
  unfold report at h
  split_ifs at h with hreceiver
  · split at h
    · next events hsend =>
      cases h
      exact ⟨rfl, .inl ⟨events, hreceiver, hsend, rfl, rfl⟩⟩
    · cases h
  · cases h
    exact ⟨rfl, .inr ⟨by simpa using hreceiver, rfl, rfl⟩⟩

/-- A frame taken is in flight until it is settled. -/
theorem sending_of_stepped {ports ports' : Ports} {d d' : Driver} {e : Event} {o : List Observed}
    (h : Stepped ports d e d' ports' o) :
    d.sending ++ taken o = (settled o).map Prod.fst ++ d'.sending := by
  cases h with
  | @tick client hphase hidle =>
    have htick : (d.tick client ports.outFrames.queue.length).sending = [] := by
      unfold tick
      split_ifs <;> simp [sending, hidle]
    rw [htick]
    simp [sending, hidle]
  | takeFrame hphase hidle hrecv => simp [sending, hidle]
  | @sent client accepted inFlight hphase hinFlight =>
    cases inFlight <;> simp [sending, endSend, hinFlight]
  | receive | passOn => simp [sending, inFlight_forward]
  | reportSilence hphase hreport | report hphase hreport =>
    obtain ⟨rfl, ⟨events, -, -, rfl, rfl⟩ | ⟨-, rfl, rfl⟩⟩ := of_report hreport <;>
      simp [sending]
  | rebuild | die | leaveTold | leave | disconnectedLast =>
    simp [Driver.rebuild, Driver.die, Driver.leave, Function.comp_def, sending]
  | start | disconnect | stop | rebuildAgain | disconnected | connect | fail =>
    simp [Driver.stop, request, Driver.connect, Driver.fail, sending]

/-- Frames leave the queue only by being taken, until the driver returns. -/
theorem outFrames_of_stepped {ports ports' : Ports} {d d' : Driver} {e : Event} {o : List Observed}
    (h : Stepped ports d e d' ports' o) (hrunning : d'.phase ≠ .returned) :
    ports.outFrames.queue = taken o ++ ports'.outFrames.queue ∧
      ports'.outFrames.receiver = ports.outFrames.receiver ∧
      ports'.outFrames.reserved = ports.outFrames.reserved := by
  cases h with
  | takeFrame hphase hidle hrecv =>
    rcases Channel.of_recv hrecv with ⟨hqueue, hreserved, -, hreceiver⟩
    exact ⟨hqueue, hreceiver, hreserved⟩
  | leaveTold | leave | disconnectedLast => exact absurd rfl hrunning
  | reportSilence hphase hreport | report hphase hreport =>
    obtain ⟨rfl, ⟨events, -, -, rfl, rfl⟩ | ⟨-, rfl, rfl⟩⟩ := of_report hreport <;>
      exact ⟨rfl, rfl, rfl⟩
  | @sent client accepted inFlight => cases inFlight <;> simp [endSend]
  | rebuild | die => simp [Driver.rebuild, Driver.die]
  | start | tick | disconnect | stop | receive | passOn | rebuildAgain | disconnected | connect |
      fail => exact ⟨rfl, rfl, rfl⟩

theorem length_sending (d : Driver) : d.sending.length ≤ 1 := by
  unfold sending
  split <;> simp

/-- What the SDK answered to the message of a settled frame, where it was handed one. -/
def answered (hubAddresses : List Recipient) : OutFrame × Fate → Option (SdkMessage × Bool)
  | (_, .passed message) => some (message, true)
  | (out, .refused) =>
    hubAddresses[out.target]?.map fun recipient =>
      (⟨recipient, out.frame, out.replySurbs⟩, false)
  | (_, .unaddressed) => none
  | (_, .abandoned) => none

/-- What shows right before a frame is settled tells its fate: the answer of the SDK to its
message, or the report of a teardown with a send in flight. -/
inductive Told (hubAddresses : List Recipient) (out : OutFrame) : Fate → List Observed → Prop where
  | passed {sender recipient} : hubAddresses[out.target]? = some recipient →
      Told hubAddresses out (.passed ⟨recipient, out.frame, out.replySurbs⟩)
        [.handed sender ⟨recipient, out.frame, out.replySurbs⟩ true]
  | refused {sender recipient} : hubAddresses[out.target]? = some recipient →
      Told hubAddresses out .refused
        [.handed sender ⟨recipient, out.frame, out.replySurbs⟩ false]
  | unaddressed : hubAddresses[out.target]? = none → Told hubAddresses out .unaddressed []
  | abandoned {why queued} : Told hubAddresses out .abandoned [.abandoned why queued true]

/-- A send that completes is answered by the SDK, unless there is nobody to send to. -/
theorem told_of_send (hubAddresses : List Recipient) (sender : Nat) (out : OutFrame)
    (accepted : Bool) :
    Told hubAddresses out (sendFrame hubAddresses out accepted)
      (handOver hubAddresses sender out accepted) := by
  unfold sendFrame handOver
  cases haddress : hubAddresses[out.target]? with
  | none => exact .unaddressed haddress
  | some recipient =>
    cases accepted with
    | true => exact .passed haddress
    | false => exact .refused haddress

/-- A frame is dropped right after its teardown was reported. -/
theorem told_of_drop (d : Driver) (why : Teardown) (queued : Nat) {i : Nat} {out : OutFrame}
    {fate : Fate} (h : (d.sending.map (·, Fate.abandoned))[i]? = some (out, fate)) :
    ∃ post, .abandoned why queued d.inFlight.isSome :: d.drop =
        [.abandoned why queued true] ++ .settled out fate :: post ∧
      0 = i ∧ Told d.hubAddresses out fate [.abandoned why queued true] := by
  unfold drop
  unfold sending at h ⊢
  split at h
  · next sender frame hinFlight =>
    cases i with
    | zero =>
      cases h
      exact ⟨[], by simp [hinFlight], rfl, .abandoned⟩
    | succ i => cases h
  · cases h

/-- A frame is settled by a send that completes, or dropped by a teardown that reports it. -/
theorem told_of_stepped {ports ports' : Ports} {d d' : Driver} {e : Event} {o : List Observed}
    (h : Stepped ports d e d' ports' o) {i : Nat} {out : OutFrame} {fate : Fate}
    (hrunning : fate = .abandoned → d'.phase ≠ .returned)
    (hsettled : (settled o)[i]? = some (out, fate)) :
    ∃ pre before post, o = pre ++ before ++ .settled out fate :: post ∧
      (settled pre).length = i ∧ Told d.hubAddresses out fate before := by
  cases h with
  | @sent client accepted inFlight hphase hinFlight =>
    cases inFlight with
    | frame sender frame =>
      have hone : [(frame, sendFrame d.hubAddresses frame accepted)][i]? = some (out, fate) := by
        simpa [endSend] using hsettled
      cases i with
      | zero =>
        cases hone
        exact ⟨[], _, [], rfl, rfl, told_of_send _ _ _ _⟩
      | succ i => cases hone
    | probe sender own => simp [endSend] at hsettled
  | @rebuild client commands hphase hrecv =>
    have hdropped : (d.sending.map (·, Fate.abandoned))[i]? = some (out, fate) := by
      simpa [Driver.rebuild] using hsettled
    rcases told_of_drop d .rebuild ports.outFrames.queue.length hdropped with
      ⟨post, hsplit, hi, htold⟩
    refine ⟨[.told .rebuild (some client)], _, post, ?_, hi, htold⟩
    simp only [Driver.rebuild, hsplit]
    rfl
  | @die client unixNow hphase =>
    have hdropped : (d.sending.map (·, Fate.abandoned))[i]? = some (out, fate) := by
      simpa [Driver.die] using hsettled
    rcases told_of_drop d .died ports.outFrames.queue.length hdropped with
      ⟨post, hsplit, hi, htold⟩
    refine ⟨[.gaveUp client], _, post, ?_, hi, htold⟩
    simp only [Driver.die, hsplit]
    rfl
  | leaveTold | leave | disconnectedLast =>
    have hmem := List.mem_of_getElem? hsettled
    have hdropped : Fate.abandoned = fate := by
      simp [Driver.leave] at hmem
      exact hmem.2
    exact absurd rfl (hrunning hdropped.symm)
  | reportSilence hphase hreport | report hphase hreport =>
    obtain ⟨rfl, ⟨events, -, -, rfl, rfl⟩ | ⟨-, rfl, rfl⟩⟩ := of_report hreport <;>
      simp at hsettled
  | start | tick | disconnect | stop | takeFrame | receive | passOn | rebuildAgain
  | disconnected | connect | fail =>
    simp [Driver.stop, request, Driver.connect, Driver.fail] at hsettled

/-- What the SDK is handed is the message of a frame that it settles, by its answer. -/
theorem handed_of_stepped {ports ports' : Ports} {d d' : Driver} {e : Event} {o : List Observed}
    (h : Stepped ports d e d' ports' o) :
    handed o = (settled o).filterMap (answered d.hubAddresses) := by
  have dropped : (d.sending.map (·, Fate.abandoned)).filterMap (answered d.hubAddresses) = [] := by
    induction d.sending with
    | nil => rfl
    | cons out rest ih => exact ih
  cases h with
  | @sent client accepted inFlight hphase hinFlight =>
    cases inFlight with
    | frame sender out =>
      simp only [endSend, handOver, sendFrame]
      cases haddress : d.hubAddresses[out.target]? with
      | none => rfl
      | some recipient => cases accepted <;> simp [answered, haddress]
    | probe sender own => rfl
  | rebuild | die | leaveTold | leave | disconnectedLast =>
    simp [Driver.rebuild, Driver.die, Driver.leave, dropped]
  | reportSilence hphase hreport | report hphase hreport =>
    obtain ⟨rfl, ⟨events, -, -, rfl, rfl⟩ | ⟨-, rfl, rfl⟩⟩ := of_report hreport <;> rfl
  | start | tick | disconnect | stop | takeFrame | receive | passOn | rebuildAgain
  | disconnected | connect | fail => rfl

/-- A teardown leaves the queue alone, and drops one frame at most. -/
theorem teardown_of_stepped {ports ports' : Ports} {d d' : Driver} {e : Event} {o : List Observed}
    (h : Stepped ports d e d' ports' o) {why : Teardown} {queued : Nat} {sending : Bool}
    (hmem : .abandoned why queued sending ∈ o) :
    ports'.outFrames = ports.outFrames ∧ (settled o).length ≤ 1 := by
  have hlength := length_sending d
  cases h with
  | rebuild | die => exact ⟨rfl, by simpa [Driver.rebuild, Driver.die] using hlength⟩
  | disconnect | stop => exact ⟨rfl, by simp [Driver.stop]⟩
  | leaveTold | leave | disconnectedLast => simp [Driver.leave, drop] at hmem
  | @sent client accepted inFlight =>
    have hquiet := forall_endSend d accepted (p := fun x => x ≠ .abandoned why queued sending)
      (by simp) (by simp) (by simp) inFlight
    exact absurd rfl (hquiet _ hmem)
  | reportSilence hphase hreport | report hphase hreport =>
    obtain ⟨rfl, ⟨events, -, -, rfl, rfl⟩ | ⟨-, rfl, rfl⟩⟩ := of_report hreport <;>
      simp at hmem
  | start | tick | takeFrame | receive | passOn | rebuildAgain | disconnected | connect
  | fail => simp [request, Driver.connect, Driver.fail] at hmem

/-! ## The clients and the link along a step -/

/-- The observations that clients and messages on the link are counted by. -/
def Observed.linked : Observed → Bool
  | .connected _ => true
  | .reported _ => true
  | .told .rebuild _ => true
  | _ => false

/-- What a step does to the client held and to the channels of the supervisor. -/
inductive Linked (link : Link) (d : Driver) :
    Event → Driver → Link → List Observed → Prop where
  | quiet {e d' o} : d'.built = d.built →
      (∀ client, d'.phase.client? = some client → d.phase.client? = some client) →
      (∀ x ∈ o, x.linked = false) → Linked link d e d' link o
  | connect {d' address} : d.phase.isBuilding = true → d'.built = d.built + 1 →
      d'.phase.client? = some ⟨d.built, address⟩ →
      Linked link d (.built (some address)) d' link [.connected ⟨d.built, address⟩]
  | report {e d' client events} : link.events.receiver = true →
      link.events.send .died = some events → d'.built = d.built →
      (∀ held, d'.phase.client? = some held → client = some held ∧
        d.phase.client? = some held) →
      Linked link d e d' { link with events := events } [.reported client]
  | rebuild {e d' commands o} : link.commands.recv = .item .rebuild commands →
      d'.built = d.built →
      (∀ client, d'.phase.client? = some client → d.phase.client? = some client) →
      (∀ x ∈ o, x.linked = false) →
      Linked link d e d' { link with commands := commands } (.told .rebuild d.phase.client? :: o)
  | disconnect {e d' commands o} : link.commands.recv = .item .disconnect commands →
      d'.built = d.built →
      (∀ client, d'.phase.client? = some client → d.phase.client? = some client) →
      (∀ x ∈ o, x.linked = false) → Linked link d e d' { link with commands := commands } o
  | leave {e d' link' o} : d'.phase = .returned → d'.built = d.built →
      link'.events.queue = link.events.queue → (∀ x ∈ o, x.linked = false) →
      Linked link d e d' link' o

/-- All that is shown of a send that is dropped. -/
theorem forall_drop {p : Observed → Prop} (d : Driver)
    (hsettled : ∀ out, p (.settled out .abandoned)) : ∀ x ∈ d.drop, p x := by
  intro x hx
  rcases List.mem_map.mp hx with ⟨out, -, rfl⟩
  exact hsettled out

/-- All that is shown of a return. -/
theorem forall_leave {p : Observed → Prop} (d : Driver) (ports : Ports)
    (hsettled : ∀ out, p (.settled out .abandoned)) (hreturned : ∀ dropped, p (.returned dropped)) :
    ∀ x ∈ (d.leave ports).2.2, p x := by
  intro x hx
  rcases List.mem_append.mp hx with hdropped | hlast
  · exact forall_drop d hsettled x hdropped
  · rw [List.mem_singleton.mp hlast]
    exact hreturned _

theorem linked_drop (d : Driver) : ∀ x ∈ d.drop, x.linked = false :=
  forall_drop d fun _ => rfl

theorem linked_leave (d : Driver) (ports : Ports) :
    ∀ x ∈ (d.leave ports).2.2, x.linked = false :=
  forall_leave d ports (fun _ => rfl) fun _ => rfl

theorem linked_of_report {ports ports' : Ports} {d d' : Driver} {client : Option Client}
    {phase : Phase} {e : Event} {o : List Observed}
    (h : report ports d client phase = some (d', ports', o))
    (hheld : ∀ held, phase.client? = some held → client = some held ∧
      d.phase.client? = some held) : Linked ports.link d e d' ports'.link o := by
  rcases of_report h with ⟨rfl, ⟨events, hreceiver, hsend, rfl, rfl⟩ | ⟨-, rfl, rfl⟩⟩
  · exact .report hreceiver hsend rfl hheld
  · exact .quiet rfl (fun held hphase => (hheld held hphase).2) (by simp)

/-- What a step does to the client held and to the channels of the supervisor. -/
theorem linked_of_stepped {ports ports' : Ports} {d d' : Driver} {e : Event} {o : List Observed}
    (h : Stepped ports d e d' ports' o) : Linked ports.link d e d' ports'.link o := by
  cases h with
  | start hphase =>
    exact .quiet rfl (by simp [request, Phase.client?]) (by simp [request, Observed.linked])
  | @tick client hphase hidle =>
    refine .quiet ?_ ?_ (by simp [Observed.linked])
    · unfold tick
      split_ifs <;> rfl
    · unfold tick
      split_ifs <;> simp [hphase, Phase.client?]
  | @rebuild client commands hphase hrecv =>
    have hheld : d.phase.client? = some client := by rw [hphase]; rfl
    rw [← hheld]
    refine .rebuild hrecv rfl (fun _ hclient => hheld.trans hclient) ?_
    intro x hx
    rcases List.mem_cons.mp hx with rfl | hx
    · rfl
    · exact linked_drop d x hx
  | disconnect hphase hrecv =>
    exact .disconnect hrecv rfl (by simp [Driver.stop, hphase, Phase.client?])
      (by simp [Driver.stop, Observed.linked])
  | stop hphase hended =>
    exact .quiet rfl (by simp [Driver.stop, hphase, Phase.client?])
      (by simp [Driver.stop, Observed.linked])
  | takeFrame hphase hidle hrecv =>
    exact .quiet rfl (fun _ hclient => hclient) (by simp [Observed.linked])
  | @sent client accepted inFlight hphase hinFlight =>
    have hquiet := forall_endSend d accepted (p := fun x => x.linked = false)
      (fun _ _ => rfl) (fun _ _ => rfl) (fun _ _ => rfl) inFlight
    cases inFlight <;> exact .quiet rfl (fun _ hclient => hclient) hquiet
  | @receive client messages unixNow hphase =>
    have hheld : d.phase.client? = some client := by rw [hphase]; rfl
    refine .quiet (built_forward _ _ _ _) ?_ (by simp [Observed.linked])
    rw [client?_forward, hheld]
    exact fun _ => id
  | @passOn client message rest unixNow inbound hphase =>
    have hheld : d.phase.client? = some client := by rw [hphase]; rfl
    refine .quiet (built_forward _ _ _ _) ?_ (by simp)
    rw [client?_forward, hheld]
    exact fun _ => id
  | die hphase =>
    refine .quiet rfl (by simp [Driver.die, Phase.client?]) ?_
    intro x hx
    simp only [Driver.die, List.mem_cons] at hx
    rcases hx with rfl | rfl | hx
    · rfl
    · rfl
    · exact linked_drop d x hx
  | reportSilence hphase hreport =>
    exact linked_of_report hreport (by simp [hphase, Phase.client?])
  | report hphase hreport => exact linked_of_report hreport (by simp [Phase.client?])
  | rebuildAgain hphase hrecv =>
    have hheld : d.phase.client? = none := by rw [hphase]; rfl
    rw [← hheld]
    exact .rebuild hrecv rfl (by simp [request, Phase.client?])
      (by simp [request, Observed.linked])
  | leaveTold hphase hrecv =>
    refine .leave rfl rfl rfl ?_
    intro x hx
    rcases List.mem_cons.mp hx with rfl | hx
    · rfl
    · exact linked_leave d ports x hx
  | leave hphase hrecv => exact .leave rfl rfl rfl (linked_leave d ports)
  | disconnectedLast hphase =>
    refine .leave rfl rfl rfl ?_
    intro x hx
    rcases List.mem_cons.mp hx with rfl | hx
    · rfl
    · exact linked_leave d ports x hx
  | disconnected hphase =>
    exact .quiet rfl (by simp [request, Phase.client?]) (by simp [request, Observed.linked])
  | connect hbuilding => exact .connect hbuilding rfl rfl
  | fail hbuilding =>
    exact .quiet rfl (by simp [Driver.fail, Phase.client?])
      (by simp [Driver.fail, Observed.linked])

/-- The addresses never change. -/
theorem hubAddresses_of_stepped {ports ports' : Ports} {d d' : Driver} {e : Event}
    {o : List Observed}
    (h : Stepped ports d e d' ports' o) : d'.hubAddresses = d.hubAddresses := by
  cases h with
  | @tick client hphase hidle =>
    unfold tick
    split_ifs <;> rfl
  | @sent client accepted inFlight => cases inFlight <;> rfl
  | receive | passOn => exact hubAddresses_forward _ _ _ _
  | reportSilence hphase hreport | report hphase hreport =>
    rcases of_report hreport with ⟨rfl, -⟩
    rfl
  | start | rebuild | disconnect | stop | takeFrame | die | rebuildAgain | leaveTold | leave |
      disconnectedLast | disconnected | connect | fail => rfl

end Driver

end Nym
end ZeroShim
