import ZeroShim.Nym.Calls
import ZeroShim.Nym.Dispatch
import ZeroShim.Nym.Mixnet

/-!
# The outbound path

Any number of calls on the handle, the transport loop, the driver and the supervisor, over
the channels between them and one clock: all that runs where the hub is reached over the
mixnet.  The SDK and the shutdown signal do what they like.

Main results:

- Theorem {lit}`joined_of_runs`: what holds between the tasks while the driver runs.
- Theorem {lit}`calls_runs`: the calls and the loop make one of their own runs.
- Theorem {lit}`dispatch_of_step`: a step is one of the loop and the driver.
-/

namespace ZeroShim
namespace Nym

open Library Wire Transport

/-! ## A loop with everything around it -/

namespace Transport

/-- The handle is held, the driver holds its ends of the channels, and the loop runs. -/
structure Attended (s : Transport) : Prop where
  requests : s.requests.senders = true
  toMixnet : s.toMixnet.receiver = true
  fromMixnet : s.fromMixnet.senders = true
  running : ∃ c, s.correlator = some c ∧ c.requestsOpen = true

theorem attended_initial : Attended .initial := ⟨rfl, rfl, rfl, _, rfl, rfl⟩

/-- The loop takes no part in who holds the other ends. -/
theorem Attended.turned {s s' : Transport} {c c' : Correlator} {o : List Nym.Observed}
    (h : Attended s) (hopen : c.requestsOpen = true) (hturned : Turned s c s' c' o) :
    s'.requests.senders = true ∧ s'.toMixnet.receiver = true ∧ s'.fromMixnet.senders = true ∧
      c'.requestsOpen = true := by
  cases hturned with
  | reserve hpermit hreserve =>
    exact ⟨h.requests, (Channel.of_reserve hreserve).2.2.2.trans h.toMixnet, h.fromMixnet, hopen⟩
  | receive hpermit hrecv hsend =>
    exact ⟨(Channel.of_recv hrecv).2.2.1.trans h.requests,
      (Channel.of_sendReserved hsend).2.2.2.trans h.toMixnet, h.fromMixnet, hopen⟩
  | close hrecv =>
    have hgone := (Channel.of_recv_ended hrecv).2
    rw [h.requests] at hgone
    cases hgone
  | deliver hrecv | ignore hrecv =>
    exact ⟨h.requests, h.toMixnet, (Channel.of_recv hrecv).2.2.1.trans h.fromMixnet, hopen⟩
  | timer => exact ⟨h.requests, h.toMixnet, h.fromMixnet, hopen⟩

/-- No arm returns. -/
theorem Attended.not_returned {s : Transport} {c : Correlator} {a : Arm} (h : Attended s) :
    arm s c a ≠ some .returned := by
  intro hreturned
  cases a with
  | reserve =>
    simp only [arm, h.toMixnet, if_true] at hreturned
    split_ifs at hreturned
    split at hreturned <;> cases hreturned
  | receive =>
    simp only [arm] at hreturned
    split_ifs at hreturned
    split at hreturned
    · split at hreturned <;> cases hreturned
    · cases hreturned
    · cases hreturned
  | message =>
    simp only [arm] at hreturned
    split at hreturned
    · unfold receiveMessage at hreturned
      split_ifs at hreturned
      · cases hreturned
      · split at hreturned <;> cases hreturned
    · next hended =>
      have hgone := (Channel.of_recv_ended hended).2
      rw [h.fromMixnet] at hgone
      cases hgone
    · cases hreturned
  | timer =>
    simp only [arm] at hreturned
    split_ifs at hreturned
    cases hreturned

/-- A loop with everything around it goes on. -/
theorem Attended.turn {s s' : Transport} {a : Arm} {o : List Nym.Observed} (h : Attended s)
    (hturn : s.turn a = some (s', o)) : Attended s' := by
  rcases h.running with ⟨c₀, hc₀, hopen⟩
  rcases turn_cases hturn with ⟨c, hc, ⟨harm, -⟩ | ⟨s₁, c₁, o₁, harm, rfl, -⟩⟩
  · exact absurd harm h.not_returned
  · obtain rfl : c₀ = c := Option.some.inj (hc₀.symm.trans hc)
    rcases h.turned hopen (turned_of_arm harm) with ⟨hrequests, htoMixnet, hfromMixnet, hopen₁⟩
    unfold endTurn publish sweep
    dsimp only
    rw [if_neg (by simp [hopen₁])]
    exact ⟨hrequests, htoMixnet, hfromMixnet, _, rfl, hopen₁⟩

theorem Attended.accept {s s' : Transport} {parcel : Parcel} {request : Request}
    (h : Attended s) (haccept : s.accept parcel = some (s', request)) : Attended s' := by
  rcases of_accept haccept with ⟨-, -, -, hcorrelator, htoMixnet, hfromMixnet, -, -⟩
  have hsenders : s'.requests.senders = s.requests.senders := by
    unfold Transport.accept at haccept
    split_ifs at haccept
    split at haccept
    · next hsend =>
      cases haccept
      exact (Channel.of_send hsend).2.2.1
    · cases haccept
  rcases h.running with ⟨c, hc, hopen⟩
  exact ⟨hsenders.trans h.requests, htoMixnet ▸ h.toMixnet, hfromMixnet ▸ h.fromMixnet, c,
    hcorrelator.trans hc, hopen⟩

end Transport

/-! ## State -/

/-- The calls with the transport and the clock, the driver, the supervisor, their channels
and when the probe ticks next. -/
structure Outbound where
  calls : Calls
  /-- The count that the supervisor loads. -/
  published : Nat
  driver : Driver
  supervisor : Supervisor
  link : Link
  probeAt : Nat

namespace Outbound

/-- What a run shows. -/
inductive Observed where
  | calls (o : Calls.Observed)
  /-- The driver passed a message on to the loop. -/
  | arrived (message : Bytes)
  | driver (o : Driver.Observed)
  | supervisor (o : Supervisor.Observed)

/-- What can happen next. -/
inductive Event where
  | calls (e : Calls.Event)
  /-- The count of the transport loop's last turn gets to where the supervisor loads it. -/
  | store
  | driver (e : Driver.Event)
  | supervisor (e : Supervisor.Event)

/-- Everything as {lit}`build_nym_transport` sets it up. -/
def initial (policy : RotationPolicy) (hubAddresses : List Recipient) (gateways : List String)
    (timeout dispatchTimeout : Nat) : Outbound where
  calls := .initial timeout dispatchTimeout
  published := 0
  driver := .initial hubAddresses gateways
  supervisor := .start policy 0
  link := .empty
  probeAt := 0

/-- The tasks among themselves. -/
def mixnet (s : Outbound) : Mixnet :=
  ⟨s.calls.now, s.calls.transport, s.published, s.driver, s.supervisor, s.link, s.probeAt⟩

/-- The loop and the driver among themselves. -/
def dispatch (s : Outbound) : Dispatch := ⟨s.calls.transport, s.driver, s.link⟩

/-- What happens to the calls only by the driver's doing. -/
def isDriven : Calls.Event → Bool
  | .setTargets _ => true
  | .takeFrame => true
  | .inbound _ => true
  | .loseDriver => true
  | _ => false

/-- The count of addresses that a handle loads: the driver publishes it as it starts. -/
def targetsAfter (s : Outbound) : Driver.Event → Nat
  | .start _ => s.driver.hubAddresses.length
  | _ => s.calls.handle.targets

/-- The message that arrives on the inbound channel when the driver passes one on. -/
def passedOn (s : Outbound) (e : Driver.Event) : List Bytes :=
  match s.driver.phase, e with
  | .delivering _ message _, .delivered _ =>
    if s.calls.transport.fromMixnet.receiver then [message] else []
  | _, _ => []

/-- The state after a step of the driver. -/
def withDriver (s : Outbound) (driver : Driver) (ports : Driver.Ports) (e : Driver.Event) :
    Outbound :=
  { s with
    calls :=
      { s.calls with
        handle := { s.calls.handle with targets := s.targetsAfter e }
        transport :=
          { s.calls.transport with toMixnet := ports.outFrames, fromMixnet := ports.inbound } }
    driver := driver
    link := ports.link
    probeAt := s.mixnet.nextProbe driver e }

/-- One step. -/
def step (s : Outbound) : Event → Option (Outbound × List Observed)
  | .calls e =>
    if isDriven e then none
    else (s.calls.step e).map fun out => ({ s with calls := out.1 }, out.2.map .calls)
  | .store => some ({ s with published := s.calls.transport.inflight }, [])
  | .driver e =>
    if e = .tick ∧ s.calls.now < s.probeAt then none
    else
      (s.driver.step s.mixnet.ports e).map fun out =>
        (s.withDriver out.1 out.2.1 e, (s.passedOn e).map .arrived ++ out.2.2.map .driver)
  | .supervisor e =>
    (s.supervisor.step s.calls.now s.published s.link e).map fun out =>
      ({ s with supervisor := out.1, link := out.2.1 }, out.2.2.map .supervisor)

/-! ## What a step can do -/

/-- The effects of a step. -/
inductive Stepped (s : Outbound) : Event → Outbound → List Observed → Prop where
  | calls {e calls o} : isDriven e = false → s.calls.step e = some (calls, o) →
      Stepped s (.calls e) { s with calls := calls } (o.map .calls)
  | store : Stepped s .store { s with published := s.calls.transport.inflight } []
  | driver {e driver ports o} : s.driver.step s.mixnet.ports e = some (driver, ports, o) →
      Stepped s (.driver e) (s.withDriver driver ports e)
        ((s.passedOn e).map .arrived ++ o.map .driver)
  | supervisor {e supervisor link o} :
      Supervisor.Stepped s.calls.now s.published s.link s.supervisor supervisor link o →
      Stepped s (.supervisor e) { s with supervisor := supervisor, link := link }
        (o.map .supervisor)

theorem stepped_of_step {s s' : Outbound} {e : Event} {o : List Observed}
    (h : s.step e = some (s', o)) : Stepped s e s' o := by
  cases e with
  | calls e =>
    simp only [step] at h
    split_ifs at h with hdriven
    rcases Option.map_eq_some_iff.mp h with ⟨⟨calls, o'⟩, hstep, heq⟩
    cases heq
    exact .calls (by simpa using hdriven) hstep
  | store =>
    cases h
    exact .store
  | driver e =>
    simp only [step] at h
    split_ifs at h
    rcases Option.map_eq_some_iff.mp h with ⟨⟨driver, ports, o'⟩, hstep, heq⟩
    cases heq
    exact .driver hstep
  | supervisor e =>
    rcases Option.map_eq_some_iff.mp h with ⟨⟨supervisor, link, o'⟩, hstep, heq⟩
    cases heq
    exact .supervisor (Supervisor.stepped_of_step hstep)

/-! ## The parts of a trace -/

@[simp] def Observed.calls? : Observed → Option Calls.Observed
  | .calls o => some o
  | .arrived message => some (.transport (.arrived message))
  | _ => none

/-- What the loop and the driver show, inbound messages aside. -/
@[simp] def Observed.dispatch? : Observed → Option Dispatch.Observed
  | .calls (.transport o) => some (.transport o)
  | .driver o => some (.driver o)
  | _ => none

def callsTrace (t : List Observed) : List Calls.Observed := t.filterMap Observed.calls?

def dispatchTrace (t : List Observed) : List Dispatch.Observed := t.filterMap Observed.dispatch?

section Parts

variable (t t' : List Observed)

@[simp] theorem callsTrace_append : callsTrace (t ++ t') = callsTrace t ++ callsTrace t' :=
  List.filterMap_append

@[simp] theorem dispatchTrace_append :
    dispatchTrace (t ++ t') = dispatchTrace t ++ dispatchTrace t' :=
  List.filterMap_append

@[simp] theorem callsTrace_calls (o : List Calls.Observed) : callsTrace (o.map .calls) = o := by
  induction o with
  | nil => rfl
  | cons x o ih => simpa [callsTrace] using ih

@[simp] theorem callsTrace_driver (o : List Driver.Observed) :
    callsTrace (o.map .driver) = [] := by
  induction o with
  | nil => rfl
  | cons x o ih => simp [callsTrace]

@[simp] theorem callsTrace_supervisor (o : List Supervisor.Observed) :
    callsTrace (o.map .supervisor) = [] := by
  induction o with
  | nil => rfl
  | cons x o ih => simp [callsTrace]

@[simp] theorem callsTrace_arrived (messages : List Bytes) :
    callsTrace (messages.map .arrived) = (messages.map .arrived).map .transport := by
  induction messages with
  | nil => rfl
  | cons x messages ih => simpa [callsTrace] using ih

@[simp] theorem dispatchTrace_driver (o : List Driver.Observed) :
    dispatchTrace (o.map .driver) = o.map .driver := by
  induction o with
  | nil => rfl
  | cons x o ih => simpa [dispatchTrace] using ih

@[simp] theorem dispatchTrace_supervisor (o : List Supervisor.Observed) :
    dispatchTrace (o.map .supervisor) = [] := by
  induction o with
  | nil => rfl
  | cons x o ih => simp [dispatchTrace]

@[simp] theorem dispatchTrace_arrived (messages : List Bytes) :
    dispatchTrace (messages.map .arrived) = [] := by
  induction messages with
  | nil => rfl
  | cons x messages ih => simp [dispatchTrace]

end Parts

/-! ## Between the tasks -/

/-- The driver keeps its end of the inbound channel until it returns. -/
theorem senders_of_stepped {ports ports' : Driver.Ports} {d d' : Driver} {e : Driver.Event}
    {o : List Driver.Observed} (h : Driver.Stepped ports d e d' ports' o)
    (hrunning : d'.phase ≠ .returned) : ports'.inbound.senders = ports.inbound.senders := by
  cases h with
  | passOn hphase hsend =>
    rcases hsend with ⟨-, hsend⟩ | ⟨-, rfl⟩
    · exact (Channel.of_send hsend).2.2.1
    · rfl
  | leaveTold | leave | disconnectedLast => exact absurd rfl hrunning
  | reportSilence hphase hreport | report hphase hreport =>
    obtain ⟨-, ⟨events, -, -, rfl, -⟩ | ⟨-, rfl, -⟩⟩ := Driver.of_report hreport <;> rfl
  | start | tick | rebuild | disconnect | stop | takeFrame | sent | receive | die | rebuildAgain
  | disconnected | connect | fail => rfl

/-- A submission leaves the loop to itself. -/
theorem attended_submit {s s' : Transport} {now : Nat} {call call' : SubmitCall}
    {o : List SubmitObserved} (h : Attended s)
    (hstep : SubmitCall.Stepped s now call s' call' o) : Attended s' := by
  cases hstep with
  | dispatch hphase haccept =>
    have haccepted := h.accept haccept
    exact ⟨haccepted.requests, haccepted.toMixnet, haccepted.fromMixnet, haccepted.running⟩
  | frame | refuse | closed | elapsed | cancel => exact h

/-- So does a lookup. -/
theorem attended_lookup {handle : NymHandle} {s s' : Transport} {now : Nat}
    {call call' : LookupCall} {o : List LookupObserved} (h : Attended s)
    (hstep : LookupCall.Stepped handle s now call s' call' o) : Attended s' := by
  cases hstep with
  | dispatch hphase haccept => exact h.accept haccept
  | build | refuse | closed | full | cancel => exact h
  | reply | gone | silent | cancelAwaiting =>
    exact ⟨h.requests, h.toMixnet, h.fromMixnet, h.running⟩

theorem attended_calls {s s' : Calls} {e : Calls.Event} {o : List Calls.Observed}
    (h : Attended s.transport) (hdriven : isDriven e = false)
    (hstep : s.step e = some (s', o)) : Attended s'.transport := by
  cases Calls.stepped_of_step hstep with
  | turn hturn => exact h.turn hturn
  | submit hcall hsubmit => exact attended_submit h hsubmit
  | lookup hcall hlookup => exact attended_lookup h hlookup
  | tick | startSubmit | startLookup => exact h
  | setTargets | takeFrame | inbound | loseDriver => cases hdriven

/-- While the driver runs, the loop runs, and every channel between them is open. -/
theorem joined_of_runs {policy : RotationPolicy} {hubAddresses : List Recipient}
    {gateways : List String} {timeout dispatchTimeout : Nat} {s : Outbound} {t : List Observed}
    (h : Runs step (initial policy hubAddresses gateways timeout dispatchTimeout) t s)
    (hrunning : s.driver.phase ≠ .returned) : Attended s.calls.transport := by
  refine h.always (P := fun s => s.driver.phase ≠ .returned → Attended s.calls.transport)
    (fun _ => attended_initial) ?_ hrunning
  intro s e o s' ih hstep hrunning
  cases stepped_of_step hstep with
  | calls hdriven hcalls => exact attended_calls (ih hrunning) hdriven hcalls
  | @driver e driver ports o hdriverStep =>
    have hdriver := Driver.stepped_of_step hdriverStep
    have hbefore := ih (Driver.running_of_stepped hdriver)
    have hreceiver := (Driver.outFrames_of_stepped hdriver hrunning).2.1
    have hsenders := senders_of_stepped hdriver hrunning
    exact ⟨hbefore.requests, hreceiver.trans hbefore.toMixnet,
      hsenders.trans hbefore.fromMixnet, hbefore.running⟩
  | store => exact ih hrunning
  | supervisor hsupervisor => exact ih hrunning

/-! ## The calls and the loop -/

/-- The driver takes a frame, passes a message on, or goes away. -/
theorem calls_takeFrame {s : Calls} {out : OutFrame} {outFrames : Channel OutFrame 8}
    (hrecv : s.transport.toMixnet.recv = .item out outFrames) :
    Runs Calls.step s []
      { s with transport := { s.transport with toMixnet := outFrames } } := by
  apply Runs.single (e := .takeFrame)
  simp [Calls.step, Calls.viaTransport, Transport.step, Transport.takeFrame, hrecv]

theorem calls_inbound {s : Calls} {message : Bytes} {inbound : Channel Bytes 32}
    (hreceiver : s.transport.fromMixnet.receiver = true)
    (hsenders : s.transport.fromMixnet.senders = true)
    (hsend : s.transport.fromMixnet.send message = some inbound) :
    Runs Calls.step s [.transport (.arrived message)]
      { s with transport := { s.transport with fromMixnet := inbound } } := by
  apply Runs.single (e := .inbound message)
  simp [Calls.step, Calls.viaTransport, Transport.step, Transport.inbound, hreceiver, hsenders,
    hsend]

theorem calls_loseDriver (s : Calls) :
    Runs Calls.step s []
      { s with transport := s.transport.loseDriver } :=
  Runs.single (e := .loseDriver) rfl

/-- Only a driver that passes a message on shows the calls something. -/
theorem passedOn_of_phase {s : Outbound} {e : Driver.Event}
    (h : ∀ client message rest, s.driver.phase ≠ .delivering client message rest) :
    s.passedOn e = [] := by
  unfold passedOn
  cases hphase : s.driver.phase with
  | delivering client message rest => exact absurd hphase (h client message rest)
  | starting | connecting | serving | reportingSilence | disconnecting | rebuilding | reporting
  | waiting | building | returned => rfl

/-- What a step of the driver does to the channels of the loop, as the calls see it. -/
theorem calls_of_driver {s : Outbound} {e : Driver.Event} {driver : Driver}
    {ports : Driver.Ports} {o : List Driver.Observed}
    (h : s.driver.step s.mixnet.ports e = some (driver, ports, o))
    (hsenders : s.calls.transport.fromMixnet.senders = true) :
    Runs Calls.step s.calls (((s.passedOn e).map .arrived).map .transport)
      (s.withDriver driver ports e).calls := by
  cases Driver.stepped_of_step h with
  | start hphase =>
    rw [passedOn_of_phase (by simp [hphase])]
    exact Runs.single (e := .setTargets s.driver.hubAddresses.length) rfl
  | takeFrame hphase hidle hrecv =>
    rw [passedOn_of_phase (by simp [hphase])]
    exact calls_takeFrame hrecv
  | @passOn client message rest unixNow inbound hphase hsend =>
    rcases hsend with ⟨hreceiver, hsend⟩ | ⟨hreceiver, rfl⟩
    · have hpassed : s.passedOn (.delivered unixNow) = [message] := by
        have hreceiver : s.calls.transport.fromMixnet.receiver = true := hreceiver
        simp [passedOn, hphase, hreceiver]
      rw [hpassed]
      exact calls_inbound hreceiver hsenders hsend
    · have hlost : s.passedOn (.delivered unixNow) = [] := by
        have hreceiver : s.calls.transport.fromMixnet.receiver = false := hreceiver
        simp [passedOn, hphase, hreceiver]
      rw [hlost]
      exact .refl
  | leaveTold hphase hrecv | leave hphase hrecv | disconnectedLast hphase =>
    rw [passedOn_of_phase (by simp [hphase])]
    exact calls_loseDriver s.calls
  | reportSilence hphase hreport | report hphase hreport =>
    rw [passedOn_of_phase (by simp [hphase])]
    obtain ⟨-, ⟨events, -, -, rfl, -⟩ | ⟨-, rfl, -⟩⟩ := Driver.of_report hreport <;> exact .refl
  | tick hphase | rebuild hphase | disconnect hphase | sent hphase | receive hphase | die hphase
  | rebuildAgain hphase | disconnected hphase =>
    rw [passedOn_of_phase (by simp [hphase])]
    exact .refl
  | @stop client _ hphase hended =>
    rw [passedOn_of_phase (by simp [hphase])]
    -- the driver stops at a command or at a frame, and published its count long before
    cases e with
    | start unixNow => simp [Driver.step, hphase] at h
    | command | takeFrame | built | tick | sent | arrive | delivered | reported
    | disconnected => exact .refl
  | connect hbuilding | fail hbuilding =>
    rw [passedOn_of_phase (by
      intro client message rest hphase
      simp [hphase, Driver.Phase.isBuilding] at hbuilding)]
    exact .refl

/-- The calls and the loop make one of their own runs. -/
theorem calls_runs {policy : RotationPolicy} {hubAddresses : List Recipient}
    {gateways : List String} {timeout dispatchTimeout : Nat} {s : Outbound} {t : List Observed}
    (h : Runs step (initial policy hubAddresses gateways timeout dispatchTimeout) t s) :
    Runs Calls.step (.initial timeout dispatchTimeout) (callsTrace t) s.calls := by
  refine h.invariant (P := fun t s => Runs Calls.step (.initial timeout dispatchTimeout)
    (callsTrace t) s.calls) .refl ?_
  intro t s e o s' hrun ih hstep
  rw [callsTrace_append]
  cases stepped_of_step hstep with
  | calls hdriven hcalls =>
    rw [callsTrace_calls]
    exact ih.snoc hcalls
  | driver hdriver =>
    have hrunning := Driver.running_of_stepped (Driver.stepped_of_step hdriver)
    rw [callsTrace_append, callsTrace_arrived, callsTrace_driver, List.append_nil]
    exact ih.trans (calls_of_driver hdriver (joined_of_runs hrun hrunning).fromMixnet)
  | store => exact (List.append_nil (callsTrace t)).symm ▸ ih
  | supervisor hsupervisor =>
    rw [callsTrace_supervisor, List.append_nil]
    exact ih

/-! ## The loop and the driver -/

@[simp] theorem dispatchTrace_calls (o : List Calls.Observed) :
    dispatchTrace (o.map .calls) = (Calls.transportTrace o).map .transport := by
  induction o with
  | nil => rfl
  | cons x o ih =>
    cases x with
    | transport y => simpa [dispatchTrace, Calls.transportTrace, Calls.Observed.transport?] using ih
    | submit | lookup => exact ih

/-- Nothing happens to the frames. -/
theorem carried_refl (s : Transport) : Dispatch.Carried s s [] := by
  constructor <;> simp

theorem carried_abandon (s : Transport) (slot : Nat) :
    Dispatch.Carried s (s.abandon slot) [] := by
  constructor <;> simp [Transport.abandon]

theorem carried_submit {s s' : Transport} {now : Nat} {call call' : SubmitCall}
    {o : List SubmitObserved} (h : SubmitCall.Stepped s now call s' call' o) :
    Dispatch.Carried s s' ((o.filterMap Calls.SubmitObserved.handed?).map .accepted) := by
  cases h with
  | @dispatch target parcel s₁ request hphase haccept =>
    have hhanded : (call.handed target request).2.filterMap Calls.SubmitObserved.handed? =
        [request] := by
      simp [SubmitCall.handed, Calls.SubmitObserved.handed?, Calls.handed_submitAdvance]
    rw [hhanded]
    exact (Dispatch.carried_accept haccept).trans (carried_abandon _ _)
  | frame | refuse | closed | elapsed | cancel => exact carried_refl s

theorem carried_lookup {handle : NymHandle} {s s' : Transport} {now : Nat}
    {call call' : LookupCall} {o : List LookupObserved}
    (h : LookupCall.Stepped handle s now call s' call' o) :
    Dispatch.Carried s s' ((o.filterMap Calls.LookupObserved.handed?).map .accepted) := by
  cases h with
  | dispatch hphase haccept => exact Dispatch.carried_accept haccept
  | full hphase hopen hdeadline =>
    rw [Calls.handed_expire]
    exact carried_refl s
  | silent hphase hpoll hdeadline =>
    rw [Calls.handed_expire]
    exact carried_abandon _ _
  | reply | gone | cancelAwaiting => exact carried_abandon _ _
  | build | refuse | closed | cancel => exact carried_refl s

/-- What the calls do of themselves is done to the loop as its callers do it. -/
theorem carried_calls {s s' : Calls} {e : Calls.Event} {o : List Calls.Observed}
    (hdriven : isDriven e = false) (h : s.step e = some (s', o)) :
    Dispatch.Carried s.transport s'.transport (Calls.transportTrace o) := by
  cases Calls.stepped_of_step h with
  | turn hturn =>
    rw [Calls.transportTrace_map]
    exact Dispatch.carried_turn hturn
  | startSubmit tx =>
    rw [Calls.transportTrace_ofSubmit, Calls.handed_submitStart]
    exact carried_refl _
  | submit hcall hsubmit =>
    rw [Calls.transportTrace_ofSubmit]
    exact carried_submit hsubmit
  | startLookup hash =>
    rw [Calls.transportTrace_ofLookup, Calls.handed_lookupBegin]
    exact carried_refl _
  | lookup hcall hlookup =>
    rw [Calls.transportTrace_ofLookup]
    exact carried_lookup hlookup
  | tick => exact carried_refl _
  | setTargets | takeFrame | inbound | loseDriver => cases hdriven

/-- A step is one of the loop and the driver. -/
theorem dispatch_of_step {s s' : Outbound} {e : Event} {o : List Observed}
    (h : s.step e = some (s', o)) : Dispatch.Stepped s.dispatch s'.dispatch (dispatchTrace o) := by
  cases stepped_of_step h with
  | @calls e calls o hdriven hcalls =>
    rw [dispatchTrace_calls]
    exact Dispatch.Stepped.transport (s := s.dispatch) (carried_calls hdriven hcalls)
  | driver hdriver =>
    rw [dispatchTrace_append, dispatchTrace_arrived, dispatchTrace_driver, List.nil_append]
    exact Dispatch.Stepped.driver (s := s.dispatch) (Driver.stepped_of_step hdriver)
  | store => exact .link s.link
  | @supervisor e supervisor link o hsupervisor =>
    rw [dispatchTrace_supervisor]
    exact .link link

end Outbound
end Nym
end ZeroShim
