import ZeroShim.Nym.Driver
import ZeroShim.Nym.Transport

/-!
# From the request channel to the SDK

The transport loop and the driver over the channels between them.  Callers, and the
supervisor at the far end of the driver's other channels, do what they like.

Main results:

- Theorem {lit}`lined_of_runs`: every frame on its way has one place, in order.
- Theorem {lit}`dispatch_exact`: no frame is lost, doubled or overtaken before the
  loop or the driver returns.
-/

namespace ZeroShim
namespace Nym

open Library Wire Transport

/-- The transport loop, the driver, and the driver's channels to the supervisor. -/
structure Dispatch where
  transport : Transport
  driver : Driver
  link : Link

namespace Dispatch

/-- What a run shows. -/
inductive Observed where
  | transport (o : Nym.Observed)
  | driver (o : Driver.Observed)

/-- What can happen next. -/
inductive Event where
  | turn (a : Arm)
  | accept (parcel : Parcel)
  | abandon (slot : Nat)
  /-- The last handle is dropped. -/
  | closeRequests
  | driver (e : Driver.Event)
  /-- The supervisor sends a command. -/
  | order (command : ClientCommand)
  /-- The supervisor receives an event. -/
  | hear
  /-- The supervisor returns. -/
  | loseSupervisor

def initial (hubAddresses : List Recipient) (gateways : List String) : Dispatch where
  transport := .initial
  driver := .initial hubAddresses gateways
  link := .empty

/-- The channel ends that the driver holds. -/
def ports (s : Dispatch) : Driver.Ports :=
  ⟨s.transport.toMixnet, s.transport.fromMixnet, s.link⟩

/-- The state after a step of the driver. -/
def withPorts (s : Dispatch) (driver : Driver) (ports : Driver.Ports) : Dispatch where
  transport :=
    { s.transport with toMixnet := ports.outFrames, fromMixnet := ports.inbound }
  driver := driver
  link := ports.link

/-- A step of the transport alone. -/
def viaTransport (s : Dispatch) (e : Transport.Event) : Option (Dispatch × List Observed) :=
  (s.transport.step e).map fun out => ({ s with transport := out.1 }, out.2.map .transport)

/-- One step. -/
def step (s : Dispatch) : Event → Option (Dispatch × List Observed)
  | .turn a => s.viaTransport (.turn a)
  | .accept parcel => s.viaTransport (.accept parcel)
  | .abandon slot => s.viaTransport (.abandon slot)
  | .closeRequests => s.viaTransport .closeRequests
  | .driver e =>
    (s.driver.step s.ports e).map fun out =>
      (s.withPorts out.1 out.2.1, out.2.2.map .driver)
  | .order command =>
    if s.link.commands.receiver = true ∧ s.link.commands.senders = true then
      match s.link.commands.send command with
      | some commands => some ({ s with link := { s.link with commands := commands } }, [])
      | none => none
    else none
  | .hear =>
    match s.link.events.recv with
    | .item _ events => some ({ s with link := { s.link with events := events } }, [])
    | _ => none
  | .loseSupervisor =>
    some ({ s with link := ⟨s.link.events.dropReceiver, s.link.commands.dropSenders⟩ }, [])

/-! ## The parts of a trace -/

@[simp] def Observed.accepted? : Observed → Option Request
  | .transport (.accepted request) => some request
  | _ => none

@[simp] def Observed.emitted? : Observed → Option Request
  | .transport (.emitted request) => some request
  | _ => none

@[simp] def Observed.driver? : Observed → Option Driver.Observed
  | .driver o => some o
  | _ => none

/-- The requests handed to the request channel, in order. -/
def accepted (t : List Observed) : List Request := t.filterMap Observed.accepted?

/-- The requests whose frames the loop handed on, in order. -/
def emitted (t : List Observed) : List Request := t.filterMap Observed.emitted?

def driverTrace (t : List Observed) : List Driver.Observed := t.filterMap Observed.driver?

/-- The frames the driver took, in order. -/
def taken (t : List Observed) : List OutFrame := Driver.taken (driverTrace t)

/-- The frames passed to the SDK or discarded, in order. -/
def settled (t : List Observed) : List (OutFrame × Fate) := Driver.settled (driverTrace t)

/-- The messages of frames that were handed to the SDK, in order, with its answers. -/
def handed (t : List Observed) : List (SdkMessage × Bool) := Driver.handed (driverTrace t)

section Parts

variable (t t' : List Observed) (o : List Nym.Observed) (o' : List Driver.Observed)
variable (x : Observed)

@[simp] theorem accepted_nil : accepted [] = [] := rfl

@[simp] theorem emitted_nil : emitted [] = [] := rfl

@[simp] theorem accepted_cons : accepted (x :: t) = x.accepted?.toList ++ accepted t := by
  unfold accepted
  rw [List.filterMap_cons]
  cases x.accepted? <;> rfl

@[simp] theorem emitted_cons : emitted (x :: t) = x.emitted?.toList ++ emitted t := by
  unfold emitted
  rw [List.filterMap_cons]
  cases x.emitted? <;> rfl

@[simp] theorem accepted_append : accepted (t ++ t') = accepted t ++ accepted t' :=
  List.filterMap_append

@[simp] theorem emitted_append : emitted (t ++ t') = emitted t ++ emitted t' :=
  List.filterMap_append

@[simp] theorem driverTrace_append : driverTrace (t ++ t') = driverTrace t ++ driverTrace t' :=
  List.filterMap_append

@[simp] theorem taken_append : taken (t ++ t') = taken t ++ taken t' := by simp [taken]

@[simp] theorem settled_append : settled (t ++ t') = settled t ++ settled t' := by simp [settled]

@[simp] theorem handed_append : handed (t ++ t') = handed t ++ handed t' := by simp [handed]

@[simp] theorem driverTrace_transport : driverTrace (o.map .transport) = [] := by
  induction o with
  | nil => rfl
  | cons x o ih => simp [driverTrace]

@[simp] theorem driverTrace_driver : driverTrace (o'.map .driver) = o' := by
  induction o' with
  | nil => rfl
  | cons x o' ih => simpa [driverTrace] using ih

@[simp] theorem accepted_driver : accepted (o'.map .driver) = [] := by
  induction o' with
  | nil => rfl
  | cons x o' ih => simpa using ih

@[simp] theorem emitted_driver : emitted (o'.map .driver) = [] := by
  induction o' with
  | nil => rfl
  | cons x o' ih => simpa using ih

end Parts

/-! ## What a step of the transport does to the frames -/

/-- A step of the loop or of a caller: what it accepts joins the requests, what it emits
leaves them and joins the frames. -/
structure Carried (s s' : Transport) (o : List Nym.Observed) : Prop where
  running : s.correlator = none → s'.correlator = none
  requests : s'.correlator ≠ none →
    s.requests.queue ++ accepted (o.map .transport) =
      emitted (o.map .transport) ++ s'.requests.queue
  frames : s.toMixnet.receiver = true →
    s'.toMixnet.queue =
      s.toMixnet.queue ++ (emitted (o.map .transport)).map Request.outFrame
  receiver : s'.toMixnet.receiver = s.toMixnet.receiver

theorem parts_publish (s : Transport) (c : Correlator) :
    accepted ((publish s c).2.map .transport) = [] ∧
      emitted ((publish s c).2.map .transport) = [] := by
  unfold publish
  split_ifs <;> simp [Transport.leave]

theorem carried_leave (s : Transport) (c : Correlator) :
    Carried s (Transport.leave s c).1 (Transport.leave s c).2 := by
  constructor <;> simp [Transport.leave]

theorem carried_endTurn {s : Transport} {c : Correlator} (hrunning : s.correlator ≠ none) :
    Carried s (endTurn s c).1 (endTurn s c).2 := by
  rcases parts_publish (sweep s c).1 (sweep s c).2.1 with ⟨haccepted, hemitted⟩
  have hparts : accepted ((endTurn s c).2.map .transport) = [] ∧
      emitted ((endTurn s c).2.map .transport) = [] := by
    simp only [endTurn, List.map_append, accepted_append, emitted_append, haccepted, hemitted]
    simp [sweep]
  constructor
  · exact fun hnone => absurd hnone hrunning
  · intro hstill
    rw [hparts.1, hparts.2]
    simp only [endTurn, publish] at hstill ⊢
    split_ifs at hstill ⊢
    · exact absurd rfl hstill
    · simp [sweep]
  · intro _
    rw [hparts.2]
    simp only [endTurn, publish]
    split_ifs <;> simp [sweep, Transport.leave]
  · simp only [endTurn, publish]
    split_ifs <;> simp [sweep, Transport.leave]

/-- The arms that turn the loop. -/
theorem carried_of_turned {s s' : Transport} {c c' : Correlator} {o : List Nym.Observed}
    (h : Turned s c s' c' o) (hc : s.correlator = some c) :
    Carried s s' o ∧ s'.correlator = some c := by
  cases h with
  | reserve hpermit hreserve =>
    rcases Channel.of_reserve hreserve with ⟨hqueue, -, -, hreceiver⟩
    refine ⟨⟨id, ?_, ?_, hreceiver⟩, hc⟩ <;> simp [hqueue]
  | receive hpermit hrecv hsend =>
    rcases Channel.of_sendReserved hsend with ⟨-, -, -, hreceiver⟩
    refine ⟨⟨id, ?_, ?_, hreceiver⟩, hc⟩
    · simp [Channel.queue_of_recv hrecv]
    · intro hopen
      simpa using Channel.queue_of_sendReserved hsend hopen
  | close | deliver | ignore | timer =>
    exact ⟨⟨id, by simp, by simp, rfl⟩, hc⟩

theorem Carried.trans {s s' s'' : Transport} {o o' : List Nym.Observed} (h : Carried s s' o)
    (h' : Carried s' s'' o') : Carried s s'' (o ++ o') where
  running hnone := h'.running (h.running hnone)
  requests hrunning := by
    have hmiddle : s'.correlator ≠ none := fun hnone => hrunning (h'.running hnone)
    simp only [List.map_append, accepted_append, emitted_append, ← List.append_assoc]
    rw [h.requests hmiddle, List.append_assoc, h'.requests hrunning, List.append_assoc]
  frames hopen := by
    rw [h'.frames (h.receiver.trans hopen), h.frames hopen]
    simp
  receiver := h'.receiver.trans h.receiver

theorem carried_turn {s s' : Transport} {a : Arm} {o : List Nym.Observed}
    (h : s.turn a = some (s', o)) : Carried s s' o := by
  rcases turn_cases h with ⟨c, hc, ⟨-, rfl, rfl⟩ | ⟨s₁, c₁, o₁, harm, rfl, rfl⟩⟩
  · exact carried_leave s c
  · rcases carried_of_turned (turned_of_arm harm) hc with ⟨hcarried, hc₁⟩
    exact hcarried.trans (carried_endTurn (by simp [hc₁]))

theorem carried_accept {s s' : Transport} {parcel : Parcel} {request : Request}
    (h : s.accept parcel = some (s', request)) : Carried s s' [.accepted request] := by
  rcases of_accept h with ⟨-, hqueue, -, hcorrelator, htoMixnet, -⟩
  constructor
  · rw [hcorrelator]
    exact id
  · simp [hqueue]
  · simp [htoMixnet]
  · rw [htoMixnet]

/-- A step of the loop or of its callers. -/
theorem carried_of_viaTransport {s s' : Dispatch} {e : Transport.Event} {o : List Observed}
    (h : s.viaTransport e = some (s', o))
    (hlocal : (∃ a, e = .turn a) ∨ (∃ parcel, e = .accept parcel) ∨
      (∃ slot, e = .abandon slot) ∨ e = .closeRequests) :
    ∃ transport o', s' = { s with transport := transport } ∧ o = o'.map .transport ∧
      Carried s.transport transport o' := by
  rcases Option.map_eq_some_iff.mp h with ⟨⟨transport, o'⟩, hstep, heq⟩
  cases heq
  refine ⟨transport, o', rfl, rfl, ?_⟩
  rcases hlocal with ⟨a, rfl⟩ | ⟨parcel, rfl⟩ | ⟨slot, rfl⟩ | rfl
  · exact carried_turn hstep
  · rcases Option.map_eq_some_iff.mp hstep with ⟨⟨s₁, request⟩, haccept, heq⟩
    cases heq
    exact carried_accept haccept
  · cases hstep
    constructor <;> simp [Transport.abandon]
  · cases hstep
    constructor <;> simp

/-! ## What a step can do -/

/-- The effects of a step. -/
inductive Stepped (s : Dispatch) : Dispatch → List Observed → Prop where
  | transport {transport o} : Carried s.transport transport o →
      Stepped s { s with transport := transport } (o.map .transport)
  | driver {e driver ports o} : Driver.Stepped s.ports s.driver e driver ports o →
      Stepped s (s.withPorts driver ports) (o.map .driver)
  | link (link) : Stepped s { s with link := link } []

theorem stepped_of_step {s s' : Dispatch} {e : Event} {o : List Observed}
    (h : s.step e = some (s', o)) : Stepped s s' o := by
  cases e with
  | turn | accept | abandon | closeRequests =>
    obtain ⟨transport, o', rfl, rfl, hcarried⟩ := carried_of_viaTransport h (by simp)
    exact .transport hcarried
  | driver e =>
    rcases Option.map_eq_some_iff.mp h with ⟨⟨driver, ports, o'⟩, hstep, heq⟩
    cases heq
    exact .driver (Driver.stepped_of_step hstep)
  | order command =>
    simp only [step] at h
    split_ifs at h
    split at h <;> cases h
    exact .link _
  | hear =>
    simp only [step] at h
    split at h <;> cases h
    exact .link _
  | loseSupervisor =>
    cases h
    exact .link _

/-! ## Along a run -/

/-- The loop and the driver are both running. -/
structure Running (s : Dispatch) : Prop where
  correlator : s.transport.correlator ≠ none
  driver : s.driver.phase ≠ .returned

/-- Every frame on its way has one place. -/
structure Lined (hubAddresses : List Recipient) (t : List Observed) (s : Dispatch) : Prop where
  requests : accepted t = emitted t ++ s.transport.requests.queue
  frames : (emitted t).map Request.outFrame = taken t ++ s.transport.toMixnet.queue
  sending : taken t = (settled t).map Prod.fst ++ s.driver.sending
  receiver : s.transport.toMixnet.receiver = true
  hubAddresses : s.driver.hubAddresses = hubAddresses

theorem running_of_stepped {s s' : Dispatch} {o : List Observed} (h : Stepped s s' o)
    (hrunning : Running s') : Running s := by
  cases h with
  | transport hcarried =>
    exact ⟨fun hnone => hrunning.correlator (hcarried.running hnone), hrunning.driver⟩
  | driver hstepped => exact ⟨hrunning.correlator, Driver.running_of_stepped hstepped⟩
  | link link => exact ⟨hrunning.correlator, hrunning.driver⟩

/-- Every step keeps the frames in line. -/
theorem Lined.step {hubAddresses : List Recipient} {s s' : Dispatch} {t o : List Observed}
    (h : Lined hubAddresses t s) (hstepped : Stepped s s' o) (hrunning : Running s') :
    Lined hubAddresses (t ++ o) s' := by
  cases hstepped with
  | @transport transport o hcarried =>
    constructor
    · rw [accepted_append, h.requests, List.append_assoc, hcarried.requests hrunning.correlator,
        emitted_append, List.append_assoc]
    · rw [emitted_append, List.map_append, h.frames, hcarried.frames h.receiver]
      simp [taken]
    · simpa [taken, settled] using h.sending
    · exact hcarried.receiver.trans h.receiver
    · exact h.hubAddresses
  | @driver e driver ports o hdriver =>
    rcases Driver.outFrames_of_stepped hdriver hrunning.driver with ⟨hqueue, hreceiver, -⟩
    constructor
    · simpa [withPorts] using h.requests
    · have hframes := h.frames
      simp only [Dispatch.ports] at hqueue
      rw [hqueue] at hframes
      simpa [taken, withPorts] using hframes
    · have hsending := Driver.sending_of_stepped hdriver
      simp only [taken_append, settled_append, List.map_append, h.sending, List.append_assoc]
      simpa [taken, settled, withPorts] using hsending
    · exact hreceiver.trans h.receiver
    · exact (Driver.hubAddresses_of_stepped hdriver).trans h.hubAddresses
  | link link => simpa using ⟨h.requests, h.frames, h.sending, h.receiver, h.hubAddresses⟩

theorem lined_of_runs {hubAddresses : List Recipient} {gateways : List String} {s : Dispatch}
    {t : List Observed} (h : Runs step (initial hubAddresses gateways) t s)
    (hrunning : Running s) : Lined hubAddresses t s := by
  refine h.invariant (P := fun t s => Running s → Lined hubAddresses t s) ?_ ?_ hrunning
  · exact fun _ => ⟨rfl, rfl, rfl, rfl, rfl⟩
  · intro t s e o s' _ ih hstep hrunning
    have hstepped := stepped_of_step hstep
    exact (ih (running_of_stepped hstepped hrunning)).step hstepped hrunning

/-- The frame settled at a place, and what shows right before it. -/
def SettledAt (hubAddresses : List Recipient) (t : List Observed) (i : Nat) (out : OutFrame)
    (fate : Fate) : Prop :=
  ∃ pre before post, t = pre ++ before.map .driver ++ .driver (.settled out fate) :: post ∧
    (settled pre).length = i ∧ Driver.Told hubAddresses out fate before

/-- A trace that goes on keeps its places. -/
theorem SettledAt.later {hubAddresses : List Recipient} {t : List Observed} {i : Nat}
    {out : OutFrame} {fate : Fate} (h : SettledAt hubAddresses t i out fate)
    (o : List Observed) : SettledAt hubAddresses (t ++ o) i out fate := by
  rcases h with ⟨pre, before, post, rfl, hi, htold⟩
  exact ⟨pre, before, post ++ o, by simp, hi, htold⟩

/-- What a step settles comes after what was settled. -/
theorem settledAt_of_stepped {s s' : Dispatch} {t o : List Observed} {i : Nat} {out : OutFrame}
    {fate : Fate} (h : Stepped s s' o)
    (hrunning : fate = .abandoned → s'.driver.phase ≠ .returned)
    (hsettled : (settled o)[i]? = some (out, fate)) :
    SettledAt s.driver.hubAddresses (t ++ o) ((settled t).length + i) out fate := by
  cases h with
  | transport hcarried => simp [settled] at hsettled
  | @driver e driver ports o hdriver =>
    rw [settled, driverTrace_driver] at hsettled
    rcases Driver.told_of_stepped hdriver hrunning hsettled with
      ⟨pre, before, post, rfl, hi, htold⟩
    refine ⟨t ++ pre.map .driver, before, post.map .driver, by simp, ?_, htold⟩
    rw [settled_append, List.length_append, settled, settled, driverTrace_driver, hi]
  | link link => simp [settled, driverTrace] at hsettled

/-- One step on, every frame settled shows why. -/
theorem settledAt_append {hubAddresses : List Recipient} {s s' : Dispatch} {t o : List Observed}
    {i : Nat} {out : OutFrame} {fate : Fate} (h : Stepped s s' o)
    (hhub : s.driver.hubAddresses = hubAddresses)
    (hrunning : fate = .abandoned → s'.driver.phase ≠ .returned)
    (hbefore : (settled t)[i]? = some (out, fate) → SettledAt hubAddresses t i out fate)
    (hsettled : (settled (t ++ o))[i]? = some (out, fate)) :
    SettledAt hubAddresses (t ++ o) i out fate := by
  rw [settled_append] at hsettled
  by_cases hi : i < (settled t).length
  · rw [List.getElem?_append_left hi] at hsettled
    exact (hbefore hsettled).later o
  · rw [List.getElem?_append_right (Nat.le_of_not_lt hi)] at hsettled
    have hnew := settledAt_of_stepped (t := t) h hrunning hsettled
    rwa [Nat.add_sub_cancel' (Nat.le_of_not_lt hi), hhub] at hnew

/-- A settled frame shows why: the SDK's answer, or the report of the teardown. -/
theorem settledAt_of_runs {hubAddresses : List Recipient} {gateways : List String} {s : Dispatch}
    {t : List Observed} (h : Runs step (initial hubAddresses gateways) t s)
    (hrunning : Running s) {i : Nat} {out : OutFrame} {fate : Fate}
    (hsettled : (settled t)[i]? = some (out, fate)) : SettledAt hubAddresses t i out fate := by
  refine h.invariant (P := fun t s => Running s → (settled t)[i]? = some (out, fate) →
    SettledAt hubAddresses t i out fate)
    (fun _ hsettled => by simp [settled, driverTrace] at hsettled) ?_ hrunning hsettled
  intro t s e o s' hrun ih hstep hrunning hsettled
  have hstepped := stepped_of_step hstep
  have hbefore := running_of_stepped hstepped hrunning
  exact settledAt_append hstepped (lined_of_runs hrun hbefore).hubAddresses
    (fun _ => hrunning.driver) (ih hbefore) hsettled

/-- What the SDK is handed in a step, and what it answers, is what is settled. -/
theorem handed_of_stepped {s s' : Dispatch} {o : List Observed} (h : Stepped s s' o) :
    handed o = (settled o).filterMap (Driver.answered s.driver.hubAddresses) := by
  cases h with
  | transport hcarried => simp [handed, settled]
  | driver hdriver =>
    rw [handed, settled, driverTrace_driver]
    exact Driver.handed_of_stepped hdriver
  | link link => rfl

/-- What the SDK was handed, and what it answered, is what was settled. -/
theorem handed_of_runs {hubAddresses : List Recipient} {gateways : List String} {s : Dispatch}
    {t : List Observed} (h : Runs step (initial hubAddresses gateways) t s)
    (hrunning : Running s) :
    handed t = (settled t).filterMap (Driver.answered hubAddresses) := by
  refine h.invariant (P := fun t s => Running s →
    handed t = (settled t).filterMap (Driver.answered hubAddresses)) (fun _ => rfl) ?_ hrunning
  intro t s e o s' hrun ih hstep hrunning
  have hstepped := stepped_of_step hstep
  have hbefore := running_of_stepped hstepped hrunning
  rw [handed_append, settled_append, List.filterMap_append, ih hbefore,
    handed_of_stepped hstepped, (lined_of_runs hrun hbefore).hubAddresses]

/-- What the driver still has queued is taken from the front, whatever else happens. -/
theorem survives_of_runs {s s' : Dispatch} {t : List Observed} (h : Runs step s t s')
    (hreceiver : s.transport.toMixnet.receiver = true) (hdriver : s'.driver.phase ≠ .returned) :
    s.transport.toMixnet.queue <+: taken t ++ s'.transport.toMixnet.queue := by
  suffices hboth : s'.transport.toMixnet.receiver = true ∧
      s.transport.toMixnet.queue <+: taken t ++ s'.transport.toMixnet.queue from hboth.2
  refine h.invariant (P := fun t s' => s'.driver.phase ≠ .returned →
    s'.transport.toMixnet.receiver = true ∧
      s.transport.toMixnet.queue <+: taken t ++ s'.transport.toMixnet.queue)
    (fun _ => ⟨hreceiver, by simp [taken, driverTrace]⟩) ?_ hdriver
  intro t s₁ e o s₂ _ ih hstep hdriver
  cases stepped_of_step hstep with
  | @transport transport o hcarried =>
    rcases ih hdriver with ⟨hopen, hprefix⟩
    refine ⟨hcarried.receiver.trans hopen, hprefix.trans ?_⟩
    rw [hcarried.frames hopen]
    simp [taken]
  | @driver e driver ports o hstepped =>
    rcases ih (Driver.running_of_stepped hstepped) with ⟨hopen, hprefix⟩
    rcases Driver.outFrames_of_stepped hstepped hdriver with ⟨hqueue, hsame, -⟩
    refine ⟨hsame.trans hopen, hprefix.trans ?_⟩
    simp only [Dispatch.ports] at hqueue
    rw [hqueue]
    simp [taken, withPorts]
  | link link => simpa using ih hdriver

/-! ## Nothing is lost, doubled or overtaken -/

/-- What holds of a trace and the state it led to while the loop and the driver run. -/
structure Dispatched (hubAddresses : List Recipient) (t : List Observed) (s : Dispatch) :
    Prop where
  /-- The requests handed over are those settled, the one in flight, those queued for the
  driver and those queued for the loop. -/
  order : (accepted t).map Request.outFrame =
    (settled t).map Prod.fst ++ s.driver.sending ++ s.transport.toMixnet.queue ++
      s.transport.requests.queue.map Request.outFrame
  /-- What is passed to the SDK is the frame of the request at its place, with its SURBs
  and to its target. -/
  passed : ∀ (i : Nat) (out : OutFrame) (message : SdkMessage),
    (settled t)[i]? = some (out, .passed message) →
    ∃ request : Request, (accepted t)[i]? = some request ∧
      hubAddresses[request.target]? = some message.recipient ∧
      message.bytes = request.frame ∧ message.surbs = request.replySurbs
  /-- What the SDK was handed, in order, are the messages of the settled frames: those that it
  accepted are passed, those that it refused are refused, and there are no others. -/
  answers : handed t = (settled t).filterMap (Driver.answered hubAddresses)
  /-- A frame is passed or refused right as the SDK answers so to its message, dropped right as
  a teardown is reported, and otherwise it has no address. -/
  told : ∀ (i : Nat) (out : OutFrame) (fate : Fate), (settled t)[i]? = some (out, fate) →
    SettledAt hubAddresses t i out fate
  discarded : ∀ out, (out, .unaddressed) ∈ settled t → hubAddresses[out.target]? = none
  abandoned : ∀ e s' o out, s.step e = some (s', o) → Running s' →
    (out, .abandoned) ∈ settled o → ∃ why queued, .driver (.abandoned why queued true) ∈ o
  /-- A teardown discards one frame at most, and none that is queued. -/
  teardown : ∀ e s' o why queued sending, s.step e = some (s', o) →
    .driver (.abandoned why queued sending) ∈ o →
    (settled o).length ≤ 1 ∧ s'.transport.toMixnet.queue = s.transport.toMixnet.queue
  /-- What is queued for the driver survives whatever happens to its clients. -/
  survives : ∀ t' s', Runs step s t' s' → s'.driver.phase ≠ .returned →
    s.transport.toMixnet.queue <+: taken t' ++ s'.transport.toMixnet.queue

theorem mem_driverTrace {t : List Observed} {o : Driver.Observed} :
    o ∈ driverTrace t ↔ .driver o ∈ t := by
  unfold driverTrace
  rw [List.mem_filterMap]
  constructor
  · intro ⟨x, hmem, hx⟩
    cases x with
    | driver y =>
      cases hx
      exact hmem
    | transport y => cases hx
  · intro hmem
    exact ⟨_, hmem, rfl⟩

/-- The settled frames are those of the requests accepted first. -/
theorem Lined.order {hubAddresses : List Recipient} {t : List Observed} {s : Dispatch}
    (h : Lined hubAddresses t s) :
    (accepted t).map Request.outFrame =
      (settled t).map Prod.fst ++ s.driver.sending ++ s.transport.toMixnet.queue ++
        s.transport.requests.queue.map Request.outFrame := by
  rw [h.requests, List.map_append, h.frames, h.sending]

theorem Lined.accepted_of_settled {hubAddresses : List Recipient} {t : List Observed}
    {s : Dispatch} (h : Lined hubAddresses t s) {i : Nat} {out : OutFrame} {fate : Fate}
    (hsettled : (settled t)[i]? = some (out, fate)) :
    ∃ request, (accepted t)[i]? = some request ∧ request.outFrame = out := by
  have hi : i < ((settled t).map Prod.fst).length := by
    simpa using (List.getElem?_eq_some_iff.mp hsettled).1
  have hplace : ((accepted t).map Request.outFrame)[i]? = some out := by
    rw [h.order, List.append_assoc, List.append_assoc, List.getElem?_append_left hi]
    simp [hsettled]
  simpa using hplace

/-- A message is passed to the address under its frame's target. -/
theorem SettledAt.passed {hubAddresses : List Recipient} {t : List Observed} {i : Nat}
    {out : OutFrame} {message : SdkMessage}
    (h : SettledAt hubAddresses t i out (.passed message)) :
    hubAddresses[out.target]? = some message.recipient ∧ message.bytes = out.frame ∧
      message.surbs = out.replySurbs := by
  rcases h with ⟨pre, before, post, -, -, htold⟩
  cases htold with
  | passed haddress => exact ⟨haddress, rfl, rfl⟩

theorem SettledAt.unaddressed {hubAddresses : List Recipient} {t : List Observed} {i : Nat}
    {out : OutFrame} (h : SettledAt hubAddresses t i out .unaddressed) :
    hubAddresses[out.target]? = none := by
  rcases h with ⟨pre, before, post, -, -, htold⟩
  cases htold with
  | unaddressed hnone => exact hnone

/-- No frame is lost, doubled or overtaken before the loop or the driver returns, whatever
becomes of the driver's clients. -/
theorem dispatch_exact {hubAddresses : List Recipient} {gateways : List String} {s : Dispatch}
    {t : List Observed} (h : Runs step (initial hubAddresses gateways) t s)
    (hrunning : Running s) : Dispatched hubAddresses t s where
  order := (lined_of_runs h hrunning).order
  passed i out message hsettled := by
    rcases (lined_of_runs h hrunning).accepted_of_settled hsettled with ⟨request, haccepted, rfl⟩
    exact ⟨request, haccepted, (settledAt_of_runs h hrunning hsettled).passed⟩
  answers := handed_of_runs h hrunning
  told i out fate := settledAt_of_runs h hrunning
  discarded out hmem := by
    rcases List.getElem?_of_mem hmem with ⟨i, hsettled⟩
    exact (settledAt_of_runs h hrunning hsettled).unaddressed
  abandoned e s' o out hstep hstill hmem := by
    rcases List.getElem?_of_mem hmem with ⟨i, hsettled⟩
    have hat := settledAt_of_stepped (t := []) (stepped_of_step hstep) (fun _ => hstill.driver)
      hsettled
    rcases hat with ⟨pre, before, post, hsplit, -, htold⟩
    rw [List.nil_append] at hsplit
    cases htold with
    | @abandoned why queued =>
      refine ⟨why, queued, ?_⟩
      rw [hsplit]
      simp
  teardown e s' o why queued sending hstep hmem := by
    cases stepped_of_step hstep with
    | transport hcarried => simp at hmem
    | driver hdriver =>
      rw [← mem_driverTrace, driverTrace_driver] at hmem
      rcases Driver.teardown_of_stepped hdriver hmem with ⟨hqueue, hlength⟩
      rw [settled, driverTrace_driver]
      exact ⟨hlength, congrArg Channel.queue hqueue⟩
    | link link => cases hmem
  survives t' s' hrun hdriver :=
    survives_of_runs hrun (lined_of_runs h hrunning).receiver hdriver

/-- A submission's request, with the nonce of all zeros. -/
def sampleSubmit : Parcel :=
  ⟨List.Vector.replicate 16 0, [], submitReplySurbs, .submit, 0⟩

/-- A frame is accepted by the SDK, another refused, one has no address and one is dropped with
its client; the one behind them waits for the next client. -/
theorem dispatch_exact_rebuild :
    ∃ t s, Runs step (initial ["hub"] []) t s ∧ (accepted t).length = 6 ∧
      settled t = [(⟨[], submitReplySurbs, 0⟩, .passed ⟨"hub", [], submitReplySurbs⟩),
        (⟨[], submitReplySurbs, 0⟩, .refused), (⟨[], submitReplySurbs, 1⟩, .unaddressed),
        (⟨[], submitReplySurbs, 0⟩, .abandoned)] ∧
      handed t =
        [(⟨"hub", [], submitReplySurbs⟩, true), (⟨"hub", [], submitReplySurbs⟩, false)] ∧
      s.driver.phase = .serving ⟨1, "new"⟩ ∧ s.transport.toMixnet.queue.length = 1 ∧
      Dispatched ["hub"] t s := by
  have hrun := Runs.of_execute (show execute step (initial ["hub"] [])
    [.driver (.start 0), .driver (.built (some "old")), .accept sampleSubmit,
      .accept sampleSubmit, .accept { sampleSubmit with target := 1 }, .accept sampleSubmit,
      .accept sampleSubmit, .accept sampleSubmit, .turn .reserve, .turn .receive,
      .driver .takeFrame, .driver (.sent true), .turn .reserve, .turn .receive,
      .driver .takeFrame, .driver (.sent false), .turn .reserve, .turn .receive,
      .driver .takeFrame, .driver (.sent true), .turn .reserve, .turn .receive, .turn .reserve,
      .turn .receive, .driver .takeFrame, .order .rebuild, .driver .command,
      .driver .disconnected, .driver (.built (some "new"))] = some (_, _) from rfl)
  exact ⟨_, _, hrun, rfl, rfl, rfl, rfl, rfl,
    dispatch_exact hrun ⟨Option.some_ne_none _, nofun⟩⟩

end Dispatch

end Nym
end ZeroShim
