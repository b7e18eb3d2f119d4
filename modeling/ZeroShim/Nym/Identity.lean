import Mathlib.Data.List.TakeWhile
import ZeroShim.Nym.Mixnet

/-!
# What the diagnostic payload hides

The address of a client is the identity that every diverted migration goes out under; only its
gateway half may be published.  Nothing the tasks do depends on the other half: renaming the
addresses that the SDK gives its clients commutes with every step.

Main results:

- Theorem {lit}`Mixnet.step_renamed`: renaming commutes with a step of the mixnet tasks.
- Theorem {lit}`Mixnet.identity_hidden`: whatever happens, clients at the same gateways leave the
  same payloads behind, and have the hubs sent the same.
-/

namespace ZeroShim

open Library

namespace MixnetStatus

/-- A gateway has itself as its gateway. -/
theorem gatewayOf_gatewayOf (address : String) :
    gatewayOf (gatewayOf address) = gatewayOf address := by
  unfold gatewayOf
  rw [String.toList_ofList, List.reverse_reverse, List.takeWhile_idem]

/-- The status of a client under another address. -/
def rename (f : String → String) (status : MixnetStatus) : MixnetStatus :=
  { status with address := status.address.map f }

/-- Neither payload shows more of an address than its gateway. -/
theorem diagJson_rename {f : String → String}
    (hf : ∀ address, gatewayOf (f address) = gatewayOf address) (status : MixnetStatus)
    (unixNow : Nat) :
    (status.rename f).diagJson unixNow = status.diagJson unixNow := by
  have hgateway : gatewayOf ((status.rename f).address.getD "") =
      gatewayOf (status.address.getD "") := by
    unfold rename
    cases status.address with
    | none => rfl
    | some address => exact hf address
  unfold diagJson
  rw [hgateway]
  rfl

end MixnetStatus

namespace Nym

/-! ## Renaming -/

variable (f : Recipient → Recipient)

def Client.rename (client : Client) : Client := { client with address := f client.address }

/-- A message of a renamed client goes to the renamed recipient. -/
def SdkMessage.rename (message : SdkMessage) : SdkMessage :=
  { message with recipient := f message.recipient }

/-- A probe in flight goes to the address it took. -/
def InFlight.rename : InFlight → InFlight
  | .frame sender out => .frame sender out
  | .probe sender own => .probe sender (f own)

namespace Driver

/-- The same point of the loop, with a renamed client. -/
def Phase.rename : Phase → Phase
  | .serving client => .serving (client.rename f)
  | .reportingSilence client => .reportingSilence (client.rename f)
  | .delivering client message rest => .delivering (client.rename f) message rest
  | .disconnecting client stop => .disconnecting (client.rename f) stop
  | .reporting caller dead => .reporting caller (dead.map (Client.rename f))
  | phase => phase

/-- The client's messages to itself are renamed; those to the hubs are not. -/
def Observed.rename : Observed → Observed
  | .connected client => .connected (client.rename f)
  | .probed sender message accepted => .probed sender (message.rename f) accepted
  | .gaveUp client => .gaveUp (client.rename f)
  | .reported client => .reported (client.map (Client.rename f))
  | .told command client => .told command (client.map (Client.rename f))
  | .disconnected client => .disconnected (client.rename f)
  | o => o

/-- The outcome of a build, with the address renamed. -/
def Event.rename : Event → Event
  | .built outcome => .built (outcome.map f)
  | e => e

end Driver

/-- The same driver under another identity. -/
def Driver.rename (d : Driver) : Driver :=
  { d with
    status := d.status.rename f
    own := f d.own
    inFlight := d.inFlight.map (InFlight.rename f)
    phase := d.phase.rename f }

namespace Driver

variable {f} (ports : Ports) (d : Driver)

/-- A step with what it shows, renamed. -/
def renamed (f : Recipient → Recipient) (out : Driver × Ports × List Observed) :
    Driver × Ports × List Observed :=
  (out.1.rename f, out.2.1, out.2.2.map (Observed.rename f))

/-- The frame of the send in flight is what it was. -/
theorem sending_renamed : (d.rename f).sending = d.sending := by
  unfold sending rename
  cases d.inFlight with
  | none => rfl
  | some inFlight => cases inFlight <;> rfl

theorem isSome_renamed : (d.rename f).inFlight.isSome = d.inFlight.isSome := Option.isSome_map

/-- What a driver drops names the identity it captured. -/
theorem drop_renamed : (d.rename f).drop = d.drop.map (Observed.rename f) := by
  unfold drop
  rw [sending_renamed, List.map_map]
  rfl

/-- A frame is handed to the hubs, whoever hands it over. -/
theorem handOver_renamed (hubAddresses : List Recipient) (sender : Nat) (out : OutFrame)
    (accepted : Bool) :
    (handOver hubAddresses sender out accepted).map (Observed.rename f) =
      handOver hubAddresses sender out accepted := by
  unfold handOver
  cases hubAddresses[out.target]? <;> rfl

theorem connect_renamed (address : Recipient) (publish : Bool) :
    (d.rename f).connect (f address) publish =
      ((d.connect address publish).1.rename f,
        (d.connect address publish).2.map (Observed.rename f)) := by
  cases publish <;> rfl

/-- Messages reach the transport whatever the identity. -/
theorem forward_renamed (client : Client) (unixNow : Nat) (messages : List Bytes) :
    (d.rename f).forward (client.rename f) unixNow messages =
      (d.forward client unixNow messages).rename f := by
  induction messages generalizing d with
  | nil => rfl
  | cons message rest ih =>
    cases message with
    | nil => exact ih { d with status := d.status.recordInbound true unixNow }
    | cons b bs => rfl

/-- A tick judges silence without looking at the address. -/
theorem tick_renamed (client : Client) (queued : Nat) :
    (d.rename f).tick (client.rename f) queued = (d.tick client queued).rename f := by
  unfold tick
  have hinbound : (d.rename f).status.inboundTotal = d.status.inboundTotal := rfl
  have hprobe : (d.rename f).inboundAtProbe = d.inboundAtProbe := rfl
  have hrounds : (d.rename f).silentRounds = d.silentRounds := rfl
  rw [hinbound, hprobe, hrounds]
  split_ifs <;> rfl

/-- A send ends for the renamed client as it ends for the other. -/
theorem endSend_renamed (accepted : Bool) (inFlight : InFlight) :
    (d.rename f).endSend accepted (inFlight.rename f) =
      ((d.endSend accepted inFlight).1.rename f,
        (d.endSend accepted inFlight).2.map (Observed.rename f)) := by
  cases inFlight with
  | frame sender out =>
    simp only [endSend, List.map_append, handOver_renamed]
    rfl
  | probe sender own => rfl

theorem stop_renamed (client : Client) (queued : Nat) :
    (d.rename f).stop (client.rename f) queued =
      ((d.stop client queued).1.rename f,
        (d.stop client queued).2.map (Observed.rename f)) := by
  simp only [stop, isSome_renamed]
  rfl

/-- A rebuild forgets the identity. -/
theorem rebuild_renamed (client : Client) (queued : Nat) :
    (d.rename f).rebuild (client.rename f) queued =
      ((d.rebuild client queued).1.rename f,
        (d.rebuild client queued).2.map (Observed.rename f)) := by
  simp only [rebuild, isSome_renamed, drop_renamed]
  rfl

theorem die_renamed (client : Client) (queued : Nat) :
    (d.rename f).die (client.rename f) queued =
      ((d.die client queued).1.rename f, (d.die client queued).2.map (Observed.rename f)) := by
  simp only [die, isSome_renamed, drop_renamed]
  rfl

/-- A build is the one place where an identity enters. -/
theorem endBuild_renamed (outcome : Option Recipient) :
    (d.rename f).endBuild (outcome.map f) =
      (d.endBuild outcome).map fun out => (out.1.rename f, out.2.map (Observed.rename f)) := by
  unfold endBuild
  have hphase : (d.rename f).phase = d.phase.rename f := rfl
  rw [hphase]
  cases d.phase with
  | connecting | rebuilding | building =>
    cases outcome with
    | none => rfl
    | some address => exact congrArg some (connect_renamed d address _)
  | _ => cases outcome <;> rfl

theorem report_renamed (client : Option Client) (phase : Phase) :
    report ports (d.rename f) (client.map (Client.rename f)) (phase.rename f) =
      (report ports d client phase).map (renamed f) := by
  unfold report
  split_ifs with hreceiver
  · cases ports.link.events.send .died <;> rfl
  · rfl

theorem obey_renamed (client : Client) :
    obey ports (d.rename f) (client.rename f) = (obey ports d client).map (renamed f) := by
  unfold obey
  cases ports.link.commands.recv with
  | item command commands =>
    cases command with
    | rebuild =>
      simp only [rebuild_renamed]
      rfl
    | disconnect =>
      simp only [stop_renamed]
      rfl
  | ended =>
    simp only [stop_renamed]
    rfl
  | pending => rfl

/-- A driver that leaves shows only what it drops. -/
theorem leave_renamed :
    (d.rename f).leave ports = renamed f (d.leave ports) := by
  unfold leave renamed
  rw [List.map_append, drop_renamed]
  rfl

theorem await_renamed (caller : Caller) :
    await ports (d.rename f) caller = (await ports d caller).map (renamed f) := by
  unfold await
  cases ports.link.commands.recv with
  | item command commands =>
    cases command with
    | rebuild => rfl
    | disconnect =>
      simp only [leave_renamed, Option.map_some]
      rfl
  | ended => exact congrArg some (leave_renamed ports d)
  | pending => rfl

theorem takeFrame_renamed (client : Client) :
    takeFrame ports (d.rename f) (client.rename f) =
      (takeFrame ports d client).map (renamed f) := by
  unfold takeFrame
  cases ports.outFrames.recv with
  | item | pending => rfl
  | ended =>
    simp only [stop_renamed]
    rfl

theorem passOn_renamed (client : Client) (message : Bytes) (rest : List Bytes) (unixNow : Nat) :
    passOn ports (d.rename f) (client.rename f) message rest unixNow =
      (passOn ports d client message rest unixNow).map (renamed f) := by
  unfold passOn
  rw [forward_renamed]
  split_ifs with hreceiver
  · cases ports.inbound.send message <;> rfl
  · rfl

variable {d} in
/-- Renaming commutes with an arm of the loop. -/
theorem step_serving_renamed {client : Client} (hd : d.phase = .serving client) (e : Event) :
    (d.rename f).step ports (e.rename f) = (d.step ports e).map (renamed f) := by
  have hphase : (d.rename f).phase = .serving (client.rename f) := by
    show d.phase.rename f = _
    rw [hd]
    rfl
  have hinFlight : (d.rename f).inFlight = d.inFlight.map (InFlight.rename f) := rfl
  unfold step
  rw [hphase, hd, hinFlight]
  cases e with
  | tick =>
    simp only [Event.rename, tick_renamed, Option.map_eq_none_iff]
    split_ifs <;> rfl
  | command => exact obey_renamed ports d client
  | takeFrame =>
    simp only [Event.rename, takeFrame_renamed, Option.map_eq_none_iff]
    split_ifs <;> rfl
  | sent accepted =>
    simp only [Event.rename]
    cases d.inFlight with
    | none => rfl
    | some inFlight =>
      simp only [Option.map_some, endSend_renamed]
      rfl
  | arrive messages unixNow =>
    cases messages with
    | some messages =>
      simp only [Event.rename, forward_renamed]
      rfl
    | none =>
      simp only [Event.rename, die_renamed]
      rfl
  | built outcome =>
    simp only [Event.rename, endBuild_renamed, Option.map_map]
    rfl
  | start | delivered | reported | disconnected => rfl

/-- Renaming commutes with a step of the driver. -/
theorem step_renamed (e : Event) :
    (d.rename f).step ports (e.rename f) = (d.step ports e).map (renamed f) := by
  by_cases hserving : ∃ client, d.phase = .serving client
  · rcases hserving with ⟨client, hd⟩
    exact step_serving_renamed ports hd e
  have hphase : (d.rename f).phase = d.phase.rename f := rfl
  cases e with
  | built outcome =>
    simp only [Event.rename, step_built, endBuild_renamed, Option.map_map]
    rfl
  | _ =>
    unfold step Event.rename
    rw [hphase]
    cases hd : d.phase with
    | serving client => exact absurd ⟨client, hd⟩ hserving
    | reportingSilence client =>
      first
      | rfl
      | exact report_renamed ports d (some client) (.serving client)
    | delivering client message rest =>
      first
      | rfl
      | exact passOn_renamed ports d client message rest _
    | disconnecting client stop =>
      cases stop with
      | false => rfl
      | true =>
        simp only [leave_renamed]
        rfl
    | reporting caller dead =>
      first
      | rfl
      | exact report_renamed ports d dead (.waiting caller)
    | waiting caller =>
      first
      | rfl
      | exact await_renamed ports d caller
    | _ => rfl

end Driver

/-! ## Among the other tasks -/

namespace Mixnet

/-- An observation under another identity. -/
def Observed.rename : Observed → Observed
  | .driver o => .driver (o.rename f)
  | o => o

/-- An event under another identity. -/
def Event.rename : Event → Event
  | .driver e => .driver (e.rename f)
  | e => e

end Mixnet

/-- The same system, whose client has another identity. -/
def Mixnet.rename (s : Mixnet) : Mixnet := { s with driver := s.driver.rename f }

namespace Mixnet

variable {f}

theorem rename_eq_tick_iff (e : Driver.Event) : e.rename f = .tick ↔ e = .tick := by
  cases e <;> simp [Driver.Event.rename]

/-- The transport never sees the identity. -/
theorem viaTransport_renamed (s : Mixnet) (e : Transport.Event) :
    (s.rename f).viaTransport e =
      (s.viaTransport e).map fun out => (out.1.rename f, out.2.map (Observed.rename f)) := by
  unfold viaTransport
  have htransport : (s.rename f).transport = s.transport := rfl
  rw [htransport]
  cases s.transport.step e with
  | none => rfl
  | some out =>
    simp only [Option.map_some, List.map_map]
    rfl

/-- The supervisor and the channels are untouched by a renaming of the driver. -/
theorem withDriver_renamed (s : Mixnet) (driver : Driver) (ports : Driver.Ports)
    (e : Driver.Event) :
    (s.rename f).withDriver (driver.rename f) ports (e.rename f) =
      (s.withDriver driver ports e).rename f := by
  have hnext : (s.rename f).nextProbe (driver.rename f) (e.rename f) = s.nextProbe driver e := by
    unfold nextProbe
    rw [if_congr (rename_eq_tick_iff e) rfl rfl]
    rfl
  unfold withDriver
  rw [hnext]
  rfl

/-- Renaming commutes with a step of the mixnet tasks. -/
theorem step_renamed (s : Mixnet) (e : Event) :
    (s.rename f).step (e.rename f) =
      (s.step e).map fun out => (out.1.rename f, out.2.map (Observed.rename f)) := by
  cases e with
  | pass d => rfl
  | turn a => exact viaTransport_renamed s (.turn a)
  | accept parcel => exact viaTransport_renamed s (.accept parcel)
  | abandon slot => exact viaTransport_renamed s (.abandon slot)
  | closeRequests => exact viaTransport_renamed s .closeRequests
  | store => rfl
  | driver e =>
    have hdriver : (s.rename f).driver.step (s.rename f).ports (e.rename f) =
        (s.driver.step s.ports e).map (Driver.renamed f) :=
      Driver.step_renamed s.ports s.driver e
    have hearly : (e.rename f = .tick ∧ (s.rename f).now < (s.rename f).probeAt) ↔
        (e = .tick ∧ s.now < s.probeAt) :=
      and_congr_left' (rename_eq_tick_iff e)
    simp only [step, Event.rename, hdriver]
    rw [if_congr hearly rfl rfl]
    split_ifs with htick
    · rfl
    · cases s.driver.step s.ports e with
      | none => rfl
      | some out =>
        simp only [Option.map_some, Driver.renamed, withDriver_renamed, List.map_map]
        rfl
  | supervisor e =>
    simp only [step, Event.rename]
    have hlink : (s.rename f).link = s.link := rfl
    have hsupervisor : (s.rename f).supervisor = s.supervisor := rfl
    have hnow : (s.rename f).now = s.now := rfl
    have hpublished : (s.rename f).published = s.published := rfl
    rw [hlink, hsupervisor, hnow, hpublished]
    cases s.supervisor.step s.now s.published s.link e with
    | none => rfl
    | some out =>
      simp only [Option.map_some, List.map_map]
      rfl

/-! ## What is shown -/

/-- Two events that differ at most in the identity half of an address a client is given. -/
inductive SameButIdentity : Event → Event → Prop where
  | same (e : Event) : SameButIdentity e e
  | built {address address' : Recipient} :
      MixnetStatus.gatewayOf address = MixnetStatus.gatewayOf address' →
      SameButIdentity (.driver (.built (some address))) (.driver (.built (some address')))

/-- What became of the frames for the hubs. -/
def sentToHubs (t : List Observed) : List (OutFrame × Fate) :=
  t.filterMap fun
    | .driver (.settled out fate) => some (out, fate)
    | _ => none

/-- What the hubs receive carries no identity. -/
theorem sentToHubs_renamed (t : List Observed) :
    sentToHubs (t.map (Observed.rename f)) = sentToHubs t := by
  unfold sentToHubs
  rw [List.filterMap_map]
  apply List.filterMap_congr
  intro x _
  cases x with
  | driver o => cases o <;> rfl
  | transport o => rfl
  | supervisor o => rfl

/-- Clients that are given addresses at the same gateways are the same clients, once only the
gateways are left. -/
theorem rename_eq_of_sameButIdentity {e e' : Event} (h : SameButIdentity e e') :
    e.rename MixnetStatus.gatewayOf = e'.rename MixnetStatus.gatewayOf := by
  cases h with
  | same => rfl
  | built hgateway => simp [Event.rename, Driver.Event.rename, hgateway]

/-- Runs that differ in identities alone are renamed to one run. -/
theorem map_rename_of_sameButIdentity {es es' : List Event}
    (h : List.Forall₂ SameButIdentity es es') :
    es.map (Event.rename MixnetStatus.gatewayOf) =
      es'.map (Event.rename MixnetStatus.gatewayOf) := by
  induction h with
  | nil => rfl
  | cons hhead _ ih => rw [List.map_cons, List.map_cons, rename_eq_of_sameButIdentity hhead, ih]

/-- Whatever happens to the mixnet tasks, giving their clients other identities at the same
gateways goes through the same steps: at every moment both payloads read the same, and the hubs
have been sent the same frames, which met the same fates. -/
theorem identity_hidden {s₀ s : Mixnet} {es es' : List Event} {t : List Observed}
    (hsame : List.Forall₂ SameButIdentity es es') (h : execute step s₀ es = some (s, t)) :
    ∃ s' t', execute step s₀ es' = some (s', t') ∧
      (∀ unixNow, s'.driver.status.diagJson unixNow = s.driver.status.diagJson unixNow) ∧
      s'.driver.status.toJson = s.driver.status.toJson ∧
      sentToHubs t' = sentToHubs t := by
  have hleft := execute_map (rename MixnetStatus.gatewayOf) (Event.rename MixnetStatus.gatewayOf)
    (Observed.rename MixnetStatus.gatewayOf) step_renamed s₀ es
  have hright := execute_map (rename MixnetStatus.gatewayOf)
    (Event.rename MixnetStatus.gatewayOf) (Observed.rename MixnetStatus.gatewayOf) step_renamed
    s₀ es'
  rw [← map_rename_of_sameButIdentity hsame, hleft, h] at hright
  rcases Option.map_eq_some_iff.mp hright.symm with ⟨⟨s', t'⟩, hexecute, heq⟩
  rcases Prod.mk.inj heq with ⟨hstate, htrace⟩
  have hstatus : s'.driver.status.rename MixnetStatus.gatewayOf =
      s.driver.status.rename MixnetStatus.gatewayOf :=
    congrArg (fun s : Mixnet => s.driver.status) hstate
  refine ⟨s', t', hexecute, ?_, ?_, ?_⟩
  · intro unixNow
    rw [← MixnetStatus.diagJson_rename MixnetStatus.gatewayOf_gatewayOf s'.driver.status, hstatus,
      MixnetStatus.diagJson_rename MixnetStatus.gatewayOf_gatewayOf]
  · show (s'.driver.status.rename MixnetStatus.gatewayOf).toJson =
      (s.driver.status.rename MixnetStatus.gatewayOf).toJson
    rw [hstatus]
  · rw [← sentToHubs_renamed t', htrace, sentToHubs_renamed]

/-- A client connects, gives up and is replaced by another. -/
def replaced (first second : Recipient) : List Event :=
  [.driver (.start 0), .driver (.built (some first)), .driver .tick, .driver (.sent true),
    .driver (.arrive none 8), .driver .reported, .supervisor .hear, .supervisor .sent,
    .driver .command, .driver (.built (some second))]

theorem identity_hidden_replaced : ∃ s s' t t',
    execute step (.initial .never ["hub"] []) (replaced "i1.e1@g" "i2.e2@h") = some (s, t) ∧
      execute step (.initial .never ["hub"] []) (replaced "i3.e3@g" "i4.e4@h") = some (s', t') ∧
      s.driver.status.address = some "i2.e2@h" ∧
      ∀ unixNow, s'.driver.status.diagJson unixNow = s.driver.status.diagJson unixNow := by
  obtain ⟨s, t, hrun, haddress⟩ : ∃ s t, execute step (.initial .never ["hub"] [])
      (replaced "i1.e1@g" "i2.e2@h") = some (s, t) ∧
        s.driver.status.address = some "i2.e2@h" := ⟨_, _, rfl, rfl⟩
  have hsame : List.Forall₂ SameButIdentity (replaced "i1.e1@g" "i2.e2@h")
      (replaced "i3.e3@g" "i4.e4@h") :=
    .cons (.same _) <| .cons (.built (by decide)) <| .cons (.same _) <| .cons (.same _) <|
      .cons (.same _) <| .cons (.same _) <| .cons (.same _) <| .cons (.same _) <|
      .cons (.same _) <| .cons (.built (by decide)) .nil
  rcases identity_hidden hsame hrun with ⟨s', t', hrun', hdiag, -, -⟩
  exact ⟨s, s', t, t', hrun, hrun', haddress, hdiag⟩

end Mixnet

end Nym
end ZeroShim
