import ZeroShim.Nym.Driver
import ZeroShim.Nym.Transport

/-!
# The mixnet tasks together

The transport loop, the driver and the supervisor over the channels that
{lit}`build_nym_transport` wires, and one clock.  Callers and the SDK do what they
like, time passes as it likes, and the count of the transport loop's last turn is there
for the supervisor to load at once, late or never.

Main results:

- Theorem {lit}`stepped_of_step`: what a step can do.
-/

namespace ZeroShim
namespace Nym

open Library Wire Transport

/-- The three tasks, their channels and the clock. -/
structure Mixnet where
  now : Nat
  transport : Transport
  /-- The count that the supervisor loads. -/
  published : Nat
  driver : Driver
  supervisor : Supervisor
  link : Link
  /-- When the probe ticks next. -/
  probeAt : Nat

namespace Mixnet

/-- What a run shows. -/
inductive Observed where
  | transport (o : Nym.Observed)
  | driver (o : Driver.Observed)
  | supervisor (o : Supervisor.Observed)

/-- What can happen next. -/
inductive Event where
  /-- Time passes. -/
  | pass (d : Nat)
  | turn (a : Arm)
  | accept (parcel : Parcel)
  | abandon (slot : Nat)
  /-- The last handle is dropped. -/
  | closeRequests
  /-- The count of the transport loop's last turn gets to where the supervisor loads it. -/
  | store
  | driver (e : Driver.Event)
  | supervisor (e : Supervisor.Event)

/-- How often the probe ticks. -/
def probeInterval : Nat := 60000000000

/-- A tick later than this is a missed one. -/
def missedTick : Nat := 5000000

/-- Everything as {lit}`build_nym_transport` sets it up. -/
def initial (policy : RotationPolicy) (hubAddresses : List Recipient) (gateways : List String) :
    Mixnet where
  now := 0
  transport := .initial
  published := 0
  driver := .initial hubAddresses gateways
  supervisor := .start policy 0
  link := .empty
  probeAt := 0

/-- The channel ends that the driver holds. -/
def ports (s : Mixnet) : Driver.Ports :=
  ⟨s.transport.toMixnet, s.transport.fromMixnet, s.link⟩

/-- When the probe ticks next: the interval begins with the first client, and a missed
tick delays the ones after it. -/
def nextProbe (s : Mixnet) (driver : Driver) (e : Driver.Event) : Nat :=
  if e = .tick then
    if s.probeAt + missedTick < s.now then s.now + probeInterval else s.probeAt + probeInterval
  else if s.driver.built = 0 ∧ driver.built ≠ 0 then s.now
  else s.probeAt

/-- The state after a step of the driver. -/
def withDriver (s : Mixnet) (driver : Driver) (ports : Driver.Ports) (e : Driver.Event) :
    Mixnet :=
  { s with
    transport := { s.transport with toMixnet := ports.outFrames, fromMixnet := ports.inbound }
    driver := driver
    link := ports.link
    probeAt := s.nextProbe driver e }

/-- A step of the transport alone. -/
def viaTransport (s : Mixnet) (e : Transport.Event) : Option (Mixnet × List Observed) :=
  (s.transport.step e).map fun out => ({ s with transport := out.1 }, out.2.map .transport)

/-- One step. -/
def step (s : Mixnet) : Event → Option (Mixnet × List Observed)
  | .pass d => some ({ s with now := s.now + d }, [])
  | .turn a => s.viaTransport (.turn a)
  | .accept parcel => s.viaTransport (.accept parcel)
  | .abandon slot => s.viaTransport (.abandon slot)
  | .closeRequests => s.viaTransport .closeRequests
  | .store => some ({ s with published := s.transport.inflight }, [])
  | .driver e =>
    if e = .tick ∧ s.now < s.probeAt then none
    else
      (s.driver.step s.ports e).map fun out =>
        (s.withDriver out.1 out.2.1 e, out.2.2.map .driver)
  | .supervisor e =>
    (s.supervisor.step s.now s.published s.link e).map fun out =>
      ({ s with supervisor := out.1, link := out.2.1 }, out.2.2.map .supervisor)

/-! ## What a step can do -/

/-- The effects of a step. -/
inductive Stepped (s : Mixnet) : Event → Mixnet → List Observed → Prop where
  | pass (d) : Stepped s (.pass d) { s with now := s.now + d } []
  | turn {a transport o} : s.transport.turn a = some (transport, o) →
      Stepped s (.turn a) { s with transport := transport } (o.map .transport)
  | accept {parcel transport request} : s.transport.accept parcel = some (transport, request) →
      Stepped s (.accept parcel) { s with transport := transport }
        [.transport (.accepted request)]
  | abandon (slot) : Stepped s (.abandon slot) { s with transport := s.transport.abandon slot } []
  | closeRequests : Stepped s .closeRequests
      { s with transport := { s.transport with requests := s.transport.requests.dropSenders } } []
  | store : Stepped s .store { s with published := s.transport.inflight } []
  | driver {e driver ports o} : (e = .tick → s.probeAt ≤ s.now) →
      s.driver.step s.ports e = some (driver, ports, o) →
      Stepped s (.driver e) (s.withDriver driver ports e) (o.map .driver)
  | supervisor {e supervisor link o} :
      s.supervisor.step s.now s.published s.link e = some (supervisor, link, o) →
      Stepped s (.supervisor e) { s with supervisor := supervisor, link := link }
        (o.map .supervisor)

theorem stepped_of_step {s s' : Mixnet} {e : Event} {o : List Observed}
    (h : s.step e = some (s', o)) : Stepped s e s' o := by
  cases e with
  | pass d =>
    cases h
    exact .pass d
  | turn a =>
    rcases Option.map_eq_some_iff.mp h with ⟨⟨transport, o'⟩, hturn, heq⟩
    cases heq
    exact .turn hturn
  | accept parcel =>
    rcases Option.map_eq_some_iff.mp h with ⟨⟨transport, o'⟩, hstep, heq⟩
    cases heq
    rcases Option.map_eq_some_iff.mp hstep with ⟨⟨s₁, request⟩, haccept, heq⟩
    cases heq
    exact .accept haccept
  | abandon slot =>
    cases h
    exact .abandon slot
  | closeRequests =>
    cases h
    exact .closeRequests
  | store =>
    cases h
    exact .store
  | driver e =>
    simp only [step] at h
    split_ifs at h with hearly
    rcases Option.map_eq_some_iff.mp h with ⟨⟨driver, ports, o'⟩, hstep, heq⟩
    cases heq
    refine .driver (fun htick => ?_) hstep
    exact Nat.le_of_not_lt fun hlt => hearly ⟨htick, hlt⟩
  | supervisor e =>
    rcases Option.map_eq_some_iff.mp h with ⟨⟨supervisor, link, o'⟩, hstep, heq⟩
    cases heq
    exact .supervisor hstep

end Mixnet

end Nym
end ZeroShim
