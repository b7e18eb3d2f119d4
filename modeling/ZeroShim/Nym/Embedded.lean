import ZeroShim.Nym.Liveness

/-!
# The driver among its surroundings

The runs of {lit}`run_driver` with all that it shows, whatever holds the other ends of its
channels does: commands and messages come and go, ends are dropped, and frames are queued.
Only the driver takes a frame off its queue.

Main results:

- Theorem {lit}`stepped_of_step`: what a step can do.
- Theorem {lit}`runs_of_mixnet`: the driver among the other tasks makes such a run.
-/

namespace ZeroShim
namespace Nym
namespace Embedded

open Library

/-! ## Steps -/

/-- One step of the driver or of what holds the other ends of its channels. -/
def step (s : Liveness) : Liveness.Event → Option (Liveness × List Driver.Observed)
  | .surroundings ports =>
    if s.ports.outFrames.queue <+: ports.outFrames.queue then some ({ s with ports := ports }, [])
    else none
  | .driver e => (s.driver.step s.ports e).map fun out => (⟨out.1, out.2.1⟩, out.2.2)

/-- The effects of a step. -/
inductive Stepped (s : Liveness) : Liveness.Event → Liveness → List Driver.Observed → Prop where
  | surroundings {ports} : s.ports.outFrames.queue <+: ports.outFrames.queue →
      Stepped s (.surroundings ports) { s with ports := ports } []
  | driver {e d ports o} : s.driver.step s.ports e = some (d, ports, o) →
      Stepped s (.driver e) ⟨d, ports⟩ o

theorem stepped_of_step {s s' : Liveness} {e : Liveness.Event} {o : List Driver.Observed}
    (h : step s e = some (s', o)) : Stepped s e s' o := by
  cases e with
  | surroundings ports =>
    simp only [step] at h
    split_ifs at h with hgrows
    cases h
    exact .surroundings hgrows
  | driver e =>
    rcases Option.map_eq_some_iff.mp h with ⟨⟨d, ports, o'⟩, hstep, heq⟩
    cases heq
    exact .driver hstep

/-- The driver disconnects its client to return. -/
def stops : Driver.Phase → Bool
  | .disconnecting _ true => true
  | _ => false

theorem stops_of_isBuilding {phase : Driver.Phase} (h : phase.isBuilding = true) :
    stops phase = false := by
  cases phase <;> simp [Driver.Phase.isBuilding, stops] at h ⊢

theorem stops_forward (d : Driver) (client : Client) (unixNow : Nat) (messages : List Bytes) :
    stops (d.forward client unixNow messages).phase = false := by
  apply Driver.view_forward d client unixNow messages stops
  exact fun _ _ => rfl

/-- Open channels, with frames and commands queued for the driver as far as there is room. -/
def queueing (frames : List OutFrame) (commands : List ClientCommand) : Driver.Ports where
  outFrames := ⟨frames.take 8, 0, true, true, List.length_take_le 8 frames⟩
  inbound := .empty
  link := ⟨.empty, ⟨commands.take 8, 0, true, true, List.length_take_le 8 commands⟩⟩

/-! ## Among the other tasks -/

/-- The loop only adds to the frames queued for the driver. -/
theorem prefix_endTurn (s : Transport) (c : Correlator) :
    (Transport.endTurn s c).1.toMixnet.queue = s.toMixnet.queue := by
  unfold Transport.endTurn Transport.publish Transport.sweep
  dsimp only
  split_ifs <;> rfl

theorem prefix_turned {s s' : Transport} {c c' : Correlator} {o : List Observed}
    (h : Transport.Turned s c s' c' o) : s.toMixnet.queue <+: s'.toMixnet.queue := by
  cases h with
  | reserve hpermit hreserve =>
    dsimp only
    rw [(Channel.of_reserve hreserve).1]
  | receive hpermit hrecv hsend =>
    dsimp only
    rw [(Channel.of_sendReserved hsend).1]
    exact List.prefix_append _ _
  | close | deliver | ignore | timer => exact List.prefix_rfl

theorem prefix_turn {s s' : Transport} {a : Transport.Arm} {o : List Observed}
    (h : s.turn a = some (s', o)) : s.toMixnet.queue <+: s'.toMixnet.queue := by
  rcases Transport.turn_cases h with ⟨c, hc, hleft | hturned⟩
  · rw [hleft.2.1]
    exact List.prefix_rfl
  · rcases hturned with ⟨s₁, c₁, o₁, harm, hs', -⟩
    rw [hs', prefix_endTurn]
    exact prefix_turned (Transport.turned_of_arm harm)

section Mixnet

variable {policy : RotationPolicy} {hubAddresses : List Recipient} {gateways : List String}

/-- What the driver shows. -/
@[simp] def driver? : Mixnet.Observed → Option Driver.Observed
  | .driver o => some o
  | _ => none

/-- The driver of the mixnet tasks. -/
def ofMixnet (s : Mixnet) : Liveness := ⟨s.driver, s.ports⟩

theorem filterMap_driver (o : List Driver.Observed) :
    (o.map Mixnet.Observed.driver).filterMap driver? = o := by
  induction o with
  | nil => rfl
  | cons x o ih => simpa using ih

theorem filterMap_other {α : Type} {reveal : α → Mixnet.Observed} (o : List α)
    (hother : ∀ x, driver? (reveal x) = none) : (o.map reveal).filterMap driver? = [] := by
  induction o with
  | nil => rfl
  | cons x o ih => rw [List.map_cons, List.filterMap_cons_none (hother x), ih]

/-- A step of another task is one of the surroundings. -/
theorem around_of_mixnet {s s' : Mixnet} {o : List Mixnet.Observed}
    (hdriver : s'.driver = s.driver) (ho : o.filterMap driver? = [])
    (hqueue : s.transport.toMixnet.queue <+: s'.transport.toMixnet.queue) :
    Runs step (ofMixnet s) (o.filterMap driver?) (ofMixnet s') := by
  rw [ho]
  have haround : step (ofMixnet s) (.surroundings s'.ports) =
      some ({ ofMixnet s with ports := s'.ports }, []) := if_pos hqueue
  have hsame : { ofMixnet s with ports := s'.ports } = ofMixnet s' := by
    simp only [ofMixnet, hdriver]
  rw [hsame] at haround
  exact .single haround

/-- The driver among the other tasks makes such a run. -/
theorem runs_of_mixnet {s : Mixnet} {t : List Mixnet.Observed}
    (h : Runs Mixnet.step (.initial policy hubAddresses gateways) t s) :
    Runs step (ofMixnet (.initial policy hubAddresses gateways)) (t.filterMap driver?)
      (ofMixnet s) := by
  refine Runs.simulate ofMixnet driver? ?_ h
  intro s e o s' hstep
  cases Mixnet.stepped_of_step hstep with
  | @driver e driver ports o' htick hdriver =>
    have hlast : step (ofMixnet s) (.driver e) = some (⟨driver, ports⟩, o') := by
      simp only [step, ofMixnet, hdriver, Option.map_some]
    rw [filterMap_driver]
    exact .single hlast
  | turn hturn =>
    exact around_of_mixnet rfl (filterMap_other _ fun _ => rfl) (prefix_turn hturn)
  | accept haccept =>
    rcases Transport.of_accept haccept with ⟨-, -, -, -, htoMixnet, -⟩
    refine around_of_mixnet rfl rfl ?_
    rw [htoMixnet]
  | supervisor hmoves =>
    exact around_of_mixnet rfl (filterMap_other _ fun _ => rfl) List.prefix_rfl
  | pass | abandon | closeRequests | store => exact around_of_mixnet rfl rfl List.prefix_rfl

end Mixnet

end Embedded
end Nym
end ZeroShim
