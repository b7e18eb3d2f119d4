import Mathlib.Algebra.BigOperators.Group.Multiset.Basic
import Mathlib.Tactic.Abel
import ZeroShim.Nym.Transport

/-!
# Where every request is

The transport's books: every request accepted is queued, pending, or has come to one
end, and its reply channel says which.

Main results:

- Theorem {lit}`located_total`: the accepted requests are those still located and those
  that ended.
-/

namespace ZeroShim
namespace Nym

open Library Wire

/-! ## Tallies of a trace -/

namespace Observed

/-- The requests an observation accepts. -/
@[simp] def acceptedTickets : Observed → Multiset Ticket
  | .accepted request => {request.ticket}
  | _ => 0

/-- The requests an observation answers. -/
@[simp] def answeredTickets : Observed → Multiset Ticket
  | .fired firing _ => {firing.ticket}
  | _ => 0

/-- The requests an observation sweeps. -/
@[simp] def sweptTickets : Observed → Multiset Ticket
  | .swept tickets => tickets
  | _ => 0

/-- The requests whose waiter another one displaces. -/
@[simp] def replacedTickets : Observed → Multiset Ticket
  | .replaced tickets => tickets
  | _ => 0

/-- The requests that go with the loop. -/
@[simp] def droppedTickets : Observed → Multiset Ticket
  | .dropped tickets => tickets
  | _ => 0

/-- The requests that come to an end. -/
@[simp] def endedTickets (o : Observed) : Multiset Ticket :=
  o.answeredTickets + o.sweptTickets + o.replacedTickets + o.droppedTickets

end Observed

/-- A tally over a trace. -/
def total (f : Observed → Multiset Ticket) (t : List Observed) : Multiset Ticket :=
  (t.map f).sum

section Total

variable (f : Observed → Multiset Ticket) (t t' : List Observed) (o : Observed)

@[simp] theorem total_nil : total f [] = 0 := rfl

@[simp] theorem total_cons : total f (o :: t) = f o + total f t := by simp [total]

@[simp] theorem total_append : total f (t ++ t') = total f t + total f t' := by simp [total]

theorem mem_total {e : Ticket} : e ∈ total f t ↔ ∃ o ∈ t, e ∈ f o := by
  induction t with
  | nil => simp
  | cons o t ih => simp [ih]

/-- A request ends in one of four ways. -/
theorem total_ended :
    total Observed.endedTickets t = total Observed.answeredTickets t +
      total Observed.sweptTickets t + total Observed.replacedTickets t +
      total Observed.droppedTickets t := by
  induction t with
  | nil => rfl
  | cons o t ih =>
    simp only [total_cons, ih, Observed.endedTickets]
    abel

theorem answered_le_ended :
    total Observed.answeredTickets t ≤ total Observed.endedTickets t := by
  rw [total_ended, add_assoc, add_assoc]
  exact Multiset.le_add_right _ _

theorem swept_le_ended : total Observed.sweptTickets t ≤ total Observed.endedTickets t := by
  rw [total_ended, add_comm (total Observed.answeredTickets t), add_assoc, add_assoc]
  exact Multiset.le_add_right _ _

end Total

namespace Transport

@[simp] theorem slots_zero : slots 0 = 0 := rfl

@[simp] theorem slots_add (x y : Multiset Ticket) : slots (x + y) = slots x + slots y :=
  Multiset.map_add _ _ _

/-- Fewer requests name fewer reply channels. -/
theorem slots_le {x y : Multiset Ticket} (h : x ≤ y) : slots x ≤ slots y :=
  Multiset.map_le_map h

theorem mem_slots {i : Nat} {x : Multiset Ticket} : i ∈ slots x ↔ ∃ e ∈ x, e.2.slot = i :=
  Multiset.mem_map

/-- The requests still queued or pending. -/
def located (s : Transport) : Multiset Ticket := s.queued + s.pending.entries

/-- The same within a turn, whose pending map is a local. -/
def held (s : Transport) (c : Correlator) : Multiset Ticket := s.queued + c.pending.entries

theorem located_of_some {s : Transport} {c : Correlator} (h : s.correlator = some c) :
    s.located = held s c := by
  simp [located, held, pending, h]

/-! ## Requests are conserved -/

/-- A loop that returned holds nothing. -/
theorem located_leave (s : Transport) (c : Correlator) : (leave s c).1.located = 0 := by
  simp [leave, located, queued, pending]

/-- Leaving drops all that is held. -/
theorem ended_leave (s : Transport) (c : Correlator) :
    total Observed.endedTickets (leave s c).2 = held s c := by
  simp [leave, held]

/-- Publishing keeps what is held, or ends it. -/
theorem located_publish (s : Transport) (c : Correlator) :
    (publish s c).1.located + total Observed.endedTickets (publish s c).2 = held s c := by
  unfold publish
  split_ifs
  · rw [located_leave, ended_leave, zero_add]
  · simp [located, held, queued, pending]

/-- A sweep moves what it removes to its ends. -/
theorem held_sweep (s : Transport) (c : Correlator) :
    held (sweep s c).1 (sweep s c).2.1 + total Observed.endedTickets (sweep s c).2.2 =
      held s c := by
  have hsplit := FiniteMap.entries_retain_add s.listening c.pending
  simp only [sweep, held, queued, total_cons, total_nil, Observed.endedTickets,
    Observed.answeredTickets, Observed.sweptTickets, Observed.replacedTickets,
    Observed.droppedTickets, zero_add, add_zero]
  rw [← hsplit]
  abel

/-- The end of a turn loses no request. -/
theorem located_endTurn (s : Transport) (c : Correlator) :
    (endTurn s c).1.located + total Observed.endedTickets (endTurn s c).2 = held s c := by
  rw [← held_sweep s c, ← located_publish]
  simp only [endTurn, total_append]
  abel

/-- An insertion displaces the entry under its nonce and no other. -/
theorem entries_overwritten (pending : Pending) (nonce : Nonce) :
    (pending.erase nonce).entries + overwritten pending nonce = pending.entries := by
  unfold overwritten
  cases h : pending.lookup nonce with
  | none => simp [FiniteMap.erase_of_lookup_eq_none h]
  | some waiter =>
    rw [FiniteMap.entries_of_lookup h, ← Multiset.singleton_add]
    exact add_comm _ _

/-- The arms that turn the loop conserve the requests held. -/
theorem held_of_turned {s s' : Transport} {c c' : Correlator} {o : List Observed}
    (h : Turned s c s' c' o) :
    held s' c' + total Observed.endedTickets o = held s c := by
  cases h with
  | reserve hpermit hreserve => simp [held, queued]
  | @receive request requests toMixnet hpermit hrecv hsend =>
    have hqueue := Channel.queue_of_recv hrecv
    have hover := entries_overwritten c.pending request.nonce
    simp only [held, queued, hqueue, List.map_cons, ← Multiset.cons_coe,
      FiniteMap.entries_insert, total_cons, total_nil, Observed.endedTickets,
      Observed.answeredTickets, Observed.sweptTickets, Observed.replacedTickets,
      Observed.droppedTickets, ← Multiset.singleton_add, zero_add, add_zero]
    rw [← hover]
    simp only [Request.ticket]
    abel
  | close hrecv => simp [held]
  | @deliver bytes fromMixnet firing hrecv hcarried hlookup =>
    simp only [held, queued, FiniteMap.entries_of_lookup hlookup, total_cons, total_nil,
      Observed.endedTickets, Observed.answeredTickets, Observed.sweptTickets,
      Observed.replacedTickets, Observed.droppedTickets, ← Multiset.singleton_add, add_zero,
      Firing.ticket]
    abel
  | ignore hrecv => simp [held, queued]
  | timer => simp

/-- A turn accepts nothing, and what it no longer holds has ended. -/
theorem located_turn {s s' : Transport} {a : Arm} {o : List Observed}
    (h : s.turn a = some (s', o)) :
    s'.located + total Observed.endedTickets o = s.located := by
  rcases turn_cases h with ⟨c, hc, ⟨-, rfl, rfl⟩ | ⟨s₁, c₁, o₁, harm, rfl, rfl⟩⟩
  · rw [located_leave, ended_leave, zero_add, located_of_some hc]
  · rw [located_of_some hc, ← held_of_turned (turned_of_arm harm), ← located_endTurn]
    simp only [total_append]
    abel

theorem accepted_leave (s : Transport) (c : Correlator) :
    total Observed.acceptedTickets (leave s c).2 = 0 := by
  simp [leave]

theorem accepted_publish (s : Transport) (c : Correlator) :
    total Observed.acceptedTickets (publish s c).2 = 0 := by
  unfold publish
  split_ifs
  · exact accepted_leave s c
  · rfl

theorem accepted_endTurn (s : Transport) (c : Correlator) :
    total Observed.acceptedTickets (endTurn s c).2 = 0 := by
  simp [endTurn, sweep, accepted_publish]

/-- No arm of the loop accepts a request. -/
theorem accepted_of_turned {s s' : Transport} {c c' : Correlator} {o : List Observed}
    (h : Turned s c s' c' o) : total Observed.acceptedTickets o = 0 := by
  cases h <;> simp

theorem accepted_turn {s s' : Transport} {a : Arm} {o : List Observed}
    (h : s.turn a = some (s', o)) : total Observed.acceptedTickets o = 0 := by
  rcases turn_cases h with ⟨c, hc, ⟨-, rfl, rfl⟩ | ⟨s₁, c₁, o₁, harm, rfl, rfl⟩⟩
  · exact accepted_leave s c
  · rw [total_append, accepted_of_turned (turned_of_arm harm), accepted_endTurn, add_zero]

/-- A step moves requests between the queue, the pending map and their ends, and loses
none. -/
theorem located_step {s s' : Transport} {e : Event} {o : List Observed}
    (h : s.step e = some (s', o)) :
    s'.located + total Observed.endedTickets o =
      s.located + total Observed.acceptedTickets o := by
  cases stepped_of_step h with
  | turn hturn => rw [located_turn hturn, accepted_turn hturn, add_zero]
  | accept haccept =>
    rcases of_accept haccept with ⟨-, hqueue, -, hcorrelator, -⟩
    simp only [located, queued, pending, hqueue, hcorrelator, List.map_append, List.map_cons,
      List.map_nil, ← Multiset.coe_add, total_cons, total_nil, Observed.endedTickets,
      Observed.answeredTickets, Observed.sweptTickets, Observed.replacedTickets,
      Observed.droppedTickets, Observed.acceptedTickets, Multiset.coe_singleton]
    abel
  | abandon slot => rfl
  | inbound hinbound =>
    rcases of_inbound hinbound with ⟨fromMixnet, -, rfl⟩
    rfl
  | quiet hquiet => simp [located, queued, pending, hquiet.queue, hquiet.correlator]

/-- The accepted requests are those still located and those that ended. -/
theorem located_total {s : Transport} {t : List Observed} (h : Runs step initial t s) :
    s.located + total Observed.endedTickets t = total Observed.acceptedTickets t := by
  refine h.invariant (P := fun t s => s.located + total Observed.endedTickets t =
    total Observed.acceptedTickets t) rfl ?_
  intro t s e o s' _ ih hstep
  have hlocated := located_step hstep
  simp only [total_append]
  calc s'.located + (total Observed.endedTickets t + total Observed.endedTickets o)
      = (s'.located + total Observed.endedTickets o) + total Observed.endedTickets t := by abel
    _ = (s.located + total Observed.endedTickets t) + total Observed.acceptedTickets o := by
        rw [hlocated]
        abel
    _ = total Observed.acceptedTickets t + total Observed.acceptedTickets o := by rw [ih]

end Transport

end Nym
end ZeroShim
