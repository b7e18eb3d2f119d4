import ZeroShim.Library.Holder
import ZeroShim.Library.Transition
import ZeroShim.Nym.Driver

/-!
# One client at a time

The driver among channels that do what they like: whatever is queued, sent, closed or full at
each of its steps, and whatever the SDK does.

Main results:

- Theorem {lit}`bound_of_stepped`: the loop's locals are those of the client held.
- Theorem {lit}`follow_of_stepped`: a step moves the client as its phase says.
- Theorem {lit}`clients_tended`: the clients that a driver ever connects.
-/

namespace ZeroShim
namespace Nym

open Library

namespace Driver

/-- A step over any channels. -/
def freeStep (d : Driver) (x : Ports × Event) : Option (Driver × List Observed) :=
  (d.step x.1 x.2).map fun out => (out.1, out.2.2)

/-- What an observation says of the client. -/
def Observed.move : Observed → Move Client
  | .published _ => .free
  | .requested _ => .free
  | .connected client => .take client
  | .failed => .free
  | .ticked _ => .check fun _ => true
  | .took _ => .check fun _ => true
  | .handed sender _ _ => .check fun client => sender = client.number
  | .settled _ .abandoned => .quiet
  | .settled _ _ => .check fun _ => true
  | .probed sender message _ =>
    .check fun client => sender = client.number ∧ message = probeMessage client.address
  | .received _ => .check fun _ => true
  | .gaveUp client => .release client
  | .reported _ => .quiet
  | .told _ (some client) => .check fun held => held = client
  | .told _ none => .free
  | .abandoned _ _ _ => .quiet
  | .disconnected client => .release client
  | .returned _ => .free

/-- The client went away. -/
def ends (client : Client) : Observed → Bool
  | .gaveUp c => client = c
  | .disconnected c => client = c
  | _ => false

/-- A client is built, or the driver is done. -/
def needsNone : Observed → Bool
  | .requested _ | .failed | .returned _ => true
  | _ => false

/-- A client is used. -/
def uses : Observed → Bool
  | .ticked _ | .took _ | .handed _ _ _ | .probed _ _ _ | .received _ => true
  | .settled _ .abandoned => false
  | .settled _ _ => true
  | _ => false

@[simp] def Observed.connected? : Observed → Option Client
  | .connected client => some client
  | _ => none

/-- The clients connected, in order. -/
def connectedOf (t : List Observed) : List Client := t.filterMap Observed.connected?

/-! ## The loop's locals -/

/-- A send goes through the client's sender, and a probe to the client's address. -/
def Through (client : Client) : InFlight → Prop
  | .frame sender _ => sender = client.number
  | .probe sender own => sender = client.number ∧ own = client.address

/-- The client whose send may be in flight: one that is to be rebuilt has lost its send. -/
def Phase.sends? : Phase → Option Client
  | .disconnecting _ false => none
  | phase => phase.client?

theorem client?_of_sends? {phase : Phase} {client : Client} (h : phase.sends? = some client) :
    phase.client? = some client := by
  unfold Phase.sends? at h
  split at h
  · cases h
  · exact h

/-- The locals of the loop are those of the client held, and so is what a send in flight took of
them. -/
structure Bound (d : Driver) : Prop where
  held : ∀ client, d.phase.client? = some client →
    d.sender = client.number ∧ d.own = client.address
  inFlight : ∀ inFlight, d.inFlight = some inFlight →
    ∃ client, d.phase.sends? = some client ∧ Through client inFlight

section Bound

variable {d d' : Driver}

/-- Without a client no send is in flight. -/
theorem Bound.idle (h : Bound d) (hnone : d.phase.sends? = none) : d.inFlight = none := by
  cases hinFlight : d.inFlight with
  | none => rfl
  | some inFlight =>
    rcases h.inFlight inFlight hinFlight with ⟨client, hclient, -⟩
    rw [hnone] at hclient
    cases hclient

/-- A driver that keeps its client and its locals keeps its send, or loses it. -/
theorem Bound.same (h : Bound d) (hclient : d'.phase.client? = d.phase.client?)
    (hsender : d'.sender = d.sender) (hown : d'.own = d.own)
    (hinFlight : d'.phase.sends? = d.phase.sends? ∧ d'.inFlight = d.inFlight ∨
      d'.inFlight = none) : Bound d' := by
  constructor
  · rw [hclient, hsender, hown]
    exact h.held
  · rcases hinFlight with ⟨hsends, hsame⟩ | hnone
    · rw [hsends, hsame]
      exact h.inFlight
    · rw [hnone]
      simp

/-- Without a client or a send there is nothing to keep to. -/
theorem bound_of_none (hclient : d.phase.client? = none) (hinFlight : d.inFlight = none) :
    Bound d :=
  ⟨by simp [hclient], by simp [hinFlight]⟩

/-- A probe takes the locals as they are. -/
theorem Bound.probe {client : Client} (h : Bound d) (hphase : d.phase = .serving client)
    (rounds : Nat) :
    Bound { d with silentRounds := rounds, inFlight := some (.probe d.sender d.own) } := by
  have hclient : d.phase.client? = some client := by rw [hphase]; rfl
  refine ⟨h.held, ?_⟩
  rintro inFlight ⟨⟩
  exact ⟨client, by simp [hphase, Phase.sends?, Phase.client?], h.held client hclient⟩

theorem sends?_forward (client : Client) (unixNow : Nat) (messages : List Bytes) :
    (d.forward client unixNow messages).phase.sends? = some client := by
  apply view_forward d client unixNow messages Phase.sends?
  exact fun _ _ => rfl

theorem Bound.forward {client : Client} (h : Bound d) (hclient : d.phase.client? = some client)
    (hsends : d.phase.sends? = some client) (unixNow : Nat) (messages : List Bytes) :
    Bound (d.forward client unixNow messages) := by
  have hheld := client?_forward d client unixNow messages
  have hsends' := sends?_forward (d := d) client unixNow messages
  rw [forward_eq] at hheld hsends' ⊢
  exact h.same (hheld.trans hclient.symm) rfl rfl (.inl ⟨hsends'.trans hsends.symm, rfl⟩)

theorem client?_of_isBuilding (h : d.phase.isBuilding = true) :
    d.phase.client? = none ∧ d.phase.sends? = none := by
  cases hphase : d.phase <;>
    simp [hphase, Phase.isBuilding, Phase.client?, Phase.sends?] at h ⊢

end Bound

/-- Every step keeps to the client held. -/
theorem bound_of_stepped {ports ports' : Ports} {d d' : Driver} {e : Event} {o : List Observed}
    (hbound : Bound d) (h : Stepped ports d e d' ports' o) : Bound d' := by
  cases h with
  | start hphase => exact bound_of_none rfl (hbound.idle (by rw [hphase]; rfl))
  | @tick client hphase hidle =>
    unfold Driver.tick
    split_ifs
    · exact hbound.same (by rw [hphase]; rfl) rfl rfl (.inr hidle)
    · exact hbound.probe hphase _
    · exact hbound.probe hphase _
  | rebuild hphase hrecv => exact hbound.same (by rw [hphase]; rfl) rfl rfl (.inr rfl)
  | disconnect hphase hrecv | stop hphase hended =>
    exact hbound.same (by rw [hphase]; rfl) rfl rfl (.inl ⟨by rw [hphase]; rfl, rfl⟩)
  | @takeFrame client out outFrames hphase hidle hrecv =>
    have hclient : d.phase.client? = some client := by rw [hphase]; rfl
    refine ⟨hbound.held, ?_⟩
    rintro inFlight ⟨⟩
    exact ⟨client, by simp [hphase, Phase.sends?, Phase.client?], (hbound.held client hclient).1⟩
  | @sent client accepted inFlight hphase hinFlight =>
    cases inFlight <;> exact hbound.same rfl rfl rfl (.inr rfl)
  | receive hphase | passOn hphase =>
    exact hbound.forward (by rw [hphase]; rfl) (by rw [hphase]; rfl) _ _
  | die hphase => exact bound_of_none rfl rfl
  | reportSilence hphase hreport =>
    rcases of_report hreport with ⟨rfl, -⟩
    exact hbound.same (by rw [hphase]; rfl) rfl rfl (.inl ⟨by rw [hphase]; rfl, rfl⟩)
  | report hphase hreport =>
    rcases of_report hreport with ⟨rfl, -⟩
    exact bound_of_none rfl (hbound.idle (by rw [hphase]; rfl))
  | rebuildAgain hphase hrecv | disconnected hphase =>
    exact bound_of_none rfl (hbound.idle (by rw [hphase]; rfl))
  | leaveTold | leave | disconnectedLast => exact bound_of_none rfl rfl
  | connect hbuilding =>
    refine ⟨?_, ?_⟩
    · rintro client ⟨⟩
      exact ⟨rfl, rfl⟩
    · intro inFlight hinFlight
      have hidle := hbound.idle (client?_of_isBuilding hbuilding).2
      rw [Driver.connect, hidle] at hinFlight
      cases hinFlight
  | fail hbuilding =>
    exact bound_of_none rfl (hbound.idle (client?_of_isBuilding hbuilding).2)

/-! ## A step -/

/-- What is shown of a send that is dropped says nothing of the client. -/
theorem follow_drop (d : Driver) (holder : Option Client) (rest : List Observed) :
    Move.follow holder ((d.drop ++ rest).map Observed.move) =
      Move.follow holder (rest.map Observed.move) := by
  unfold drop sending
  split <;> rfl

theorem follow_leave (d : Driver) (ports : Ports) :
    Move.follow none ((d.leave ports).2.2.map Observed.move) = some none := by
  unfold leave
  dsimp only
  rw [follow_drop]
  rfl

/-- The SDK is handed the frame through the client's sender. -/
theorem follow_handOver {hubAddresses : List Recipient} {client : Client} {out : OutFrame}
    {accepted : Bool} :
    Move.follow (some client) ((handOver hubAddresses client.number out accepted ++
      [Observed.settled out (sendFrame hubAddresses out accepted)]).map Observed.move) =
        some (some client) := by
  unfold handOver sendFrame
  cases hubAddresses[out.target]? with
  | none => rfl
  | some recipient => cases accepted <;> simp [Observed.move, Move.apply]

/-- A step moves the client as its phase says. -/
theorem follow_of_stepped {ports ports' : Ports} {d d' : Driver} {e : Event} {o : List Observed}
    (hbound : Bound d) (h : Stepped ports d e d' ports' o) :
    Move.follow d.phase.client? (o.map Observed.move) = some d'.phase.client? := by
  cases h with
  | start hphase =>
    rw [hphase]
    rfl
  | @tick client hphase hidle =>
    have hheld : (d.tick client ports.outFrames.queue.length).phase.client? = some client := by
      unfold tick
      split_ifs <;> simp [hphase, Phase.client?]
    rw [hheld, hphase]
    rfl
  | @rebuild client commands hphase hrecv =>
    have hdrop := follow_drop d (some client) []
    rw [List.append_nil] at hdrop
    rw [hphase]
    simp [Driver.rebuild, Observed.move, Move.apply, Phase.client?, hdrop]
  | @disconnect client commands hphase hrecv =>
    rw [hphase]
    simp [Driver.stop, Observed.move, Move.apply, Phase.client?]
  | @stop client e hphase hended =>
    rw [hphase]
    rfl
  | @takeFrame client out outFrames hphase hidle hrecv =>
    simp only [hphase]
    rfl
  | @sent client accepted inFlight hphase hinFlight =>
    rcases hbound.inFlight inFlight hinFlight with ⟨held, hheld, hthrough⟩
    rw [hphase] at hheld
    obtain rfl : client = held := Option.some.inj hheld
    cases inFlight with
    | frame sender out =>
      obtain rfl : sender = client.number := hthrough
      simp only [endSend, hphase]
      exact follow_handOver
    | probe sender own =>
      rcases hthrough with ⟨rfl, rfl⟩
      simp [endSend, hphase, Observed.move, Move.apply, Phase.client?]
  | @receive client messages unixNow hphase =>
    rw [client?_forward, hphase]
    rfl
  | @passOn client message rest unixNow inbound hphase hsend =>
    rw [client?_forward, hphase]
    rfl
  | @die client unixNow hphase =>
    have hdrop := follow_drop d none []
    rw [List.append_nil] at hdrop
    rw [hphase]
    simp [Driver.die, Observed.move, Move.apply, Phase.client?, hdrop]
  | reportSilence hphase hreport =>
    obtain ⟨rfl, ⟨events, -, -, -, rfl⟩ | ⟨-, -, rfl⟩⟩ := of_report hreport <;>
      simp [hphase, Phase.client?, Observed.move, Move.apply]
  | report hphase hreport =>
    obtain ⟨rfl, ⟨events, -, -, -, rfl⟩ | ⟨-, -, rfl⟩⟩ := of_report hreport <;>
      simp [hphase, Phase.client?, Observed.move, Move.apply]
  | rebuildAgain hphase hrecv =>
    rw [hphase]
    rfl
  | leaveTold hphase hrecv =>
    have hleave := follow_leave d ports
    rw [hphase]
    simpa [Observed.move, Move.apply, Phase.client?, leave] using hleave
  | leave hphase hrecv =>
    rw [hphase]
    exact follow_leave d ports
  | disconnectedLast hphase =>
    have hleave := follow_leave d ports
    rw [hphase]
    simpa [Observed.move, Move.apply, Phase.client?, leave] using hleave
  | disconnected hphase =>
    rw [hphase]
    simp [Observed.move, Move.apply, Phase.client?, request]
  | connect hbuilding =>
    rw [(client?_of_isBuilding hbuilding).1]
    rfl
  | fail hbuilding =>
    rw [(client?_of_isBuilding hbuilding).1]
    rfl

/-- A step connects the next client, or none. -/
theorem connected_of_linked {link link' : Link} {d d' : Driver} {e : Event} {o : List Observed}
    (h : Linked link d e d' link' o) :
    connectedOf o = [] ∧ d'.built = d.built ∨
      ∃ address, connectedOf o = [⟨d.built, address⟩] ∧ d'.built = d.built + 1 := by
  have quiet {o : List Observed} (hquiet : ∀ x ∈ o, x.linked = false) : connectedOf o = [] := by
    unfold connectedOf
    rw [List.filterMap_eq_nil_iff]
    intro x hx
    have hlinked := hquiet x hx
    cases x with
    | connected client => cases hlinked
    | published | requested | failed | ticked | took | handed | settled | probed | received
    | gaveUp | reported | told | abandoned | disconnected | returned => rfl
  cases h with
  | quiet hbuilt hkept hquiet => exact .inl ⟨quiet hquiet, hbuilt⟩
  | connect hbuilding hbuilt hclient => exact .inr ⟨_, rfl, hbuilt⟩
  | report hreceiver hsend hbuilt hkept => exact .inl ⟨rfl, hbuilt⟩
  | rebuild hrecv hbuilt hkept hquiet =>
    exact .inl ⟨(List.filterMap_cons_none rfl).trans (quiet hquiet), hbuilt⟩
  | disconnect hrecv hbuilt hkept hquiet => exact .inl ⟨quiet hquiet, hbuilt⟩
  | leave hreturned hbuilt hqueue hquiet => exact .inl ⟨quiet hquiet, hbuilt⟩

/-! ## Along a run -/

variable {hubAddresses : List Recipient} {gateways : List String} {d : Driver}
  {t pre post : List Observed} {x : Observed} {client : Client}

/-- The log and the number of clients built say where the driver is. -/
structure Tracked (t : List Observed) (d : Driver) : Prop where
  bound : Bound d
  holder : Move.follow none (t.map Observed.move) = some d.phase.client?
  numbers : (connectedOf t).map Client.number = List.range d.built

theorem tracked_of_runs (h : Runs freeStep (initial hubAddresses gateways) t d) :
    Tracked t d := by
  refine h.invariant (P := Tracked) ⟨bound_of_none rfl rfl, rfl, rfl⟩ ?_
  intro t d e o d' _ ih hstep
  rcases Option.map_eq_some_iff.mp hstep with ⟨⟨d₁, ports', o₁⟩, hdriver, heq⟩
  cases heq
  have hstepped := stepped_of_step hdriver
  refine ⟨bound_of_stepped ih.bound hstepped, ?_, ?_⟩
  · rw [List.map_append, Move.follow_append, ih.holder]
    exact follow_of_stepped ih.bound hstepped
  · have happend : connectedOf (t ++ o₁) = connectedOf t ++ connectedOf o₁ := List.filterMap_append
    rw [happend, List.map_append, ih.numbers]
    rcases connected_of_linked (linked_of_stepped hstepped) with ⟨hnone, hbuilt⟩ |
      ⟨address, hone, hbuilt⟩
    · rw [hnone, hbuilt]
      simp
    · rw [hone, hbuilt, List.range_succ]
      rfl

theorem releases_move (x : Observed) : Move.releases client x.move = ends client x := by
  cases x with
  | settled out fate => cases fate <;> rfl
  | told command held => cases held <;> rfl
  | published | requested | connected | failed | ticked | took | handed | probed | received
  | gaveUp | reported | abandoned | disconnected | returned => rfl

theorem takes_move (x : Observed) :
    Move.takes client x.move = true ↔ x = .connected client := by
  cases x with
  | connected c => simp [Observed.move, Move.takes, eq_comm]
  | settled out fate => cases fate <;> simp [Observed.move, Move.takes]
  | told command held => cases held <;> simp [Observed.move, Move.takes]
  | published | requested | failed | ticked | took | handed | probed | received | gaveUp
  | reported | abandoned | disconnected | returned => simp [Observed.move, Move.takes]

/-- A client that connected did so once. -/
theorem countP_takes (hnodup : (connectedOf t).Nodup) (hconnected : .connected client ∈ t) :
    (t.map Observed.move).countP (Move.takes client) = 1 := by
  have hmem : client ∈ connectedOf t := List.mem_filterMap.mpr ⟨_, hconnected, rfl⟩
  have hcount : (t.map Observed.move).countP (Move.takes client) =
      (connectedOf t).count client := by
    clear hnodup hconnected hmem
    induction t with
    | nil => rfl
    | cons x t ih =>
      rw [List.map_cons, List.countP_cons, ih]
      unfold connectedOf
      rw [List.filterMap_cons]
      by_cases hx : x = .connected client
      · subst hx
        simp [Observed.move, Move.takes]
      · have htakes : ¬ Move.takes client x.move = true := fun h => hx ((takes_move x).mp h)
        rw [if_neg htakes, Nat.add_zero]
        cases hc : x.connected? with
        | none => rfl
        | some c =>
          have hother : c ≠ client := by
            rintro rfl
            apply hx
            cases x <;> cases hc
            rfl
          simp [hother]
  rw [hcount]
  exact List.count_eq_one_of_mem hnodup hmem

/-- Where nothing is held, whoever connected is gone; otherwise all but the one held are. -/
theorem ends_of_follow {holder : Option Client} (hnodup : (connectedOf t).Nodup)
    (h : Move.follow none (t.map Observed.move) = some holder)
    (hconnected : .connected client ∈ t) :
    t.countP (ends client) + (if holder = some client then 1 else 0) = 1 := by
  have htakes := Move.takes_eq h client
  rw [countP_takes hnodup hconnected, List.countP_map] at htakes
  have hsame : (Move.releases client ∘ Observed.move) = ends client :=
    funext fun x => releases_move x
  rw [hsame, if_neg (by simp), Nat.zero_add] at htakes
  exact htakes.symm

/-- The one held connected. -/
theorem connected_of_follow (h : Move.follow none (t.map Observed.move) = some (some client)) :
    .connected client ∈ t := by
  have htakes := Move.takes_eq h client
  rw [if_neg (by simp), if_pos rfl] at htakes
  have hpos : 0 < (t.map Observed.move).countP (Move.takes client) := by omega
  rcases List.countP_pos_iff.mp hpos with ⟨move, hmem, hmove⟩
  rcases List.mem_map.mp hmem with ⟨x, hx, rfl⟩
  exact (takes_move x).mp hmove ▸ hx

/-- The clients that a driver ever connects. -/
structure Tended (t : List Observed) (d : Driver) : Prop where
  /-- They are numbered as they connect. -/
  numbers : (connectedOf t).map Client.number = List.range d.built
  /-- Each was disconnected or gave up, once, or it is held. -/
  ended : ∀ client, .connected client ∈ t →
    t.countP (ends client) + (if d.phase.client? = some client then 1 else 0) = 1
  /-- No build begins or fails, and the driver does not return, before the last one ended. -/
  alone : ∀ pre x post, t = pre ++ x :: post → needsNone x = true →
    ∀ client, .connected client ∈ pre → pre.countP (ends client) = 1
  /-- What is taken, sent or received is so while one client has not ended.  Frames and probes go
  through its sender, and a probe goes to itself. -/
  used : ∀ pre x post, t = pre ++ x :: post → uses x = true →
    ∃ client, .connected client ∈ pre ∧ pre.countP (ends client) = 0 ∧
      (∀ other, .connected other ∈ pre → other ≠ client → pre.countP (ends other) = 1) ∧
      (∀ sender message accepted, x = .handed sender message accepted →
        sender = client.number) ∧
      ∀ sender message accepted, x = .probed sender message accepted →
        sender = client.number ∧ message = probeMessage client.address

/-- One client at a time, and none is leaked or used after its end: whatever the channels of
the driver hold at each of its steps and however the SDK answers. -/
theorem clients_tended (h : Runs freeStep (initial hubAddresses gateways) t d) : Tended t d := by
  rcases tracked_of_runs h with ⟨-, hholder, hnumbers⟩
  have hnodup : (connectedOf t).Nodup := by
    apply List.Nodup.of_map Client.number
    rw [hnumbers]
    exact List.nodup_range
  have before {pre x post} (hsplit : t = pre ++ x :: post) : (connectedOf pre).Nodup := by
    have happend : connectedOf t = connectedOf pre ++ connectedOf (x :: post) := by
      rw [hsplit]
      exact List.filterMap_append
    rw [happend] at hnodup
    exact hnodup.of_append_left
  refine ⟨hnumbers, fun client hconnected => ends_of_follow hnodup hholder hconnected, ?_, ?_⟩
  · intro pre x post hsplit hx client hconnected
    have hfree : x.move = .free := by
      cases x with
      | requested | failed | returned => rfl
      | published | connected | ticked | took | handed | settled | probed | received | gaveUp
      | reported | told | abandoned | disconnected => cases hx
    rw [hsplit, List.map_append, List.map_cons, hfree] at hholder
    have hnone := Move.free_at hholder
    simpa using ends_of_follow (before hsplit) hnone hconnected
  · intro pre x post hsplit hx
    have hcheck : ∃ p, x.move = .check p ∧ ∀ client, p client = true →
        (∀ sender message accepted, x = .handed sender message accepted →
          sender = client.number) ∧
        ∀ sender message accepted, x = .probed sender message accepted →
          sender = client.number ∧ message = probeMessage client.address := by
      cases x with
      | handed sender message accepted =>
        refine ⟨_, rfl, fun client hclient => ⟨?_, by simp⟩⟩
        rintro _ _ _ ⟨⟩
        simpa using hclient
      | probed sender message accepted =>
        refine ⟨_, rfl, fun client hclient => ⟨by simp, ?_⟩⟩
        rintro _ _ _ ⟨⟩
        simpa using hclient
      | settled out fate =>
        cases fate with
        | abandoned => cases hx
        | passed | refused | unaddressed => exact ⟨_, rfl, fun _ _ => ⟨by simp, by simp⟩⟩
      | ticked | took | received => exact ⟨_, rfl, fun _ _ => ⟨by simp, by simp⟩⟩
      | published | requested | connected | failed | gaveUp | reported | told | abandoned
      | disconnected | returned => cases hx
    rcases hcheck with ⟨p, hmove, hsent⟩
    rw [hsplit, List.map_append, List.map_cons, hmove] at hholder
    rcases Move.holder_at hholder with ⟨client, hheld, hpasses⟩
    have hconnected := connected_of_follow hheld
    refine ⟨client, hconnected, ?_, ?_, hsent client hpasses⟩
    · simpa using ends_of_follow (before hsplit) hheld hconnected
    · intro other hother hne
      have hcount := ends_of_follow (before hsplit) hheld hother
      rwa [if_neg (by simpa using hne.symm)] at hcount

/-- The first client gives up with a probe in flight, and the second one, before it is told to
stop, sends a frame and a probe to its own address. -/
theorem clients_tended_second :
    ∃ t d, Runs freeStep (initial ["hub"] []) t d ∧
      connectedOf t = [⟨0, "old"⟩, ⟨1, "new"⟩] ∧ d.phase = .returned ∧
      .handed 1 ⟨"hub", [7], 10⟩ true ∈ t ∧ .probed 1 ⟨"new", [], 0⟩ true ∈ t ∧
      Tended t d := by
  have hrun := Runs.of_execute (show execute freeStep (initial ["hub"] [])
    [(⟨.empty, .empty, .empty⟩, .start 0), (⟨.empty, .empty, .empty⟩, .built (some "old")),
      (⟨.empty, .empty, .empty⟩, .tick), (⟨.empty, .empty, .empty⟩, .arrive none 0),
      (⟨.empty, .empty, .empty⟩, .reported),
      (⟨.empty, .empty, ⟨.empty, ⟨[.rebuild], 0, true, true, by decide⟩⟩⟩, .command),
      (⟨.empty, .empty, .empty⟩, .built (some "new")),
      (⟨⟨[⟨[7], 10, 0⟩], 0, true, true, by decide⟩, .empty, .empty⟩, .takeFrame),
      (⟨.empty, .empty, .empty⟩, .sent true), (⟨.empty, .empty, .empty⟩, .tick),
      (⟨.empty, .empty, .empty⟩, .sent true),
      (⟨.empty, .empty, ⟨.empty, ⟨[.disconnect], 0, true, true, by decide⟩⟩⟩, .command),
      (⟨.empty, .empty, .empty⟩, .disconnected)] = some (_, _) from rfl)
  exact ⟨_, _, hrun, rfl, rfl, List.mem_of_getElem? (i := 11) rfl,
    List.mem_of_getElem? (i := 14) rfl, clients_tended hrun⟩

end Driver
end Nym
end ZeroShim
