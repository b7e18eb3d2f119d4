import ZeroShim.Nym.Mixnet
import ZeroShim.Nym.Rotation

/-!
# The tasks never block each other

The supervisor and the driver each wait for room in a channel that the other empties, and
the driver waits for the correlator too.  Every death reported asks for one rebuild, and
every rebuild that fails or dies is reported once, so the messages of the link are counted
together with those that the tasks still owe it.  Only a rotation and a silent client add to
them, and neither comes while the channels are being emptied.

Main results:

- Theorems {lit}`Supervisor.account_of_stepped` and {lit}`Driver.load_of_stepped`: a step
  adds to the messages only what was due.
- Theorem {lit}`never_deadlocked`: no two tasks block each other.
-/

namespace ZeroShim
namespace Nym

open Library

/-! ## Blocked tasks -/

/-- The supervisor awaits the {lit}`send` of a command. -/
def Supervisor.Phase.isSending : Supervisor.Phase → Bool
  | .asking _ => true
  | .disconnecting => true
  | _ => false

/-- The driver awaits the {lit}`send` of an event. -/
def Driver.Phase.isReporting : Driver.Phase → Bool
  | .reportingSilence _ => true
  | .reporting _ _ => true
  | _ => false

/-- The driver awaits the {lit}`send` of an inbound message. -/
def Driver.Phase.isDelivering : Driver.Phase → Bool
  | .delivering _ _ _ => true
  | _ => false

namespace Mixnet

/-- The supervisor is blocked sending on a full command channel. -/
def supervisorBlocked (s : Mixnet) : Bool :=
  s.supervisor.phase.isSending && (s.step (.supervisor .sent)).isNone

/-- The driver is blocked sending on a full event channel. -/
def driverBlocked (s : Mixnet) : Bool :=
  s.driver.phase.isReporting && (s.step (.driver .reported)).isNone

/-- The driver is blocked sending on a full inbound channel. -/
def inboundBlocked (s : Mixnet) (unixNow : Nat) : Bool :=
  s.driver.phase.isDelivering && (s.step (.driver (.delivered unixNow))).isNone

/-- The correlator can take the next inbound message. -/
def correlatorReady (s : Mixnet) : Bool := (s.step (.turn .message)).isSome

/-! ## Time -/

/-- A task takes what waits in a channel for it, or passes on what there is room for. -/
def handovers : List Event :=
  [.supervisor .hear, .driver .command, .driver (.delivered 0), .turn .message]

/-- Nothing is handed over before time passes. -/
def settled (s : Mixnet) : Bool := handovers.all fun e => (s.step e).isNone

/-- Time passes only once nothing can be handed over. -/
def Prompt (s : Mixnet) : Event → Prop
  | .pass _ => s.settled = true
  | _ => True

instance (s : Mixnet) (e : Event) : Decidable (s.Prompt e) := by
  cases e <;> unfold Prompt <;> infer_instance

end Mixnet

/-! ## The messages owed -/

namespace Supervisor

/-- The commands that the supervisor is about to send. -/
def owed : Phase → Nat
  | .asking _ => 1
  | _ => 0

theorem owed_le (phase : Phase) : owed phase ≤ 1 := by
  unfold owed
  split <;> omega

/-- A rotation may come due at once. -/
def waking (s : Supervisor) (now : Nat) : Nat :=
  match s.phase with
  | .watching (some wake) => if wake ≤ now then 1 else 0
  | _ => 0

theorem waking_le (s : Supervisor) (now : Nat) : s.waking now ≤ 1 := by
  unfold waking
  split
  · split_ifs <;> omega
  · omega

/-- After a wait for a rotation, the next wake is still to come. -/
theorem waking_watch {s : Supervisor} {now : Nat}
    (h : ∀ wake, s.wakeAt now = some wake → now < wake) : (s.watch now).waking now = 0 := by
  unfold waking watch
  cases hwake : s.wakeAt now with
  | none => rfl
  | some wake =>
    have hlt := h wake hwake
    simp only
    split_ifs
    · omega
    · rfl

theorem waking_restart {s : Supervisor} {now : Nat} (hbackoff : 0 < s.policy.rebuildBackoff) :
    (s.restart now).waking now = 0 := by
  apply waking_watch
  intro wake hwake
  cases hperiod : s.policy.period with
  | none => simp [wakeAt, nextRotation, hperiod] at hwake
  | some period =>
    have hnext : now + max period s.policy.rebuildBackoff = wake := by
      simpa [wakeAt, nextRotation, hperiod] using hwake
    have hmax : s.policy.rebuildBackoff ≤ max period s.policy.rebuildBackoff :=
      Nat.le_max_right _ _
    omega

theorem waking_start {policy : RotationPolicy} {now : Nat} (hbackoff : 0 < policy.rebuildBackoff) :
    (start policy now).waking now = 0 :=
  waking_restart (s := ⟨policy, none, none, false, .returned⟩) hbackoff

/-- A rotation that came due is waited for, or asked for. -/
theorem account_rotate (s : Supervisor) (now inflight : Nat) :
    owed (s.rotate now inflight).1.phase + (s.rotate now inflight).1.waking now ≤ 1 := by
  unfold rotate
  split_ifs with hwait
  · have hlater : ({ s with deferDeadline := some (s.deadline now) }.watch now).waking now = 0 := by
      apply waking_watch
      intro wake hwake
      have hrecheck : now + deferRecheck = wake := by simpa [wakeAt] using hwake
      have hpos : 0 < deferRecheck := by decide
      omega
    rw [hlater]
    exact Nat.zero_le _
  · exact le_rfl

/-- The messages of the link, those about to be sent, and a rotation that may come due. -/
def account (s : Supervisor) (link : Link) (now : Nat) : Nat :=
  link.events.queue.length + link.commands.queue.length + owed s.phase + s.waking now

/-- The supervisor never comes back. -/
theorem returned_of_stepped {now inflight : Nat} {link link' : Link} {s s' : Supervisor}
    {o : List Observed} (h : Stepped now inflight link s s' link' o)
    (hreturned : s.phase = .returned) : s'.phase = .returned := by
  cases h with
  | signal => exact hreturned
  | shutdown hrunning | returned hrunning => exact absurd hreturned hrunning
  | stopped => rfl
  | hear hphase | rotate hphase | asked hphase | rested hphase =>
    rw [hreturned] at hphase
    cases hphase

/-- A step of the supervisor adds no message that was not due. -/
theorem account_of_stepped {now inflight : Nat} {link link' : Link} {s s' : Supervisor}
    {o : List Observed} (h : Stepped now inflight link s s' link' o)
    (hbackoff : 0 < s.policy.rebuildBackoff) :
    s'.phase = .returned ∨ s'.account link' now ≤ s.account link now := by
  cases h with
  | signal => exact .inr le_rfl
  | shutdown hrunning hshutdown =>
    refine .inr ?_
    simp only [account, owed, waking]
    omega
  | hear hphase hrecv =>
    have hqueue := congrArg List.length (Channel.queue_of_recv hrecv)
    refine .inr ?_
    simp only [account, owed, waking, hphase]
    simp only [List.length_cons] at hqueue
    omega
  | rotate hphase hwake =>
    have hdue : s.waking now = 1 := by simp [waking, hphase, hwake]
    have hrotate := account_rotate s now inflight
    refine .inr ?_
    simp only [account, hdue]
    omega
  | @asked cause commands hphase hreceiver hsend =>
    have hqueue := congrArg List.length (Channel.queue_of_send hsend)
    simp only [List.length_append, List.length_singleton] at hqueue
    have howed : owed s.phase = 1 := by rw [hphase]; rfl
    refine .inr ?_
    cases cause with
    | death =>
      have hwaking : (s.afterAsking now .death).waking now = 0 := rfl
      have howed' : owed (s.afterAsking now .death).phase = 0 := rfl
      simp only [account]
      omega
    | rotation =>
      have hwaking : (s.afterAsking now .rotation).waking now = 0 := waking_restart hbackoff
      have howed' : owed (s.afterAsking now .rotation).phase = 0 := rfl
      simp only [account]
      omega
  | rested hphase htill =>
    have hwaking : (s.restart now).waking now = 0 := waking_restart hbackoff
    have howed : owed (s.restart now).phase = 0 := rfl
    refine .inr ?_
    simp only [account]
    omega
  | stopped => exact .inl rfl
  | returned => exact .inl rfl

end Supervisor

namespace Driver

/-- The deaths that the driver is about to report, or may yet without being told anything. -/
def owed : Phase → Nat
  | .reportingSilence _ => 2
  | .disconnecting _ true => 0
  | .waiting _ => 0
  | .returned => 0
  | _ => 1

/-- The driver is in its {lit}`select!`, or passing messages on in it. -/
def attends : Phase → Bool
  | .serving _ => true
  | .delivering _ _ _ => true
  | _ => false

/-- The next tick may find a silent round. -/
def Armed (d : Driver) : Prop :=
  attends d.phase = true ∧ (d.inboundAtProbe ≠ none ∨ d.probing = true)

instance (d : Driver) : Decidable d.Armed := inferInstanceAs (Decidable (_ ∧ _))

/-- The messages of the link, and the deaths that the driver owes. -/
def load (d : Driver) (link : Link) : Nat :=
  link.events.queue.length + link.commands.queue.length + owed d.phase

/-- A send may be in flight. -/
def holdsSend : Phase → Bool
  | .disconnecting _ true => true
  | phase => attends phase

/-- Outside the {lit}`select!` nothing is in flight, and a silent client is reported without a
mark. -/
structure Rested (d : Driver) : Prop where
  inFlight : holdsSend d.phase = false → d.inFlight = none
  unmarked : ∀ client, d.phase = .reportingSilence client → d.inboundAtProbe = none

section Forward

variable (d : Driver) (client : Client) (unixNow : Nat) (messages : List Bytes)

theorem attends_forward : attends (d.forward client unixNow messages).phase = true := by
  apply view_forward d client unixNow messages attends
  exact fun _ _ => rfl

theorem owed_forward : owed (d.forward client unixNow messages).phase = 1 := by
  apply view_forward d client unixNow messages owed
  exact fun _ _ => rfl

/-- Passing messages on does not arm the probe. -/
theorem armed_forward (h : (d.forward client unixNow messages).Armed) :
    d.inboundAtProbe ≠ none ∨ d.probing = true := by
  have harmed := h.2
  rw [forward_eq] at harmed
  exact harmed

end Forward

theorem rested_of_phase {d : Driver} (hinFlight : holdsSend d.phase = false → d.inFlight = none)
    (hphase : ∀ client, d.phase ≠ .reportingSilence client) : Rested d :=
  ⟨hinFlight, fun client hreporting => absurd hreporting (hphase client)⟩

/-- In the {lit}`select!` a send may be in flight. -/
theorem rested_of_attends {d : Driver} (h : attends d.phase = true) : Rested d := by
  apply rested_of_phase
  · intro hheld
    unfold holdsSend at hheld
    split at hheld
    · cases hheld
    · rw [h] at hheld
      cases hheld
  · intro client hphase
    rw [hphase] at h
    cases h

theorem inFlight_of_isBuilding {d : Driver} (hrested : Rested d) (h : d.phase.isBuilding = true) :
    d.inFlight = none := by
  apply hrested.inFlight
  unfold Phase.isBuilding at h
  split at h
  · next hphase => rw [hphase]; rfl
  · next hphase => rw [hphase]; rfl
  · next hphase => rw [hphase]; rfl
  · cases h

theorem rested_of_stepped {ports ports' : Ports} {d d' : Driver} {e : Event} {o : List Observed}
    (h : Stepped ports d e d' ports' o) (hrested : Rested d) : Rested d' := by
  cases h with
  | @tick client hphase hidle =>
    have hattends : attends d.phase = true := by rw [hphase]; rfl
    unfold tick
    split_ifs
    · exact ⟨fun _ => hidle, fun _ _ => rfl⟩
    · exact rested_of_attends hattends
    · exact rested_of_attends hattends
  | takeFrame hphase hidle hrecv =>
    apply rested_of_attends
    change attends d.phase = true
    rw [hphase]
    rfl
  | @sent client accepted inFlight hphase hinFlight =>
    have hattends : attends d.phase = true := by rw [hphase]; rfl
    cases inFlight <;> exact rested_of_attends hattends
  | receive | passOn => exact rested_of_attends (attends_forward _ _ _ _)
  | reportSilence hphase hreport =>
    rcases of_report hreport with ⟨rfl, -⟩
    exact rested_of_attends rfl
  | connect => exact rested_of_attends rfl
  | report hphase hreport =>
    rcases of_report hreport with ⟨rfl, -⟩
    have hidle : d.inFlight = none := hrested.inFlight (by rw [hphase]; rfl)
    exact rested_of_phase (fun _ => hidle) (by simp)
  | start hphase | rebuildAgain hphase | disconnected hphase =>
    have hidle : d.inFlight = none := hrested.inFlight (by rw [hphase]; rfl)
    exact rested_of_phase (fun _ => hidle) (by simp [request])
  | fail hbuilding =>
    have hidle := inFlight_of_isBuilding hrested hbuilding
    exact rested_of_phase (fun _ => hidle) (by simp [Driver.fail])
  | disconnect | stop =>
    apply rested_of_phase
    · intro hheld
      cases hheld
    · simp [Driver.stop]
  | rebuild | die | leaveTold | leave | disconnectedLast =>
    apply rested_of_phase
    · intro _
      rfl
    · simp [Driver.rebuild, Driver.die, Driver.leave]

/-- Only a tick arms the probe. -/
theorem armed_of_stepped {ports ports' : Ports} {d d' : Driver} {e : Event} {o : List Observed}
    (h : Stepped ports d e d' ports' o) (hrested : Rested d) (htick : e ≠ .tick)
    (harmed : d'.Armed) : d.Armed ∧ d'.built = d.built := by
  have hattends := harmed.1
  cases h with
  | tick => exact absurd rfl htick
  | takeFrame hphase hidle hrecv =>
    refine ⟨⟨hattends, ?_⟩, rfl⟩
    rcases harmed.2 with hmark | hprobe
    · exact .inl hmark
    · cases hprobe
  | @sent client accepted inFlight hphase hinFlight =>
    cases inFlight with
    | frame sender out =>
      refine ⟨⟨hattends, ?_⟩, rfl⟩
      rcases harmed.2 with hmark | hprobe
      · exact .inl hmark
      · cases hprobe
    | probe sender own =>
      have hprobing : d.probing = true := by simp [probing, hinFlight]
      exact ⟨⟨by rw [hphase]; rfl, .inr hprobing⟩, rfl⟩
  | receive hphase =>
    exact ⟨⟨by rw [hphase]; rfl, armed_forward _ _ _ _ harmed⟩, built_forward _ _ _ _⟩
  | passOn hphase hsend =>
    exact ⟨⟨by rw [hphase]; rfl, armed_forward _ _ _ _ harmed⟩, built_forward _ _ _ _⟩
  | @reportSilence client d' ports' o hphase hreport =>
    rcases of_report hreport with ⟨rfl, -⟩
    have hunmarked := hrested.unmarked client hphase
    have hidle := hrested.inFlight (by rw [hphase]; rfl)
    rcases harmed.2 with hmark | hprobe
    · exact absurd hunmarked hmark
    · simp [probing, hidle] at hprobe
  | report hphase hreport =>
    rcases of_report hreport with ⟨rfl, -⟩
    cases hattends
  | connect hbuilding =>
    have hidle := inFlight_of_isBuilding hrested hbuilding
    rcases harmed.2 with hmark | hprobe
    · exact absurd rfl hmark
    · simp [Driver.connect, probing, hidle] at hprobe
  | start | rebuild | disconnect | stop | die | rebuildAgain | leaveTold | leave
  | disconnectedLast | disconnected | fail => cases hattends

theorem owed_of_isBuilding {phase : Phase} (h : phase.isBuilding = true) : owed phase = 1 := by
  unfold Phase.isBuilding at h
  split at h
  · rfl
  · rfl
  · rfl
  · cases h

theorem owed_le (phase : Phase) : owed phase ≤ 2 := by
  unfold owed
  split <;> omega

theorem owed_of_attends {phase : Phase} (h : attends phase = true) : owed phase = 1 := by
  unfold attends at h
  split at h
  · rfl
  · rfl
  · cases h

/-- A step that leaves the link alone. -/
theorem load_le {d d' : Driver} {link : Link} (n : Nat) (h : owed d'.phase ≤ owed d.phase) :
    d'.load link ≤ d.load link + n := by
  unfold load
  omega

/-- A command that is taken makes up for what the driver owes then. -/
theorem load_of_command {d d' : Driver} {link : Link} {command : ClientCommand}
    {commands : Channel ClientCommand 8} (n : Nat)
    (hrecv : link.commands.recv = .item command commands)
    (h : owed d'.phase ≤ owed d.phase + 1) :
    d'.load { link with commands := commands } ≤ d.load link + n := by
  have hqueue := congrArg List.length (Channel.queue_of_recv hrecv)
  simp only [List.length_cons] at hqueue
  simp only [load]
  omega

/-- What is reported was owed. -/
theorem load_of_report {ports ports' : Ports} {d d' : Driver} {client : Option Client}
    {phase : Phase} {o : List Observed} (n : Nat)
    (h : report ports d client phase = some (d', ports', o)) (howed : owed phase < owed d.phase) :
    d'.load ports'.link ≤ d.load ports.link + n := by
  rcases of_report h with ⟨rfl, ⟨events, -, hsend, rfl, -⟩ | ⟨-, rfl, -⟩⟩
  · have hqueue := congrArg List.length (Channel.queue_of_send hsend)
    simp only [List.length_append, List.length_singleton] at hqueue
    simp only [load]
    omega
  · exact load_le n (Nat.le_of_lt howed)

theorem load_leave (d : Driver) {ports ports' : Ports} (n : Nat)
    (hevents : ports'.link.events = ports.link.events) :
    (d.leave ports).1.load (d.leave ports').2.1.link ≤ d.load ports.link + n := by
  simp only [load, Driver.leave, hevents, Channel.queue_dropSenders, Channel.queue_dropReceiver,
    List.length_nil, owed]
  omega

/-- A tick is the end of a client that was not delivered to, where it was armed. -/
theorem owed_tick {d : Driver} {client : Client} (hphase : d.phase = .serving client)
    (queued : Nat) :
    owed (d.tick client queued).phase ≤ owed d.phase + if d.Armed then 1 else 0 := by
  have howed : owed d.phase = 1 := by rw [hphase]; rfl
  unfold tick
  by_cases hsilent : d.inboundAtProbe = some d.status.inboundTotal ∧ queued = 0
  · have harmed : d.Armed := ⟨by rw [hphase]; rfl, .inl (by simp [hsilent.1])⟩
    rw [if_pos hsilent, if_pos harmed, howed]
    split_ifs
    · exact le_rfl
    · exact howed.le.trans (Nat.le_succ 1)
  · rw [if_neg hsilent]
    exact Nat.le_add_right _ _

/-- A step of the driver adds no message that it did not owe, but for a silent client's. -/
theorem load_of_stepped {ports ports' : Ports} {d d' : Driver} {e : Event} {o : List Observed}
    (h : Stepped ports d e d' ports' o) :
    d'.load ports'.link ≤ d.load ports.link + if e = .tick ∧ d.Armed then 1 else 0 := by
  cases h with
  | start hphase | disconnected hphase =>
    have howed : owed d.phase = 1 := by rw [hphase]; rfl
    exact load_le _ howed.ge
  | @tick client hphase hidle =>
    have howed := owed_tick hphase ports.outFrames.queue.length
    simp only [load, true_and]
    omega
  | rebuild hphase hrecv =>
    have howed : owed d.phase = 1 := by rw [hphase]; rfl
    exact load_of_command _ hrecv (howed.ge.trans (Nat.le_succ _))
  | disconnect hphase hrecv => exact load_of_command _ hrecv (Nat.zero_le _)
  | rebuildAgain hphase hrecv =>
    exact load_of_command _ hrecv (Nat.le_add_left 1 _)
  | receive hphase | passOn hphase hsend =>
    have howed : owed d.phase = 1 := by rw [hphase]; rfl
    exact load_le _ (by rw [owed_forward, howed])
  | reportSilence hphase hreport =>
    have howed : owed d.phase = 2 := by rw [hphase]; rfl
    exact load_of_report _ hreport (howed.symm ▸ Nat.lt_succ_self 1)
  | report hphase hreport =>
    have howed : owed d.phase = 1 := by rw [hphase]; rfl
    exact load_of_report _ hreport (howed.symm ▸ Nat.zero_lt_one)
  | @sent client accepted inFlight hphase hinFlight => cases inFlight <;> exact load_le _ le_rfl
  | takeFrame hphase hidle hrecv => exact load_le _ le_rfl
  | stop hphase hended => exact load_le _ (Nat.zero_le _)
  | die hphase =>
    have howed : owed d.phase = 1 := by rw [hphase]; rfl
    exact load_le _ howed.ge
  | leaveTold | leave | disconnectedLast => exact load_leave d _ rfl
  | connect hbuilding | fail hbuilding => exact load_le _ (owed_of_isBuilding hbuilding).ge

end Driver

/-! ## The channels between them -/

/-- No room is reserved in the channels of the link. -/
def Link.Unreserved (link : Link) : Prop :=
  link.events.reserved = 0 ∧ link.commands.reserved = 0

theorem Supervisor.unreserved_of_stepped {now inflight : Nat} {link link' : Link}
    {s s' : Supervisor} {o : List Supervisor.Observed} (h : Stepped now inflight link s s' link' o)
    (hunreserved : link.Unreserved) : link'.Unreserved := by
  cases h with
  | hear hphase hrecv =>
    exact ⟨(Channel.of_recv hrecv).2.1.trans hunreserved.1, hunreserved.2⟩
  | asked hphase hreceiver hsend =>
    exact ⟨hunreserved.1, (Channel.of_send hsend).2.1.trans hunreserved.2⟩
  | stopped hphase hreceiver hsend =>
    exact ⟨hunreserved.1, (Channel.of_send hsend).2.1.trans hunreserved.2⟩
  | signal | shutdown | rotate | rested | returned => exact hunreserved

theorem Driver.unreserved_of_stepped {ports ports' : Ports} {d d' : Driver} {e : Event}
    {o : List Observed} (h : Stepped ports d e d' ports' o)
    (hunreserved : ports.link.Unreserved) : ports'.link.Unreserved := by
  cases h with
  | rebuild hphase hrecv | disconnect hphase hrecv | rebuildAgain hphase hrecv
  | leaveTold hphase hrecv =>
    exact ⟨hunreserved.1, (Channel.of_recv hrecv).2.1.trans hunreserved.2⟩
  | reportSilence hphase hreport | report hphase hreport =>
    rcases of_report hreport with ⟨-, ⟨events, -, hsend, rfl, -⟩ | ⟨-, rfl, -⟩⟩
    · exact ⟨(Channel.of_send hsend).2.1.trans hunreserved.1, hunreserved.2⟩
    · exact hunreserved
  | start | tick | stop | takeFrame | sent | receive | passOn | die | leave | disconnectedLast
  | disconnected | connect | fail => exact hunreserved

/-- The driver sends on the inbound channel, and leaves its other end alone. -/
theorem Driver.inbound_of_stepped {ports ports' : Ports} {d d' : Driver} {e : Event}
    {o : List Observed} (h : Stepped ports d e d' ports' o) :
    ports'.inbound.reserved = ports.inbound.reserved ∧
      ports'.inbound.receiver = ports.inbound.receiver := by
  cases h with
  | passOn hphase hsend =>
    rcases hsend with ⟨-, hsend⟩ | ⟨-, rfl⟩
    · exact ⟨(Channel.of_send hsend).2.1, (Channel.of_send hsend).2.2.2⟩
    · exact ⟨rfl, rfl⟩
  | reportSilence hphase hreport | report hphase hreport =>
    obtain ⟨-, ⟨events, -, hsend, rfl, -⟩ | ⟨-, rfl, -⟩⟩ := of_report hreport <;>
      exact ⟨rfl, rfl⟩
  | start | tick | rebuild | disconnect | stop | takeFrame | sent | receive | die | rebuildAgain
  | leaveTold | leave | disconnectedLast | disconnected | connect | fail => exact ⟨rfl, rfl⟩

namespace Transport

/-- No room is reserved for inbound messages, and as long as they can be received the loop
runs. -/
structure Wired (s : Transport) : Prop where
  reserved : s.fromMixnet.reserved = 0
  running : s.fromMixnet.receiver = true → s.correlator ≠ none

theorem wired_leave {s : Transport} {c : Correlator} (h : s.fromMixnet.reserved = 0) :
    Wired (leave s c).1 :=
  ⟨h, fun hreceiver => Bool.noConfusion hreceiver⟩

theorem wired_publish {s : Transport} {c : Correlator} (h : s.fromMixnet.reserved = 0) :
    Wired (publish s c).1 := by
  unfold publish
  split_ifs
  · exact wired_leave h
  · exact ⟨h, fun _ => Option.some_ne_none _⟩

theorem wired_endTurn {s : Transport} {c : Correlator} (h : s.fromMixnet.reserved = 0) :
    Wired (endTurn s c).1 := wired_publish (s := (sweep s c).1) h

theorem reserved_of_turned {s s' : Transport} {c c' : Correlator} {o : List Nym.Observed}
    (h : Turned s c s' c' o) : s'.fromMixnet.reserved = s.fromMixnet.reserved := by
  cases h with
  | deliver hrecv | ignore hrecv => exact (Channel.of_recv hrecv).2.1
  | reserve | receive | close | timer => rfl

theorem Wired.turn {s s' : Transport} {a : Arm} {o : List Nym.Observed} (hwired : s.Wired)
    (h : s.turn a = some (s', o)) : s'.Wired := by
  rcases turn_cases h with ⟨c, -, ⟨-, rfl, -⟩ | ⟨s₁, c₁, o₁, harm, rfl, -⟩⟩
  · exact wired_leave hwired.reserved
  · apply wired_endTurn
    exact (reserved_of_turned (turned_of_arm harm)).trans hwired.reserved

/-- The loop takes whatever is inbound, in any turn. -/
theorem turn_message {s : Transport} {c : Correlator} {bytes : Bytes} {queue : List Bytes}
    (hrunning : s.correlator = some c) (hqueue : s.fromMixnet.queue = bytes :: queue) :
    (s.turn .message).isSome = true := by
  rcases Channel.recv_of_queue hqueue with ⟨fromMixnet, hrecv⟩
  unfold turn
  rw [hrunning]
  simp only [arm, hrecv]
  unfold receiveMessage
  split_ifs
  · rfl
  · rcases deliver c.pending bytes with ⟨pending, _ | firing⟩ <;> rfl

/-- A sender that has to wait finds the loop ready. -/
theorem Wired.ready {s : Transport} {message : Bytes} (hwired : s.Wired)
    (hreceiver : s.fromMixnet.receiver = true) (hfull : s.fromMixnet.send message = none) :
    (s.turn .message).isSome = true := by
  have hlength := Channel.full_of_send hfull
  rw [hwired.reserved] at hlength
  cases hrunning : s.correlator with
  | none => exact absurd hrunning (hwired.running hreceiver)
  | some c =>
    cases hqueue : s.fromMixnet.queue with
    | nil => simp [hqueue] at hlength
    | cons bytes queue => exact turn_message hrunning hqueue

end Transport

namespace Mixnet

/-! ## What blocks a task -/

/-- What a blocked supervisor has filled. -/
theorem commands_of_blocked {s : Mixnet} (h : s.supervisorBlocked = true) :
    8 ≤ s.link.commands.queue.length + s.link.commands.reserved := by
  simp only [supervisorBlocked, Bool.and_eq_true, Option.isNone_iff_eq_none] at h
  rcases h with ⟨hsending, hblocked⟩
  simp only [Mixnet.step, Option.map_eq_none_iff] at hblocked
  cases hphase : s.supervisor.phase with
  | asking | disconnecting =>
    simp only [Supervisor.step, hphase] at hblocked
    cases hreceiver : s.link.commands.receiver with
    | false => simp [hreceiver] at hblocked
    | true =>
      simp only [hreceiver, if_true] at hblocked
      split at hblocked
      · cases hblocked
      · next hfull => exact Channel.full_of_send hfull
  | watching | backingOff | returned =>
    rw [hphase] at hsending
    cases hsending

/-- What a blocked driver has filled. -/
theorem events_of_blocked {s : Mixnet} (h : s.driverBlocked = true) :
    8 ≤ s.link.events.queue.length + s.link.events.reserved := by
  simp only [driverBlocked, Bool.and_eq_true, Option.isNone_iff_eq_none] at h
  rcases h with ⟨hreporting, hblocked⟩
  simp only [Mixnet.step, reduceCtorEq, false_and, if_false, Option.map_eq_none_iff] at hblocked
  cases hphase : s.driver.phase with
  | reportingSilence | reporting =>
    simp only [Driver.step, hphase, Driver.report, ports] at hblocked
    cases hreceiver : s.link.events.receiver with
    | false => simp [hreceiver] at hblocked
    | true =>
      simp only [hreceiver, if_true] at hblocked
      split at hblocked
      · cases hblocked
      · next hfull => exact Channel.full_of_send hfull
  | starting | connecting | serving | delivering | disconnecting | rebuilding | waiting | building
  | returned =>
    rw [hphase] at hreporting
    cases hreporting

/-- What a driver blocked on an inbound message waits for. -/
theorem inbound_of_blocked {s : Mixnet} {unixNow : Nat} (h : s.inboundBlocked unixNow = true) :
    ∃ message, s.transport.fromMixnet.receiver = true ∧
      s.transport.fromMixnet.send message = none := by
  simp only [inboundBlocked, Bool.and_eq_true, Option.isNone_iff_eq_none] at h
  rcases h with ⟨hdelivering, hblocked⟩
  simp only [Mixnet.step, reduceCtorEq, false_and, if_false, Option.map_eq_none_iff] at hblocked
  cases hphase : s.driver.phase with
  | delivering client message rest =>
    simp only [Driver.step, hphase, Driver.passOn, ports] at hblocked
    cases hreceiver : s.transport.fromMixnet.receiver with
    | false => simp [hreceiver] at hblocked
    | true =>
      cases hsend : s.transport.fromMixnet.send message with
      | some inbound => simp [hreceiver, hsend] at hblocked
      | none => exact ⟨message, rfl, hsend⟩
  | starting | connecting | serving | reportingSilence | disconnecting | rebuilding | reporting
  | waiting | building | returned =>
    rw [hphase] at hdelivering
    cases hdelivering

/-- A correlator that has its channel full is ready to take from it. -/
theorem ready_of_blocked {s : Mixnet} {unixNow : Nat} (hwired : s.transport.Wired)
    (h : s.inboundBlocked unixNow = true) : s.correlatorReady = true := by
  rcases inbound_of_blocked h with ⟨message, hreceiver, hfull⟩
  have hready := hwired.ready hreceiver hfull
  simpa [correlatorReady, step, viaTransport, Transport.step] using hready

/-! ## The count along a run -/

/-- A tick may come due at once for a client that may be silent. -/
def verdictDue (s : Mixnet) : Nat := if s.driver.Armed ∧ s.probeAt ≤ s.now then 1 else 0

/-- The messages of the link, those owed to it, and what may add to them before time passes. -/
def pressure (s : Mixnet) : Nat :=
  s.supervisor.account s.link s.now + Driver.owed s.driver.phase + s.verdictDue

/-- What every reachable state is like.  The count is far below what it takes to fill both
channels and block both ends. -/
structure Calm (s : Mixnet) : Prop where
  rested : s.driver.Rested
  wired : s.transport.Wired
  unreserved : s.link.Unreserved
  backoff : 0 < s.supervisor.policy.rebuildBackoff
  pressure : s.supervisor.phase = .returned ∨ s.pressure ≤ 11

theorem pressure_eq (s : Mixnet) :
    s.pressure = s.driver.load s.link + Supervisor.owed s.supervisor.phase +
      s.supervisor.waking s.now + s.verdictDue := by
  simp only [pressure, Supervisor.account, Driver.load]
  omega

theorem verdictDue_le (s : Mixnet) : s.verdictDue ≤ 1 := by
  unfold verdictDue
  split_ifs <;> omega

/-- A supervisor that watches has heard everything before time passes. -/
theorem events_of_settled {s : Mixnet} {wake : Option Nat} (h : s.settled = true)
    (hphase : s.supervisor.phase = .watching wake) : s.link.events.queue = [] := by
  cases hqueue : s.link.events.queue with
  | nil => rfl
  | cons event queue =>
    rcases Channel.recv_of_queue hqueue with ⟨events, hrecv⟩
    have hquiet : s.step (.supervisor .hear) = none := by
      simpa using List.all_eq_true.mp h (.supervisor .hear) (by simp [handovers])
    simp [step, Supervisor.step, hphase, hrecv] at hquiet

/-- A driver that attends to its client has been told everything before time passes. -/
theorem commands_of_settled {s : Mixnet} (hwired : s.transport.Wired) (h : s.settled = true)
    (hattends : Driver.attends s.driver.phase = true) : s.link.commands.queue = [] := by
  cases hphase : s.driver.phase with
  | serving client =>
    cases hqueue : s.link.commands.queue with
    | nil => rfl
    | cons command queue =>
      rcases Channel.recv_of_queue hqueue with ⟨commands, hrecv⟩
      have hquiet : s.step (.driver .command) = none := by
        simpa using List.all_eq_true.mp h (.driver .command) (by simp [handovers])
      cases command <;>
        simp [step, Driver.step, Driver.obey, hphase, ports, hrecv] at hquiet
  | delivering client message rest =>
    -- A blocked sender would find the loop ready, which has nothing left to take.
    have hquiet : s.step (.driver (.delivered 0)) = none := by
      simpa using List.all_eq_true.mp h (.driver (.delivered 0)) (by simp [handovers])
    have hidle : s.correlatorReady = false := by
      simpa [correlatorReady] using List.all_eq_true.mp h (.turn .message) (by simp [handovers])
    have hblocked : s.inboundBlocked 0 = true := by
      simp [inboundBlocked, hphase, Driver.Phase.isDelivering, hquiet]
    have hready := ready_of_blocked hwired hblocked
    rw [hidle] at hready
    cases hready
  | starting | connecting | reportingSilence | disconnecting | rebuilding | reporting | waiting
  | building | returned =>
    rw [hphase] at hattends
    cases hattends

/-- Time passes where little is left in the channels, or adds nothing. -/
theorem Calm.pass {s : Mixnet} (h : Calm s) (hsettled : s.settled = true) (d : Nat) :
    Calm { s with now := s.now + d } := by
  refine ⟨h.rested, h.wired, h.unreserved, h.backoff, h.pressure.imp_right fun hpressure => ?_⟩
  have hevents := s.link.events.bounded
  have hcommands := s.link.commands.bounded
  have hwaking := s.supervisor.waking_le (s.now + d)
  have hdue := verdictDue_le { s with now := s.now + d }
  have howed := Driver.owed_le s.driver.phase
  by_cases harmed : s.driver.Armed
  · have hcommands : s.link.commands.queue.length = 0 :=
      congrArg List.length (commands_of_settled h.wired hsettled harmed.1)
    have howed := Driver.owed_of_attends harmed.1
    cases hphase : s.supervisor.phase with
    | watching wake =>
      have hevents := congrArg List.length (events_of_settled hsettled hphase)
      have hasking : Supervisor.owed s.supervisor.phase = 0 := by rw [hphase]; rfl
      simp only [Mixnet.pressure, Supervisor.account]
      simp only [List.length_nil] at hevents
      omega
    | asking | backingOff | disconnecting | returned =>
      have hasleep : s.supervisor.waking (s.now + d) = 0 := by simp [Supervisor.waking, hphase]
      have hasking := Supervisor.owed_le s.supervisor.phase
      simp only [Mixnet.pressure, Supervisor.account]
      omega
  · have hundue : verdictDue { s with now := s.now + d } = 0 := by simp [verdictDue, harmed]
    cases hphase : s.supervisor.phase with
    | watching wake =>
      have hevents := congrArg List.length (events_of_settled hsettled hphase)
      have hasking : Supervisor.owed s.supervisor.phase = 0 := by rw [hphase]; rfl
      simp only [Mixnet.pressure, Supervisor.account]
      simp only [List.length_nil] at hevents
      omega
    | asking | backingOff | disconnecting | returned =>
      have hasleep : s.supervisor.waking (s.now + d) = 0 := by simp [Supervisor.waking, hphase]
      simp only [Mixnet.pressure, Supervisor.account] at hpressure ⊢
      omega

/-- The next tick is later. -/
theorem nextProbe_of_tick {s : Mixnet} (driver : Driver) : s.now < s.nextProbe driver .tick := by
  have hinterval : missedTick < probeInterval := by decide
  unfold nextProbe
  rw [if_pos rfl]
  split_ifs <;> omega

/-- What a step of the driver adds to the messages, it takes from what may add to them. -/
theorem Calm.driver {s : Mixnet} {e : Driver.Event} {driver : Driver} {ports : Driver.Ports}
    {o : List Driver.Observed} (h : Calm s) (htick : e = .tick → s.probeAt ≤ s.now)
    (hstep : Driver.Stepped s.ports s.driver e driver ports o) :
    Calm (s.withDriver driver ports e) := by
  have hinbound := Driver.inbound_of_stepped hstep
  have hload : driver.load ports.link ≤ s.driver.load s.link + _ :=
    Driver.load_of_stepped hstep
  refine ⟨Driver.rested_of_stepped hstep h.rested, ?_, ?_, h.backoff,
    h.pressure.imp_right fun hpressure => ?_⟩
  · exact ⟨hinbound.1.trans h.wired.reserved, fun hreceiver =>
      h.wired.running (hinbound.2.symm.trans hreceiver)⟩
  · exact Driver.unreserved_of_stepped hstep h.unreserved
  · have hdue : verdictDue (s.withDriver driver ports e) +
        (if e = .tick ∧ s.driver.Armed then 1 else 0) ≤ s.verdictDue := by
      by_cases heq : e = .tick
      · have hlater : ¬ s.nextProbe driver e ≤ s.now := by
          rw [heq]
          exact Nat.not_le_of_lt (nextProbe_of_tick driver)
        have hundue : verdictDue (s.withDriver driver ports e) = 0 := by
          simp [verdictDue, withDriver, hlater]
        have hready := htick heq
        rw [hundue]
        unfold verdictDue
        simp [hready, heq]
      · have hsame : verdictDue (s.withDriver driver ports e) ≤ s.verdictDue := by
          unfold verdictDue
          by_cases harmed : driver.Armed
          · rcases Driver.armed_of_stepped hstep h.rested heq harmed with ⟨hbefore, hbuilt⟩
            have hprobe : s.nextProbe driver e = s.probeAt := by
              simp [nextProbe, heq, hbuilt]
            simp [withDriver, hprobe, hbefore, harmed]
          · simp [withDriver, harmed]
        simpa [heq] using hsame
    rw [pressure_eq] at hpressure ⊢
    change driver.load ports.link + Supervisor.owed s.supervisor.phase +
      s.supervisor.waking s.now + verdictDue (s.withDriver driver ports e) ≤ 11
    omega

theorem Calm.supervisor {s : Mixnet} {supervisor : Supervisor} {link : Link}
    {o : List Supervisor.Observed} (h : Calm s)
    (hstep : Supervisor.Stepped s.now s.published s.link s.supervisor supervisor link o) :
    Calm { s with supervisor := supervisor, link := link } := by
  refine ⟨h.rested, h.wired, Supervisor.unreserved_of_stepped hstep h.unreserved, ?_, ?_⟩
  · have hpolicy := Supervisor.policy_of_stepped hstep
    have hbackoff := h.backoff
    simpa only [hpolicy] using hbackoff
  · rcases h.pressure with hreturned | hpressure
    · exact .inl (Supervisor.returned_of_stepped hstep hreturned)
    · refine (Supervisor.account_of_stepped hstep h.backoff).imp_right fun haccount => ?_
      have hdue : verdictDue { s with supervisor := supervisor, link := link } = s.verdictDue := rfl
      simp only [Mixnet.pressure, hdue] at hpressure ⊢
      omega

theorem Calm.step {s s' : Mixnet} {e : Event} {o : List Observed} (h : Calm s)
    (hprompt : s.Prompt e) (hstep : s.step e = some (s', o)) : Calm s' := by
  cases stepped_of_step hstep with
  | pass d => exact h.pass hprompt d
  | turn hturn =>
    exact ⟨h.rested, h.wired.turn hturn, h.unreserved, h.backoff, h.pressure⟩
  | accept haccept =>
    rcases Transport.of_accept haccept with ⟨-, -, -, hcorrelator, -, hinbound, -⟩
    have hwired : Transport.Wired _ :=
      ⟨hinbound ▸ h.wired.reserved, hinbound ▸ hcorrelator ▸ h.wired.running⟩
    exact ⟨h.rested, hwired, h.unreserved, h.backoff, h.pressure⟩
  | abandon slot =>
    exact ⟨h.rested, ⟨h.wired.reserved, h.wired.running⟩, h.unreserved, h.backoff, h.pressure⟩
  | closeRequests =>
    exact ⟨h.rested, ⟨h.wired.reserved, h.wired.running⟩, h.unreserved, h.backoff, h.pressure⟩
  | store => exact ⟨h.rested, h.wired, h.unreserved, h.backoff, h.pressure⟩
  | driver htick hdriver => exact h.driver htick (Driver.stepped_of_step hdriver)
  | supervisor hsupervisor => exact h.supervisor (Supervisor.stepped_of_step hsupervisor)

theorem calm_initial {policy : RotationPolicy} {hubAddresses : List Recipient}
    {gateways : List String} (hbackoff : 0 < policy.rebuildBackoff) :
    Calm (initial policy hubAddresses gateways) := by
  have hwaking : (Supervisor.start policy 0).waking 0 = 0 := Supervisor.waking_start hbackoff
  have hrested : (initial policy hubAddresses gateways).driver.Rested :=
    Driver.rested_of_phase (fun _ => rfl) (by simp [initial, Driver.initial])
  refine ⟨hrested, ⟨rfl, fun _ => Option.some_ne_none _⟩, ⟨rfl, rfl⟩, hbackoff, .inr ?_⟩
  have hpressure : pressure (initial policy hubAddresses gateways) =
      (Supervisor.start policy 0).waking 0 + 1 := by
    simp [pressure, Supervisor.account, initial, Link.empty, Supervisor.start, Supervisor.watch,
      Supervisor.owed, Driver.owed, Driver.initial, verdictDue, Driver.Armed, Driver.attends]
  rw [hpressure, hwaking]
  decide

/-- Under any policy that backs off, every reachable state is calm. -/
theorem calm_of_runs {policy : RotationPolicy} {hubAddresses : List Recipient}
    {gateways : List String} {s : Mixnet} {t : List Observed}
    (hbackoff : 0 < policy.rebuildBackoff)
    (h : Runs (guarded step Prompt) (initial policy hubAddresses gateways) t s) : Calm s := by
  apply h.always (calm_initial hbackoff)
  intro s' e o s'' hcalm hstep
  rcases Library.of_guarded hstep with ⟨hprompt, hstep⟩
  exact hcalm.step hprompt hstep

/-! ## No deadlock -/

/-- In no reachable state are the supervisor and the driver blocked on each other, or the
driver on a correlator that is not ready. -/
theorem never_deadlocked {rotationSecs lookupTimeoutSecs : Option Nat}
    {hubAddresses : List Recipient} {gateways : List String} {s : Mixnet} {t : List Observed}
    (h : Runs (guarded step Prompt)
      (initial (rotationPolicy rotationSecs lookupTimeoutSecs) hubAddresses gateways) t s) :
    ¬ (s.supervisorBlocked = true ∧ s.driverBlocked = true) ∧
      ∀ unixNow, s.inboundBlocked unixNow = true → s.correlatorReady = true := by
  have hbackoff : 0 < (rotationPolicy rotationSecs lookupTimeoutSecs).rebuildBackoff := by
    cases rotationSecs <;>
      simp [rotationPolicy, RotationPolicy.every, RotationPolicy.never]
  have hcalm := calm_of_runs hbackoff h
  constructor
  · rintro ⟨hsupervisor, hdriver⟩
    have hcommands := commands_of_blocked hsupervisor
    have hevents := events_of_blocked hdriver
    rw [hcalm.unreserved.2] at hcommands
    rw [hcalm.unreserved.1] at hevents
    rcases hcalm.pressure with hreturned | hpressure
    · simp [supervisorBlocked, hreturned, Supervisor.Phase.isSending] at hsupervisor
    · simp only [Mixnet.pressure, Supervisor.account] at hpressure
      omega
  · intro unixNow hblocked
    exact ready_of_blocked hcalm.wired hblocked

/-- A rotation every five seconds while the first build hangs: the ninth rebuild is not
accepted. -/
theorem never_deadlocked_hungBuild : ∃ t s,
    Runs (guarded step Prompt) (initial (rotationPolicy (some 5) none) ["hub"] []) t s ∧
      s.supervisorBlocked = true ∧ ¬ (s.supervisorBlocked = true ∧ s.driverBlocked = true) ∧
      ∀ unixNow, s.inboundBlocked unixNow = true → s.correlatorReady = true := by
  obtain ⟨t, s, h, hblocked⟩ : ∃ t s, execute (guarded step Prompt)
      (initial (rotationPolicy (some 5) none) ["hub"] [])
      (.driver (.start 0) ::
        (List.replicate 8 [.pass (seconds 5), .supervisor .wake, .supervisor .sent]).flatten ++
        [.pass (seconds 5), .supervisor .wake]) = some (s, t) ∧ s.supervisorBlocked = true :=
    ⟨_, _, rfl, rfl⟩
  exact ⟨t, s, Runs.of_execute h, hblocked, never_deadlocked (Runs.of_execute h)⟩

end Mixnet

end Nym
end ZeroShim
