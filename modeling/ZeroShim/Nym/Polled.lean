import ZeroShim.Library.Unwinding
import ZeroShim.Nym.Liveness
import ZeroShim.Nym.Rotation

/-!
# What a poll of the status gives away

Two runs of the tasks under one schedule of the client's lifecycle, with different user
traffic between.  The lifecycle is what happens to the client anyway: time passes, builds end,
the probe ticks and is answered, clients die, and the supervisor and the driver are scheduled.
What a run's lifecycle comes to is compared with what it comes to where nobody sends anything.

Main results:

- Theorem {lit}`unwinding`: the lifecycle of a run whose traffic is not read is that of the
  tasks without any.
- Theorem {lit}`status_blind`: such runs show the same status.
- Theorem {lit}`status_reveals`: others do not.
-/

namespace ZeroShim
namespace Nym

open Library Transport

namespace Mixnet

/-- An event that happens where the tasks wait for it, and is lost where they do not. -/
def poll (s : Mixnet) (e : Event) : Mixnet × List Observed := (s.step e).getD (s, [])

end Mixnet

/-! ## Runs with traffic -/

/-- What the client's lifecycle has for the driver. -/
inductive Offer where
  | start (unixNow : Nat)
  /-- The build ends that is under way. -/
  | built (outcome : Option Recipient)
  | tick
  /-- The {lit}`select!` is polled for a command. -/
  | command
  /-- The probe in flight is accepted or refused. -/
  | probeSent (accepted : Bool)
  /-- The SDK gives up on the client. -/
  | died
  /-- The {lit}`send` of {lit}`Died` is polled. -/
  | reported
  /-- The {lit}`disconnect` under way completes. -/
  | disconnected
deriving DecidableEq

def Offer.event : Offer → Driver.Event
  | .start unixNow => .start unixNow
  | .built outcome => .built outcome
  | .tick => .tick
  | .command => .command
  | .probeSent accepted => .sent accepted
  | .died => .arrive none 0
  | .reported => .reported
  | .disconnected => .disconnected

/-- The lifecycle of the client. -/
inductive Life where
  | pass (d : Nat)
  | driver (o : Offer)
  /-- A reply to the probe arrives. -/
  | reply
  | supervisor (e : Supervisor.Event)
deriving DecidableEq

def Life.event : Life → Mixnet.Event
  | .pass d => .pass d
  | .driver o => .driver o.event
  | .reply => .driver (.arrive (some [[]]) 0)
  | .supervisor e => .supervisor e

/-- What users cause. -/
inductive Traffic where
  | turn (a : Arm)
  | accept (parcel : Parcel)
  | abandon (slot : Nat)
  /-- The count of what is in flight gets to where the supervisor loads it. -/
  | store
  | takeFrame
  /-- The frame in flight is accepted or refused. -/
  | frameSent (accepted : Bool)
  | delivered (unixNow : Nat)

def Traffic.event : Traffic → Mixnet.Event
  | .turn a => .turn a
  | .accept parcel => .accept parcel
  | .abandon slot => .abandon slot
  | .store => .store
  | .takeFrame => .driver .takeFrame
  | .frameSent accepted => .driver (.sent accepted)
  | .delivered unixNow => .driver (.delivered unixNow)

/-- What happens in a run. -/
inductive Happening where
  | pass (d : Nat)
  | driver (o : Offer)
  | supervisor (e : Supervisor.Event)
  /-- Messages arrive that users cause, with a reply to the probe among them or without. -/
  | arrive (reply : Bool) (messages : List Bytes) (unixNow : Nat)
  | user (e : Traffic)

/-- What of it is the lifecycle's. -/
def Happening.life? : Happening → Option Life
  | .pass d => some (.pass d)
  | .driver o => some (.driver o)
  | .supervisor e => some (.supervisor e)
  | .arrive true _ _ => some .reply
  | .arrive false _ _ => none
  | .user _ => none

/-- The tasks, and whether a reply arrived since the probe's mark. -/
structure Polled where
  mixnet : Mixnet
  answered : Bool

namespace Polled

def initial (policy : RotationPolicy) (hubAddresses : List Recipient) (gateways : List String) :
    Polled :=
  ⟨.initial policy hubAddresses gateways, false⟩

def status (s : Polled) : MixnetStatus := s.mixnet.driver.status

/-- The driver is passing messages on. -/
def isDelivering : Driver.Phase → Bool
  | .delivering _ _ _ => true
  | _ => false

/-- A frame is in flight. -/
def carries : Option InFlight → Bool
  | some (.frame _ _) => true
  | _ => false

/-- The driver has no turn for an offer: its {lit}`select!` is not polled while messages are
passed on, and the probe waits for a frame in flight. -/
def engaged (d : Driver) : Offer → Bool
  | .tick => isDelivering d.phase || carries d.inFlight
  | .probeSent _ => isDelivering d.phase || carries d.inFlight
  | _ => isDelivering d.phase

/-- What a probe that is accepted makes of the replies so far. -/
def afterOffer (answered : Bool) : Offer → Bool
  | .probeSent _ => false
  | _ => answered

/-- The users' part comes from the users: a frame is taken or in flight. -/
def owns (s : Mixnet) : Traffic → Bool
  | .takeFrame => !s.transport.toMixnet.queue.isEmpty
  | .frameSent _ => carries s.driver.inFlight
  | _ => true

/-- One happening. -/
def step (s : Polled) : Happening → Option (Polled × List Mixnet.Observed)
  | .pass d => some (⟨(s.mixnet.poll (.pass d)).1, s.answered⟩, [])
  | .driver o =>
    if engaged s.mixnet.driver o then none
    else
      match s.mixnet.step (.driver o.event) with
      | some (mixnet, shown) => some (⟨mixnet, afterOffer s.answered o⟩, shown)
      | none => some (s, [])
  | .supervisor e =>
    some (⟨(s.mixnet.poll (.supervisor e)).1, s.answered⟩, (s.mixnet.poll (.supervisor e)).2)
  | .arrive reply messages unixNow =>
    if isDelivering s.mixnet.driver.phase ∨ reply = true ∧ [] ∉ messages then none
    else
      match s.mixnet.step (.driver (.arrive (some messages) unixNow)) with
      | some (mixnet, shown) => some (⟨mixnet, s.answered || reply⟩, shown)
      | none => some (s, [])
  | .user e =>
    if owns s.mixnet e then
      (s.mixnet.step e.event).map fun out => (⟨out.1, s.answered⟩, out.2)
    else none

theorem runs_poll (s : Mixnet) (e : Mixnet.Event) :
    Runs Mixnet.step s (s.poll e).2 (s.poll e).1 := by
  unfold Mixnet.poll
  cases hstep : s.step e with
  | none => exact .refl
  | some out => exact .single hstep

/-- What happens is a step of the tasks, or nothing. -/
theorem runs_of_step {s s' : Polled} {e : Happening} {o : List Mixnet.Observed}
    (h : s.step e = some (s', o)) : Runs Mixnet.step s.mixnet o s'.mixnet := by
  cases e with
  | pass d =>
    cases h
    exact runs_poll s.mixnet (.pass d)
  | driver offer =>
    simp only [step] at h
    split_ifs at h with hengaged
    cases hstep : s.mixnet.step (.driver offer.event) with
    | none =>
      rw [hstep] at h
      cases h
      exact .refl
    | some out =>
      rw [hstep] at h
      cases h
      exact .single hstep
  | supervisor e =>
    cases h
    exact runs_poll s.mixnet (.supervisor e)
  | arrive reply messages unixNow =>
    simp only [step] at h
    split at h
    · cases h
    · cases hstep : s.mixnet.step (.driver (.arrive (some messages) unixNow)) with
      | none =>
        rw [hstep] at h
        cases h
        exact .refl
      | some out =>
        rw [hstep] at h
        cases h
        exact .single hstep
  | user e =>
    simp only [step] at h
    split_ifs at h with howns
    rcases Option.map_eq_some_iff.mp h with ⟨⟨mixnet, shown⟩, hstep, heq⟩
    cases heq
    exact .single hstep

/-- A run with traffic is a run of the tasks. -/
theorem runs_of_execute {s s' : Polled} {es : List Happening} {t : List Mixnet.Observed}
    (h : execute step s es = some (s', t)) : Runs Mixnet.step s.mixnet t s'.mixnet := by
  have hruns : Runs Mixnet.step s.mixnet (t.filterMap some) s'.mixnet :=
    (Runs.of_execute h).simulate Polled.mixnet some fun hstep => by
      simpa using runs_of_step hstep
  simpa using hruns

theorem idle_of_step {ports : Driver.Ports} {d : Driver} {e : Driver.Event}
    (h : (d.step ports e).isSome = true) (hdelivered : ∀ unixNow, e ≠ .delivered unixNow) :
    isDelivering d.phase = false := by
  cases hd : d.phase with
  | delivering client message rest =>
    unfold Driver.step at h
    rw [hd] at h
    cases e with
    | delivered unixNow => exact absurd rfl (hdelivered unixNow)
    | built outcome => simp [Driver.endBuild, hd] at h
    | start | tick | command | takeFrame | sent | arrive | reported | disconnected => simp at h
  | _ => rfl

theorem step_driver {s : Polled} {mixnet : Mixnet} {offer : Offer} {o : List Mixnet.Observed}
    (h : s.mixnet.step (.driver offer.event) = some (mixnet, o))
    (hfree : engaged s.mixnet.driver offer = false) :
    s.step (.driver offer) = some (⟨mixnet, afterOffer s.answered offer⟩, o) := by
  simp [step, hfree, h]

/-- Every step of the driver happens in a run with traffic, as long as there are handles. -/
theorem happens_driver {s : Polled} {mixnet : Mixnet} {e : Driver.Event}
    {o : List Mixnet.Observed} (h : s.mixnet.step (.driver e) = some (mixnet, o))
    (hqueue : e = .takeFrame → s.mixnet.transport.toMixnet.queue ≠ []) :
    ∃ happening answered, s.step happening = some (⟨mixnet, answered⟩, o) := by
  have henabled : (s.mixnet.driver.step s.mixnet.ports e).isSome = true := by
    simp only [Mixnet.step] at h
    split_ifs at h
    rcases Option.map_eq_some_iff.mp h with ⟨out, hdriver, -⟩
    rw [hdriver]
    rfl
  cases e with
  | start unixNow =>
    exact ⟨.driver (.start unixNow), _, step_driver h (idle_of_step henabled (by simp))⟩
  | built outcome =>
    exact ⟨.driver (.built outcome), _, step_driver h (idle_of_step henabled (by simp))⟩
  | command => exact ⟨.driver .command, _, step_driver h (idle_of_step henabled (by simp))⟩
  | reported => exact ⟨.driver .reported, _, step_driver h (idle_of_step henabled (by simp))⟩
  | disconnected =>
    exact ⟨.driver .disconnected, _, step_driver h (idle_of_step henabled (by simp))⟩
  | tick =>
    have hidle := idle_of_step henabled (by simp)
    rcases Option.isSome_iff_exists.mp henabled with ⟨out, hdriver⟩
    rcases Liveness.of_step_tick hdriver with ⟨client, -, hnone, -⟩
    exact ⟨.driver .tick, _, step_driver h (by simp [engaged, hidle, hnone, carries])⟩
  | sent accepted =>
    have hidle := idle_of_step henabled (by simp)
    cases hcarries : carries s.mixnet.driver.inFlight with
    | true => exact ⟨.user (.frameSent accepted), s.answered, by
        simp [step, owns, hcarries, Traffic.event, h]⟩
    | false =>
      exact ⟨.driver (.probeSent accepted), _, step_driver h (by simp [engaged, hidle, hcarries])⟩
  | takeFrame =>
    exact ⟨.user .takeFrame, s.answered, by simp [step, owns, hqueue rfl, Traffic.event, h]⟩
  | arrive messages unixNow =>
    have hidle := idle_of_step henabled (by simp)
    cases messages with
    | none =>
      have hdied : s.mixnet.step (.driver (.arrive none 0)) =
          s.mixnet.step (.driver (.arrive none unixNow)) := by
        simp only [Mixnet.step, reduceCtorEq, false_and, if_false, Driver.step]
        cases s.mixnet.driver.phase with
        | disconnecting client stop => cases stop <;> rfl
        | _ => rfl
      exact ⟨.driver .died, _, step_driver (hdied.trans h) hidle⟩
    | some messages =>
      exact ⟨.arrive false messages unixNow, s.answered, by simp [step, hidle, h]⟩
  | delivered unixNow =>
    exact ⟨.user (.delivered unixNow), s.answered, by simp [step, owns, Traffic.event, h]⟩

/-- So does every other step. -/
theorem happens_of_step {s : Polled} {mixnet : Mixnet} {e : Mixnet.Event}
    {o : List Mixnet.Observed} (h : s.mixnet.step e = some (mixnet, o)) (hopen : e ≠ .closeRequests)
    (hqueue : e = .driver .takeFrame → s.mixnet.transport.toMixnet.queue ≠ []) :
    ∃ happening answered, s.step happening = some (⟨mixnet, answered⟩, o) := by
  cases e with
  | pass d =>
    cases h
    exact ⟨.pass d, s.answered, rfl⟩
  | turn a => exact ⟨.user (.turn a), s.answered, by simp [step, owns, Traffic.event, h]⟩
  | accept parcel =>
    exact ⟨.user (.accept parcel), s.answered, by simp [step, owns, Traffic.event, h]⟩
  | abandon slot =>
    exact ⟨.user (.abandon slot), s.answered, by simp [step, owns, Traffic.event, h]⟩
  | closeRequests => exact absurd rfl hopen
  | store => exact ⟨.user .store, s.answered, by simp [step, owns, Traffic.event, h]⟩
  | driver e => exact happens_driver h fun heq => hqueue (by rw [heq])
  | supervisor e => exact ⟨.supervisor e, s.answered, by simp [step, Mixnet.poll, h]⟩

/-! ## Traffic that is not read -/

/-- A rotation that comes due reads a count of no request in flight or does not wait for any longer, and a
tick whose probe was not answered finds nothing else that arrived since and no backlog. -/
def Unread (s : Polled) : Happening → Prop
  | .supervisor .wake =>
    (s.mixnet.step (.supervisor .wake)).isSome = true →
      s.mixnet.published = 0 ∨
        s.mixnet.supervisor.deadline s.mixnet.now ≤ s.mixnet.now
  | .driver .tick =>
    (s.mixnet.step (.driver .tick)).isSome = true →
      s.answered = false → s.mixnet.driver.inboundAtProbe ≠ none →
        s.mixnet.driver.inboundAtProbe = some s.status.inboundTotal ∧
          s.mixnet.transport.toMixnet.queue = []
  | _ => True

instance (s : Polled) (e : Happening) : Decidable (s.Unread e) := by
  cases e with
  | driver o => cases o <;> unfold Unread <;> infer_instance
  | supervisor e => cases e <;> unfold Unread <;> infer_instance
  | pass | arrive | user => exact .isTrue trivial

/-! ## The lifecycle without traffic -/

/-- The tasks with nobody to use them. -/
def quiet (l : Mixnet) (a : Life) : Mixnet :=
  { (l.poll a.event).1 with transport := .initial }

/-- The phase between messages. -/
def calm : Driver.Phase → Driver.Phase
  | .delivering client _ _ => .serving client
  | phase => phase

/-- The probe in flight. -/
def probeOnly : Option InFlight → Option InFlight
  | some (.probe sender own) => some (.probe sender own)
  | _ => none

/-- A driver does what one without traffic does. -/
structure Alike (answered : Bool) (l d : Driver) : Prop where
  status : l.status.polled = d.status.polled
  built : l.built = d.built
  sender : l.sender = d.sender
  own : l.own = d.own
  silentRounds : l.silentRounds = d.silentRounds
  phase : l.phase = calm d.phase
  inFlight : l.inFlight = probeOnly d.inFlight
  unmarked : l.inboundAtProbe = none ↔ d.inboundAtProbe = none
  unanswered : ∀ mark, l.inboundAtProbe = some mark →
    if answered then mark < l.status.inboundTotal else mark = l.status.inboundTotal
  seen : ∀ mark, d.inboundAtProbe = some mark →
    mark + answered.toNat ≤ d.status.inboundTotal

/-- The tasks are where those without traffic are. -/
structure Follows (l : Mixnet) (s : Polled) : Prop where
  transport : l.transport = .initial
  published : l.published = 0
  now : l.now = s.mixnet.now
  supervisor : l.supervisor = s.mixnet.supervisor
  link : l.link = s.mixnet.link
  probeAt : l.probeAt = s.mixnet.probeAt
  driver : Alike s.answered l.driver s.mixnet.driver

/-! ## The driver without traffic -/

/-- Both do the same to the lifecycle, or neither does anything. -/
def Matches (answered : Bool) :
    Option (Driver × Driver.Ports × List Driver.Observed) →
      Option (Driver × Driver.Ports × List Driver.Observed) → Prop
  | none, none => True
  | some l, some d => Alike answered l.1 d.1 ∧ l.2.1.link = d.2.1.link
  | _, _ => False

section Offers

variable {answered : Bool} {l d : Driver} {ports ports' : Driver.Ports}

theorem Alike.phase_eq (h : Alike answered l d) (hidle : isDelivering d.phase = false) :
    l.phase = d.phase := by
  rw [h.phase]
  cases hphase : d.phase with
  | delivering => simp [hphase, isDelivering] at hidle
  | _ => rfl

/-- A driver that holds no frame has what one without traffic has in flight. -/
theorem Alike.inFlight_eq (h : Alike answered l d) (hidle : carries d.inFlight = false) :
    l.inFlight = d.inFlight := by
  rw [h.inFlight]
  cases hinFlight : d.inFlight with
  | none => rfl
  | some inFlight =>
    cases inFlight with
    | frame sender out => simp [hinFlight, carries] at hidle
    | probe sender own => rfl

theorem matches_start (h : Alike answered l d) (hlink : ports.link = ports'.link)
    (hidle : isDelivering d.phase = false) (unixNow : Nat) :
    Matches answered (l.step ports (.start unixNow)) (d.step ports' (.start unixNow)) := by
  have hl := h.phase_eq hidle
  cases hd : d.phase with
  | starting =>
    simp only [Driver.step, hl, hd, Driver.alone, Matches]
    exact ⟨{ h with
      status := MixnetStatus.polled_setConfigured h.status unixNow
      phase := rfl }, hlink⟩
  | disconnecting client stop => cases stop <;> simp [Driver.step, hl, hd, Matches]
  | _ => simp [Driver.step, hl, hd, Matches]

theorem Alike.connect (h : Alike answered l d) (address : Recipient) (publish : Bool) :
    Alike answered (l.connect address publish).1 (d.connect address publish).1 := by
  have hconnected := MixnetStatus.polled_setConnected h.status
  refine { h with
    status := ?_
    built := congrArg (· + 1) h.built
    sender := h.built
    own := rfl
    silentRounds := rfl
    phase := by simp [Driver.connect, h.built, calm]
    unmarked := Iff.rfl
    unanswered := fun mark hmark => by cases hmark
    seen := fun mark hmark => by cases hmark }
  cases publish with
  | false => exact hconnected
  | true => exact hconnected

theorem Alike.fail (h : Alike answered l d) (caller : Caller) :
    Alike answered (l.fail caller).1 (d.fail caller).1 :=
  { h with
    status := MixnetStatus.polled_setRebuildFailed h.status
    phase := rfl }

theorem matches_built (h : Alike answered l d) (hlink : ports.link = ports'.link)
    (hidle : isDelivering d.phase = false) (outcome : Option Recipient) :
    Matches answered (l.step ports (.built outcome)) (d.step ports' (.built outcome)) := by
  have hl := h.phase_eq hidle
  cases hd : d.phase with
  | connecting | rebuilding | building =>
    cases outcome with
    | none => simpa [Driver.step, Driver.endBuild, hl, hd, Matches, hlink] using h.fail _
    | some address =>
      simpa [Driver.step, Driver.endBuild, hl, hd, Matches, hlink] using h.connect _ _
  | disconnecting client stop =>
    cases stop <;> simp [Driver.step, Driver.endBuild, hl, hd, Matches]
  | _ => simp [Driver.step, Driver.endBuild, hl, hd, Matches]

/-- A tick decides alike where it reads nothing that users cause. -/
theorem Alike.tick (h : Alike answered l d) (client : Client) (queued : Nat)
    (hunread : answered = false → d.inboundAtProbe ≠ none →
      d.inboundAtProbe = some d.status.inboundTotal ∧ queued = 0) :
    Alike answered (l.tick client 0) (d.tick client queued) := by
  have hverdict : (l.inboundAtProbe = some l.status.inboundTotal ∧ 0 = 0) ↔
      (d.inboundAtProbe = some d.status.inboundTotal ∧ queued = 0) := by
    constructor
    · rintro ⟨hmark, -⟩
      have hunanswered := h.unanswered _ hmark
      have hmarked : d.inboundAtProbe ≠ none := by
        rw [ne_eq, ← h.unmarked, hmark]
        simp
      cases answered with
      | false => exact hunread rfl hmarked
      | true => simp at hunanswered
    · rintro ⟨hmark, -⟩
      have hseen := h.seen _ hmark
      cases hl : l.inboundAtProbe with
      | none => simp [h.unmarked.mp hl] at hmark
      | some mark =>
        have hunanswered := h.unanswered mark hl
        cases answered with
        | false => simpa using hunanswered
        | true => simp at hseen
  unfold Driver.tick
  by_cases hsilent : d.inboundAtProbe = some d.status.inboundTotal ∧ queued = 0
  · rw [if_pos hsilent, if_pos (hverdict.mpr hsilent), h.silentRounds]
    split_ifs
    · exact { h with
        silentRounds := rfl
        phase := rfl
        unmarked := Iff.rfl
        unanswered := fun mark hmark => by cases hmark
        seen := fun mark hmark => by cases hmark }
    · exact { h with
        silentRounds := rfl
        inFlight := by rw [h.sender, h.own]; rfl }
  · rw [if_neg hsilent, if_neg fun hl => hsilent (hverdict.mp hl)]
    exact { h with
      silentRounds := rfl
      inFlight := by rw [h.sender, h.own]; rfl }

theorem matches_tick (h : Alike answered l d) (hlink : ports.link = ports'.link)
    (hidle : isDelivering d.phase = false) (hfree : carries d.inFlight = false)
    (hempty : ports.outFrames.queue = [])
    (hunread : (d.step ports' .tick).isSome = true → answered = false → d.inboundAtProbe ≠ none →
      d.inboundAtProbe = some d.status.inboundTotal ∧ ports'.outFrames.queue = []) :
    Matches answered (l.step ports .tick) (d.step ports' .tick) := by
  have hl := h.phase_eq hidle
  have hinFlight := h.inFlight_eq hfree
  cases hd : d.phase with
  | serving client =>
    by_cases hnone : d.inFlight = none
    · have htick := h.tick client ports'.outFrames.queue.length (by
        simpa [Driver.step, hd, hnone, Driver.alone] using hunread)
      simpa [Driver.step, hl, hd, hinFlight, hnone, hempty, Matches, Driver.alone, hlink]
        using htick
    · simp [Driver.step, hl, hd, hinFlight, hnone, Matches]
  | disconnecting client stop => cases stop <;> simp [Driver.step, hl, hd, Matches]
  | _ => simp [Driver.step, hl, hd, Matches]

theorem Alike.rebuild (h : Alike answered l d) (client : Client) (queued queued' : Nat) :
    Alike answered (l.rebuild client queued).1 (d.rebuild client queued').1 :=
  { h with
    phase := rfl
    inFlight := rfl }

theorem Alike.stop (h : Alike answered l d) (client : Client) (queued queued' : Nat) :
    Alike answered (l.stop client queued).1 (d.stop client queued').1 :=
  { h with phase := rfl }

theorem Alike.die (h : Alike answered l d) (client : Client) (queued queued' : Nat) :
    Alike answered (l.die client queued).1 (d.die client queued').1 :=
  { h with
    status := MixnetStatus.polled_setDied h.status
    phase := rfl
    inFlight := rfl }

theorem Alike.leave (h : Alike answered l d) (ports ports' : Driver.Ports) :
    Alike answered (l.leave ports).1 (d.leave ports').1 :=
  { h with
    phase := rfl
    inFlight := rfl }

theorem Alike.enter (h : Alike answered l d) {phase : Driver.Phase}
    (hphase : phase = calm phase) :
    Alike answered { l with phase := phase } { d with phase := phase } :=
  { h with phase := hphase }

theorem Alike.request (h : Alike answered l d) {phase : Driver.Phase}
    (hphase : phase = calm phase) :
    Alike answered (l.request phase).1 (d.request phase).1 :=
  { h with phase := hphase }

theorem matches_command (h : Alike answered l d) (hlink : ports.link = ports'.link)
    (hidle : isDelivering d.phase = false) :
    Matches answered (l.step ports .command) (d.step ports' .command) := by
  have hl := h.phase_eq hidle
  cases hd : d.phase with
  | serving client =>
    simp only [Driver.step, hl, hd, Driver.obey, hlink]
    cases hrecv : ports'.link.commands.recv with
    | item command commands =>
      cases command with
      | rebuild => exact ⟨h.rebuild client 0 0, rfl⟩
      | disconnect => exact ⟨h.stop client 0 0, rfl⟩
    | ended => exact ⟨h.stop client 0 0, hlink⟩
    | pending => trivial
  | waiting caller =>
    simp only [Driver.step, hl, hd, Driver.await, hlink]
    cases hrecv : ports'.link.commands.recv with
    | item command commands =>
      cases command with
      | rebuild => exact ⟨h.request rfl, rfl⟩
      | disconnect => exact ⟨h.leave ports ports', rfl⟩
    | ended => exact ⟨h.leave ports ports', by simp [Driver.leave, hlink]⟩
    | pending => trivial
  | disconnecting client stop => cases stop <;> simp [Driver.step, hl, hd, Matches]
  | _ => simp [Driver.step, hl, hd, Matches]

/-- A probe that is accepted is marked with what was seen, whatever that is. -/
theorem matches_probeSent (h : Alike answered l d) (hlink : ports.link = ports'.link)
    (hidle : isDelivering d.phase = false) (hfree : carries d.inFlight = false) (accepted : Bool) :
    Matches false (l.step ports (.sent accepted)) (d.step ports' (.sent accepted)) := by
  have hl := h.phase_eq hidle
  have hinFlight := h.inFlight_eq hfree
  cases hd : d.phase with
  | serving client =>
    simp only [Driver.step, hl, hd, hinFlight]
    cases hflight : d.inFlight with
    | none => trivial
    | some inFlight =>
      cases inFlight with
      | frame sender out => simp [hflight, carries] at hfree
      | probe sender own =>
        refine ⟨?_, hlink⟩
        exact { h with
          inFlight := rfl
          unmarked := by simp [Driver.endSend]
          unanswered := fun mark hmark => by
            simpa [Driver.endSend] using (Option.some.inj hmark).symm
          seen := fun mark hmark => by
            rw [← Option.some.inj hmark]
            exact le_rfl }
  | disconnecting client stop => cases stop <;> simp [Driver.step, hl, hd, Matches]
  | _ => simp [Driver.step, hl, hd, Matches]

theorem matches_died (h : Alike answered l d) (hlink : ports.link = ports'.link)
    (hidle : isDelivering d.phase = false) :
    Matches answered (l.step ports (.arrive none 0)) (d.step ports' (.arrive none 0)) := by
  have hl := h.phase_eq hidle
  cases hd : d.phase with
  | serving client =>
    simp only [Driver.step, hl, hd]
    exact ⟨h.die client 0 0, hlink⟩
  | disconnecting client stop => cases stop <;> simp [Driver.step, hl, hd, Matches]
  | _ => simp [Driver.step, hl, hd, Matches]

theorem matches_report (h : Alike answered l d) (hlink : ports.link = ports'.link)
    (client : Option Client) {phase : Driver.Phase} (hphase : phase = calm phase) :
    Matches answered (Driver.report ports l client phase)
      (Driver.report ports' d client phase) := by
  unfold Driver.report
  rw [hlink]
  cases ports'.link.events.receiver with
  | false => exact ⟨h.enter hphase, hlink⟩
  | true =>
    simp only [if_true]
    cases ports'.link.events.send .died with
    | none => trivial
    | some events => exact ⟨h.enter hphase, rfl⟩

theorem matches_reported (h : Alike answered l d) (hlink : ports.link = ports'.link)
    (hidle : isDelivering d.phase = false) :
    Matches answered (l.step ports .reported) (d.step ports' .reported) := by
  have hl := h.phase_eq hidle
  cases hd : d.phase with
  | reportingSilence client =>
    simp only [Driver.step, hl, hd]
    exact matches_report h hlink _ rfl
  | reporting caller dead =>
    simp only [Driver.step, hl, hd]
    exact matches_report h hlink _ rfl
  | disconnecting client stop => cases stop <;> simp [Driver.step, hl, hd, Matches]
  | _ => simp [Driver.step, hl, hd, Matches]

theorem matches_disconnected (h : Alike answered l d) (hlink : ports.link = ports'.link)
    (hidle : isDelivering d.phase = false) :
    Matches answered (l.step ports .disconnected) (d.step ports' .disconnected) := by
  have hl := h.phase_eq hidle
  cases hd : d.phase with
  | disconnecting client stop =>
    cases stop with
    | true =>
      simp only [Driver.step, hl, hd]
      exact ⟨h.leave ports ports', by simp [Driver.leave, hlink]⟩
    | false =>
      simp only [Driver.step, hl, hd]
      exact ⟨{ h with
        status := MixnetStatus.polled_setDied h.status
        phase := rfl }, hlink⟩
  | _ => simp [Driver.step, hl, hd, Matches]

/-- Whatever the lifecycle has for it, a driver with traffic does what one without does. -/
theorem matches_offer (h : Alike answered l d) (hlink : ports.link = ports'.link) {o : Offer}
    (hfree : engaged d o = false) (hempty : ports.outFrames.queue = [])
    (hunread : o = .tick → (d.step ports' .tick).isSome = true → answered = false →
      d.inboundAtProbe ≠ none →
        d.inboundAtProbe = some d.status.inboundTotal ∧ ports'.outFrames.queue = []) :
    Matches (afterOffer answered o) (l.step ports o.event) (d.step ports' o.event) := by
  cases o with
  | start unixNow => exact matches_start h hlink hfree unixNow
  | built outcome => exact matches_built h hlink hfree outcome
  | tick =>
    rcases Bool.or_eq_false_iff.mp hfree with ⟨hidle, hcarries⟩
    exact matches_tick h hlink hidle hcarries hempty (hunread rfl)
  | command => exact matches_command h hlink hfree
  | probeSent accepted =>
    rcases Bool.or_eq_false_iff.mp hfree with ⟨hidle, hcarries⟩
    exact matches_probeSent h hlink hidle hcarries accepted
  | died => exact matches_died h hlink hfree
  | reported => exact matches_reported h hlink hfree
  | disconnected => exact matches_disconnected h hlink hfree

end Offers

/-! ## Traffic -/

section Messages

variable {answered : Bool} {l d : Driver} (client : Client) (unixNow : Nat)
  (messages : List Bytes)

theorem polled_forward :
    (d.forward client unixNow messages).status.polled = d.status.polled := by
  induction messages generalizing d with
  | nil => rfl
  | cons message rest ih =>
    cases message with
    | nil => exact ih.trans (MixnetStatus.polled_recordInbound d.status true unixNow)
    | cons b message => exact MixnetStatus.polled_recordInbound d.status false unixNow

theorem calm_forward : calm (d.forward client unixNow messages).phase = .serving client := by
  apply Driver.view_forward d client unixNow messages calm
  exact fun _ _ => rfl

/-- The first message of a batch is counted at once. -/
theorem inboundTotal_lt_forward (h : messages ≠ []) :
    d.status.inboundTotal < (d.forward client unixNow messages).status.inboundTotal := by
  cases messages with
  | nil => exact absurd rfl h
  | cons message rest =>
    cases message with
    | nil =>
      have hle := Liveness.inboundTotal_forward
        { d with status := d.status.recordInbound true unixNow } client unixNow rest
      refine Nat.lt_of_lt_of_le ?_ hle
      simp [MixnetStatus.inboundTotal, MixnetStatus.recordInbound]
    | cons b message =>
      simp [Driver.forward, MixnetStatus.inboundTotal, MixnetStatus.recordInbound]

/-- Going through messages is not seen in the lifecycle. -/
theorem Alike.forward (h : Alike answered l d) (hphase : calm d.phase = .serving client) :
    Alike answered l (d.forward client unixNow messages) := by
  have hle := Liveness.inboundTotal_forward d client unixNow messages
  have hmark : (d.forward client unixNow messages).inboundAtProbe = d.inboundAtProbe := by
    rw [Driver.forward_eq]
  have hrounds : (d.forward client unixNow messages).silentRounds = d.silentRounds := by
    rw [Driver.forward_eq]
  have hlocals : (d.forward client unixNow messages).sender = d.sender ∧
      (d.forward client unixNow messages).own = d.own := by
    rw [Driver.forward_eq]
    exact ⟨rfl, rfl⟩
  constructor
  · exact h.status.trans (polled_forward client unixNow messages).symm
  · exact h.built.trans (Driver.built_forward d client unixNow messages).symm
  · exact h.sender.trans hlocals.1.symm
  · exact h.own.trans hlocals.2.symm
  · exact h.silentRounds.trans hrounds.symm
  · rw [h.phase, hphase, calm_forward]
  · rw [h.inFlight, Driver.inFlight_forward]
  · rw [h.unmarked, hmark]
  · exact h.unanswered
  · intro mark heq
    exact (h.seen mark (hmark.symm.trans heq)).trans hle

/-- A reply is counted with what arrives along with it. -/
theorem Alike.reply (h : Alike answered l d) (hphase : d.phase = .serving client)
    (hmessages : messages ≠ []) :
    Alike true (l.forward client 0 [[]]) (d.forward client unixNow messages) := by
  have hforward := h.forward client unixNow messages (by rw [hphase]; rfl)
  have hlt := inboundTotal_lt_forward (d := d) client unixNow messages hmessages
  have hmark : (d.forward client unixNow messages).inboundAtProbe = d.inboundAtProbe := by
    rw [Driver.forward_eq]
  have htotal : (l.forward client 0 [[]]).status.inboundTotal = l.status.inboundTotal + 1 := by
    simp [Driver.forward, MixnetStatus.inboundTotal, MixnetStatus.recordInbound]
    omega
  refine { hforward with
    status := hforward.status
    phase := (calm_forward client unixNow messages).symm
    unanswered := fun mark heq => ?_
    seen := fun mark heq => ?_ }
  · have hunanswered := h.unanswered mark heq
    rw [if_pos rfl, htotal]
    cases answered with
    | true =>
      rw [if_pos rfl] at hunanswered
      omega
    | false =>
      simp only [Bool.false_eq_true, if_false] at hunanswered
      omega
  · have hseen := h.seen mark (hmark.symm.trans heq)
    simp only [Bool.toNat_true]
    omega

end Messages

/-! ## The lifecycle of a run -/

theorem ports_initial {l : Mixnet} (h : l.transport = .initial) :
    l.ports = ⟨.empty, .empty, l.link⟩ := by
  unfold Mixnet.ports
  rw [h]
  rfl

/-- What a driver's step makes of the lifecycle of the tasks. -/
theorem follows_of_matches {l : Mixnet} {s : Polled} {answered : Bool} {e e' : Driver.Event}
    (h : Follows l s) (htick : e = .tick ↔ e' = .tick)
    (hmatches : ¬ (e' = .tick ∧ s.mixnet.now < s.mixnet.probeAt) →
      Matches answered (l.driver.step l.ports e) (s.mixnet.driver.step s.mixnet.ports e')) :
    (l.step (.driver e) = none ∧ s.mixnet.step (.driver e') = none) ∨
      ∃ l' o s' o', l.step (.driver e) = some (l', o) ∧
        s.mixnet.step (.driver e') = some (s', o') ∧
        Follows { l' with transport := .initial } ⟨s', answered⟩ := by
  simp only [Mixnet.step, htick, h.now, h.probeAt]
  by_cases hearly : e' = .tick ∧ s.mixnet.now < s.mixnet.probeAt
  · exact .inl ⟨if_pos hearly, if_pos hearly⟩
  · have hmatches := hmatches hearly
    simp only [if_neg hearly]
    cases hl : l.driver.step l.ports e with
    | none =>
      cases hd : s.mixnet.driver.step s.mixnet.ports e' with
      | none => exact .inl ⟨rfl, rfl⟩
      | some out => simp [hl, hd, Matches] at hmatches
    | some out =>
      cases hd : s.mixnet.driver.step s.mixnet.ports e' with
      | none => simp [hl, hd, Matches] at hmatches
      | some out' =>
        simp only [hl, hd, Matches] at hmatches
        rcases hmatches with ⟨halike, hlink⟩
        have hprobe : l.nextProbe out.1 e = s.mixnet.nextProbe out'.1 e' := by
          simp only [Mixnet.nextProbe, htick, h.now, h.probeAt, h.driver.built, halike.built]
        exact .inr ⟨_, _, _, _, rfl, rfl, rfl, h.published, h.now, h.supervisor, hlink,
          hprobe, halike⟩

theorem Follows.pass {l : Mixnet} {s : Polled} (h : Follows l s) (d : Nat) :
    Follows (quiet l (.pass d)) ⟨(s.mixnet.poll (.pass d)).1, s.answered⟩ :=
  ⟨rfl, h.published, congrArg (· + d) h.now, h.supervisor, h.link, h.probeAt, h.driver⟩

theorem Follows.offer {l : Mixnet} {s s' : Polled} {o : Offer} {t : List Mixnet.Observed}
    (h : Follows l s) (hunread : s.Unread (.driver o)) (hstep : s.step (.driver o) = some (s', t)) :
    Follows (quiet l (.driver o)) s' := by
  simp only [step] at hstep
  split_ifs at hstep with hengaged
  have hports := ports_initial h.transport
  have hmatches (hdue : ¬ (o.event = .tick ∧ s.mixnet.now < s.mixnet.probeAt)) :
      Matches (afterOffer s.answered o) (l.driver.step l.ports o.event)
        (s.mixnet.driver.step s.mixnet.ports o.event) := by
    apply matches_offer h.driver
    · rw [hports]
      exact h.link
    · exact Bool.eq_false_iff.mpr hengaged
    · rw [hports]
      rfl
    · intro heq hticks
      subst heq
      have hlate : ¬ s.mixnet.now < s.mixnet.probeAt := fun hearly => hdue ⟨rfl, hearly⟩
      apply hunread
      simpa [Mixnet.step, hlate] using hticks
  unfold quiet Mixnet.poll
  rcases follows_of_matches h Iff.rfl hmatches with ⟨hl, hs⟩ | ⟨l', out, s₁, out', hl, hs, hfollows⟩
  · rw [hs] at hstep
    cases hstep
    simp only [Life.event, hl]
    exact ⟨rfl, h.published, h.now, h.supervisor, h.link, h.probeAt, h.driver⟩
  · rw [hs] at hstep
    cases hstep
    simp only [Life.event, hl]
    exact hfollows

/-- A reply arrives where it is waited for, or nowhere. -/
theorem Follows.reply {l : Mixnet} {s s' : Polled} {messages : List Bytes} {unixNow : Nat}
    {t : List Mixnet.Observed} (h : Follows l s)
    (hstep : s.step (.arrive true messages unixNow) = some (s', t)) :
    Follows (quiet l .reply) s' := by
  simp only [step] at hstep
  split_ifs at hstep with hbusy
  simp only [true_and, not_or, Bool.not_eq_true, not_not] at hbusy
  have hports := ports_initial h.transport
  have hmessages : messages ≠ [] := List.ne_nil_of_mem hbusy.2
  have hmatches (_ : ¬ (Driver.Event.arrive (some messages) unixNow = .tick ∧
        s.mixnet.now < s.mixnet.probeAt)) :
      Matches true (l.driver.step l.ports (.arrive (some [[]]) 0))
        (s.mixnet.driver.step s.mixnet.ports (.arrive (some messages) unixNow)) := by
    have hl := h.driver.phase_eq hbusy.1
    cases hd : s.mixnet.driver.phase with
    | serving client =>
      simp only [Driver.step, hl, hd]
      exact ⟨h.driver.reply client unixNow messages hd hmessages, by rw [hports]; exact h.link⟩
    | disconnecting client stop => cases stop <;> simp [Driver.step, hl, hd, Matches]
    | _ => simp [Driver.step, hl, hd, Matches]
  unfold quiet Mixnet.poll
  rcases follows_of_matches h (by simp) hmatches with
    ⟨hl, hs⟩ | ⟨l', out, s₁, out', hl, hs, hfollows⟩
  · rw [hs] at hstep
    cases hstep
    simp only [Life.event, hl]
    exact ⟨rfl, h.published, h.now, h.supervisor, h.link, h.probeAt, h.driver⟩
  · rw [hs] at hstep
    cases hstep
    simp only [Life.event, hl, Bool.or_true]
    exact hfollows

/-- A rotation that does not wait for requests reads no count. -/
theorem rotate_unread (supervisor : Supervisor) {now inflight : Nat}
    (h : inflight = 0 ∨ supervisor.deadline now ≤ now) :
    (supervisor.rotate now inflight).1 = (supervisor.rotate now 0).1 := by
  have hgoes : ¬ (inflight ≠ 0 ∧ now < supervisor.deadline now) := by omega
  have hgoes' : ¬ ((0 : Nat) ≠ 0 ∧ now < supervisor.deadline now) := by omega
  simp only [Supervisor.rotate, if_neg hgoes, if_neg hgoes']

/-- Only a wake reads the count. -/
theorem supervisor_step_eq (supervisor : Supervisor) (now inflight : Nat) (link : Link)
    {e : Supervisor.Event} (h : e ≠ .wake) :
    supervisor.step now 0 link e = supervisor.step now inflight link e := by
  unfold Supervisor.step
  cases e with
  | wake => exact absurd rfl h
  | signal | shutdown | hear | sent | rested => cases supervisor.phase <;> rfl

/-- The supervisor does the same whatever is in flight, but for a rotation. -/
theorem supervisor_unread (supervisor : Supervisor) (now inflight : Nat) (link : Link)
    (e : Supervisor.Event)
    (h : e = .wake → (supervisor.step now inflight link .wake).isSome = true →
      inflight = 0 ∨ supervisor.deadline now ≤ now) :
    (supervisor.step now 0 link e).map (fun out => (out.1, out.2.1)) =
      (supervisor.step now inflight link e).map fun out => (out.1, out.2.1) := by
  by_cases hwake : e = .wake
  · subst hwake
    unfold Supervisor.step
    cases hphase : supervisor.phase with
    | watching wake =>
      cases wake with
      | none => rfl
      | some wake =>
        simp only
        by_cases hdue : wake ≤ now
        · have hunread := h rfl (by simp [Supervisor.step, hphase, hdue])
          simp [hdue, rotate_unread supervisor hunread]
        · simp [hdue]
    | _ => rfl
  · rw [supervisor_step_eq supervisor now inflight link hwake]

theorem Follows.supervisor_step {l : Mixnet} {s : Polled} {e : Supervisor.Event}
    (h : Follows l s) (hunread : s.Unread (.supervisor e)) :
    Follows (quiet l (.supervisor e))
      ⟨(s.mixnet.poll (.supervisor e)).1, s.answered⟩ := by
  have hsame := supervisor_unread s.mixnet.supervisor s.mixnet.now s.mixnet.published
    s.mixnet.link e (fun heq hwakes => by
      subst heq
      apply hunread
      simpa [Mixnet.step] using hwakes)
  unfold quiet Mixnet.poll
  simp only [Life.event, Mixnet.step, h.supervisor, h.now, h.link, h.published]
  cases hl : s.mixnet.supervisor.step s.mixnet.now 0 s.mixnet.link e with
  | none =>
    cases hs : s.mixnet.supervisor.step s.mixnet.now s.mixnet.published
        s.mixnet.link e with
    | none => exact ⟨rfl, h.published, h.now, h.supervisor, h.link, h.probeAt, h.driver⟩
    | some out => simp [hl, hs] at hsame
  | some out =>
    cases hs : s.mixnet.supervisor.step s.mixnet.now s.mixnet.published
        s.mixnet.link e with
    | none => simp [hl, hs] at hsame
    | some out' =>
      simp only [hl, hs, Option.map_some, Option.some.injEq, Prod.mk.injEq] at hsame
      exact ⟨rfl, rfl, rfl, hsame.1, hsame.2, h.probeAt, h.driver⟩

/-! ## What users cause -/

section Driver

variable {answered : Bool} {l d d' : Driver} {ports ports' : Driver.Ports}
  {o : List Driver.Observed}

/-- What a step that is not the lifecycle's leaves alone. -/
structure Unseen (answered : Bool) (l d : Driver) (ports : Driver.Ports) (d' : Driver)
    (ports' : Driver.Ports) : Prop where
  alike : Alike answered l d'
  link : ports'.link = ports.link
  built : d'.built = d.built

theorem unseen_takeFrame (h : Alike answered l d) (hqueue : ports.outFrames.queue ≠ [])
    (hstep : d.step ports .takeFrame = some (d', ports', o)) :
    Unseen answered l d ports d' ports' := by
  unfold Driver.step at hstep
  cases hd : d.phase with
  | serving client =>
    simp only [hd] at hstep
    split_ifs at hstep with hidle
    unfold Driver.takeFrame at hstep
    cases hrecv : ports.outFrames.recv with
    | item out outFrames =>
      simp only [hrecv] at hstep
      cases hstep
      exact ⟨{ h with inFlight := h.inFlight.trans (by rw [hidle]; rfl) }, rfl, rfl⟩
    | ended => exact absurd (Channel.of_recv_ended hrecv).1 hqueue
    | pending => simp [hrecv] at hstep
  | disconnecting client stop => cases stop <;> simp [hd] at hstep
  | _ => simp [hd] at hstep

theorem unseen_frameSent {accepted : Bool} (h : Alike answered l d)
    (hcarries : carries d.inFlight = true)
    (hstep : d.step ports (.sent accepted) = some (d', ports', o)) :
    Unseen answered l d ports d' ports' := by
  unfold Driver.step at hstep
  cases hd : d.phase with
  | serving client =>
    cases hinFlight : d.inFlight with
    | none => simp [hinFlight, carries] at hcarries
    | some inFlight =>
      cases inFlight with
      | frame out =>
        simp only [hd, hinFlight] at hstep
        cases hstep
        exact ⟨{ h with inFlight := h.inFlight.trans (by rw [hinFlight]; rfl) }, rfl, rfl⟩
      | probe => simp [hinFlight, carries] at hcarries
  | disconnecting client stop => cases stop <;> simp [hd] at hstep
  | _ => simp [hd] at hstep

theorem unseen_delivered {unixNow : Nat} (h : Alike answered l d)
    (hstep : d.step ports (.delivered unixNow) = some (d', ports', o)) :
    Unseen answered l d ports d' ports' := by
  unfold Driver.step at hstep
  cases hd : d.phase with
  | delivering client message rest =>
    have halike := h.forward client unixNow rest (by rw [hd]; rfl)
    have hbuilt := Driver.built_forward d client unixNow rest
    simp only [hd] at hstep
    unfold Driver.passOn at hstep
    split_ifs at hstep with hreceiver
    · cases hsend : ports.inbound.send message with
      | none => simp [hsend] at hstep
      | some inbound =>
        simp only [hsend] at hstep
        cases hstep
        exact ⟨halike, rfl, hbuilt⟩
    · cases hstep
      exact ⟨halike, rfl, hbuilt⟩
  | disconnecting client stop => cases stop <;> simp [hd] at hstep
  | _ => simp [hd] at hstep

theorem unseen_arrive {messages : List Bytes} {unixNow : Nat} (h : Alike answered l d)
    (hstep : d.step ports (.arrive (some messages) unixNow) = some (d', ports', o)) :
    Unseen answered l d ports d' ports' := by
  unfold Driver.step at hstep
  cases hd : d.phase with
  | serving client =>
    simp only [hd] at hstep
    cases hstep
    exact ⟨h.forward client unixNow messages (by rw [hd]; rfl), rfl,
      Driver.built_forward d client unixNow messages⟩
  | disconnecting client stop => cases stop <;> simp [hd] at hstep
  | _ => simp [hd] at hstep

end Driver

/-- A step of the driver that is not the lifecycle's is not seen in it. -/
theorem Follows.unseen {l : Mixnet} {s : Polled} {mixnet : Mixnet} {e : Driver.Event}
    {t : List Mixnet.Observed} (h : Follows l s) (htick : e ≠ .tick)
    (hstep : s.mixnet.step (.driver e) = some (mixnet, t))
    (hunseen : ∀ {driver ports o}, s.mixnet.driver.step s.mixnet.ports e = some (driver, ports, o) →
      Unseen s.answered l.driver s.mixnet.driver s.mixnet.ports driver ports) :
    Follows l ⟨mixnet, s.answered⟩ := by
  simp only [Mixnet.step, htick, false_and, if_false] at hstep
  rcases Option.map_eq_some_iff.mp hstep with ⟨⟨driver, ports, o⟩, hdriver, heq⟩
  cases heq
  rcases hunseen hdriver with ⟨halike, hlink, hbuilt⟩
  have hprobe : s.mixnet.nextProbe driver e = s.mixnet.probeAt := by
    simp [Mixnet.nextProbe, htick, hbuilt]
  exact ⟨h.transport, h.published, h.now, h.supervisor, h.link.trans hlink.symm,
    h.probeAt.trans hprobe.symm, halike⟩

/-- Messages without a reply among them are not seen in the lifecycle. -/
theorem Follows.arrive {l : Mixnet} {s s' : Polled} {messages : List Bytes} {unixNow : Nat}
    {t : List Mixnet.Observed} (h : Follows l s)
    (hstep : s.step (.arrive false messages unixNow) = some (s', t)) : Follows l s' := by
  simp only [step] at hstep
  split at hstep
  · cases hstep
  · cases hmixnet : s.mixnet.step (.driver (.arrive (some messages) unixNow)) with
    | none =>
      rw [hmixnet] at hstep
      cases hstep
      exact h
    | some out =>
      rw [hmixnet] at hstep
      cases hstep
      rw [Bool.or_false]
      exact h.unseen (by simp) hmixnet fun hdriver => unseen_arrive h.driver hdriver

/-- What users cause is not seen in the lifecycle. -/
theorem Follows.traffic {l : Mixnet} {s s' : Polled} {e : Traffic} {t : List Mixnet.Observed}
    (h : Follows l s) (hstep : s.step (.user e) = some (s', t)) : Follows l s' := by
  simp only [step] at hstep
  split_ifs at hstep with howns
  rcases Option.map_eq_some_iff.mp hstep with ⟨⟨mixnet, shown⟩, hmixnet, heq⟩
  cases heq
  cases e with
  | turn a =>
    cases Mixnet.stepped_of_step hmixnet with
    | turn => exact ⟨h.transport, h.published, h.now, h.supervisor, h.link, h.probeAt, h.driver⟩
  | accept parcel =>
    cases Mixnet.stepped_of_step hmixnet with
    | accept => exact ⟨h.transport, h.published, h.now, h.supervisor, h.link, h.probeAt, h.driver⟩
  | abandon slot =>
    cases Mixnet.stepped_of_step hmixnet with
    | abandon => exact ⟨h.transport, h.published, h.now, h.supervisor, h.link, h.probeAt, h.driver⟩
  | store =>
    cases Mixnet.stepped_of_step hmixnet with
    | store => exact ⟨h.transport, h.published, h.now, h.supervisor, h.link, h.probeAt, h.driver⟩
  | takeFrame =>
    have hqueue : s.mixnet.transport.toMixnet.queue ≠ [] := by simpa [owns] using howns
    exact h.unseen (by simp) hmixnet fun hdriver => unseen_takeFrame h.driver hqueue hdriver
  | frameSent accepted =>
    exact h.unseen (by simp) hmixnet fun hdriver => unseen_frameSent h.driver howns hdriver
  | delivered unixNow =>
    exact h.unseen (by simp) hmixnet fun hdriver => unseen_delivered h.driver hdriver

/-! ## The status -/

theorem follows_initial (policy : RotationPolicy) (hubAddresses : List Recipient)
    (gateways : List String) :
    Follows (.initial policy hubAddresses gateways) (initial policy hubAddresses gateways) := by
  refine ⟨rfl, rfl, rfl, rfl, rfl, rfl, ⟨rfl, rfl, rfl, rfl, rfl, rfl, rfl, Iff.rfl, ?_, ?_⟩⟩
  · intro mark hmark
    cases hmark
  · intro mark hmark
    cases hmark

/-- Where nothing reads the traffic, the lifecycle is that of the tasks without any. -/
theorem unwinding : Unwinding (guarded step Unread) Happening.life? quiet Follows where
  seen := by
    intro l s e a s' t h hlife hstep
    rcases of_guarded hstep with ⟨hunread, hstep⟩
    cases e with
    | pass d =>
      cases hlife
      cases hstep
      exact h.pass d
    | driver o =>
      cases hlife
      exact h.offer hunread hstep
    | supervisor e =>
      cases hlife
      cases hstep
      exact h.supervisor_step hunread
    | arrive reply messages unixNow =>
      cases reply with
      | false => cases hlife
      | true =>
        cases hlife
        exact h.reply hstep
    | user e => cases hlife
  unseen := by
    intro l s e s' t h hlife hstep
    rcases of_guarded hstep with ⟨-, hstep⟩
    cases e with
    | pass d => cases hlife
    | driver o => cases hlife
    | supervisor e => cases hlife
    | arrive reply messages unixNow =>
      cases reply with
      | false => exact h.arrive hstep
      | true => cases hlife
    | user e => exact h.traffic hstep

/-- Two runs with one lifecycle, whose traffic is not read, show one status. -/
theorem status_blind {policy : RotationPolicy} {hubAddresses : List Recipient}
    {gateways : List String} {es₁ es₂ : List Happening} {s₁ s₂ : Polled}
    {t₁ t₂ : List Mixnet.Observed}
    (h₁ : execute (guarded step Unread) (initial policy hubAddresses gateways) es₁ = some (s₁, t₁))
    (h₂ : execute (guarded step Unread) (initial policy hubAddresses gateways) es₂ = some (s₂, t₂))
    (hsame : es₁.filterMap Happening.life? = es₂.filterMap Happening.life?) :
    s₁.status.toJson = s₂.status.toJson ∧ s₁.status.isHealthy = s₂.status.isHealthy := by
  have hinitial := follows_initial policy hubAddresses gateways
  rcases unwinding.sameView hinitial hinitial h₁ h₂ hsame with ⟨l, hfirst, hsecond⟩
  have hpolled : s₁.status.polled = s₂.status.polled :=
    hfirst.driver.status.symm.trans hsecond.driver.status
  exact ⟨MixnetStatus.toJson_eq_of_polled hpolled, MixnetStatus.isHealthy_eq_of_polled hpolled⟩

/-- A first connect, its probe, and a rotation due after forty-five seconds. -/
def rotating : List Happening × List Happening :=
  ([.driver (.start 0), .driver (.built (some "us")), .driver .tick, .driver (.probeSent true)],
    [.pass (seconds 45), .supervisor .wake, .supervisor .sent, .driver .command,
      .driver .disconnected])

/-- A lookup that is sent and waited for. -/
def waitedFor : List Happening :=
  [.user (.turn .reserve), .user (.accept ⟨List.Vector.replicate 16 0, [1], 60, .lookup, 0⟩),
    .user (.turn .receive), .user .store, .user .takeFrame, .user (.frameSent true)]

/-- And its caller gone, and the loop turned, before the rotation comes due. -/
def waitedForNoMore : List Happening :=
  waitedFor ++ [.user (.abandon 0), .user (.turn .timer), .user .store]

/-- A rotation that comes due after a lookup, or without one. -/
theorem status_blind_rotation : ∃ s₁ s₂ t₁ t₂,
    execute (guarded step Unread) (initial (rotationPolicy (some 45) none) ["hub"] [])
        (rotating.1 ++ rotating.2) = some (s₁, t₁) ∧
      execute (guarded step Unread) (initial (rotationPolicy (some 45) none) ["hub"] [])
        (rotating.1 ++ waitedForNoMore ++ rotating.2) = some (s₂, t₂) ∧
      s₁.status.deaths = 1 ∧ s₁.status.toJson = s₂.status.toJson ∧
      s₁.status.isHealthy = s₂.status.isHealthy := by
  obtain ⟨s₁, t₁, h₁, hdeaths⟩ : ∃ s₁ t₁,
      execute (guarded step Unread) (initial (rotationPolicy (some 45) none) ["hub"] [])
        (rotating.1 ++ rotating.2) = some (s₁, t₁) ∧ s₁.status.deaths = 1 := ⟨_, _, rfl, rfl⟩
  obtain ⟨s₂, t₂, h₂⟩ : ∃ s₂ t₂,
      execute (guarded step Unread) (initial (rotationPolicy (some 45) none) ["hub"] [])
        (rotating.1 ++ waitedForNoMore ++ rotating.2) = some (s₂, t₂) := ⟨_, _, rfl⟩
  exact ⟨s₁, s₂, t₁, t₂, h₁, h₂, hdeaths, status_blind h₁ h₂ rfl⟩

/-- Not so where the lookup is still waited for: the rotation waits, and the status stays. -/
theorem status_reveals : ¬ ∀ policy hubAddresses gateways es₁ es₂ s₁ s₂ t₁ t₂,
    execute step (initial policy hubAddresses gateways) es₁ = some (s₁, t₁) →
      execute step (initial policy hubAddresses gateways) es₂ = some (s₂, t₂) →
      es₁.filterMap Happening.life? = es₂.filterMap Happening.life? →
      s₁.status.toJson = s₂.status.toJson ∧ s₁.status.isHealthy = s₂.status.isHealthy := by
  intro h
  obtain ⟨s₁, t₁, h₁, hdown⟩ : ∃ s₁ t₁,
      execute step (initial (rotationPolicy (some 45) none) ["hub"] [])
        (rotating.1 ++ rotating.2) = some (s₁, t₁) ∧ s₁.status.isHealthy = false :=
    ⟨_, _, rfl, rfl⟩
  obtain ⟨s₂, t₂, h₂, hup⟩ : ∃ s₂ t₂,
      execute step (initial (rotationPolicy (some 45) none) ["hub"] [])
        (rotating.1 ++ waitedFor ++ rotating.2) = some (s₂, t₂) ∧ s₂.status.isHealthy = true :=
    ⟨_, _, rfl, rfl⟩
  have hsame := (h _ _ _ _ _ _ _ _ _ h₁ h₂ rfl).2
  rw [hdown, hup] at hsame
  cases hsame

end Polled

end Nym
end ZeroShim
