import ZeroShim.Nym.Mixnet

/-!
# Which client a rebuild disconnects

Commands and events carry no generation: a {lit}`Rebuild` executes against whichever
client the driver then holds.  The ledger of a trace says what each of them on its way
was sent for.

Main results:

- Theorem {lit}`accurate_of_runs`: the ledger has one entry for each message on its way.
- Theorem {lit}`rotation_disconnectsFresh`: a rotation asked for during a build
  disconnects the client that the build makes.
- Theorem {lit}`rebuild_disconnectsOwn`: where no build completes with a request for a
  rebuild on its way, no rebuild disconnects a client newer than what it was sent for.
-/

namespace ZeroShim
namespace Nym

open Library Transport

namespace Mixnet

/-! ## The ledger -/

/-- What a rebuild was sent for. -/
inductive Provenance where
  /-- The death of a client, or a build that failed. -/
  | death (client : Option Nat)
  /-- A rotation, when so many clients had been built. -/
  | rotation (built : Nat)
deriving DecidableEq, Repr

/-- A client that a rebuild may disconnect: the one that died, or one that was there
when the rotation was sent. -/
def Provenance.Allows (client : Client) : Provenance → Prop
  | .death dead => dead = some client.number
  | .rotation built => client.number < built

/-- What the messages on their way were sent for, in order. -/
structure Ledger where
  built : Nat
  /-- The clients that the deaths not yet heard of were reported for. -/
  deaths : List (Option Nat)
  /-- The one being answered. -/
  answering : Option Nat
  rebuilds : List Provenance
deriving DecidableEq, Repr

def Ledger.note (ledger : Ledger) : Observed → Ledger
  | .driver (.connected _) => { ledger with built := ledger.built + 1 }
  | .driver (.reported client) =>
    { ledger with deaths := ledger.deaths ++ [client.map Client.number] }
  | .supervisor .heard =>
    { ledger with deaths := ledger.deaths.tail, answering := ledger.deaths.head?.getD none }
  | .supervisor (.asked .death) =>
    { ledger with rebuilds := ledger.rebuilds ++ [.death ledger.answering] }
  | .supervisor (.asked .rotation) =>
    { ledger with rebuilds := ledger.rebuilds ++ [.rotation ledger.built] }
  | .driver (.told .rebuild _) => { ledger with rebuilds := ledger.rebuilds.tail }
  | _ => ledger

/-- The ledger of a trace. -/
def ledger (t : List Observed) : Ledger := t.foldl Ledger.note ⟨0, [], none, []⟩

section Parts

variable (t : List Observed)

theorem ledger_append (o : List Observed) : ledger (t ++ o) = o.foldl Ledger.note (ledger t) :=
  List.foldl_append

theorem note_transport (ledger : Ledger) (o : List Nym.Observed) :
    (o.map Observed.transport).foldl Ledger.note ledger = ledger := by
  induction o with
  | nil => rfl
  | cons x o ih => exact ih

/-- What the driver shows of anything but clients and messages is not in the ledger. -/
theorem note_driver (ledger : Ledger) {o : List Driver.Observed}
    (h : ∀ x ∈ o, x.linked = false) :
    (o.map Observed.driver).foldl Ledger.note ledger = ledger := by
  induction o with
  | nil => rfl
  | cons x o ih =>
    have hx := h x List.mem_cons_self
    have hnote : ledger.note (.driver x) = ledger := by
      cases x with
      | told command client => cases command <;> simp_all [Driver.Observed.linked, Ledger.note]
      | connected | reported => simp [Driver.Observed.linked] at hx
      | _ => rfl
    rw [List.map_cons, List.foldl_cons, hnote]
    exact ih fun y hy => h y (List.mem_cons_of_mem _ hy)

end Parts

/-! ## Its entries are the messages on their way -/

/-- The ledger has an entry for each message that can still be received. -/
structure Accurate (ledger : Ledger) (s : Mixnet) : Prop where
  built : ledger.built = s.driver.built
  deaths : s.supervisor.phase ≠ .returned → ledger.deaths.length = s.link.events.queue.length
  rebuilds : s.driver.phase ≠ .returned →
    ledger.rebuilds.length = s.link.commands.queue.count .rebuild

theorem Accurate.driver {ledger : Ledger} {s : Mixnet} {driver : Driver}
    {ports : Driver.Ports} {e : Driver.Event} {o : List Driver.Observed} (h : Accurate ledger s)
    (hstepped : Driver.Stepped s.ports s.driver e driver ports o) :
    Accurate ((o.map .driver).foldl Ledger.note ledger) (s.withDriver driver ports e) := by
  have hrebuilds := h.rebuilds (Driver.running_of_stepped hstepped)
  have hlinked := Driver.linked_of_stepped hstepped
  simp only [Mixnet.ports] at hlinked
  generalize hlink : ports.link = link at hlinked
  cases hlinked with
  | quiet hbuilt hclient hquiet =>
    rw [note_driver ledger hquiet]
    exact ⟨h.built.trans hbuilt.symm, by simpa [withDriver, hlink] using h.deaths,
      fun _ => by simpa [withDriver, hlink] using hrebuilds⟩
  | connect hbuilding hbuilt hclient =>
    exact ⟨by simp [Ledger.note, withDriver, hbuilt, h.built],
      by simpa [withDriver, hlink, Ledger.note] using h.deaths,
      fun _ => by simpa [withDriver, hlink, Ledger.note] using hrebuilds⟩
  | report hreceiver hsend hbuilt hclient =>
    refine ⟨h.built.trans hbuilt.symm, fun hrunning => ?_,
      fun _ => by simpa [withDriver, hlink, Ledger.note] using hrebuilds⟩
    simpa [withDriver, hlink, Ledger.note, Channel.queue_of_send hsend] using h.deaths hrunning
  | rebuild hrecv hbuilt hclient hquiet =>
    rw [List.map_cons, List.foldl_cons, note_driver _ hquiet]
    refine ⟨h.built.trans hbuilt.symm, by simpa [withDriver, hlink, Ledger.note] using h.deaths,
      fun _ => ?_⟩
    rw [Channel.queue_of_recv hrecv, List.count_cons_self] at hrebuilds
    simp [withDriver, hlink, Ledger.note, hrebuilds]
  | disconnect hrecv hbuilt hclient hquiet =>
    rw [note_driver ledger hquiet]
    refine ⟨h.built.trans hbuilt.symm, by simpa [withDriver, hlink] using h.deaths, fun _ => ?_⟩
    rw [Channel.queue_of_recv hrecv] at hrebuilds
    simpa [withDriver, hlink] using hrebuilds
  | leave hreturned hbuilt hevents hquiet =>
    rw [note_driver ledger hquiet]
    refine ⟨h.built.trans hbuilt.symm, fun hrunning => ?_, fun hrunning => ?_⟩
    · simpa [withDriver, hlink, hevents] using h.deaths hrunning
    · exact absurd hreturned hrunning

/-- What comes due and goes ahead is not in the ledger. -/
theorem note_rotate (ledger : Ledger) (supervisor : Supervisor) (now inflight : Nat) :
    ((supervisor.rotate now inflight).2.map Observed.supervisor).foldl Ledger.note ledger =
      ledger := by
  unfold Supervisor.rotate Supervisor.comesDue
  split_ifs <;> rfl

theorem Accurate.supervisor {ledger : Ledger} {s : Mixnet} {supervisor : Supervisor}
    {link : Link} {o : List Supervisor.Observed} (h : Accurate ledger s)
    (hstepped : Supervisor.Stepped s.now s.published s.link s.supervisor supervisor
      link o) :
    Accurate ((o.map .supervisor).foldl Ledger.note ledger)
      { s with supervisor := supervisor, link := link } := by
  cases hstepped with
  | signal => exact ⟨h.built, h.deaths, h.rebuilds⟩
  | shutdown hrunning hshutdown => exact ⟨h.built, fun _ => h.deaths hrunning, h.rebuilds⟩
  | hear hphase hrecv =>
    refine ⟨h.built, fun _ => ?_, h.rebuilds⟩
    have hdeaths := h.deaths (by simp [hphase])
    rw [Channel.queue_of_recv hrecv, List.length_cons] at hdeaths
    simp [Ledger.note, hdeaths]
  | rotate hphase hwake =>
    rw [note_rotate]
    exact ⟨h.built, fun _ => h.deaths (by simp [hphase]), h.rebuilds⟩
  | @asked cause commands hphase hreceiver hsend =>
    have hdeaths := h.deaths (by simp [hphase])
    cases cause with
    | death | rotation =>
      refine ⟨h.built, fun _ => hdeaths, fun hrunning => ?_⟩
      simp [Ledger.note, Channel.queue_of_send hsend, h.rebuilds hrunning]
  | rested hphase htill => exact ⟨h.built, fun _ => h.deaths (by simp [hphase]), h.rebuilds⟩
  | stopped hphase hreceiver hsend =>
    refine ⟨h.built, fun hrunning => absurd rfl hrunning, fun hrunning => ?_⟩
    simp [Ledger.note, Channel.queue_of_send hsend, h.rebuilds hrunning]
  | returned hrunning =>
    exact ⟨h.built, fun hstill => absurd rfl hstill, fun hdriver => h.rebuilds hdriver⟩

/-- Every step keeps the ledger accurate. -/
theorem Accurate.step {ledger : Ledger} {s s' : Mixnet} {e : Event} {o : List Observed}
    (h : Accurate ledger s) (hstep : s.step e = some (s', o)) :
    Accurate (o.foldl Ledger.note ledger) s' := by
  cases stepped_of_step hstep with
  | turn hturn =>
    rw [note_transport]
    exact ⟨h.built, h.deaths, h.rebuilds⟩
  | pass | accept | abandon | closeRequests | store => exact ⟨h.built, h.deaths, h.rebuilds⟩
  | driver htick hdriver => exact h.driver (Driver.stepped_of_step hdriver)
  | supervisor hsupervisor => exact h.supervisor (Supervisor.stepped_of_step hsupervisor)

section Reachable

variable {policy : RotationPolicy} {hubAddresses : List Recipient} {gateways : List String}

theorem accurate_of_runs {s : Mixnet} {t : List Observed}
    (h : Runs step (initial policy hubAddresses gateways) t s) : Accurate (ledger t) s := by
  refine h.invariant (P := fun t s => Accurate (ledger t) s)
    ⟨rfl, fun _ => rfl, fun _ => rfl⟩ ?_
  intro t s e o s' _ ih hstep
  rw [ledger_append]
  exact ih.step hstep

end Reachable

/-! ## Nothing stale on its way -/

/-- Whatever is on its way towards a rebuild allows a client. -/
structure Fresh (ledger : Ledger) (s : Mixnet) (client : Client) : Prop where
  number : client.number < s.driver.built
  deaths : s.supervisor.phase ≠ .returned → ∀ dead ∈ ledger.deaths, dead = some client.number
  answering : s.supervisor.phase = .asking .death → ledger.answering = some client.number
  rebuilds : ∀ provenance ∈ ledger.rebuilds, provenance.Allows client

/-- Nothing that asks for a rebuild is on its way. -/
def Settled (s : Mixnet) : Prop :=
  s.link.events.queue = [] ∧ .rebuild ∉ s.link.commands.queue ∧
    s.supervisor.phase ≠ .asking .death

instance (s : Mixnet) : Decidable (Settled s) := by unfold Settled; infer_instance

/-- A build completes only with nothing on its way that asks for a rebuild. -/
def CompletesSettled (s : Mixnet) : Event → Prop
  | .driver (.built (some _)) => Settled s
  | _ => True

instance (s : Mixnet) (e : Event) : Decidable (CompletesSettled s e) := by
  unfold CompletesSettled
  split <;> infer_instance

/-- What the driver does while its client stays. -/
theorem Fresh.driver {ledger : Ledger} {s : Mixnet} {driver : Driver} {ports : Driver.Ports}
    {e : Driver.Event} {o : List Driver.Observed} {client : Client}
    (hfresh : ∀ client, s.driver.phase.client? = some client → Fresh ledger s client)
    (haccurate : Accurate ledger s) (hsettled : CompletesSettled s (.driver e))
    (hstepped : Driver.Stepped s.ports s.driver e driver ports o)
    (hclient : driver.phase.client? = some client) :
    Fresh ((o.map .driver).foldl Ledger.note ledger) (s.withDriver driver ports e) client := by
  have hrunning := Driver.running_of_stepped hstepped
  have hlinked := Driver.linked_of_stepped hstepped
  simp only [Mixnet.ports] at hlinked
  generalize ports.link = link at hlinked
  cases hlinked with
  | quiet hbuilt hheld hquiet =>
    have h := hfresh client (hheld client hclient)
    rw [note_driver ledger hquiet]
    exact ⟨by simpa [withDriver, hbuilt] using h.number, h.deaths, h.answering, h.rebuilds⟩
  | connect hbuilding hbuilt hnew =>
    rw [hnew] at hclient
    cases hclient
    rcases hsettled with ⟨hevents, hcommands, hasking⟩
    have hrebuilds : ledger.rebuilds = [] := by
      rw [← List.length_eq_zero_iff, haccurate.rebuilds hrunning, List.count_eq_zero]
      exact hcommands
    constructor
    · simp [withDriver, hbuilt]
    · intro hstill
      have hdeaths := haccurate.deaths hstill
      rw [hevents, List.length_nil, List.length_eq_zero_iff] at hdeaths
      simp [Ledger.note, hdeaths]
    · exact fun hasks => absurd hasks hasking
    · simp [Ledger.note, hrebuilds]
  | report hreceiver hsend hbuilt hheld =>
    rcases hheld client hclient with ⟨rfl, hbefore⟩
    have h := hfresh client hbefore
    refine ⟨by simpa [withDriver, hbuilt] using h.number, fun hstill dead hdead => ?_,
      h.answering, h.rebuilds⟩
    simp only [List.map_cons, List.map_nil, List.foldl_cons, List.foldl_nil, Ledger.note,
      Option.map_some, List.mem_append, List.mem_singleton] at hdead
    rcases hdead with hdead | rfl
    · exact h.deaths hstill dead hdead
    · rfl
  | rebuild hrecv hbuilt hheld hquiet =>
    have h := hfresh client (hheld client hclient)
    rw [List.map_cons, List.foldl_cons, note_driver _ hquiet]
    refine ⟨by simpa [withDriver, hbuilt] using h.number, h.deaths, h.answering, ?_⟩
    exact fun provenance hmem => h.rebuilds provenance (List.mem_of_mem_tail hmem)
  | disconnect hrecv hbuilt hheld hquiet =>
    have h := hfresh client (hheld client hclient)
    rw [note_driver ledger hquiet]
    exact ⟨by simpa [withDriver, hbuilt] using h.number, h.deaths, h.answering, h.rebuilds⟩
  | leave hreturned =>
    rw [hreturned] at hclient
    cases hclient

/-- What the supervisor does. -/
theorem Fresh.supervisor {ledger : Ledger} {s : Mixnet} {supervisor : Supervisor} {link : Link}
    {o : List Supervisor.Observed} {client : Client} (h : Fresh ledger s client)
    (haccurate : Accurate ledger s)
    (hstepped : Supervisor.Stepped s.now s.published s.link s.supervisor supervisor
      link o) :
    Fresh ((o.map .supervisor).foldl Ledger.note ledger)
      { s with supervisor := supervisor, link := link } client := by
  cases hstepped with
  | signal => exact ⟨h.number, h.deaths, h.answering, h.rebuilds⟩
  | shutdown hrunning hshutdown =>
    exact ⟨h.number, fun _ => h.deaths hrunning, by simp, h.rebuilds⟩
  | hear hphase hrecv =>
    have hdeaths := h.deaths (by simp [hphase])
    have hlength := haccurate.deaths (by simp [hphase])
    rw [Channel.queue_of_recv hrecv, List.length_cons] at hlength
    rcases List.exists_cons_of_length_eq_add_one hlength with ⟨dead, rest, hledger⟩
    refine ⟨h.number, fun _ => ?_, fun _ => ?_, h.rebuilds⟩
    · exact fun other hmem => hdeaths other (List.mem_of_mem_tail hmem)
    · simp [Ledger.note, hledger, hdeaths dead (by simp [hledger])]
  | rotate hphase hwake =>
    rw [note_rotate]
    refine ⟨h.number, fun _ => h.deaths (by simp [hphase]), fun hasking => ?_, h.rebuilds⟩
    unfold Supervisor.rotate at hasking
    split_ifs at hasking <;> cases hasking
  | @asked cause commands hphase hreceiver hsend =>
    have hdeaths := h.deaths (by simp [hphase])
    cases cause with
    | death =>
      refine ⟨h.number, fun _ => hdeaths, by simp [Supervisor.afterAsking], ?_⟩
      intro provenance hmem
      rcases List.mem_append.mp hmem with hmem | hmem
      · exact h.rebuilds provenance hmem
      · rw [List.mem_singleton.mp hmem]
        exact h.answering hphase
    | rotation =>
      refine ⟨h.number, fun _ => hdeaths,
        by simp [Supervisor.afterAsking, Supervisor.restart, Supervisor.watch], ?_⟩
      intro provenance hmem
      rcases List.mem_append.mp hmem with hmem | hmem
      · exact h.rebuilds provenance hmem
      · rw [List.mem_singleton.mp hmem]
        exact haccurate.built ▸ h.number
  | rested hphase htill =>
    exact ⟨h.number, fun _ => h.deaths (by simp [hphase]),
      by simp [Supervisor.restart, Supervisor.watch], h.rebuilds⟩
  | stopped hphase hreceiver hsend =>
    exact ⟨h.number, fun hstill => absurd rfl hstill, by simp, h.rebuilds⟩
  | returned hrunning =>
    exact ⟨h.number, fun hstill => absurd rfl hstill, by simp [Supervisor.leave], h.rebuilds⟩

/-- Where no build completes with a request for a rebuild on its way, everything on its
way allows the client held. -/
theorem fresh_of_runs {policy : RotationPolicy} {hubAddresses : List Recipient}
    {gateways : List String} {s : Mixnet} {t : List Observed}
    (h : Runs (guarded step CompletesSettled) (initial policy hubAddresses gateways) t s)
    {client : Client} (hclient : s.driver.phase.client? = some client) :
    Fresh (ledger t) s client := by
  refine h.invariant (P := fun t s => ∀ client, s.driver.phase.client? = some client →
    Fresh (ledger t) s client) (by simp [initial, Driver.initial, Driver.Phase.client?]) ?_
    client hclient
  intro t s e o s' hrun ih hlast client hclient
  rcases of_guarded hlast with ⟨hsettled, hstep⟩
  have haccurate := accurate_of_runs hrun.of_guarded
  rw [ledger_append]
  cases stepped_of_step hstep with
  | turn hturn =>
    have hbefore := ih client hclient
    rw [note_transport]
    exact ⟨hbefore.number, hbefore.deaths, hbefore.answering, hbefore.rebuilds⟩
  | pass | accept | abandon | closeRequests | store =>
    have hbefore := ih client hclient
    exact ⟨hbefore.number, hbefore.deaths, hbefore.answering, hbefore.rebuilds⟩
  | driver htick hdriver =>
    exact Fresh.driver ih haccurate hsettled (Driver.stepped_of_step hdriver) hclient
  | supervisor hsupervisor =>
    exact (ih client hclient).supervisor haccurate (Supervisor.stepped_of_step hsupervisor)

/-! ## Which client a rebuild disconnects -/

/-- A rebuild that executes while a client is held was sent for something that allows
that client to be disconnected. -/
def DisconnectsOwn (t : List Observed) (s : Mixnet) : Prop :=
  ∀ e s' o client, s.step e = some (s', o) → .driver (.told .rebuild (some client)) ∈ o →
    ∃ provenance rest, (ledger t).rebuilds = provenance :: rest ∧ provenance.Allows client

/-- A rebuild that a driver was told of was the next one on its way. -/
theorem of_told {s s' : Mixnet} {e : Event} {o : List Observed} {client : Client}
    (hstep : s.step e = some (s', o)) (hmem : .driver (.told .rebuild (some client)) ∈ o) :
    s.driver.phase ≠ .returned ∧ s.driver.phase.client? = some client ∧
      .rebuild ∈ s.link.commands.queue := by
  cases stepped_of_step hstep with
  | turn | pass | accept | abandon | closeRequests | store | supervisor => simp at hmem
  | @driver e driver ports o htick hdriver =>
    have hstepped := Driver.stepped_of_step hdriver
    have htold : .told .rebuild (some client) ∈ o := by simpa using hmem
    have hlinked := Driver.linked_of_stepped hstepped
    refine ⟨Driver.running_of_stepped hstepped, ?_⟩
    simp only [Mixnet.ports] at hlinked
    generalize ports.link = link at hlinked
    cases hlinked with
    | quiet _ _ hquiet | disconnect _ _ _ hquiet | leave _ _ _ hquiet =>
      exact absurd (hquiet _ htold) (by simp [Driver.Observed.linked])
    | connect | report => simp at htold
    | rebuild hrecv hbuilt hheld hquiet =>
      rcases List.mem_cons.mp htold with heq | htold
      · rw [Driver.Observed.told.injEq] at heq
        exact ⟨heq.2.symm, by simp [Channel.queue_of_recv hrecv]⟩
      · exact absurd (hquiet _ htold) (by simp [Driver.Observed.linked])

/-- In every run each of whose builds completes with nothing on its way that asks for a
rebuild, a rebuild disconnects no client newer than what it was sent for. -/
theorem rebuild_disconnectsOwn {policy : RotationPolicy} {hubAddresses : List Recipient}
    {gateways : List String} {s : Mixnet} {t : List Observed}
    (h : Runs (guarded step CompletesSettled) (initial policy hubAddresses gateways) t s) :
    DisconnectsOwn t s := by
  intro e s' o client hstep hmem
  rcases of_told hstep hmem with ⟨hrunning, hclient, hqueued⟩
  have hlength := (accurate_of_runs h.of_guarded).rebuilds hrunning
  have hpos : 0 < s.link.commands.queue.count .rebuild := List.count_pos_iff.mpr hqueued
  obtain ⟨provenance, rest, hledger⟩ :=
    List.exists_cons_of_length_pos (Nat.lt_of_lt_of_eq hpos hlength.symm)
  exact ⟨provenance, rest, hledger,
    (fresh_of_runs h hclient).rebuilds provenance (by simp [hledger])⟩

/-- A rotation asked for while the client is served, which then disconnects it. -/
theorem rebuild_disconnectsOwn_rotation : ∃ t s,
    Runs (guarded step CompletesSettled) (initial (.every 60000000000) [] []) t s ∧
      (∃ s' o, s.step (.driver .command) = some (s', o) ∧
        .driver (.told .rebuild (some ⟨0, "a"⟩)) ∈ o) ∧ DisconnectsOwn t s := by
  obtain ⟨t, s, h, s', o, hstep, hmem⟩ :
      ∃ t s, execute (guarded step CompletesSettled) (initial (.every 60000000000) [] [])
          [.driver (.start 0), .driver (.built (some "a")), .pass 60000000000, .supervisor .wake,
            .supervisor .sent] = some (s, t) ∧
        ∃ s' o, s.step (.driver .command) = some (s', o) ∧
          .driver (.told .rebuild (some ⟨0, "a"⟩)) ∈ o :=
    ⟨_, _, rfl, _, _, rfl, .head _⟩
  exact ⟨t, s, Runs.of_execute h, ⟨s', o, hstep, hmem⟩, rebuild_disconnectsOwn (Runs.of_execute h)⟩

/-- A rotation asked for while the first client is built disconnects that client. -/
theorem rotation_disconnectsFresh : ¬ ∀ policy hubAddresses gateways t s,
    Runs step (initial policy hubAddresses gateways) t s → DisconnectsOwn t s := by
  intro hclaim
  obtain ⟨t, s, h, s', o, hstep, hmem, hledger⟩ :
      ∃ t s, execute step (initial (.every 5000000000) [] [])
          [.driver (.start 0), .pass 5000000000, .supervisor .wake, .supervisor .sent,
            .driver (.built (some "a"))] = some (s, t) ∧
        ∃ s' o, s.step (.driver .command) = some (s', o) ∧
          .driver (.told .rebuild (some ⟨0, "a"⟩)) ∈ o ∧
          (ledger t).rebuilds = [.rotation 0] :=
    ⟨_, _, rfl, _, _, rfl, .head _, rfl⟩
  obtain ⟨provenance, rest, hnext, hallows⟩ :=
    hclaim _ _ _ t s (Runs.of_execute h) _ s' o _ hstep hmem
  rw [hledger] at hnext
  cases hnext
  exact Nat.not_lt_zero 0 hallows

end Mixnet

end Nym
end ZeroShim
