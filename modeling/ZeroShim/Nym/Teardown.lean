import ZeroShim.Nym.Deadlock
import ZeroShim.Nym.Embedded

/-!
# What a teardown reports

{lit}`report_abandoned` counts what a teardown is about to discard: the frames that are
queued, and whether a send is in flight.  The frames that are queued stay for the next client
if there is one, the send in flight may be a probe, and a driver that returns with no client
held reports nothing.

Main results:

- Theorem {lit}`accounted_step`: what a step does to the account of what was discarded.
- Theorem {lit}`accounted_iff`: every teardown tells what it discards exactly where none finds
  what it would tell wrong.
-/

namespace ZeroShim
namespace Nym

open Library

/-! ## Losses -/

/-- What {lit}`report_abandoned` counts. -/
structure Report where
  queued : Nat
  sending : Bool
deriving DecidableEq, Repr

/-- It is a warning. -/
def Report.warns (report : Report) : Bool := decide (0 < report.queued) || report.sending

/-- What a teardown reports, if it does, and the frames that it discards: those in flight and
those left queued with no driver to take them. -/
structure Loss where
  report : Option Report
  sent : List OutFrame
  queued : List OutFrame
deriving DecidableEq

/-- Nothing is discarded without a warning, and what is reported is what is discarded. -/
structure Loss.Told (loss : Loss) : Prop where
  warned : loss.sent ++ loss.queued ≠ [] →
    ∃ report, loss.report = some report ∧ report.warns = true
  exact : ∀ report, loss.report = some report →
    report.queued = loss.queued.length ∧ report.sending.toNat = loss.sent.length

/-- What a stop that goes on would have discarded if the driver returned now. -/
def Loss.now (loss : Loss) (s : Liveness) : Loss :=
  { loss with sent := s.driver.sending, queued := s.ports.outFrames.queue }

/-- The losses of the teardowns so far, the last one first, and that of a stop that goes
on. -/
structure Ledger where
  stopping : Option Loss
  losses : List Loss
deriving DecidableEq

namespace Ledger

def empty : Ledger := ⟨none, []⟩

/-- A frame in flight is dropped, by the teardown that was reported last. -/
def discard (ledger : Ledger) (out : OutFrame) : Ledger :=
  match ledger.stopping, ledger.losses with
  | some loss, _ => { ledger with stopping := some { loss with sent := loss.sent ++ [out] } }
  | none, loss :: losses =>
    { ledger with losses := { loss with sent := loss.sent ++ [out] } :: losses }
  | none, [] => { ledger with losses := [⟨none, [out], []⟩] }

/-- The driver returns, and what is queued is dropped, by the stop that goes on or with no
report. -/
def close (ledger : Ledger) (dropped : List OutFrame) : Ledger :=
  match ledger.stopping with
  | some loss => ⟨none, { loss with queued := dropped } :: ledger.losses⟩
  | none => ⟨none, ⟨none, [], dropped⟩ :: ledger.losses⟩

/-- What an observation adds. -/
def note (ledger : Ledger) : Driver.Observed → Ledger
  | .abandoned .stop queued sending =>
    { ledger with stopping := some ⟨some ⟨queued, sending⟩, [], []⟩ }
  | .abandoned _ queued sending =>
    { ledger with losses := ⟨some ⟨queued, sending⟩, [], []⟩ :: ledger.losses }
  | .settled out .abandoned => ledger.discard out
  | .returned dropped => ledger.close dropped
  | _ => ledger

end Ledger

/-- The losses that a trace shows. -/
def ledger (t : List Driver.Observed) : Ledger := t.foldl Ledger.note .empty

theorem ledger_append (t o : List Driver.Observed) :
    ledger (t ++ o) = o.foldl Ledger.note (ledger t) := List.foldl_append

namespace Teardown

open Embedded

/-- Every teardown told what it discarded, and a stop that goes on what it would discard. -/
def Accounted (t : List Driver.Observed) (s : Liveness) : Prop :=
  (∀ loss ∈ (ledger t).losses, loss.Told) ∧
    ∀ loss, (ledger t).stopping = some loss → (loss.now s).Told

/-! ## The condition -/

/-- What a step tears down. -/
inductive Kind where
  /-- A client, for another one to follow. -/
  | client
  /-- A client, for the driver to return. -/
  | stop
  /-- The driver, which holds no client. -/
  | unheld
deriving DecidableEq, Repr

/-- What a step tears down, if it does. -/
def kind (s : Liveness) (e : Liveness.Event) : Option Kind :=
  match s.driver.phase, e with
  | .serving _, .driver .command =>
    match s.ports.link.commands.recv with
    | .item .rebuild _ => some .client
    | .item .disconnect _ => some .stop
    | .ended => some .stop
    | .pending => none
  | .serving _, .driver .takeFrame =>
    match s.ports.outFrames.recv with
    | .ended => some .stop
    | _ => none
  | .serving _, .driver (.arrive none _) => some .client
  | .waiting _, .driver .command =>
    match s.ports.link.commands.recv with
    | .item .rebuild _ => none
    | .item .disconnect _ => some .unheld
    | .ended => some .unheld
    | .pending => none
  | _, _ => none

/-- Frames are queued while a stop goes on. -/
def queues (s : Liveness) (e : Liveness.Event) : Bool :=
  match s.driver.phase, e with
  | .disconnecting _ true, .surroundings ports =>
    decide (ports.outFrames.queue ≠ s.ports.outFrames.queue)
  | _, _ => false

/-- No teardown finds a probe in flight; none that leaves the queue to another client, or
that is not reported, finds frames queued; and none are queued while a stop goes on. -/
def spotless (s : Liveness) (e : Liveness.Event) : Bool :=
  match kind s e with
  | some .client =>
    decide (s.ports.outFrames.queue = []) && !s.driver.probing
  | some .stop => !s.driver.probing
  | some .unheld => decide (s.ports.outFrames.queue = [])
  | none => !queues s e

/-- A step where nothing is torn down that would be told wrong. -/
def spotlessStep : Transition Liveness Liveness.Event Driver.Observed :=
  guarded step fun s e => spotless s e = true

/-! ## What a step discards -/

theorem told_reported {d : Driver} {n : Nat} {queued : List OutFrame} :
    Loss.Told ⟨some ⟨n, d.inFlight.isSome⟩, d.sending, queued⟩ ↔
      n = queued.length ∧ d.probing = false := by
  have hsending : d.inFlight.isSome.toNat = d.sending.length ↔ d.probing = false := by
    unfold Driver.sending Driver.probing
    cases d.inFlight with
    | none => simp
    | some inFlight => cases inFlight <;> simp
  constructor
  · intro htold
    have hexact := htold.exact _ rfl
    exact ⟨hexact.1, hsending.mp hexact.2⟩
  · intro h
    rcases h with ⟨hqueued, hprobe⟩
    have hcounted := hsending.mpr hprobe
    constructor
    · intro hlost
      refine ⟨_, rfl, ?_⟩
      have hlength : 0 < (d.sending ++ queued).length := List.length_pos_iff.mpr hlost
      rw [List.length_append, ← hqueued, ← hcounted] at hlength
      unfold Report.warns
      cases hsome : d.inFlight.isSome with
      | true => simp
      | false =>
        rw [hsome] at hlength
        simpa using hlength
    · intro report hreport
      cases hreport
      exact ⟨hqueued, hcounted⟩

theorem told_unreported {queued : List OutFrame} :
    Loss.Told ⟨none, [], queued⟩ ↔ queued = [] := by
  constructor
  · intro htold
    apply Classical.byContradiction
    intro hqueued
    rcases htold.warned hqueued with ⟨report, hreport, -⟩
    cases hreport
  · intro hqueued
    rw [hqueued]
    exact ⟨fun h => absurd rfl h, fun _ h => by cases h⟩

section Drop

variable (d : Driver) (loss : Loss) (losses : List Loss)

theorem note_drop_stopping :
    d.drop.foldl Ledger.note ⟨some loss, losses⟩ =
      ⟨some { loss with sent := loss.sent ++ d.sending }, losses⟩ := by
  unfold Driver.drop Driver.sending
  split
  · rfl
  · simp

theorem note_drop :
    d.drop.foldl Ledger.note ⟨none, loss :: losses⟩ =
      ⟨none, { loss with sent := loss.sent ++ d.sending } :: losses⟩ := by
  unfold Driver.drop Driver.sending
  split
  · rfl
  · simp

end Drop

/-- What the SDK is handed is not discarded. -/
theorem note_handOver (hubAddresses : List Recipient) (sender : Nat) (out : OutFrame)
    (accepted : Bool) (ledger : Ledger) :
    (Driver.handOver hubAddresses sender out accepted).foldl Ledger.note ledger = ledger := by
  unfold Driver.handOver
  split <;> rfl

/-- What a step discards, and what it reports. -/
inductive Tears (s : Liveness) : Liveness.Event → Liveness → List Driver.Observed → Prop where
  | surroundings {ports} : s.ports.outFrames.queue <+: ports.outFrames.queue →
      Tears s (.surroundings ports) { s with ports := ports } []
  | quiet {e s' o} : kind s (.driver e) = none → stops s.driver.phase = false →
      stops s'.driver.phase = false → (∀ ledger, o.foldl Ledger.note ledger = ledger) →
      Tears s (.driver e) s' o
  | client {e s' o} : kind s (.driver e) = some .client → stops s.driver.phase = false →
      stops s'.driver.phase = false →
      (∀ losses, o.foldl Ledger.note ⟨none, losses⟩ =
        ⟨none, ⟨some ⟨s.ports.outFrames.queue.length, s.driver.inFlight.isSome⟩,
          s.driver.sending, []⟩ :: losses⟩) → Tears s (.driver e) s' o
  | stop {e s' o} : kind s (.driver e) = some .stop → stops s.driver.phase = false →
      stops s'.driver.phase = true → s'.driver.inFlight = s.driver.inFlight →
      s'.ports.outFrames.queue = s.ports.outFrames.queue →
      (∀ losses, o.foldl Ledger.note ⟨none, losses⟩ =
        ⟨some ⟨some ⟨s.ports.outFrames.queue.length, s.driver.inFlight.isSome⟩, [], []⟩,
          losses⟩) → Tears s (.driver e) s' o
  | last {e s' o} : kind s (.driver e) = none → stops s.driver.phase = true →
      stops s'.driver.phase = false →
      (∀ report losses, o.foldl Ledger.note ⟨some ⟨report, [], []⟩, losses⟩ =
        ⟨none, ⟨report, s.driver.sending, s.ports.outFrames.queue⟩ :: losses⟩) →
      Tears s (.driver e) s' o
  | unheld {e s' o} : kind s (.driver e) = some .unheld → stops s.driver.phase = false →
      stops s'.driver.phase = false →
      (∀ losses, o.foldl Ledger.note ⟨none, losses⟩ =
        ⟨none, ⟨none, [], s.ports.outFrames.queue⟩ :: losses⟩) → Tears s (.driver e) s' o

/-- The {lit}`select!` stops for its commands' end, or for the end of the frames. -/
theorem ended_of_stop {ports ports' : Driver.Ports} {d : Driver} {client : Client} {n : Nat}
    {e : Driver.Event} (hphase : d.phase = .serving client)
    (h : d.step ports e = some ((d.stop client n).1, ports', (d.stop client n).2)) :
    (e = .command ∧ ports.link.commands.recv = .ended) ∨
      e = .takeFrame ∧ ports.outFrames.recv = .ended := by
  unfold Driver.step at h
  rw [hphase] at h
  cases e with
  | command =>
    simp only [Driver.obey] at h
    cases hrecv : ports.link.commands.recv with
    | item command commands => cases command <;> simp [hrecv, Driver.stop] at h
    | ended => exact .inl ⟨rfl, rfl⟩
    | pending => simp [hrecv] at h
  | takeFrame =>
    simp only [Driver.takeFrame] at h
    split_ifs at h
    cases hrecv : ports.outFrames.recv with
    | item out outFrames => simp [hrecv, Driver.stop] at h
    | ended => exact .inr ⟨rfl, rfl⟩
    | pending => simp [hrecv] at h
  | sent accepted =>
    cases hinFlight : d.inFlight with
    | none => simp [hinFlight] at h
    | some inFlight =>
      cases inFlight <;> simp [hinFlight, Driver.alone, Driver.endSend, Driver.stop] at h
  | tick =>
    simp only at h
    split_ifs at h
    simp [Driver.alone, Driver.stop] at h
  | arrive messages unixNow =>
    cases messages <;> simp [Driver.alone, Driver.die, Driver.stop] at h
  | built outcome => simp [Driver.endBuild, hphase] at h
  | start | delivered | reported | disconnected => simp at h

/-- The end of a build tears nothing down. -/
theorem kind_built (s : Liveness) (outcome : Option Recipient) :
    kind s (.driver (.built outcome)) = none := by
  unfold kind
  cases s.driver.phase <;> rfl

theorem kind_reported (s : Liveness) : kind s (.driver .reported) = none := by
  unfold kind
  cases s.driver.phase <;> rfl

/-- Reporting a death tears nothing down. -/
theorem tears_report {s : Liveness} {d : Driver} {ports : Driver.Ports} {o : List Driver.Observed}
    {client : Option Client} {phase : Driver.Phase}
    (h : Driver.report s.ports s.driver client phase = some (d, ports, o))
    (hstops : stops s.driver.phase = false) (hphase : stops phase = false) :
    Tears s (.driver .reported) ⟨d, ports⟩ o := by
  rcases Driver.of_report h with ⟨rfl, hreport⟩
  refine .quiet (kind_reported s) hstops hphase ?_
  intro ledger
  rcases hreport with ⟨events, -, -, -, rfl⟩ | ⟨-, -, rfl⟩ <;> rfl

/-- What a step discards, and what it reports. -/
theorem tears_of_step {s s' : Liveness} {e : Liveness.Event} {o : List Driver.Observed}
    (hrested : s.driver.Rested) (h : step s e = some (s', o)) : Tears s e s' o := by
  cases stepped_of_step h with
  | surroundings hgrows => exact .surroundings hgrows
  | @driver e d ports o hstep =>
    cases Driver.stepped_of_step hstep with
    | start hphase =>
      exact .quiet (by simp [kind, hphase]) (by rw [hphase]; rfl) rfl fun _ => rfl
    | tick hphase hidle =>
      refine .quiet (by simp [kind, hphase]) (by rw [hphase]; rfl) ?_ fun _ => rfl
      dsimp only [Driver.tick]
      split_ifs <;> simp [stops, hphase]
    | rebuild hphase hrecv =>
      refine .client (by simp [kind, hphase, hrecv]) (by rw [hphase]; rfl) rfl ?_
      intro losses
      exact note_drop s.driver _ losses
    | disconnect hphase hrecv =>
      exact .stop (by simp [kind, hphase, hrecv]) (by rw [hphase]; rfl) rfl rfl rfl fun _ => rfl
    | stop hphase hended =>
      have hkind : kind s (.driver e) = some .stop := by
        cases ended_of_stop hphase hstep with
        | inl hcommand =>
          rcases hcommand with ⟨rfl, hrecv⟩
          simp [kind, hphase, hrecv]
        | inr hframe =>
          rcases hframe with ⟨rfl, hrecv⟩
          simp [kind, hphase, hrecv]
      exact .stop hkind (by rw [hphase]; rfl) rfl rfl rfl fun _ => rfl
    | takeFrame hphase hidle hrecv =>
      have hstops : stops s.driver.phase = false := by rw [hphase]; rfl
      exact .quiet (by simp [kind, hphase, hrecv]) hstops hstops fun _ => rfl
    | @sent client accepted inFlight hphase hinFlight =>
      have hstops : stops s.driver.phase = false := by rw [hphase]; rfl
      cases inFlight with
      | frame sender out =>
        refine .quiet (by simp [kind, hphase]) hstops hstops ?_
        intro ledger
        simp only [Driver.endSend, List.foldl_append, note_handOver, List.foldl_cons,
          List.foldl_nil]
        unfold Driver.sendFrame
        split
        · rfl
        · split_ifs <;> rfl
      | probe sender own => exact .quiet (by simp [kind, hphase]) hstops hstops fun _ => rfl
    | receive hphase =>
      exact .quiet (by simp [kind, hphase]) (by rw [hphase]; rfl) (stops_forward _ _ _ _)
        fun _ => rfl
    | die hphase =>
      refine .client (by simp [kind, hphase]) (by rw [hphase]; rfl) rfl ?_
      intro losses
      exact note_drop s.driver _ losses
    | reportSilence hphase hreport => exact tears_report hreport (by rw [hphase]; rfl) rfl
    | report hphase hreport => exact tears_report hreport (by rw [hphase]; rfl) rfl
    | passOn hphase hsend =>
      exact .quiet (by simp [kind, hphase]) (by rw [hphase]; rfl) (stops_forward _ _ _ _)
        fun _ => rfl
    | rebuildAgain hphase hrecv =>
      exact .quiet (by simp [kind, hphase, hrecv]) (by rw [hphase]; rfl) rfl fun _ => rfl
    | leaveTold hphase hrecv =>
      have hidle : s.driver.inFlight = none := hrested.inFlight (by rw [hphase]; rfl)
      refine .unheld (by simp [kind, hphase, hrecv]) (by rw [hphase]; rfl) rfl ?_
      intro losses
      simp [Driver.leave, Driver.drop, Driver.sending, hidle, Ledger.note, Ledger.close]
    | leave hphase hrecv =>
      have hidle : s.driver.inFlight = none := hrested.inFlight (by rw [hphase]; rfl)
      refine .unheld (by simp [kind, hphase, hrecv]) (by rw [hphase]; rfl) rfl ?_
      intro losses
      simp [Driver.leave, Driver.drop, Driver.sending, hidle, Ledger.note, Ledger.close]
    | disconnectedLast hphase =>
      refine .last (by simp [kind, hphase]) (by rw [hphase]; rfl) rfl ?_
      intro report losses
      have hdrop := note_drop_stopping s.driver ⟨report, [], []⟩ losses
      simp only [Driver.leave, List.foldl_cons, List.foldl_append, List.foldl_nil, Ledger.note]
      rw [hdrop]
      rfl
    | disconnected hphase =>
      exact .quiet (by simp [kind, hphase]) (by rw [hphase]; rfl) rfl fun _ => rfl
    | connect hbuilding | fail hbuilding =>
      exact .quiet (kind_built _ _) (stops_of_isBuilding hbuilding) rfl fun _ => rfl

/-! ## The account -/

/-- A stop that goes on is in the account, with what it reported. -/
structure Kept (t : List Driver.Observed) (s : Liveness) : Prop where
  rested : s.driver.Rested
  idle : stops s.driver.phase = false → (ledger t).stopping = none
  stopping : stops s.driver.phase = true → ∃ queued,
    (ledger t).stopping = some ⟨some ⟨queued, s.driver.inFlight.isSome⟩, [], []⟩ ∧
      queued ≤ s.ports.outFrames.queue.length

section Step

variable {t o : List Driver.Observed} {s s' : Liveness} {e : Liveness.Event}

theorem rested_of_step (h : s.driver.Rested) (hstep : step s e = some (s', o)) :
    s'.driver.Rested := by
  cases stepped_of_step hstep with
  | surroundings => exact h
  | driver hdriver => exact Driver.rested_of_stepped (Driver.stepped_of_step hdriver) h

/-- With no stop going on, the account is of the losses alone. -/
theorem accounted_of_idle {losses : List Loss} (h : ledger t = ⟨none, losses⟩) :
    Accounted t s ↔ ∀ loss ∈ losses, loss.Told := by
  unfold Accounted
  rw [h]
  simp

/-- A stop that goes on reported what it would discard. -/
theorem accounted_of_stopping {queued : Nat} {losses : List Loss}
    (h : ledger t = ⟨some ⟨some ⟨queued, s.driver.inFlight.isSome⟩, [], []⟩, losses⟩) :
    Accounted t s ↔ (∀ loss ∈ losses, loss.Told) ∧
      queued = s.ports.outFrames.queue.length ∧ s.driver.probing = false := by
  unfold Accounted
  rw [h, ← told_reported]
  simp [Loss.now]

/-- Where nothing is torn down, nothing is in the way but frames that are queued. -/
theorem spotless_of_none {e : Driver.Event} (hkind : kind s (.driver e) = none) :
    spotless s (.driver e) = true := by
  unfold spotless
  rw [hkind]
  unfold queues
  cases s.driver.phase <;> simp

theorem spotless_of_around {ports : Driver.Ports} (hstops : stops s.driver.phase = false) :
    spotless s (.surroundings ports) = true := by
  unfold spotless kind queues
  cases hphase : s.driver.phase with
  | disconnecting client stop =>
    rw [hphase] at hstops
    cases stop with
    | true => cases hstops
    | false => simp
  | _ => simp

theorem spotless_of_stopping {ports : Driver.Ports} (hstops : stops s.driver.phase = true) :
    spotless s (.surroundings ports) = true ↔ ports.outFrames.queue = s.ports.outFrames.queue := by
  unfold stops at hstops
  split at hstops
  · next client hphase => simp [spotless, kind, queues, hphase]
  · cases hstops

/-- While a stop goes on, the frames that are queued are more than it reported. -/
theorem accounted_around {queued : Nat} {losses : List Loss} {ports : Driver.Ports}
    (hledger : ledger t = ⟨some ⟨some ⟨queued, s.driver.inFlight.isSome⟩, [], []⟩, losses⟩)
    (hqueued : queued ≤ s.ports.outFrames.queue.length)
    (hgrows : s.ports.outFrames.queue <+: ports.outFrames.queue) :
    Accounted t { s with ports := ports } ↔
      Accounted t s ∧ ports.outFrames.queue = s.ports.outFrames.queue := by
  have hle := hgrows.length_le
  rw [accounted_of_stopping hledger, @accounted_of_stopping _ { s with ports := ports } _ _ hledger]
  dsimp only
  constructor
  · intro hafter
    rcases hafter with ⟨hlosses, hlength, hprobe⟩
    have hsame : s.ports.outFrames.queue.length = ports.outFrames.queue.length := by omega
    exact ⟨⟨hlosses, hlength.trans hsame.symm, hprobe⟩, (hgrows.eq_of_length hsame).symm⟩
  · intro hbefore
    rcases hbefore with ⟨⟨hlosses, hlength, hprobe⟩, hqueue⟩
    exact ⟨hlosses, by rw [hlength, hqueue], hprobe⟩

theorem Kept.of_idle {losses : List Loss} (hrested : s.driver.Rested)
    (hstops : stops s.driver.phase = false) (hledger : ledger t = ⟨none, losses⟩) : Kept t s where
  rested := hrested
  idle _ := by rw [hledger]
  stopping hgoing := by
    rw [hstops] at hgoing
    cases hgoing

/-- What a step does to the account of what was discarded. -/
theorem accounted_step (h : Kept t s) (hstep : step s e = some (s', o)) :
    Kept (t ++ o) s' ∧ (Accounted (t ++ o) s' ↔ Accounted t s ∧ spotless s e = true) := by
  have hrested := rested_of_step h.rested hstep
  have hledger := ledger_append t o
  have hidle (hstops : stops s.driver.phase = false) : ledger t = ⟨none, (ledger t).losses⟩ := by
    rw [← h.idle hstops]
  cases tears_of_step h.rested hstep with
  | @surroundings ports hgrows =>
    rw [List.append_nil]
    cases hstops : stops s.driver.phase with
    | false =>
      refine ⟨.of_idle hrested hstops (hidle hstops), ?_⟩
      rw [accounted_of_idle (hidle hstops), accounted_of_idle (hidle hstops)]
      exact (and_iff_left (spotless_of_around hstops)).symm
    | true =>
      rcases h.stopping hstops with ⟨queued, hgoing, hqueued⟩
      constructor
      · refine ⟨hrested, fun hnone => ?_, fun _ => ⟨queued, hgoing, ?_⟩⟩
        · rw [hstops] at hnone
          cases hnone
        · exact hqueued.trans hgrows.length_le
      · have hbefore : ledger t =
            ⟨some ⟨some ⟨queued, s.driver.inFlight.isSome⟩, [], []⟩, (ledger t).losses⟩ := by
          rw [← hgoing]
        rw [spotless_of_stopping hstops]
        exact accounted_around hbefore hqueued hgrows
  | quiet hkind hstops hstops' hnote =>
    rw [hnote, hidle hstops] at hledger
    refine ⟨.of_idle hrested hstops' hledger, ?_⟩
    rw [accounted_of_idle (hidle hstops), accounted_of_idle hledger]
    exact (and_iff_left (spotless_of_none hkind)).symm
  | client hkind hstops hstops' hnote =>
    rw [hidle hstops, hnote] at hledger
    refine ⟨.of_idle hrested hstops' hledger, ?_⟩
    rw [accounted_of_idle (hidle hstops), accounted_of_idle hledger, List.forall_mem_cons,
      told_reported, and_comm]
    simp [spotless, hkind]
  | stop hkind hstops hstops' hinFlight hqueue hnote =>
    rw [hidle hstops, hnote, ← hinFlight] at hledger
    constructor
    · refine ⟨hrested, fun hnone => ?_, fun _ => ⟨_, by rw [hledger], by rw [hqueue]⟩⟩
      rw [hstops'] at hnone
      cases hnone
    · have hprobing : s'.driver.probing = s.driver.probing := by
        rw [Driver.probing, hinFlight, Driver.probing]
      rw [accounted_of_idle (hidle hstops), accounted_of_stopping hledger, hqueue, hprobing]
      simp [spotless, hkind]
  | last hkind hstops hstops' hnote =>
    rcases h.stopping hstops with ⟨queued, hgoing, hqueued⟩
    have hbefore : ledger t =
        ⟨some ⟨some ⟨queued, s.driver.inFlight.isSome⟩, [], []⟩, (ledger t).losses⟩ := by
      rw [← hgoing]
    rw [hbefore, hnote] at hledger
    refine ⟨.of_idle hrested hstops' hledger, ?_⟩
    rw [accounted_of_stopping hbefore, accounted_of_idle hledger, List.forall_mem_cons,
      told_reported, and_comm]
    exact (and_iff_left (spotless_of_none hkind)).symm
  | unheld hkind hstops hstops' hnote =>
    rw [hidle hstops, hnote] at hledger
    refine ⟨.of_idle hrested hstops' hledger, ?_⟩
    rw [accounted_of_idle (hidle hstops), accounted_of_idle hledger, List.forall_mem_cons,
      told_unreported, and_comm]
    simp [spotless, hkind]

end Step

/-! ## Along a run -/

section Reachable

variable {hubAddresses : List Recipient} {gateways : List String} {ports : Driver.Ports}
variable {t : List Driver.Observed} {s : Liveness}

theorem kept_of_runs (h : Runs step (.initial hubAddresses gateways ports) t s) : Kept t s := by
  induction h with
  | refl =>
    have hrested : (Driver.initial hubAddresses gateways).Rested :=
      Driver.rested_of_phase (fun _ => rfl) (by simp [Driver.initial])
    exact .of_idle hrested rfl rfl
  | snoc hrun hstep ih => exact (accounted_step ih hstep).1

/-- Every teardown tells what it discards exactly where none finds a probe in flight, none that
leaves the queue to another client or that is not reported finds frames queued, and none are
queued while a stop goes on. -/
theorem accounted_iff (h : Runs step (.initial hubAddresses gateways ports) t s) :
    Accounted t s ↔
      Runs spotlessStep (.initial hubAddresses gateways ports) t s := by
  constructor
  · intro haccounted
    induction h with
    | refl => exact .refl
    | snoc hrun hstep ih =>
      obtain ⟨hbefore, hspotless⟩ :=
        (accounted_step (kept_of_runs hrun) hstep).2.mp haccounted
      apply (ih hbefore).snoc
      rw [spotlessStep, guarded, if_pos hspotless]
      exact hstep
  · intro hguarded
    induction hguarded with
    | refl => exact (accounted_of_idle rfl).mpr (by simp)
    | snoc hrun hstep ih =>
      rcases of_guarded hstep with ⟨hspotless, hlast⟩
      have hbefore := ih hrun.of_guarded
      exact (accounted_step (kept_of_runs hrun.of_guarded) hlast).2.mpr ⟨hbefore, hspotless⟩

end Reachable

/-! ## A driver that leaves its frames -/

/-- A frame for the first hub. -/
def firstFrame : OutFrame := ⟨[1], 10, 0⟩

def secondFrame : OutFrame := ⟨[2], 10, 0⟩

/-- The SDK gives up, and the driver is told to disconnect with a frame queued. -/
def silentExit : List Liveness.Event :=
  [.driver (.start 0), .driver (.built (some "first@gateway")), .driver (.arrive none 0),
    .driver .reported,
    .surroundings (queueing [firstFrame] [.disconnect]),
    .driver .command]

/-- The frame is dropped, and nothing is reported. -/
theorem silentExit_unaccounted :
    ∃ t s, Runs step (.initial ["hub@gateway"] [] (queueing [] [])) t s ∧
      ¬ Accounted t s := by
  have hrun : ∃ t s,
      Runs step (.initial ["hub@gateway"] [] (queueing [] [])) t s ∧
        ⟨none, [], [firstFrame]⟩ ∈ (ledger t).losses :=
    ⟨_, _, @Runs.of_execute _ _ _ step _ _ _ silentExit rfl, by decide⟩
  rcases hrun with ⟨t, s, hrun, hloss⟩
  refine ⟨t, s, hrun, fun haccounted => ?_⟩
  have hqueued := told_unreported.mp (haccounted.1 _ hloss)
  cases hqueued

/-- A stop with a frame in flight and another one queued. -/
def reportedStop : List Liveness.Event :=
  [.driver (.start 0), .driver (.built (some "first@gateway")),
    .surroundings (queueing [firstFrame, secondFrame] [.disconnect]),
    .driver .takeFrame, .driver .command, .driver .disconnected]

/-- Both are reported, and both are discarded. -/
theorem reportedStop_accounted :
    ∃ t s, Runs step (.initial ["hub@gateway"] [] (queueing [] [])) t s ∧
      (ledger t).losses = [⟨some ⟨1, true⟩, [firstFrame], [secondFrame]⟩] ∧ Accounted t s := by
  have hrun : ∃ t s, Runs spotlessStep
      (.initial ["hub@gateway"] [] (queueing [] [])) t s ∧
        (ledger t).losses = [⟨some ⟨1, true⟩, [firstFrame], [secondFrame]⟩] :=
    ⟨_, _, @Runs.of_execute _ _ _ spotlessStep _ _ _ reportedStop rfl, rfl⟩
  rcases hrun with ⟨t, s, hrun, hlosses⟩
  exact ⟨t, s, hrun.of_guarded, hlosses, (accounted_iff hrun.of_guarded).mpr hrun⟩

end Teardown

end Nym
end ZeroShim
