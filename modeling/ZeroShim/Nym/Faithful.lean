import ZeroShim.Nym.Embedded

/-!
# The status and the client

{lit}`MixnetStatus` says whether a client is connected and under which address.  The driver
writes it where it builds a client and where it loses one, but two places leave it as it
was: {lit}`build_when_told` publishes no address, which only its callers in the loop make up
for, and {lit}`Step::Stop` leaves the client connected.

Main results:

- Theorem {lit}`tends_of_step`: what a step does to the client held and to the status.
- Theorem {lit}`faithful_iff`: the status is that of the client held exactly where that is not
  a first client built after a failure and the driver has not returned from a stop.
-/

namespace ZeroShim
namespace Nym
namespace Faithful

open Library Embedded

/-! ## The status of the client held -/

/-- The status is that of the client held. -/
structure StatusFaithful (d : Driver) : Prop where
  held : ∀ client, d.phase.client? = some client →
    d.status.connected = true ∧ d.status.address = some client.address
  unheld : d.phase.client? = none → d.status.connected = false
  healthy : d.status.configured = true → d.status.isHealthy = true →
    ∃ client, d.phase.client? = some client

/-- A build failed. -/
def Failed (t : List Driver.Observed) : Prop := .failed ∈ t

/-- {lit}`Step::Stop` was reached. -/
def Stopped (t : List Driver.Observed) : Prop :=
  ∃ queued sending, .abandoned .stop queued sending ∈ t

/-! ## Stages -/

/-- How far the driver is with its clients. -/
inductive Stage where
  /-- The first build has not ended. -/
  | first
  /-- It failed, and {lit}`build_when_told` has built no client since. -/
  | retried
  | held (client : Client)
  | stopping (client : Client)
  /-- The loop has lost its client. -/
  | lost
  | returned
deriving DecidableEq

def stage : Driver.Phase → Stage
  | .starting => .first
  | .connecting => .first
  | .serving client => .held client
  | .reportingSilence client => .held client
  | .delivering client _ _ => .held client
  | .disconnecting client true => .stopping client
  | .disconnecting client false => .held client
  | .rebuilding => .lost
  | .reporting .connect _ => .retried
  | .reporting .loop _ => .lost
  | .waiting .connect => .retried
  | .waiting .loop => .lost
  | .building .connect => .retried
  | .building .loop => .lost
  | .returned => .returned

/-- The client of a stage. -/
def Stage.client? : Stage → Option Client
  | .held client => some client
  | .stopping client => some client
  | _ => none

theorem client?_stage (phase : Driver.Phase) : (stage phase).client? = phase.client? := by
  cases phase with
  | disconnecting client stop => cases stop <;> rfl
  | reporting caller dead => cases caller <;> rfl
  | waiting caller => cases caller <;> rfl
  | building caller => cases caller <;> rfl
  | _ => rfl

theorem stage_forward (d : Driver) (client : Client) (unixNow : Nat) (messages : List Bytes) :
    stage (d.forward client unixNow messages).phase = .held client := by
  apply Driver.view_forward d client unixNow messages stage
  exact fun _ _ => rfl

/-- Going through inbound messages leaves the client's part of the status alone. -/
theorem status_forward (d : Driver) (client : Client) (unixNow : Nat) (messages : List Bytes) :
    (d.forward client unixNow messages).status.connected = d.status.connected ∧
      (d.forward client unixNow messages).status.address = d.status.address := by
  induction messages generalizing d with
  | nil => exact ⟨rfl, rfl⟩
  | cons message rest ih =>
    cases message with
    | nil =>
      obtain ⟨hconnected, haddress⟩ :=
        ih { d with status := d.status.recordInbound true unixNow }
      exact ⟨hconnected, haddress⟩
    | cons b message => exact ⟨rfl, rfl⟩

/-! ## What a step does -/

/-- It shows a failed build or a stop. -/
def marks : Driver.Observed → Bool
  | .failed => true
  | .abandoned .stop _ _ => true
  | _ => false

/-- The client's part of the status, and the clients built, are the same. -/
structure Same (d d' : Driver) : Prop where
  built : d'.built = d.built
  connected : d'.status.connected = d.status.connected
  address : d'.status.address = d.status.address

/-- What a step does to the client held and to the status. -/
inductive Tends (d d' : Driver) : List Driver.Observed → Prop where
  | quiet {o} : stage d'.phase = stage d.phase → Same d d' → (∀ x ∈ o, marks x = false) →
      Tends d d' o
  | connect {address} : stage d'.phase = .held ⟨d.built, address⟩ → d'.built = d.built + 1 →
      d'.status.connected = true →
      (stage d.phase = .retried ∧ d'.status.address = d.status.address ∨
        (stage d.phase = .first ∨ stage d.phase = .lost) ∧
          d'.status.address = some address) → Tends d d' [.connected ⟨d.built, address⟩]
  | fail : ((stage d.phase = .first ∨ stage d.phase = .retried) ∧ stage d'.phase = .retried ∨
        stage d.phase = .lost ∧ stage d'.phase = .lost) → d'.built = d.built →
      d'.status.connected = false → d'.status.address = d.status.address → Tends d d' [.failed]
  | stop {client o} : stage d.phase = .held client → stage d'.phase = .stopping client →
      Same d d' → Stopped o → ¬ Failed o → Tends d d' o
  | lose {client o} : stage d.phase = .held client → stage d'.phase = .lost →
      d'.built = d.built → d'.status.connected = false → (∀ x ∈ o, marks x = false) →
      Tends d d' o
  | leave {o} : (∀ client, stage d.phase ≠ .held client) → stage d.phase ≠ .first →
      stage d.phase ≠ .returned → stage d'.phase = .returned → Same d d' →
      (∀ x ∈ o, marks x = false) → Tends d d' o

theorem marks_drop (d : Driver) : ∀ x ∈ d.drop, marks x = false :=
  d.forall_drop fun _ => rfl

theorem marks_leave (d : Driver) (ports : Driver.Ports) :
    ∀ x ∈ (d.leave ports).2.2, marks x = false :=
  d.forall_leave ports (fun _ => rfl) fun _ => rfl

theorem marks_cons {x : Driver.Observed} {o : List Driver.Observed} (hx : marks x = false)
    (ho : ∀ y ∈ o, marks y = false) : ∀ y ∈ x :: o, marks y = false := by
  rw [List.forall_mem_cons]
  exact ⟨hx, ho⟩

theorem tends_report {ports ports' : Driver.Ports} {d d' : Driver} {client : Option Client}
    {phase : Driver.Phase} {o : List Driver.Observed}
    (h : Driver.report ports d client phase = some (d', ports', o))
    (hstage : stage phase = stage d.phase) : Tends d d' o := by
  rcases Driver.of_report h with ⟨rfl, hreport⟩
  refine .quiet hstage ⟨rfl, rfl, rfl⟩ ?_
  rcases hreport with ⟨events, -, -, -, rfl⟩ | ⟨-, -, rfl⟩ <;> simp [marks]

/-- The end of a build.  Only {lit}`build_when_told` in the first connect publishes no
address. -/
theorem tends_of_built {d d' : Driver} {outcome : Option Recipient} {o : List Driver.Observed}
    (h : d.endBuild outcome = some (d', o)) : Tends d d' o := by
  unfold Driver.endBuild at h
  split at h
  · next address hphase =>
    cases h
    exact .connect rfl rfl rfl (.inr ⟨.inl (by rw [hphase]; rfl), rfl⟩)
  · next address hphase =>
    cases h
    exact .connect rfl rfl rfl (.inr ⟨.inr (by rw [hphase]; rfl), rfl⟩)
  · next caller address hphase =>
    cases h
    cases caller with
    | connect => exact .connect rfl rfl rfl (.inl ⟨by rw [hphase]; rfl, rfl⟩)
    | loop => exact .connect rfl rfl rfl (.inr ⟨.inr (by rw [hphase]; rfl), rfl⟩)
  · next hphase =>
    cases h
    exact .fail (.inl ⟨.inl (by rw [hphase]; rfl), rfl⟩) rfl rfl rfl
  · next hphase =>
    cases h
    exact .fail (.inr ⟨by rw [hphase]; rfl, rfl⟩) rfl rfl rfl
  · next caller hphase =>
    cases h
    cases caller with
    | connect => exact .fail (.inl ⟨.inr (by rw [hphase]; rfl), rfl⟩) rfl rfl rfl
    | loop => exact .fail (.inr ⟨by rw [hphase]; rfl, rfl⟩) rfl rfl rfl
  · cases h

/-- What a step does to the client held and to the status. -/
theorem tends_of_step {ports ports' : Driver.Ports} {d d' : Driver} {e : Driver.Event}
    {o : List Driver.Observed} (h : d.step ports e = some (d', ports', o)) : Tends d d' o := by
  cases Driver.stepped_of_step h with
  | start hphase =>
    exact .quiet (by rw [hphase]; rfl) ⟨rfl, rfl, rfl⟩ (by simp [Driver.request, marks])
  | @tick client hphase hidle =>
    have hstage : stage (d.tick client ports.outFrames.queue.length).phase = stage d.phase := by
      unfold Driver.tick
      rw [hphase]
      split_ifs <;> rfl
    refine .quiet hstage ?_ (by simp [marks])
    unfold Driver.tick
    split_ifs <;> exact ⟨rfl, rfl, rfl⟩
  | rebuild hphase hrecv =>
    exact .quiet (by rw [hphase]; rfl) ⟨rfl, rfl, rfl⟩
      (marks_cons rfl (marks_cons rfl (marks_drop d)))
  | disconnect hphase hrecv =>
    exact .stop (by rw [hphase]; rfl) rfl ⟨rfl, rfl, rfl⟩ (by simp [Stopped, Driver.stop])
      (by simp [Failed, Driver.stop])
  | stop hphase hended =>
    exact .stop (by rw [hphase]; rfl) rfl ⟨rfl, rfl, rfl⟩ (by simp [Stopped, Driver.stop])
      (by simp [Failed, Driver.stop])
  | takeFrame hphase hidle hrecv => exact .quiet rfl ⟨rfl, rfl, rfl⟩ (by simp [marks])
  | @sent client accepted inFlight hphase hinFlight =>
    have hquiet := Driver.forall_endSend d accepted (p := fun x => marks x = false)
      (fun _ _ => rfl) (fun _ _ => rfl) (fun _ _ => rfl) inFlight
    cases inFlight <;> exact .quiet rfl ⟨rfl, rfl, rfl⟩ hquiet
  | @receive client messages unixNow hphase =>
    rcases status_forward d client unixNow messages with ⟨hconnected, haddress⟩
    refine .quiet ?_ ⟨Driver.built_forward _ _ _ _, hconnected, haddress⟩ (by simp [marks])
    rw [stage_forward, hphase]
    rfl
  | @passOn client message rest unixNow inbound hphase hsend =>
    rcases status_forward d client unixNow rest with ⟨hconnected, haddress⟩
    refine .quiet ?_ ⟨Driver.built_forward _ _ _ _, hconnected, haddress⟩ (by simp)
    rw [stage_forward, hphase]
    rfl
  | die hphase =>
    exact .lose (by rw [hphase]; rfl) rfl rfl rfl (marks_cons rfl (marks_cons rfl (marks_drop d)))
  | reportSilence hphase hreport => exact tends_report hreport (by rw [hphase]; rfl)
  | @report caller dead d' ports' o hphase hreport =>
    apply tends_report hreport
    rw [hphase]
    cases caller <;> rfl
  | @rebuildAgain caller commands hphase hrecv =>
    refine .quiet ?_ ⟨rfl, rfl, rfl⟩ (by simp [Driver.request, marks])
    rw [hphase]
    cases caller <;> rfl
  | @leaveTold caller commands hphase hrecv =>
    cases caller <;>
      exact .leave (by simp [hphase, stage]) (by simp [hphase, stage]) (by simp [hphase, stage])
        rfl ⟨rfl, rfl, rfl⟩ (marks_cons rfl (marks_leave d ports))
  | @leave caller hphase hrecv =>
    cases caller <;>
      exact .leave (by simp [hphase, stage]) (by simp [hphase, stage]) (by simp [hphase, stage])
        rfl ⟨rfl, rfl, rfl⟩ (marks_leave d ports)
  | disconnectedLast hphase =>
    exact .leave (by simp [hphase, stage]) (by simp [hphase, stage]) (by simp [hphase, stage])
      rfl ⟨rfl, rfl, rfl⟩ (marks_cons rfl (marks_leave d ports))
  | disconnected hphase =>
    exact .lose (by rw [hphase]; rfl) rfl rfl rfl (by simp [Driver.request, marks])
  | connect hbuilding | fail hbuilding =>
    rw [Driver.step_built] at h
    rcases Option.map_eq_some_iff.mp h with ⟨out, hbuild, heq⟩
    simp only [Prod.mk.injEq] at heq
    rcases heq with ⟨hdriver, -, ho⟩
    rw [← hdriver, ← ho]
    exact tends_of_built hbuild

/-! ## Along a run -/

section Marks

variable {t o : List Driver.Observed}

theorem failed_append : Failed (t ++ o) ↔ Failed t ∨ Failed o := List.mem_append

theorem stopped_append : Stopped (t ++ o) ↔ Stopped t ∨ Stopped o := by
  simp only [Stopped, List.mem_append, exists_or]

theorem not_failed (ho : ∀ x ∈ o, marks x = false) : ¬ Failed o := by
  intro hfailed
  have hmarks := ho _ hfailed
  cases hmarks

theorem not_stopped (ho : ∀ x ∈ o, marks x = false) : ¬ Stopped o := by
  intro hstopped
  rcases hstopped with ⟨queued, sending, hmem⟩
  have hmarks := ho _ hmem
  cases hmarks

theorem failed_quiet (ho : ∀ x ∈ o, marks x = false) : Failed (t ++ o) ↔ Failed t := by
  rw [failed_append, or_iff_left (not_failed ho)]

theorem stopped_quiet (ho : ∀ x ∈ o, marks x = false) : Stopped (t ++ o) ↔ Stopped t := by
  rw [stopped_append, or_iff_left (not_stopped ho)]

end Marks

/-- A client that is held is connected, under its own address unless it is the first one and
was built after a failure. -/
structure Holds (t : List Driver.Observed) (d : Driver) (client : Client) : Prop where
  built : d.built = client.number + 1
  connected : d.status.connected = true
  published : ¬ (client.number = 0 ∧ Failed t) → d.status.address = some client.address
  unpublished : client.number = 0 → Failed t → d.status.address = none

/-- What the status says at every stage. -/
def Knows (t : List Driver.Observed) (d : Driver) : Prop :=
  match stage d.phase with
  | .first => d.built = 0 ∧ d.status.connected = false ∧ d.status.address = none ∧
      ¬ Failed t ∧ ¬ Stopped t
  | .retried => d.built = 0 ∧ d.status.connected = false ∧ d.status.address = none ∧
      Failed t ∧ ¬ Stopped t
  | .held client => Holds t d client ∧ ¬ Stopped t
  | .stopping client => Holds t d client ∧ Stopped t
  | .lost => 0 < d.built ∧ d.status.connected = false ∧ ¬ Stopped t
  | .returned => d.status.connected = true ↔ Stopped t

section Step

variable {t o : List Driver.Observed} {d d' : Driver}

theorem Holds.quiet {client : Client} (h : Holds t d client) (hsame : Same d d')
    (hfailed : Failed (t ++ o) ↔ Failed t) : Holds (t ++ o) d' client where
  built := hsame.built.trans h.built
  connected := hsame.connected.trans h.connected
  published hnot := by
    rw [hsame.address]
    apply h.published
    rwa [hfailed] at hnot
  unpublished hfirst hafter := by
    rw [hsame.address]
    exact h.unpublished hfirst (hfailed.mp hafter)

/-- What the status says is kept by every step. -/
theorem knows_of_tends (h : Knows t d) (htends : Tends d d' o) : Knows (t ++ o) d' := by
  unfold Knows at h ⊢
  cases htends with
  | quiet hstage hsame ho =>
    rw [hstage]
    have hfailed := @failed_quiet t o ho
    have hstopped := @stopped_quiet t o ho
    cases hcase : stage d.phase with
    | first | retried =>
      rw [hcase] at h
      simp only [hsame.built, hsame.connected, hsame.address, hfailed, hstopped]
      exact h
    | held client | stopping client =>
      rw [hcase] at h
      exact ⟨h.1.quiet hsame hfailed, by rw [hstopped]; exact h.2⟩
    | lost =>
      rw [hcase] at h
      simp only [hsame.built, hsame.connected, hstopped]
      exact h
    | returned =>
      rw [hcase] at h
      simp only [hsame.connected, hstopped]
      exact h
  | @connect address hstage hbuilt hconnected haddress =>
    rw [hstage]
    have hfailed : Failed (t ++ [.connected ⟨d.built, address⟩]) ↔ Failed t := by
      simp [Failed]
    have hstopped : Stopped (t ++ [.connected ⟨d.built, address⟩]) ↔ Stopped t := by
      simp [Stopped]
    cases haddress with
    | inl hretried =>
      rcases hretried with ⟨hcase, haddress⟩
      rw [hcase] at h
      rcases h with ⟨hzero, -, hnone, hfails, hstops⟩
      refine ⟨⟨hbuilt, hconnected, fun hnot => ?_, fun _ _ => haddress.trans hnone⟩, ?_⟩
      · exact absurd ⟨hzero, hfailed.mpr hfails⟩ hnot
      · rwa [hstopped]
    | inr hpublished =>
      rcases hpublished with ⟨hcase, haddress⟩
      have hbefore : ¬ (d.built = 0 ∧ Failed t) ∧ ¬ Stopped t := by
        cases hcase with
        | inl hfirst =>
          rw [hfirst] at h
          exact ⟨fun hboth => h.2.2.2.1 hboth.2, h.2.2.2.2⟩
        | inr hlost =>
          rw [hlost] at h
          exact ⟨fun hboth => absurd hboth.1 (Nat.ne_of_gt h.1), h.2.2⟩
      refine ⟨⟨hbuilt, hconnected, fun _ => haddress, fun hzero hfails => ?_⟩, ?_⟩
      · exact absurd ⟨hzero, hfailed.mp hfails⟩ hbefore.1
      · rw [hstopped]
        exact hbefore.2
  | fail hstage hbuilt hconnected haddress =>
    have hfailed : Failed (t ++ [.failed]) := by simp [Failed]
    have hstopped : Stopped (t ++ [.failed]) ↔ Stopped t := by simp [Stopped]
    cases hstage with
    | inl hconnecting =>
      rcases hconnecting with ⟨hcase, hstage⟩
      rw [hstage]
      have hbefore : d.built = 0 ∧ d.status.address = none ∧ ¬ Stopped t := by
        rcases hcase with hcase | hcase <;>
          · rw [hcase] at h
            exact ⟨h.1, h.2.2.1, h.2.2.2.2⟩
      rcases hbefore with ⟨hzero, hnone, hstops⟩
      refine ⟨hbuilt.trans hzero, hconnected, haddress.trans hnone, hfailed, ?_⟩
      rwa [hstopped]
    | inr hlost =>
      rcases hlost with ⟨hcase, hstage⟩
      rw [hcase] at h
      rw [hstage]
      refine ⟨hbuilt ▸ h.1, hconnected, ?_⟩
      rw [hstopped]
      exact h.2.2
  | stop hcase hstage hsame hstops hfails =>
    rw [hcase] at h
    rw [hstage]
    have hfailed : Failed (t ++ o) ↔ Failed t := by
      rw [failed_append, or_iff_left hfails]
    exact ⟨h.1.quiet hsame hfailed, stopped_append.mpr (.inr hstops)⟩
  | lose hcase hstage hbuilt hconnected ho =>
    rw [hcase] at h
    rw [hstage]
    refine ⟨?_, hconnected, ?_⟩
    · rw [hbuilt, h.1.built]
      exact Nat.succ_pos _
    · rw [stopped_quiet ho]
      exact h.2
  | leave hheld hfirst hreturned hstage hsame ho =>
    rw [hstage]
    dsimp only
    rw [hsame.connected, stopped_quiet ho]
    cases hcase : stage d.phase with
    | first => exact absurd hcase hfirst
    | held client => exact absurd hcase (hheld client)
    | returned => exact absurd hcase hreturned
    | retried =>
      rw [hcase] at h
      simp [h.2.1, h.2.2.2.2]
    | stopping client =>
      rw [hcase] at h
      simp [h.1.connected, h.2]
    | lost =>
      rw [hcase] at h
      simp [h.2.1, h.2.2]

/-- What the status says while a client is held. -/
theorem Knows.holds (h : Knows t d) {client : Client} (hclient : d.phase.client? = some client) :
    Holds t d client := by
  rw [← client?_stage] at hclient
  unfold Knows at h
  cases hcase : stage d.phase with
  | held other | stopping other =>
    rw [hcase] at h hclient
    cases hclient
    exact h.1
  | first | retried | lost | returned =>
    rw [hcase] at hclient
    cases hclient

/-- Without a client it says connected after a stop alone. -/
theorem Knows.unheld (h : Knows t d) (hclient : d.phase.client? = none) :
    d.status.connected = true ↔ d.phase = .returned ∧ Stopped t := by
  rw [← client?_stage] at hclient
  unfold Knows at h
  cases hcase : stage d.phase with
  | first | retried | lost =>
    rw [hcase] at h
    have hrunning : d.phase ≠ .returned := by
      intro hreturned
      rw [hreturned] at hcase
      cases hcase
    simp [h.2.1, hrunning]
  | held client | stopping client =>
    rw [hcase] at hclient
    cases hclient
  | returned =>
    rw [hcase] at h
    have hreturned : d.phase = .returned := by
      unfold stage at hcase
      split at hcase <;> first | assumption | cases hcase
    have hconnected : d.status.connected = true ↔ Stopped t := h
    rw [hconnected, and_iff_right hreturned]

end Step

section Reachable

variable {hubAddresses : List Recipient} {gateways : List String} {ports : Driver.Ports}
variable {t : List Driver.Observed} {s : Liveness}

theorem knows_of_runs (h : Runs step (.initial hubAddresses gateways ports) t s) :
    Knows t s.driver := by
  induction h with
  | refl => exact ⟨rfl, rfl, rfl, by simp [Failed], by simp [Stopped]⟩
  | snoc hrun hstep ih =>
    cases stepped_of_step hstep with
    | surroundings =>
      rw [List.append_nil]
      exact ih
    | driver hdriver => exact knows_of_tends ih (tends_of_step hdriver)

/-- The status is that of the client held, in every state of a run, exactly where the client
held is not the first one ever built after a build had failed, and where the driver has not
returned from {lit}`Step::Stop`. -/
theorem faithful_iff (h : Runs step (.initial hubAddresses gateways ports) t s) :
    StatusFaithful s.driver ↔
      (∀ client, s.driver.phase.client? = some client → ¬ (client.number = 0 ∧ Failed t)) ∧
        (s.driver.phase = .returned → ¬ Stopped t) := by
  have hknows := knows_of_runs h
  constructor
  · intro hfaithful
    refine ⟨fun client hclient hfirst => ?_, fun hreturned hstopped => ?_⟩
    · have hnone := (hknows.holds hclient).unpublished hfirst.1 hfirst.2
      rw [(hfaithful.held client hclient).2] at hnone
      cases hnone
    · have hclient : s.driver.phase.client? = none := by
        rw [hreturned]
        rfl
      have hconnected := (hknows.unheld hclient).mpr ⟨hreturned, hstopped⟩
      rw [hfaithful.unheld hclient] at hconnected
      cases hconnected
  · intro hconditions
    rcases hconditions with ⟨hfirst, hreturned⟩
    have hunheld : s.driver.phase.client? = none → s.driver.status.connected = false := by
      intro hclient
      apply Bool.eq_false_of_not_eq_true
      intro hconnected
      rcases (hknows.unheld hclient).mp hconnected with ⟨hphase, hstopped⟩
      exact hreturned hphase hstopped
    refine ⟨fun client hclient => ?_, hunheld, fun hconfigured hhealthy => ?_⟩
    · have hholds := hknows.holds hclient
      exact ⟨hholds.connected, hholds.published (hfirst client hclient)⟩
    · apply Option.ne_none_iff_exists'.mp
      intro hclient
      simp [MixnetStatus.isHealthy, hconfigured, hunheld hclient] at hhealthy

end Reachable

/-! ## What is left as it was -/

/-- The first connect fails, and {lit}`build_when_told` builds the first client. -/
def retriedConnect : List Liveness.Event :=
  [.driver (.start 0), .driver (.built none), .driver .reported,
    .surroundings (queueing [] [.rebuild]), .driver .command,
    .driver (.built (some "first@gateway"))]

/-- The driver is told to disconnect, and does. -/
def toldStop : List Liveness.Event :=
  [.driver (.start 0), .driver (.built (some "first@gateway")),
    .surroundings (queueing [] [.disconnect]), .driver .command,
    .driver .disconnected]

/-- A client that is held has no address, and one that is gone is connected. -/
theorem unfaithful_runs :
    (∃ t s, Runs step (.initial [] [] (queueing [] [])) t s ∧
      s.driver.phase = .serving ⟨0, "first@gateway"⟩ ∧ ¬ StatusFaithful s.driver) ∧
    ∃ t s, Runs step (.initial [] [] (queueing [] [])) t s ∧
      s.driver.phase = .returned ∧ ¬ StatusFaithful s.driver := by
  have hretried : ∃ t s,
      Runs step (.initial [] [] (queueing [] [])) t s ∧
        s.driver.phase = .serving ⟨0, "first@gateway"⟩ ∧ s.driver.status.address = none :=
    ⟨_, _, @Runs.of_execute _ _ _ step _ _ _ retriedConnect rfl, rfl, rfl⟩
  have hstopped : ∃ t s,
      Runs step (.initial [] [] (queueing [] [])) t s ∧
        s.driver.phase = .returned ∧ s.driver.status.connected = true :=
    ⟨_, _, @Runs.of_execute _ _ _ step _ _ _ toldStop rfl, rfl, rfl⟩
  constructor
  · rcases hretried with ⟨t, s, hrun, hphase, haddress⟩
    refine ⟨t, s, hrun, hphase, fun hfaithful => ?_⟩
    have hheld := (hfaithful.held ⟨0, "first@gateway"⟩ (by rw [hphase]; rfl)).2
    rw [haddress] at hheld
    cases hheld
  · rcases hstopped with ⟨t, s, hrun, hphase, hconnected⟩
    refine ⟨t, s, hrun, hphase, fun hfaithful => ?_⟩
    have hdown := hfaithful.unheld (by rw [hphase]; rfl)
    rw [hconnected] at hdown
    cases hdown

/-- A client dies, and another one is built. -/
def rebuiltAfterDeath : List Liveness.Event :=
  [.driver (.start 0), .driver (.built (some "first@gateway")), .driver (.arrive none 0),
    .driver .reported, .surroundings (queueing [] [.rebuild]),
    .driver .command, .driver (.built (some "second@gateway"))]

/-- The second client's address is published. -/
theorem rebuiltAfterDeath_faithful :
    ∃ t s, Runs step (.initial [] [] (queueing [] [])) t s ∧
      s.driver.status.address = some "second@gateway" ∧ StatusFaithful s.driver := by
  have hrun : ∃ t s, Runs step (.initial [] [] (queueing [] [])) t s ∧
      s.driver.phase = .serving ⟨1, "second@gateway"⟩ ∧
        s.driver.status.address = some "second@gateway" :=
    ⟨_, _, @Runs.of_execute _ _ _ step _ _ _ rebuiltAfterDeath rfl, rfl, rfl⟩
  rcases hrun with ⟨t, s, hrun, hphase, haddress⟩
  refine ⟨t, s, hrun, haddress, (faithful_iff hrun).mpr ⟨fun client hclient hfirst => ?_, ?_⟩⟩
  · rw [hphase] at hclient
    cases hclient
    cases hfirst.1
  · rw [hphase]
    intro hreturned
    cases hreturned

end Faithful
end Nym
end ZeroShim
