import ZeroShim.Nym.Mixnet

/-!
# The liveness probe

What the probe arm of {lit}`run_driver` decides, over any run of the driver and whatever its
channels hold.

Main results:

- Theorem {lit}`effect_of_step`: what a step does to the probe's locals.
- Theorem {lit}`runs_of_mixnet`: the driver among the other tasks makes such a run.
- Theorem {lit}`verdict_sound`: a client is reported after silent rounds alone, where every
  probe is accepted and nothing arrives before the one after a silent round is.
- Theorem {lit}`agrees_iff`: the silent rounds are counted exactly where no backlogged tick
  finds any.
-/

namespace ZeroShim
namespace Nym

open Library

/-! ## Rounds -/

/-- A tick of the probe. -/
structure Round where
  mark : Option Nat
  /-- The inbound messages seen so far. -/
  seen : Nat
  /-- The backlog of {lit}`out_frames`. -/
  queued : Nat
  before : Nat
  after : Nat
  /-- The client is reported. -/
  reports : Bool
deriving DecidableEq, Repr

/-- What matters to the probe. -/
inductive Moment where
  | connected
  | probed (accepted : Bool)
  | inbound
  | tick (round : Round)
deriving DecidableEq, Repr

/-- The driver, and what its channels hold. -/
structure Liveness where
  driver : Driver
  ports : Driver.Ports

namespace Liveness

inductive Event where
  /-- The other ends of the channels do anything. -/
  | surroundings (ports : Driver.Ports)
  | driver (e : Driver.Event)

/-- The driver is in its loop, with a client. -/
def isLive : Driver.Phase → Bool
  | .serving _ => true
  | .reportingSilence _ => true
  | .delivering _ _ _ => true
  | _ => false

def isReport : Driver.Phase → Bool
  | .reportingSilence _ => true
  | _ => false

/-- What a step shows the probe. -/
def moments (d : Driver) (queued : Nat) (e : Driver.Event) (d' : Driver) : List Moment :=
  match e with
  | .tick =>
    [.tick ⟨d.inboundAtProbe, d.status.inboundTotal, queued, d.silentRounds, d'.silentRounds,
      isReport d'.phase⟩]
  | .built (some _) => [.connected]
  | .sent accepted => if d.probing then [.probed accepted] else []
  | _ => List.replicate (d'.status.inboundTotal - d.status.inboundTotal) .inbound

def initial (hubAddresses : List Recipient) (gateways : List String) (ports : Driver.Ports) :
    Liveness :=
  ⟨.initial hubAddresses gateways, ports⟩

/-- One step. -/
def step (s : Liveness) : Event → Option (Liveness × List Moment)
  | .surroundings ports => some ({ s with ports := ports }, [])
  | .driver e => (s.driver.step s.ports e).map fun out =>
      (⟨out.1, out.2.1⟩, moments s.driver s.ports.outFrames.queue.length e out.1)

/-! ## What a step does to the probe -/

/-- The inbound messages that an event has the driver go through. -/
def arriving (d : Driver) (e : Driver.Event) : List Bytes :=
  match d.phase, e with
  | .serving _, .arrive (some messages) _ => messages
  | .delivering _ _ rest, .delivered _ => rest
  | _, _ => []

/-- What a step does to the probe's locals. -/
inductive Effect (d : Driver) (e : Driver.Event) (d' : Driver) : List Moment → Prop where
  | quiet : d'.silentRounds = d.silentRounds → d'.inboundAtProbe = d.inboundAtProbe →
      d'.status.inboundTotal = d.status.inboundTotal →
      (isLive d'.phase = true → isLive d.phase = true ∧ d'.probing = d.probing) →
      Effect d e d' []
  | inbound (n : Nat) : (arriving d e = [] → n = 0) →
      d'.silentRounds = d.silentRounds → d'.inboundAtProbe = d.inboundAtProbe →
      d'.status.inboundTotal = d.status.inboundTotal + n → isLive d.phase = true →
      d'.probing = d.probing → Effect d e d' (List.replicate n .inbound)
  | connected : d'.silentRounds = 0 → d'.inboundAtProbe = none → Effect d e d' [.connected]
  | probed (accepted : Bool) : e = .sent accepted → isLive d.phase = true →
      d.probing = true → d'.probing = false →
      d'.silentRounds = d.silentRounds → d'.inboundAtProbe = some d.status.inboundTotal →
      d'.status.inboundTotal = d.status.inboundTotal → Effect d e d' [.probed accepted]
  /-- A silent round that is the last one needed. -/
  | report : isLive d.phase = true → d.probing = false →
      d.inboundAtProbe = some d.status.inboundTotal →
      Driver.silentRoundsBeforeRebuild ≤ d.silentRounds + 1 → d'.silentRounds = 0 →
      d'.inboundAtProbe = none →
      Effect d e d' [.tick ⟨d.inboundAtProbe, d.status.inboundTotal, 0, d.silentRounds, 0, true⟩]
  /-- A silent round. -/
  | silent : isLive d.phase = true → d.probing = false →
      d.inboundAtProbe = some d.status.inboundTotal →
      d.silentRounds + 1 < Driver.silentRoundsBeforeRebuild →
      d'.silentRounds = d.silentRounds + 1 → d'.inboundAtProbe = d.inboundAtProbe →
      d'.probing = true →
      Effect d e d' [.tick ⟨d.inboundAtProbe, d.status.inboundTotal, 0, d.silentRounds,
        d.silentRounds + 1, false⟩]
  /-- The first round, traffic seen, or a backlog. -/
  | otherwise (queued : Nat) : isLive d.phase = true →
      ¬ (d.inboundAtProbe = some d.status.inboundTotal ∧ queued = 0) → d'.silentRounds = 0 →
      d'.inboundAtProbe = d.inboundAtProbe → d'.probing = true →
      Effect d e d' [.tick ⟨d.inboundAtProbe, d.status.inboundTotal, queued, d.silentRounds, 0,
        false⟩]

/-- Going through inbound messages counts some of them. -/
theorem inboundTotal_forward (d : Driver) (client : Client) (unixNow : Nat)
    (messages : List Bytes) :
    d.status.inboundTotal ≤ (d.forward client unixNow messages).status.inboundTotal := by
  induction messages generalizing d with
  | nil => exact le_rfl
  | cons message rest ih =>
    cases message with
    | nil =>
      refine le_trans ?_ (ih _)
      simp only [MixnetStatus.inboundTotal, MixnetStatus.recordInbound, if_true]
      omega
    | cons b message =>
      simp [Driver.forward, MixnetStatus.inboundTotal, MixnetStatus.recordInbound]

theorem effect_forward {d : Driver} {client : Client} {unixNow : Nat} {messages : List Bytes}
    {e : Driver.Event} (hlive : isLive d.phase = true) (harriving : arriving d e = messages) :
    Effect d e (d.forward client unixNow messages)
      (List.replicate ((d.forward client unixNow messages).status.inboundTotal -
        d.status.inboundTotal) .inbound) := by
  have hle := inboundTotal_forward d client unixNow messages
  have hinFlight := Driver.inFlight_forward d client unixNow messages
  refine .inbound _ ?_ ?_ ?_ (by omega) hlive ?_
  · intro hnone
    rw [harriving] at hnone
    rw [hnone]
    exact Nat.sub_self _
  · rw [Driver.forward_eq]
  · rw [Driver.forward_eq]
  · unfold Driver.probing
    rw [hinFlight]

/-- A step that leaves the probe's locals alone, and the client too if it still holds one. -/
theorem effect_quiet {d d' : Driver} {e : Driver.Event} (hrounds : d'.silentRounds = d.silentRounds)
    (hmark : d'.inboundAtProbe = d.inboundAtProbe)
    (htotal : d'.status.inboundTotal = d.status.inboundTotal)
    (hlive : isLive d'.phase = true → isLive d.phase = true ∧ d'.probing = d.probing) :
    Effect d e d'
      (List.replicate (d'.status.inboundTotal - d.status.inboundTotal) .inbound) := by
  have hzero : d'.status.inboundTotal - d.status.inboundTotal = 0 := by omega
  rw [hzero]
  exact .quiet hrounds hmark htotal hlive

/-- The driver ticks in its loop, with no send in flight. -/
theorem of_step_tick {ports ports' : Driver.Ports} {d d' : Driver} {o : List Driver.Observed}
    (h : d.step ports .tick = some (d', ports', o)) :
    ∃ client, d.phase = .serving client ∧ d.inFlight = none ∧
      d' = d.tick client ports.outFrames.queue.length := by
  unfold Driver.step at h
  cases hphase : d.phase with
  | serving client =>
    simp only [hphase] at h
    split_ifs at h with hidle
    cases h
    exact ⟨client, rfl, hidle, rfl⟩
  | starting | connecting | reportingSilence | delivering | rebuilding | reporting | waiting
  | building | returned => simp [hphase] at h
  | disconnecting client stop => cases stop <;> simp [hphase] at h

theorem effect_tick {ports ports' : Driver.Ports} {d d' : Driver} {o : List Driver.Observed}
    (h : d.step ports .tick = some (d', ports', o)) :
    Effect d .tick d' (moments d ports.outFrames.queue.length .tick d') := by
  rcases of_step_tick h with ⟨client, hphase, hidle, rfl⟩
  have hlive : isLive d.phase = true := by rw [hphase]; rfl
  have hprobing : d.probing = false := by simp [Driver.probing, hidle]
  unfold moments Driver.tick
  by_cases hsilent :
      d.inboundAtProbe = some d.status.inboundTotal ∧ ports.outFrames.queue.length = 0
  · simp only [hsilent, and_self, if_true]
    by_cases hlast : Driver.silentRoundsBeforeRebuild ≤ d.silentRounds + 1
    · simp only [hlast, if_true]
      have heffect : Effect d .tick { d with
          silentRounds := 0, inboundAtProbe := none, phase := .reportingSilence client } _ :=
        .report hlive hprobing hsilent.1 hlast rfl rfl
      rw [hsilent.1] at heffect
      exact heffect
    · simp only [hlast, if_false]
      have heffect : Effect d .tick { d with
          silentRounds := d.silentRounds + 1
          inFlight := some (.probe d.sender d.own) } _ :=
        .silent hlive hprobing hsilent.1 (by omega) rfl rfl rfl
      rw [hsilent.1] at heffect
      simpa [isReport, hphase] using heffect
  · simp only [hsilent, if_false]
    have heffect : Effect d .tick { d with 
        silentRounds := 0, inFlight := some (.probe d.sender d.own) } _ :=
      .otherwise ports.outFrames.queue.length hlive hsilent rfl rfl rfl
    simpa [isReport, hphase] using heffect

theorem effect_sent {ports ports' : Driver.Ports} {d d' : Driver} {o : List Driver.Observed}
    {accepted : Bool} (h : d.step ports (.sent accepted) = some (d', ports', o)) :
    Effect d (.sent accepted) d'
      (moments d ports.outFrames.queue.length (.sent accepted) d') := by
  unfold Driver.step at h
  cases hphase : d.phase with
  | serving client =>
    have hlive : isLive d.phase = true := by rw [hphase]; rfl
    simp only [hphase] at h
    cases hinFlight : d.inFlight with
    | none => simp [hinFlight] at h
    | some inFlight =>
      simp only [hinFlight] at h
      cases h
      cases inFlight with
      | frame sender out =>
        have hprobing : d.probing = false := by simp [Driver.probing, hinFlight]
        simp only [moments, hprobing]
        exact .quiet rfl rfl rfl fun _ => ⟨hlive, hprobing.symm⟩
      | probe sender own =>
        have hprobing : d.probing = true := by simp [Driver.probing, hinFlight]
        simp only [moments, hprobing, if_true]
        exact .probed accepted rfl hlive hprobing rfl rfl rfl rfl
  | starting | connecting | reportingSilence | delivering | rebuilding | reporting | waiting
  | building | returned => simp [hphase] at h
  | disconnecting client stop => cases stop <;> simp [hphase] at h

theorem effect_built {ports ports' : Driver.Ports} {d d' : Driver} {o : List Driver.Observed}
    {outcome : Option Recipient} (h : d.step ports (.built outcome) = some (d', ports', o)) :
    Effect d (.built outcome) d'
      (moments d ports.outFrames.queue.length (.built outcome) d') := by
  rw [Driver.step_built] at h
  rcases Option.map_eq_some_iff.mp h with ⟨out, hbuild, heq⟩
  cases heq
  unfold Driver.endBuild at hbuild
  cases hphase : d.phase with
  | connecting | rebuilding | building =>
    simp only [hphase] at hbuild
    cases outcome with
    | none =>
      cases hbuild
      exact effect_quiet rfl rfl rfl (by simp [Driver.fail, isLive])
    | some address =>
      cases hbuild
      exact .connected rfl rfl
  | starting | serving | reportingSilence | delivering | disconnecting | reporting | waiting
  | returned => simp [hphase] at hbuild

/-- What a step does to the probe's locals. -/
theorem effect_of_step {ports ports' : Driver.Ports} {d d' : Driver} {e : Driver.Event}
    {o : List Driver.Observed} (h : d.step ports e = some (d', ports', o)) :
    Effect d e d' (moments d ports.outFrames.queue.length e d') := by
  have hstepped := Driver.stepped_of_step h
  cases e with
  | tick => exact effect_tick h
  | sent accepted => exact effect_sent h
  | built outcome => exact effect_built h
  | start unixNow =>
    cases hstepped with
    | start hphase => exact effect_quiet rfl rfl rfl (by simp [Driver.request, isLive])
    | stop hphase hended => exact effect_quiet rfl rfl rfl (by simp [Driver.stop, isLive])
  | command =>
    cases hstepped with
    | rebuild hphase hrecv => exact effect_quiet rfl rfl rfl (by simp [Driver.rebuild, isLive])
    | disconnect hphase hrecv => exact effect_quiet rfl rfl rfl (by simp [Driver.stop, isLive])
    | stop hphase hended => exact effect_quiet rfl rfl rfl (by simp [Driver.stop, isLive])
    | rebuildAgain hphase hrecv =>
      exact effect_quiet rfl rfl rfl (by simp [Driver.request, isLive])
    | leaveTold hphase hrecv => exact effect_quiet rfl rfl rfl (by simp [Driver.leave, isLive])
    | leave hphase hrecv => exact effect_quiet rfl rfl rfl (by simp [Driver.leave, isLive])
  | takeFrame =>
    cases hstepped with
    | takeFrame hphase hidle hrecv =>
      refine effect_quiet rfl rfl rfl fun hlive => ⟨hlive, ?_⟩
      simp [Driver.probing, hidle]
    | stop hphase hended => exact effect_quiet rfl rfl rfl (by simp [Driver.stop, isLive])
  | arrive messages unixNow =>
    cases hstepped with
    | @receive client messages unixNow hphase =>
      exact effect_forward (by rw [hphase]; rfl) (by simp [arriving, hphase])
    | die hphase => exact effect_quiet rfl rfl rfl (by simp [Driver.die, isLive])
    | stop hphase hended => exact effect_quiet rfl rfl rfl (by simp [Driver.stop, isLive])
  | delivered unixNow =>
    cases hstepped with
    | @passOn client message rest unixNow inbound hphase hsend =>
      exact effect_forward (by rw [hphase]; rfl) (by simp [arriving, hphase])
    | stop hphase hended => exact effect_quiet rfl rfl rfl (by simp [Driver.stop, isLive])
  | reported =>
    cases hstepped with
    | reportSilence hphase hreport =>
      rcases Driver.of_report hreport with ⟨rfl, -⟩
      exact effect_quiet rfl rfl rfl fun _ => ⟨by rw [hphase]; rfl, rfl⟩
    | report hphase hreport =>
      rcases Driver.of_report hreport with ⟨rfl, -⟩
      exact effect_quiet rfl rfl rfl (by simp [isLive])
    | stop hphase hended => exact effect_quiet rfl rfl rfl (by simp [Driver.stop, isLive])
  | disconnected =>
    cases hstepped with
    | disconnectedLast hphase =>
      exact effect_quiet rfl rfl rfl (by simp [Driver.leave, isLive])
    | disconnected hphase => exact effect_quiet rfl rfl rfl (by simp [Driver.request, isLive])
    | stop hphase hended => exact effect_quiet rfl rfl rfl (by simp [Driver.stop, isLive])

/-! ## Runs -/

section Runs

variable {hubAddresses : List Recipient} {gateways : List String} {ports : Driver.Ports}

theorem step_cases {s s' : Liveness} {e : Event} {o : List Moment}
    (h : step s e = some (s', o)) :
    (s'.driver = s.driver ∧ o = []) ∨
      ∃ e', e = .driver e' ∧ Effect s.driver e' s'.driver o := by
  cases e with
  | surroundings ports =>
    cases h
    exact .inl ⟨rfl, rfl⟩
  | driver e =>
    rcases Option.map_eq_some_iff.mp h with ⟨⟨d, ports', o'⟩, hstep, heq⟩
    cases heq
    exact .inr ⟨e, rfl, effect_of_step hstep⟩

/-- The driver among the other tasks makes such a run. -/
theorem runs_of_mixnet {policy : RotationPolicy} {s : Mixnet} {t : List Mixnet.Observed}
    (h : Runs Mixnet.step (.initial policy hubAddresses gateways) t s) :
    ∃ o, Runs step (initial hubAddresses gateways (Mixnet.initial policy hubAddresses
      gateways).ports) o ⟨s.driver, s.ports⟩ := by
  induction h with
  | refl => exact ⟨[], .refl⟩
  | @snoc t o s s' e hrun hstep ih =>
    rcases ih with ⟨shown, hshown⟩
    cases Mixnet.stepped_of_step hstep with
    | @driver e driver ports' o' htick hdriver =>
      have hlast : step ⟨s.driver, s.ports⟩ (.driver e) = some (⟨driver, ports'⟩,
          moments s.driver s.ports.outFrames.queue.length e driver) := by
        simp only [step, hdriver, Option.map_some]
      exact ⟨_, hshown.snoc hlast⟩
    | pass | turn | accept | abandon | closeRequests | store | supervisor =>
      exact ⟨_, hshown.snoc (e := .surroundings (Mixnet.ports _)) rfl⟩

/-! ## The verdict -/

/-- The last {lit}`n` rounds: a probe that was accepted, and then a tick that found nothing
queued. -/
def Chain (n : Nat) (t : List Moment) : Prop :=
  ∃ (pre : List Moment) (rounds : List Round),
    t = pre ++ rounds.flatMap (fun round => [.probed true, .tick round]) ∧
    rounds.length = n ∧ ∀ round ∈ rounds, round.queued = 0

theorem chain_zero (t : List Moment) : Chain 0 t := ⟨t, [], by simp, rfl, by simp⟩

theorem Chain.snoc {n : Nat} {t : List Moment} {round : Round} (h : Chain n t)
    (hqueued : round.queued = 0) : Chain (n + 1) (t ++ [.probed true, .tick round]) := by
  rcases h with ⟨pre, rounds, rfl, hlength, hidle⟩
  refine ⟨pre, rounds ++ [round], by simp, by simp [hlength], ?_⟩
  intro other hmem
  rcases List.mem_append.mp hmem with hmem | hmem
  · exact hidle other hmem
  · rw [List.mem_singleton.mp hmem]
    exact hqueued

/-- As many rounds as are needed, of one client, with no inbound message from the first
one's probe on. -/
def SoundVerdict (t : List Moment) : Prop :=
  ∃ n, Driver.silentRoundsBeforeRebuild ≤ n ∧ Chain n t

/-- Every report is of such rounds. -/
def ReportsSound (t : List Moment) : Prop :=
  ∀ pre round, pre ++ [.tick round] <+: t → round.reports = true →
    SoundVerdict (pre ++ [.tick round])

/-- What the rounds that are counted looked like. -/
structure Tracks (t : List Moment) (d : Driver) : Prop where
  probing : d.probing = true → Chain d.silentRounds t
  marked : d.probing = false → ∀ mark, d.inboundAtProbe = some mark →
    ∃ t' n, t = t' ++ .probed true :: List.replicate n .inbound ∧ Chain d.silentRounds t' ∧
      d.status.inboundTotal = mark + n

/-- A probe is not refused, and nothing arrives while the probe after a silent round is in
flight. -/
def Undisturbed (s : Liveness) (e : Event) : Prop :=
  match e with
  | .driver e => s.driver.probing = true →
      e ≠ .sent false ∧ (s.driver.silentRounds ≠ 0 → arriving s.driver e = [])
  | .surroundings _ => True

instance (s : Liveness) (e : Event) : Decidable (Undisturbed s e) := by
  unfold Undisturbed
  cases e <;> infer_instance

theorem tracks_of_effect {d d' : Driver} {e : Driver.Event} {t o : List Moment}
    (h : Effect d e d' o) (htracks : isLive d.phase = true → Tracks t d)
    (hundisturbed : d.probing = true →
      e ≠ .sent false ∧ (d.silentRounds ≠ 0 → arriving d e = []))
    (hlive' : isLive d'.phase = true) : Tracks (t ++ o) d' := by
  cases h with
  | quiet hrounds hmark htotal hlive =>
    rcases hlive hlive' with ⟨hlive, hprobing⟩
    have h := htracks hlive
    rw [List.append_nil]
    constructor
    · rw [hprobing, hrounds]
      exact h.probing
    · rw [hprobing, hrounds, hmark, htotal]
      exact h.marked
  | inbound n hnone hrounds hmark htotal hlive hprobing =>
    have h := htracks hlive
    constructor
    · intro hprobing'
      rw [hprobing] at hprobing'
      rw [hrounds]
      by_cases hzero : d.silentRounds = 0
      · rw [hzero]
        exact chain_zero _
      · rw [hnone ((hundisturbed hprobing').2 hzero), List.replicate_zero, List.append_nil]
        exact h.probing hprobing'
    · intro hprobing' mark hsome
      rw [hprobing] at hprobing'
      rw [hmark] at hsome
      rcases h.marked hprobing' mark hsome with ⟨t', m, rfl, hchain, hseen⟩
      rw [hrounds]
      refine ⟨t', m + n, ?_, hchain, by omega⟩
      rw [List.append_assoc, List.cons_append, List.replicate_append_replicate]
  | connected hrounds hmark =>
    constructor
    · rw [hrounds]
      exact fun _ => chain_zero _
    · rw [hmark]
      rintro - mark ⟨⟩
  | probed accepted hevent hlive hprobing hprobing' hrounds hmark htotal =>
    have h := htracks hlive
    constructor
    · rw [hprobing']
      rintro ⟨⟩
    · intro _ mark hsome
      rw [hmark] at hsome
      cases hsome
      have haccepted : accepted = true := by
        by_contra hrefused
        rw [Bool.not_eq_true] at hrefused
        exact (hundisturbed hprobing).1 (hrefused ▸ hevent)
      rw [hrounds, haccepted]
      exact ⟨t, 0, rfl, h.probing hprobing, by omega⟩
  | report hlive hprobing hmark hlast hrounds' hmark' =>
    constructor
    · rw [hrounds']
      exact fun _ => chain_zero _
    · rw [hmark']
      rintro - mark ⟨⟩
  | silent hlive hprobing hmark hlast hrounds' hmark' hprobing' =>
    rcases (htracks hlive).marked hprobing _ hmark with ⟨t', n, rfl, hchain, hseen⟩
    have hnone : n = 0 := by omega
    constructor
    · intro _
      rw [hrounds', hnone]
      rw [List.replicate_zero, List.append_assoc]
      exact hchain.snoc rfl
    · rw [hprobing']
      rintro ⟨⟩
  | otherwise queued hlive hnot hrounds' hmark' hprobing' =>
    constructor
    · rw [hrounds']
      exact fun _ => chain_zero _
    · rw [hprobing']
      rintro ⟨⟩

/-- The rounds before a report are silent ones. -/
theorem sound_of_effect {d d' : Driver} {e : Driver.Event} {t : List Moment} {round : Round}
    (h : Effect d e d' [.tick round]) (htracks : isLive d.phase = true → Tracks t d)
    (hreports : round.reports = true) : SoundVerdict (t ++ [.tick round]) := by
  generalize ho : [Moment.tick round] = o at h
  cases h with
  | report hlive hprobing hmark hlast hrounds' hmark' =>
    cases ho
    rcases (htracks hlive).marked hprobing _ hmark with ⟨t', n, rfl, hchain, hseen⟩
    have hnone : n = 0 := by omega
    refine ⟨d.silentRounds + 1, hlast, ?_⟩
    rw [hnone, List.replicate_zero, List.append_assoc]
    exact hchain.snoc rfl
  | silent | otherwise =>
    cases ho
    cases hreports
  | inbound n =>
    have hmem : Moment.tick round ∈ List.replicate n Moment.inbound :=
      ho ▸ List.mem_singleton_self _
    cases (List.mem_replicate.mp hmem).2
  | quiet | connected | probed => cases ho

theorem prefix_of_append {t o pre : List Moment} {round : Round} (hnone : ∀ r, .tick r ∉ o)
    (h : pre ++ [.tick round] <+: t ++ o) : pre ++ [.tick round] <+: t := by
  induction o using List.reverseRecOn with
  | nil => simpa using h
  | append_singleton o x ih =>
    rw [← List.append_assoc] at h
    rcases List.prefix_concat_iff.mp h with heq | hpre
    · rcases List.append_inj' heq rfl with ⟨-, hx⟩
      exact absurd (List.mem_append_right o (List.mem_singleton.mpr (List.singleton_inj.mp hx)))
        (hnone round)
    · exact ih (fun r hmem => hnone r (List.mem_append_left _ hmem)) hpre

/-- A tick is all that its step shows. -/
theorem tick_of_effect {d d' : Driver} {e : Driver.Event} {o : List Moment}
    (h : Effect d e d' o) : (∀ r, .tick r ∉ o) ∨ ∃ r, o = [.tick r] := by
  cases h with
  | report | silent | otherwise => exact .inr ⟨_, rfl⟩
  | inbound n =>
    left
    intro r hmem
    cases (List.mem_replicate.mp hmem).2
  | quiet | connected | probed => exact .inl (by simp)

/-- In every run in which no probe is refused, and nothing arrives while the probe after a
silent round is in flight, a client is reported only after rounds that were silent from the
first one's probe on, each with nothing queued. -/
theorem verdict_sound {s : Liveness} {t : List Moment}
    (h : Runs (guarded step Undisturbed) (initial hubAddresses gateways ports) t s) :
    ReportsSound t := by
  have hinvariant : (isLive s.driver.phase = true → Tracks t s.driver) ∧ ReportsSound t := by
    refine h.invariant (P := fun t s => (isLive s.driver.phase = true → Tracks t s.driver) ∧
      ReportsSound t) ⟨by simp [initial, Driver.initial, isLive], ?_⟩ ?_
    · intro pre round hpre
      simp at hpre
    rintro t s e o s' - ⟨htracks, hsound⟩ hstep
    rcases of_guarded hstep with ⟨hundisturbed, hstep⟩
    rcases step_cases hstep with ⟨hsame, rfl⟩ | ⟨e', rfl, heffect⟩
    · rw [hsame, List.append_nil]
      exact ⟨htracks, hsound⟩
    · refine ⟨tracks_of_effect heffect htracks hundisturbed, ?_⟩
      intro pre round hpre hreports
      rcases tick_of_effect heffect with hnone | ⟨r, rfl⟩
      · exact hsound pre round (prefix_of_append hnone hpre) hreports
      · rcases List.prefix_concat_iff.mp hpre with heq | hpre
        · rcases List.append_inj' heq rfl with ⟨rfl, hround⟩
          rcases Moment.tick.inj (List.singleton_inj.mp hround) with rfl
          exact sound_of_effect heffect htracks hreports
        · exact hsound pre round hpre hreports
  exact hinvariant.2

/-- The last two of some rounds are next to each other. -/
theorem Chain.lastTwo {n : Nat} {t : List Moment} (h : Chain n t) (hn : 2 ≤ n) :
    ∃ pre r r', t = pre ++ [.probed true, .tick r, .probed true, .tick r'] := by
  rcases h with ⟨pre, rounds, rfl, rfl, -⟩
  rcases List.eq_nil_or_concat rounds with rfl | ⟨rounds, r', rfl⟩
  · simp at hn
  rcases List.eq_nil_or_concat rounds with rfl | ⟨rounds, r, rfl⟩
  · simp at hn
  exact ⟨pre ++ rounds.flatMap fun round => [.probed true, .tick round], r, r', by simp⟩

/-! ## The count -/

/-- What a moment does to the silent rounds counted: a tick without a mark, or with a
backlog, decides nothing. -/
def countRound (n : Nat) : Moment → Nat
  | .connected => 0
  | .tick round =>
    if round.mark = none ∨ 0 < round.queued then n
    else if round.mark ≠ some round.seen ∨ round.reports = true then 0
    else n + 1
  | .probed _ => n
  | .inbound => n

/-- The most recent rounds that were decided, in a row, and had no inbound message since
their mark. -/
def count (t : List Moment) : Nat := t.foldl countRound 0

/-- After every tick the driver has counted them. -/
def Agrees (t : List Moment) : Prop :=
  ∀ pre round, pre ++ [.tick round] <+: t → round.after = count (pre ++ [.tick round])

/-- Every tick with a backlog finds no silent round. -/
def BacklogFindsNone (t : List Moment) : Prop :=
  ∀ round, .tick round ∈ t → 0 < round.queued → round.before = 0

theorem count_append (t o : List Moment) : count (t ++ o) = o.foldl countRound (count t) :=
  List.foldl_append

theorem agrees_append {t o : List Moment} (hnone : ∀ r, .tick r ∉ o) :
    Agrees (t ++ o) ↔ Agrees t := by
  constructor
  · intro h pre round hpre
    exact h pre round (hpre.trans (List.prefix_append t o))
  · intro h pre round hpre
    exact h pre round (prefix_of_append hnone hpre)

theorem agrees_tick {t : List Moment} {round : Round} :
    Agrees (t ++ [.tick round]) ↔ Agrees t ∧ round.after = count (t ++ [.tick round]) := by
  constructor
  · intro h
    refine ⟨?_, h t round (List.prefix_refl _)⟩
    intro pre other hpre
    exact h pre other (hpre.trans (List.prefix_append t _))
  · rintro ⟨h, hlast⟩ pre other hpre
    rcases List.prefix_concat_iff.mp hpre with heq | hpre
    · rcases List.append_inj' heq rfl with ⟨rfl, hround⟩
      rcases Moment.tick.inj (List.singleton_inj.mp hround) with rfl
      exact hlast
    · exact h pre other hpre

theorem backlogFindsNone_append {t o : List Moment} (hnone : ∀ r, .tick r ∉ o) :
    BacklogFindsNone (t ++ o) ↔ BacklogFindsNone t := by
  constructor
  · intro h round hmem
    exact h round (List.mem_append_left _ hmem)
  · intro h round hmem
    rcases List.mem_append.mp hmem with hmem | hmem
    · exact h round hmem
    · exact absurd hmem (hnone round)

theorem backlogFindsNone_tick {t : List Moment} {round : Round} :
    BacklogFindsNone (t ++ [.tick round]) ↔
      BacklogFindsNone t ∧ (0 < round.queued → round.before = 0) := by
  constructor
  · intro h
    refine ⟨?_, h round (by simp)⟩
    intro other hmem
    exact h other (List.mem_append_left _ hmem)
  · rintro ⟨h, hlast⟩ other hmem
    rcases List.mem_append.mp hmem with hmem | hmem
    · exact h other hmem
    · rcases Moment.tick.inj (List.mem_singleton.mp hmem) with rfl
      exact hlast

/-- The driver's count beside the one above. -/
structure Counts (t : List Moment) (d : Driver) : Prop where
  agrees_iff : Agrees t ↔ BacklogFindsNone t
  counted : Agrees t → d.silentRounds = count t
  unmarked : d.inboundAtProbe = none → d.silentRounds = 0

/-- What shows no tick, and leaves the count alone, keeps it. -/
theorem Counts.quiet {d d' : Driver} {t o : List Moment} (h : Counts t d)
    (hnone : ∀ r, .tick r ∉ o) (hcount : Agrees t → d'.silentRounds = count (t ++ o))
    (hunmarked : d'.inboundAtProbe = none → d'.silentRounds = 0) : Counts (t ++ o) d' where
  agrees_iff := by
    rw [agrees_append hnone, backlogFindsNone_append hnone]
    exact h.agrees_iff
  counted := by
    rw [agrees_append hnone]
    exact hcount
  unmarked := hunmarked

/-- A tick keeps it, if the driver and the count agree on it where no backlog finds silent
rounds. -/
theorem Counts.tick {d d' : Driver} {t : List Moment} {round : Round} (h : Counts t d)
    (hafter : d'.silentRounds = round.after)
    (hdecides : Agrees t → (round.after = count (t ++ [.tick round]) ↔
      (0 < round.queued → round.before = 0)))
    (hunmarked : d'.inboundAtProbe = none → d'.silentRounds = 0) :
    Counts (t ++ [.tick round]) d' where
  agrees_iff := by
    rw [agrees_tick, backlogFindsNone_tick, ← h.agrees_iff]
    exact and_congr_right hdecides
  counted := by
    rw [agrees_tick, hafter]
    exact fun hagrees => hagrees.2
  unmarked := hunmarked

theorem counts_of_effect {d d' : Driver} {e : Driver.Event} {t o : List Moment}
    (h : Effect d e d' o) (hcounts : Counts t d) : Counts (t ++ o) d' := by
  cases h with
  | quiet hrounds hmark htotal hlive =>
    refine hcounts.quiet (by simp) ?_ ?_
    · rw [hrounds, List.append_nil]
      exact hcounts.counted
    · rw [hrounds, hmark]
      exact hcounts.unmarked
  | inbound n hnone hrounds hmark htotal hlive hprobing =>
    refine hcounts.quiet (fun r hmem => by cases (List.mem_replicate.mp hmem).2) ?_ ?_
    · intro hagrees
      have hkept : ∀ n k, (List.replicate k Moment.inbound).foldl countRound n = n := by
        intro n k
        induction k with
        | zero => rfl
        | succ k ih => exact ih
      rw [count_append, hkept, hrounds]
      exact hcounts.counted hagrees
    · rw [hrounds, hmark]
      exact hcounts.unmarked
  | connected hrounds hmark =>
    refine hcounts.quiet (by simp) ?_ fun _ => hrounds
    rw [count_append, hrounds]
    exact fun _ => rfl
  | probed accepted hevent hlive hprobing hprobing' hrounds hmark htotal =>
    refine hcounts.quiet (by simp) ?_ ?_
    · rw [count_append, hrounds]
      exact hcounts.counted
    · rw [hmark]
      rintro ⟨⟩
  | report hlive hprobing hmark hlast hrounds' hmark' =>
    refine hcounts.tick hrounds' ?_ fun _ => hrounds'
    intro hagrees
    simp [count_append, countRound, hmark]
  | silent hlive hprobing hmark hlast hrounds' hmark' hprobing' =>
    refine hcounts.tick hrounds' ?_ ?_
    · intro hagrees
      simp [count_append, countRound, hmark, hcounts.counted hagrees]
    · rw [hmark', hmark]
      rintro ⟨⟩
  | otherwise queued hlive hnot hrounds' hmark' hprobing' =>
    refine hcounts.tick hrounds' ?_ fun _ => hrounds'
    intro hagrees
    have hcounted := hcounts.counted hagrees
    rw [count_append]
    cases hmark : d.inboundAtProbe with
    | none =>
      have hzero := hcounts.unmarked hmark
      simp [countRound, hzero, ← hcounted]
    | some mark =>
      by_cases hqueued : 0 < queued
      · simp [countRound, hqueued, ← hcounted, eq_comm]
      · have hseen : mark ≠ d.status.inboundTotal := by
          rintro rfl
          exact hnot ⟨hmark, by omega⟩
        simp [countRound, hqueued, hseen]

/-- On every run the driver counts the silent rounds after every tick exactly when no tick
with a backlog finds any: it forgets those it finds. -/
theorem agrees_iff {s : Liveness} {t : List Moment}
    (h : Runs step (initial hubAddresses gateways ports) t s) :
    Agrees t ↔ BacklogFindsNone t := by
  have hcounts : Counts t s.driver := by
    refine h.invariant (P := fun t s => Counts t s.driver) ?_ ?_
    · refine ⟨?_, fun _ => rfl, fun _ => rfl⟩
      refine iff_of_true ?_ ?_
      · intro pre round hpre
        simp at hpre
      · intro round hmem
        cases hmem
    · intro t s e o s' _ ih hstep
      rcases step_cases hstep with ⟨hsame, rfl⟩ | ⟨e', -, heffect⟩
      · rw [hsame, List.append_nil]
        exact ih
      · exact counts_of_effect heffect ih
  exact hcounts.agrees_iff

end Runs

/-! ## A message between two probes -/

/-- Channels with nothing in them. -/
def idlePorts : Driver.Ports := ⟨.empty, .empty, .empty⟩

/-- A client comes up, its first probe is accepted, and a tick finds silence. -/
def oneSilentRound : List Event :=
  [.driver (.start 0), .driver (.built (some "own@gateway")), .driver .tick,
    .driver (.sent true), .driver .tick]

/-- A message that arrives before the second probe is accepted is not seen: the client is
reported all the same. -/
theorem report_afterInbound :
    ∃ t s, Runs step (initial [] [] idlePorts) t s ∧ Moment.inbound ∈ t ∧ ¬ ReportsSound t := by
  have hrun := Runs.of_execute (show execute step (initial [] [] idlePorts) (oneSilentRound ++
    [.driver (.arrive (some [[]]) 0), .driver (.sent true), .driver .tick]) = some (_, _) from rfl)
  refine ⟨_, _, hrun, by decide, ?_⟩
  intro hsound
  obtain ⟨n, hn, hchain⟩ := hsound
    [.connected, .tick ⟨none, 0, 0, 0, 0, false⟩, .probed true,
      .tick ⟨some 0, 0, 0, 0, 1, false⟩, .inbound, .probed true]
    ⟨some 1, 1, 0, 1, 0, true⟩ (List.prefix_refl _) rfl
  rcases hchain.lastTwo hn with ⟨pre, r, r', heq⟩
  have hsplit : [Moment.connected, .tick ⟨none, 0, 0, 0, 0, false⟩, .probed true] ++
      [.tick ⟨some 0, 0, 0, 0, 1, false⟩, .inbound, .probed true,
        .tick ⟨some 1, 1, 0, 1, 0, true⟩] =
      pre ++ [.probed true, .tick r, .probed true, .tick r'] := heq
  have hlast := (List.append_inj' hsplit rfl).2
  simp at hlast

/-- A client that hears nothing is reported after the second silent round. -/
theorem verdict_sound_silent :
    ∃ t s, Runs (guarded step Undisturbed) (initial [] [] idlePorts) t s ∧
      .tick ⟨some 0, 0, 0, 1, 0, true⟩ ∈ t ∧ ReportsSound t := by
  have hrun := Runs.of_execute (show execute (guarded step Undisturbed) (initial [] [] idlePorts)
    (oneSilentRound ++ [.driver (.sent true), .driver .tick]) = some (_, _) from rfl)
  exact ⟨_, _, hrun, by decide, verdict_sound hrun⟩

/-! ## A backlogged tick -/

/-- Channels with one frame queued. -/
def busyPorts : Driver.Ports := ⟨⟨[⟨[], 0, 0⟩], 0, true, true, by decide⟩, .empty, .empty⟩

/-- A tick with a backlog clears the silent round before it. -/
theorem backlog_clears :
    ∃ t s, Runs step (initial [] [] idlePorts) t s ∧
      .tick ⟨some 0, 0, 1, 1, 0, false⟩ ∈ t ∧ ¬ Agrees t := by
  have hrun := Runs.of_execute (show execute step (initial [] [] idlePorts) (oneSilentRound ++
    [.driver (.sent true), .surroundings busyPorts, .driver .tick]) = some (_, _) from rfl)
  refine ⟨_, _, hrun, by decide, ?_⟩
  intro hagrees
  have hcount := hagrees
    [.connected, .tick ⟨none, 0, 0, 0, 0, false⟩, .probed true,
      .tick ⟨some 0, 0, 0, 0, 1, false⟩, .probed true]
    ⟨some 0, 0, 1, 1, 0, false⟩ (List.prefix_refl _)
  cases hcount

/-- A tick with a backlog that finds none is not counted. -/
theorem agrees_iff_busy :
    ∃ t s, Runs step (initial [] [] idlePorts) t s ∧
      .tick ⟨some 0, 0, 1, 0, 0, false⟩ ∈ t ∧ Agrees t := by
  have hrun := Runs.of_execute (show execute step (initial [] [] idlePorts)
    [.driver (.start 0), .driver (.built (some "own@gateway")), .driver .tick,
      .driver (.sent true), .surroundings busyPorts, .driver .tick] =
    some (_, [.connected, .tick ⟨none, 0, 0, 0, 0, false⟩, .probed true,
      .tick ⟨some 0, 0, 1, 0, 0, false⟩]) from rfl)
  refine ⟨_, _, hrun, by decide, (agrees_iff hrun).mpr ?_⟩
  intro round hmem hqueued
  simp only [List.mem_cons, Moment.tick.injEq, reduceCtorEq, List.not_mem_nil, false_or,
    or_false] at hmem
  rcases hmem with rfl | rfl <;> rfl

end Liveness

end Nym
end ZeroShim
