import ZeroShim.Nym.Timed

/-!
# How rebuilds are paced

After a rebuild for a death the supervisor rests for the backoff, hearing only the
shutdown.  After one for a rotation it listens at once, with the next rotation a backoff
away at least.

Main results:

- Theorem {lit}`rested_step`: what a step keeps of the rest that a rebuild is owed.
- Theorem {lit}`paced_iff`: rebuilds are paced exactly where nothing is received within
  the backoff of a rotation's rebuild.
-/

namespace ZeroShim
namespace Nym

open Library

namespace Timed

/-! ## What is shown -/

/-- Why a rebuild was sent, if this is one. -/
def Sight.asks : Sight → Option Cause
  | .supervisor (.asked cause) => some cause
  | _ => none

/-- The supervisor acts on something other than the shutdown. -/
def Sight.acts : Sight → Bool
  | .received => true
  | .supervisor .heard => true
  | .supervisor (.due _) => true
  | .supervisor (.rotating _) => true
  | .supervisor (.asked _) => true
  | _ => false

/-- After a rebuild was sent nothing else is acted on until the backoff has passed; the next
rebuild is sent no sooner. -/
def Paced (backoff : Nat) (t : List Observed) : Prop :=
  t.Pairwise fun x y => x.sight.asks ≠ none → y.sight.acts = true → x.time + backoff ≤ y.time

/-- Nothing is received from the driver within the backoff of a rotation's rebuild. -/
def Undisturbed (backoff : Nat) (t : List Observed) : Prop :=
  t.Pairwise fun x y =>
    x.sight.asks = some .rotation → y.sight = .received → x.time + backoff ≤ y.time

theorem Paced.undisturbed {backoff : Nat} {t : List Observed} (h : Paced backoff t) :
    Undisturbed backoff t := by
  apply List.Pairwise.imp _ h
  intro x y hpaced hasks hreceived
  exact hpaced (by simp [hasks]) (by simp [hreceived, Sight.acts])

/-! ## The rest that a rebuild is owed -/

/-- The backoff of every rebuild sent is over at a moment. -/
def RestedBy (backoff : Nat) (t : List Observed) (moment : Nat) : Prop :=
  ∀ x ∈ t, x.sight.asks ≠ none → x.time + backoff ≤ moment

/-- Where the supervisor is in the rest that the rebuilds sent so far are owed. -/
def Rests (backoff : Nat) (t : List Observed) (s : Timed) : Prop :=
  match s.supervisor.phase with
  | .watching wake => ∀ x ∈ t, x.sight.asks ≠ none → x.time + backoff ≤ s.now ∨
      x.sight.asks = some .rotation ∧ ∀ moment, wake = some moment → x.time + backoff ≤ moment
  | .asking _ => RestedBy backoff t s.now
  | .backingOff till => RestedBy backoff t till
  | .disconnecting => True
  | .returned => True

theorem RestedBy.mono {backoff moment later : Nat} {t : List Observed}
    (h : RestedBy backoff t moment) (hle : moment ≤ later) : RestedBy backoff t later := by
  intro x hx hasks
  exact Nat.le_trans (h x hx hasks) hle

/-- What asks for nothing owes no rest. -/
theorem RestedBy.append {backoff moment : Nat} {t o : List Observed}
    (h : RestedBy backoff t moment) (ho : ∀ x ∈ o, x.sight.asks = none) :
    RestedBy backoff (t ++ o) moment := by
  intro x hx hasks
  cases List.mem_append.mp hx with
  | inl hbefore => exact h x hbefore hasks
  | inr hnew => exact absurd (ho x hnew) hasks

theorem RestedBy.watching {backoff : Nat} {t : List Observed} {s : Timed} {wake : Option Nat}
    (h : RestedBy backoff t s.now) (hphase : s.supervisor.phase = .watching wake) :
    Rests backoff t s := by
  unfold Rests
  rw [hphase]
  intro x hx hasks
  exact .inl (h x hx hasks)

/-- A wake finds every rebuild rested. -/
theorem Rests.rested_of_wake {backoff moment : Nat} {t : List Observed} {s : Timed}
    (h : Rests backoff t s) (hphase : s.supervisor.phase = .watching (some moment))
    (hmoment : moment ≤ s.now) : RestedBy backoff t s.now := by
  unfold Rests at h
  rw [hphase] at h
  intro x hx hasks
  cases h x hx hasks with
  | inl hrested => exact hrested
  | inr hrotation => exact Nat.le_trans (hrotation.2 moment rfl) hmoment

/-- So does what is received, where nothing is received too soon after a rotation. -/
theorem Rests.rested_of_receive {backoff : Nat} {t : List Observed} {s : Timed}
    {wake : Option Nat} (h : Rests backoff t s)
    (hphase : s.supervisor.phase = .watching wake)
    (hquiet : ∀ x ∈ t, x.sight.asks = some .rotation → x.time + backoff ≤ s.now) :
    RestedBy backoff t s.now := by
  unfold Rests at h
  rw [hphase] at h
  intro x hx hasks
  cases h x hx hasks with
  | inl hrested => exact hrested
  | inr hrotation => exact hquiet x hx hrotation.1

/-- Time only lets them rest. -/
theorem Rests.later {backoff : Nat} {t o : List Observed} {s s' : Timed}
    (h : Rests backoff t s) (hphase : s'.supervisor.phase = s.supervisor.phase)
    (hnow : s.now ≤ s'.now) (ho : ∀ x ∈ o, x.sight.asks = none) : Rests backoff (t ++ o) s' := by
  unfold Rests at h ⊢
  rw [hphase]
  cases hcase : s.supervisor.phase with
  | watching wake =>
    rw [hcase] at h
    intro x hx hasks
    cases List.mem_append.mp hx with
    | inl hbefore => exact (h x hbefore hasks).imp_left fun hle => Nat.le_trans hle hnow
    | inr hnew => exact absurd (ho x hnew) hasks
  | asking cause =>
    rw [hcase] at h
    exact (RestedBy.mono h hnow).append ho
  | backingOff till =>
    rw [hcase] at h
    exact RestedBy.append h ho
  | disconnecting => trivial
  | returned => trivial

theorem mem_shown {time : Nat} {e : Supervisor.Event} {o : List Supervisor.Observed}
    {y : Observed} (h : y ∈ (shown e o).map (Observed.mk time)) :
    y.time = time ∧ (y.sight ∈ announce e ∨ ∃ x ∈ o, y.sight = .supervisor x) := by
  rcases List.mem_map.mp h with ⟨sight, hsight, rfl⟩
  refine ⟨rfl, ?_⟩
  cases List.mem_append.mp hsight with
  | inl hannounced => exact .inl hannounced
  | inr heffect =>
    rcases List.mem_map.mp heffect with ⟨x, hx, rfl⟩
    exact .inr ⟨x, hx, rfl⟩

/-- Only a rebuild that was sent asks for one. -/
theorem asks_shown {time : Nat} {e : Supervisor.Event} {o : List Supervisor.Observed}
    (ho : ∀ cause, .asked cause ∉ o) :
    ∀ x ∈ (shown e o).map (Observed.mk time), x.sight.asks = none := by
  intro x hx
  cases (mem_shown hx).2 with
  | inl hannounced => cases e <;> simp_all [announce, Sight.asks]
  | inr heffect =>
    rcases heffect with ⟨y, hy, hsight⟩
    rw [hsight]
    cases y with
    | asked cause => exact absurd hy (ho cause)
    | heard | due | rotating | stopped | returned => rfl

theorem asked_notMem_rotate (s : Supervisor) (now inflight : Nat) (cause : Cause) :
    .asked cause ∉ (s.rotate now inflight).2 := by
  unfold Supervisor.rotate Supervisor.comesDue
  split_ifs <;> simp

/-- A rebuild is sent in a step of its own. -/
theorem alone_of_asked {s s' : Timed} {e : Event} {o : List Observed} (h : Stepped s e s' o) :
    (∀ x ∈ o, x.sight.asks = none) ∨ ∃ x, o = [x] := by
  cases h with
  | pass he => exact .inl (by simp)
  | link hsenders hreceiver => exact .inl (by simp)
  | lost => exact .inr ⟨_, rfl⟩
  | @supervisor inflight e' supervisor link o he hmoves =>
    cases hmoves with
    | asked hphase hreceiver hsend => exact .inr ⟨_, rfl⟩
    | wake hphase hmoment => exact .inl (asks_shown (asked_notMem_rotate _ _ _))
    | signal | shutdown | hear | ended | stopped | refused | rested =>
      exact .inl (asks_shown (by simp [Supervisor.leave]))

/-- After a rebuild was sent it is owed its rest: in full after a death, and up to the next
rotation after a rotation. -/
theorem rests_asked {backoff : Nat} {t : List Observed} {s : Timed} {cause : Cause} {link : Link}
    (hbackoff : s.supervisor.policy.rebuildBackoff = backoff) (h : RestedBy backoff t s.now) :
    Rests backoff (t ++ [⟨s.now, .supervisor (.asked cause)⟩])
      { s with supervisor := s.supervisor.afterAsking s.now cause, link := link } := by
  unfold Rests
  cases cause with
  | death =>
    dsimp only [Supervisor.afterAsking]
    intro x hx hasks
    cases List.mem_append.mp hx with
    | inl hbefore => exact Nat.le_trans (h x hbefore hasks) (Nat.le_add_right _ _)
    | inr hnew =>
      apply Nat.le_of_eq
      rw [List.mem_singleton.mp hnew, hbackoff]
  | rotation =>
    dsimp only [Supervisor.afterAsking, Supervisor.restart, Supervisor.watch]
    intro x hx hasks
    cases List.mem_append.mp hx with
    | inl hbefore => exact .inl (h x hbefore hasks)
    | inr hnew =>
      rw [List.mem_singleton.mp hnew]
      refine .inr ⟨rfl, ?_⟩
      intro moment hmoment
      cases hperiod : s.supervisor.policy.period with
      | none => simp [Supervisor.wakeAt, nextRotation, hperiod] at hmoment
      | some period =>
        simp only [Supervisor.wakeAt, nextRotation, hperiod, Option.map_some,
          Option.some.injEq] at hmoment
        rw [← hmoment, hbackoff]
        exact Nat.add_le_add_left (Nat.le_max_right _ _) _

/-- What a step keeps of the rest that the rebuilds are owed, and that it acts only where all
of them have rested. -/
theorem rested_step {backoff : Nat} {t o : List Observed} {s s' : Timed} {e : Event}
    (hbackoff : s.supervisor.policy.rebuildBackoff = backoff) (h : Rests backoff t s)
    (hstep : Stepped s e s' o)
    (hquiet : ∀ x ∈ t, ∀ y ∈ o, x.sight.asks = some .rotation → y.sight = .received →
      x.time + backoff ≤ y.time) :
    Rests backoff (t ++ o) s' ∧ ∀ y ∈ o, y.sight.acts = true → RestedBy backoff t s.now := by
  cases hstep with
  | pass he => exact ⟨h.later rfl (Nat.le_add_right _ _) (by simp), by simp⟩
  | link hsenders hreceiver => exact ⟨h.later rfl (Nat.le_refl _) (by simp), by simp⟩
  | lost =>
    refine ⟨h.later rfl (Nat.le_refl _) (by simp [Sight.asks]), by simp [Sight.acts]⟩
  | @supervisor inflight e' supervisor link o he hmoves =>
    cases hmoves with
    | signal =>
      exact ⟨h.later rfl (Nat.le_refl _) (asks_shown (by simp)),
        by simp [shown, announce, Sight.acts]⟩
    | shutdown hphase hshutdown =>
      exact ⟨trivial, by simp [shown, announce]⟩
    | @hear wake events hphase hrecv =>
      have hrested := h.rested_of_receive hphase fun x hx hrotation =>
        hquiet x hx ⟨s.now, .received⟩ (by simp [shown, announce]) hrotation rfl
      exact ⟨RestedBy.append hrested (asks_shown (by simp)), fun _ _ _ => hrested⟩
    | @ended wake hphase hrecv =>
      have hrested := h.rested_of_receive hphase fun x hx hrotation =>
        hquiet x hx ⟨s.now, .received⟩ (by simp [shown, announce]) hrotation rfl
      exact ⟨trivial, fun _ _ _ => hrested⟩
    | @wake moment hphase hmoment =>
      have hrested := h.rested_of_wake hphase hmoment
      refine ⟨?_, fun _ _ _ => hrested⟩
      have hkept := hrested.append
        (@asks_shown s.now .wake _ (asked_notMem_rotate s.supervisor s.now inflight))
      unfold Supervisor.rotate
      split_ifs with hwait
      · refine RestedBy.watching ?_ rfl
        rw [Supervisor.rotate, if_pos hwait] at hkept
        exact hkept
      · rw [Supervisor.rotate, if_neg hwait] at hkept
        exact hkept
    | @asked cause commands hphase hreceiver hsend =>
      have hrested : RestedBy backoff t s.now := by
        unfold Rests at h
        rw [hphase] at h
        exact h
      exact ⟨rests_asked hbackoff hrested, fun _ _ _ => hrested⟩
    | stopped hphase hreceiver hsend =>
      exact ⟨trivial, by simp [shown, announce, Sight.acts]⟩
    | refused hphase hreceiver =>
      exact ⟨trivial, by simp [shown, announce, Supervisor.leave, Sight.acts]⟩
    | rested hphase htill =>
      have hrested : RestedBy backoff t s.now := by
        unfold Rests at h
        rw [hphase] at h
        exact RestedBy.mono h htill
      exact ⟨RestedBy.watching (hrested.append (asks_shown (by simp))) rfl,
        by simp [shown, announce]⟩

/-! ## Along a run -/

section Reachable

variable {policy : RotationPolicy} {s : Timed} {t : List Observed}

theorem paced_of_undisturbed (h : Runs step (start policy) t s)
    (hquiet : Undisturbed policy.rebuildBackoff t) :
    Paced policy.rebuildBackoff t ∧ Rests policy.rebuildBackoff t s := by
  induction h with
  | refl =>
    refine ⟨.nil, ?_⟩
    intro x hx
    cases hx
  | @snoc t o s s' e hrun hstep ih =>
    have hstepped := stepped_of_step hstep
    unfold Undisturbed at hquiet
    rw [List.pairwise_append] at hquiet
    rcases ih hquiet.1 with ⟨hpaced, hrests⟩
    obtain ⟨hkept, hacts⟩ := rested_step (by rw [policy_of_runs hrun]) hrests hstepped hquiet.2.2
    refine ⟨?_, hkept⟩
    unfold Paced
    rw [List.pairwise_append]
    refine ⟨hpaced, ?_, ?_⟩
    · cases alone_of_asked hstepped with
      | inl hnone =>
        apply List.pairwise_of_forall_mem_list
        intro x hx y _ hasks
        exact absurd (hnone x hx) hasks
      | inr hsingle =>
        rcases hsingle with ⟨x, rfl⟩
        exact List.pairwise_singleton _ _
    · intro x hx y hy hasks hactsy
      rw [(time_of_stepped hstepped).2 y hy]
      exact hacts y hy hactsy x hx hasks

/-- Rebuilds are paced exactly where nothing is received within the backoff of a rotation's
rebuild. -/
theorem paced_iff (h : Runs step (start policy) t s) :
    Paced policy.rebuildBackoff t ↔ Undisturbed policy.rebuildBackoff t := by
  constructor
  · intro hpaced
    exact hpaced.undisturbed
  · intro hquiet
    exact (paced_of_undisturbed h hquiet).1

end Reachable

/-! ## A build that fails at once -/

/-- Rotate every hour. -/
def hourly : RotationPolicy := .every 3600000000000

/-- A due rotation goes ahead, and the driver reports that its build failed. -/
def rotationThenDeath : List Event :=
  [.pass 3600000000000, .supervisor 0 .wake, .supervisor 0 .sent, .obey, .died,
    .supervisor 0 .hear, .supervisor 0 .sent]

/-- What it shows, all at the moment the rotation was due. -/
def rotationThenDeathTrace : List Observed :=
  ([.supervisor (.due 3690000000000), .supervisor (.rotating 0), .supervisor (.asked .rotation),
    .received, .supervisor .heard, .supervisor (.asked .death)] : List Sight).map
    (Observed.mk 3600000000000)

/-- Two rebuilds are sent at one moment. -/
theorem rotationThenDeath_unpaced :
    (∃ s, Runs step (start hourly) rotationThenDeathTrace s) ∧
      ¬ Paced hourly.rebuildBackoff rotationThenDeathTrace := by
  refine ⟨⟨_, @Runs.of_execute _ _ _ step _ _ _ rotationThenDeath rfl⟩, ?_⟩
  unfold Paced
  decide

/-- A due rotation goes ahead; a backoff later a death is heard, and when that rest is over
another one. -/
def threeRebuilds : List Event :=
  [.pass 3600000000000, .supervisor 0 .wake, .supervisor 0 .sent, .obey, .pass 5000000000, .died,
    .supervisor 0 .hear, .supervisor 0 .sent, .obey, .died, .pass 5000000000,
    .supervisor 0 .rested, .supervisor 0 .hear, .supervisor 0 .sent]

/-- The moments at which rebuilds were sent. -/
def rebuildTimes (t : List Observed) : List Nat :=
  (t.filter fun x => x.sight.asks ≠ none).map Observed.time

/-- Rebuilds that are exactly a backoff apart, of either cause. -/
theorem threeRebuilds_paced :
    ∃ t s, Runs step (start hourly) t s ∧
      rebuildTimes t = [3600000000000, 3605000000000, 3610000000000] ∧
      Paced hourly.rebuildBackoff t := by
  have hrun : ∃ t s, Runs step (start hourly) t s ∧
      rebuildTimes t = [3600000000000, 3605000000000, 3610000000000] ∧
        Undisturbed hourly.rebuildBackoff t := by
    refine ⟨_, _, @Runs.of_execute _ _ _ step _ _ _ threeRebuilds rfl, by decide, ?_⟩
    unfold Undisturbed
    decide
  rcases hrun with ⟨t, s, hrun, htimes, hquiet⟩
  exact ⟨t, s, hrun, htimes, (paced_iff hrun).mpr hquiet⟩

end Timed

end Nym
end ZeroShim
