import ZeroShim.Nym.Window

/-!
# Shutting the supervisor down

The shutdown signal races what else is ready in the supervisor's {lit}`select!`, which
takes any of its ready arms.  Where it takes the shutdown, or what it takes leads to no
rebuild, the signal is followed by one {lit}`Disconnect` and the end.

Main results:

- Theorem {lit}`Concludes.moves`: what a step that meets the condition keeps.
- Theorem {lit}`ends_of_concludes`: from then on the supervisor can always end.
- Theorem {lit}`shutdown_concludes`: no rebuild is sent after the signal.
-/

namespace ZeroShim
namespace Nym

open Library

namespace Timed

/-! ## The condition -/

/-- The signal does not come while a rebuild is being sent, and after it neither a queued
report nor a rotation that goes ahead is taken in place of the shutdown. -/
def yields (s : Timed) (e : Event) : Bool :=
  match e with
  | .supervisor _ .signal =>
    match s.supervisor.phase with
    | .asking _ => false
    | _ => true
  | .supervisor _ .hear => !s.supervisor.shutdown || s.link.events.queue = []
  | .supervisor inflight .wake =>
    !s.supervisor.shutdown ||
      (inflight ≠ 0 && s.now < s.supervisor.deadline s.now)
  | _ => true

/-- The steps of a run in which everything yields to the shutdown. -/
abbrev yieldingStep : Transition Timed Event Observed :=
  guarded step fun s e => yields s e = true

/-! ## What is sent -/

/-- The command that was sent, if any. -/
def Sight.command : Sight → Option ClientCommand
  | .supervisor (.asked _) => some .rebuild
  | .supervisor .stopped => some .disconnect
  | _ => none

/-- The commands sent. -/
def sent (t : List Observed) : List ClientCommand := t.filterMap fun x => x.sight.command

@[simp] theorem sent_append (t o : List Observed) : sent (t ++ o) = sent t ++ sent o :=
  List.filterMap_append

/-- The driver returned. -/
def Lost (t : List Observed) : Prop := ∃ time, ⟨time, .lost⟩ ∈ t

theorem Lost.append {t : List Observed} (h : Lost t) (o : List Observed) : Lost (t ++ o) := by
  rcases h with ⟨time, hmem⟩
  exact ⟨time, List.mem_append_left o hmem⟩

/-- What was sent since the signal: nothing while the supervisor runs; when it has returned,
one {lit}`Disconnect`, or nothing to a driver that was gone. -/
def Concludes (t after : List Observed) (s : Timed) : Prop :=
  s.supervisor.shutdown = true ∧
    match s.supervisor.phase with
    | .watching _ => sent after = []
    | .asking _ => False
    | .backingOff _ => sent after = []
    | .disconnecting => sent after = []
    | .returned => sent after = [.disconnect] ∨ sent after = [] ∧ Lost t

/-- The first signal is the moment the shutdown future resolves. -/
def ShutsDown (t : List Observed) (s : Timed) : Prop :=
  ∀ before after moment, t = before ++ ⟨moment, .signalled⟩ :: after →
    (∀ x ∈ before, x.sight ≠ .signalled) → Concludes t after s

/-! ## One step -/

section Step

variable {s s' : Timed} {t after o : List Observed} {e : Event}

/-- What sends nothing and leaves the supervisor leaves it at that. -/
theorem Concludes.same (h : Concludes t after s) (hsupervisor : s'.supervisor = s.supervisor)
    (ho : sent o = []) : Concludes (t ++ o) (after ++ o) s' := by
  unfold Concludes at h ⊢
  rw [hsupervisor, sent_append, ho, List.append_nil]
  refine h.imp_right fun hphase => ?_
  split at hphase
  · exact hphase
  · exact hphase
  · exact hphase
  · exact hphase
  · exact hphase.imp_right fun hgone => ⟨hgone.1, hgone.2.append o⟩

/-- What a step that yields to the shutdown keeps. -/
theorem Concludes.moves (h : Concludes t after s) (hkept : DriverKept t s.link)
    (hyields : yields s e = true) (hstep : Stepped s e s' o) :
    Concludes (t ++ o) (after ++ o) s' := by
  cases hstep with
  | pass he => exact h.same rfl rfl
  | link hsenders hreceiver => exact h.same rfl rfl
  | lost => exact h.same rfl rfl
  | @supervisor inflight e' supervisor link o he hmoves =>
    rw [he] at hyields
    rcases h with ⟨hshutdown, hphase⟩
    cases hmoves with
    | signal =>
      refine ⟨rfl, ?_⟩
      have hsame : Concludes (t ++ [⟨s.now, .signalled⟩]) (after ++ [⟨s.now, .signalled⟩]) s :=
        Concludes.same ⟨hshutdown, hphase⟩ rfl rfl
      exact hsame.2
    | shutdown hready hgiven =>
      refine ⟨hshutdown, ?_⟩
      have hnone : sent after = [] := by
        cases hready with
        | inl hwatching =>
          rcases hwatching with ⟨wake, hwatching⟩
          rw [hwatching] at hphase
          exact hphase
        | inr hbacking =>
          rcases hbacking with ⟨till, hbacking⟩
          rw [hbacking] at hphase
          exact hphase
      dsimp only
      rw [sent_append, hnone]
      rfl
    | hear hwatching hrecv =>
      have hqueue := Channel.queue_of_recv hrecv
      simp [yields, hshutdown, hqueue] at hyields
    | ended hwatching hrecv =>
      rw [hwatching] at hphase
      refine ⟨hshutdown, .inr ⟨?_, ?_⟩⟩
      · rw [sent_append, hphase]
        rfl
      · exact Lost.append (hkept (.inl (Channel.of_recv_ended hrecv).2)) _
    | wake hwatching hmoment =>
      rw [hwatching] at hphase
      have hwait : inflight ≠ 0 ∧ s.now < s.supervisor.deadline s.now := by
        simpa [yields, hshutdown] using hyields
      rw [Supervisor.rotate, if_pos hwait]
      refine ⟨hshutdown, ?_⟩
      dsimp only [Supervisor.watch]
      rw [sent_append, hphase, Supervisor.comesDue]
      split_ifs <;> rfl
    | asked hasking hreceiver hsend =>
      rw [hasking] at hphase
      exact hphase.elim
    | stopped hdisconnecting hreceiver hsend =>
      rw [hdisconnecting] at hphase
      refine ⟨hshutdown, .inl ?_⟩
      rw [sent_append, hphase]
      rfl
    | refused hsending hreceiver =>
      refine ⟨hshutdown, .inr ⟨?_, Lost.append (hkept (.inr hreceiver)) _⟩⟩
      cases hsending with
      | inl hasking =>
        rcases hasking with ⟨cause, hasking⟩
        rw [hasking] at hphase
        exact hphase.elim
      | inr hdisconnecting =>
        rw [hdisconnecting] at hphase
        rw [sent_append, hphase]
        rfl
    | rested hbacking htill =>
      rw [hbacking] at hphase
      refine ⟨hshutdown, ?_⟩
      dsimp only [Supervisor.restart, Supervisor.watch]
      rw [sent_append, hphase]
      rfl

end Step

/-! ## Before the signal -/

/-- The flag is set by the signal alone, and without it only a lost driver ends the
supervisor. -/
structure Unsignalled (t : List Observed) (s : Timed) : Prop where
  signalled : s.supervisor.shutdown = true → ∃ x ∈ t, x.sight = .signalled
  running : s.supervisor.shutdown = false → s.supervisor.phase ≠ .disconnecting
  returned : s.supervisor.shutdown = false → s.supervisor.phase = .returned → Lost t

theorem Unsignalled.same {t : List Observed} {s s' : Timed} (h : Unsignalled t s)
    (hsupervisor : s'.supervisor = s.supervisor) (o : List Observed) :
    Unsignalled (t ++ o) s' := by
  constructor
  · intro hshutdown
    rw [hsupervisor] at hshutdown
    rcases h.signalled hshutdown with ⟨x, hx, hsight⟩
    exact ⟨x, List.mem_append_left o hx, hsight⟩
  · intro hshutdown
    rw [hsupervisor] at hshutdown ⊢
    exact h.running hshutdown
  · intro hshutdown hphase
    rw [hsupervisor] at hshutdown hphase
    exact (h.returned hshutdown hphase).append o

/-- A step of the supervisor that leaves the flag, and does not end it. -/
theorem Unsignalled.move {t : List Observed} {s s' : Timed} (h : Unsignalled t s)
    (hshutdown : s'.supervisor.shutdown = s.supervisor.shutdown)
    (hrunning : s.supervisor.shutdown = false → s'.supervisor.phase ≠ .disconnecting)
    {o : List Observed}
    (hreturned : s.supervisor.shutdown = false → s'.supervisor.phase = .returned →
      Lost (t ++ o)) : Unsignalled (t ++ o) s' := by
  constructor
  · intro hgiven
    rw [hshutdown] at hgiven
    rcases h.signalled hgiven with ⟨x, hx, hsight⟩
    exact ⟨x, List.mem_append_left o hx, hsight⟩
  · intro hgiven
    exact hrunning (hshutdown ▸ hgiven)
  · intro hgiven
    exact hreturned (hshutdown ▸ hgiven)

theorem unsignalled_of_runs {policy : RotationPolicy} {s : Timed} {t : List Observed}
    (h : Runs step (start policy) t s) : Unsignalled t s := by
  refine h.invariant (P := Unsignalled) ?_ ?_
  · exact ⟨by simp [start, Supervisor.start, Supervisor.watch],
      by simp [start, Supervisor.start, Supervisor.watch],
      by simp [start, Supervisor.start, Supervisor.watch]⟩
  · intro t s e o s' hrun ih hstep
    have hkept := driverKept_of_runs hrun
    cases stepped_of_step hstep with
    | pass | link | lost =>
      apply ih.same
      rfl
    | @supervisor inflight e' supervisor link o he hmoves =>
      cases hmoves with
      | signal =>
        refine ⟨fun _ => ⟨⟨s.now, .signalled⟩, by simp [shown, announce], rfl⟩, ?_, ?_⟩
        · intro hgiven
          cases hgiven
        · intro hgiven
          cases hgiven
      | shutdown hready hgiven =>
        apply ih.move
        · rfl
        · intro hnone
          rw [hgiven] at hnone
          cases hnone
        · intro _ hphase
          cases hphase
      | hear hwatching hrecv =>
        apply ih.move
        · rfl
        · simp
        · simp
      | ended hwatching hrecv =>
        apply ih.move
        · rfl
        · simp [Supervisor.leave]
        · intro _ _
          exact Lost.append (hkept (.inl (Channel.of_recv_ended hrecv).2)) _
      | wake hwatching hmoment =>
        unfold Supervisor.rotate
        split_ifs with hwait
        · apply ih.move
          · rfl
          · simp [Supervisor.watch]
          · simp [Supervisor.watch]
        · apply ih.move
          · rfl
          · simp
          · simp
      | @asked cause commands hasking hreceiver hsend =>
        apply ih.move
        · cases cause <;> rfl
        · cases cause <;> simp [Supervisor.afterAsking, Supervisor.restart, Supervisor.watch]
        · cases cause <;> simp [Supervisor.afterAsking, Supervisor.restart, Supervisor.watch]
      | stopped hdisconnecting hreceiver hsend =>
        apply ih.move
        · rfl
        · simp
        · intro hnone _
          exact absurd hdisconnecting (ih.running hnone)
      | refused hsending hreceiver =>
        apply ih.move
        · rfl
        · simp [Supervisor.leave]
        · intro _ _
          exact Lost.append (hkept (.inr hreceiver)) _
      | rested hbacking htill =>
        apply ih.move
        · rfl
        · simp [Supervisor.restart, Supervisor.watch]
        · simp [Supervisor.restart, Supervisor.watch]

/-- Where the signal is given first, nothing was sent since. -/
theorem concludes_of_signal {t : List Observed} {s : Timed} {link : Link}
    (h : Unsignalled t s) (hfirst : ∀ x ∈ t, x.sight ≠ .signalled)
    (hyields : ∀ cause, s.supervisor.phase ≠ .asking cause) :
    Concludes (t ++ [⟨s.now, .signalled⟩]) []
      { s with supervisor := { s.supervisor with shutdown := true }, link := link } := by
  have hnone : s.supervisor.shutdown = false := by
    rw [Bool.eq_false_iff]
    intro hgiven
    rcases h.signalled hgiven with ⟨x, hx, hsight⟩
    exact hfirst x hx hsight
  refine ⟨rfl, ?_⟩
  dsimp only
  split
  · rfl
  · next cause hasking => exact hyields cause hasking
  · rfl
  · rfl
  · next hreturned => exact .inr ⟨rfl, (h.returned hnone hreturned).append _⟩

/-! ## Along a run -/

section Reachable

variable {policy : RotationPolicy} {s : Timed} {t : List Observed}

theorem shutsDown_of_yielding (h : Runs yieldingStep (start policy) t s) : ShutsDown t s := by
  apply h.invariant (P := ShutsDown) (by simp [ShutsDown])
  intro t s e o s' hrun ih hstep before after moment hsplit hfirst
  rcases of_guarded hstep with ⟨hyields, hstep⟩
  have hstepped := stepped_of_step hstep
  cases split_of_append hsplit with
  | inl hold =>
    rcases hold with ⟨rest, ht, rfl⟩
    exact (ih before rest moment ht hfirst).moves (driverKept_of_runs hrun.of_guarded) hyields
      hstepped
  | inr hnew =>
    rcases hnew with ⟨front, rfl, ho⟩
    have hbefore := unsignalled_of_runs hrun.of_guarded
    have hfirst' : ∀ x ∈ t, x.sight ≠ .signalled := fun x hx =>
      hfirst x (List.mem_append_left front hx)
    have hmem : ⟨moment, .signalled⟩ ∈ o := by simp [ho]
    cases hstepped with
    | pass he => cases hmem
    | link hsenders hreceiver => cases hmem
    | lost => simp at hmem
    | @supervisor inflight e' supervisor link o he hmoves =>
      cases (mem_shown hmem).2 with
      | inr heffect =>
        rcases heffect with ⟨x, -, hsight⟩
        cases hsight
      | inl hannounced =>
        cases e' with
        | signal =>
          cases hmoves
          have hfront : front = [] ∧ after = [] := by
            have hlen := congrArg List.length ho
            simp only [shown, announce, List.length_append, List.length_map, List.length_cons,
              List.length_nil] at hlen
            exact ⟨List.eq_nil_of_length_eq_zero (by omega),
              List.eq_nil_of_length_eq_zero (by omega)⟩
          rw [hfront.2]
          apply concludes_of_signal hbefore hfirst'
          intro cause hasking
          rw [he] at hyields
          simp [yields, hasking] at hyields
        | shutdown | hear | wake | sent | rested => simp [announce] at hannounced

/-- The supervisor's sends reserve nothing. -/
theorem reserved_of_runs (h : Runs step (start policy) t s) : s.link.commands.reserved = 0 := by
  refine h.always (P := fun s => s.link.commands.reserved = 0) rfl ?_
  intro s e o s' ih hstep
  cases e with
  | pass d =>
    cases hstep
    exact ih
  | supervisor inflight e =>
    rcases Option.map_eq_some_iff.mp hstep with ⟨⟨supervisor, link, o'⟩, hsupervisor, heq⟩
    cases heq
    cases Supervisor.moves_of_step hsupervisor with
    | asked hphase hreceiver hsend => exact (Channel.of_send hsend).2.1.trans ih
    | stopped hphase hreceiver hsend => exact (Channel.of_send hsend).2.1.trans ih
    | signal | shutdown | hear | ended | wake | refused | rested => exact ih
  | died =>
    simp only [step] at hstep
    split_ifs at hstep
    split at hstep <;> cases hstep
    exact ih
  | obey =>
    simp only [step] at hstep
    split at hstep
    · next command commands hrecv =>
      cases hstep
      exact (Channel.of_recv hrecv).2.1.trans ih
    · cases hstep
  | loseDriver =>
    cases hstep
    exact ih

end Reachable

/-! ## The end -/

section Ends

variable {s : Timed}

/-- The {lit}`Disconnect` goes into a channel with room, or to nobody. -/
theorem ends_of_room (hphase : s.supervisor.phase = .disconnecting)
    (hroom : s.link.commands.receiver = true →
      s.link.commands.queue.length + s.link.commands.reserved < 8) :
    ∃ o s', step s (.supervisor 0 .sent) = some (s', o) ∧
      s'.supervisor.phase = .returned := by
  simp only [step, Supervisor.step, hphase]
  by_cases hreceiver : s.link.commands.receiver = true
  · rw [if_pos hreceiver, Channel.send, dif_pos (hroom hreceiver)]
    exact ⟨_, _, rfl, rfl⟩
  · rw [if_neg hreceiver]
    exact ⟨_, _, rfl, rfl⟩

/-- A supervisor that disconnects ends, once the driver has taken a command. -/
theorem ends_of_disconnecting (hphase : s.supervisor.phase = .disconnecting)
    (hreserved : s.link.commands.reserved = 0) :
    ∃ o s', Runs yieldingStep s o s' ∧ s'.supervisor.phase = .returned := by
  by_cases hroom : s.link.commands.queue.length + s.link.commands.reserved < 8
  · rcases ends_of_room hphase fun _ => hroom with ⟨o, s', hstep, hreturned⟩
    exact ⟨o, s', .single (e := .supervisor 0 .sent) hstep, hreturned⟩
  · obtain ⟨command, queue, hqueue⟩ := List.exists_cons_of_length_pos
      (l := s.link.commands.queue) (by omega)
    rcases Channel.recv_of_queue hqueue with ⟨commands, hrecv⟩
    have hobey : step s .obey =
        some ({ s with link := { s.link with commands := commands } }, []) := by
      simp only [step, hrecv]
    rcases Channel.of_recv hrecv with ⟨hrest, hkept, -, -⟩
    have hlen := s.link.commands.bounded
    rw [hrest, List.length_cons] at hlen
    obtain ⟨o, s', hstep, hreturned⟩ := ends_of_room
      (s := { s with link := { s.link with commands := commands } }) hphase
      (fun _ => by dsimp only; omega)
    have hfirst : Runs yieldingStep s [] _ := .single (e := .obey) hobey
    exact ⟨[] ++ o, s', hfirst.snoc (e := .supervisor 0 .sent) hstep, hreturned⟩

/-- After the signal the supervisor can always end. -/
theorem ends_of_concludes {t after : List Observed} (h : Concludes t after s)
    (hreserved : s.link.commands.reserved = 0) :
    ∃ o s', Runs yieldingStep s o s' ∧ s'.supervisor.phase = .returned := by
  rcases h with ⟨hshutdown, hphase⟩
  have hready : step s (.supervisor 0 .shutdown) = some
        ({ s with supervisor := { s.supervisor with phase := .disconnecting } }, []) →
      ∃ o s', Runs yieldingStep s o s' ∧ s'.supervisor.phase = .returned := by
    intro hstep
    obtain ⟨o, s', hrun, hreturned⟩ := ends_of_disconnecting
      (s := { s with supervisor := { s.supervisor with phase := .disconnecting } }) rfl hreserved
    have hfirst : Runs yieldingStep s [] _ := .single (e := .supervisor 0 .shutdown) hstep
    exact ⟨[] ++ o, s', hfirst.trans hrun, hreturned⟩
  cases hcase : s.supervisor.phase with
  | watching wake =>
    apply hready
    simp [step, Supervisor.step, hcase, hshutdown, shown, announce]
  | asking cause =>
    rw [hcase] at hphase
    exact hphase.elim
  | backingOff till =>
    apply hready
    simp [step, Supervisor.step, hcase, hshutdown, shown, announce]
  | disconnecting => exact ends_of_disconnecting hcase hreserved
  | returned => exact ⟨[], s, .refl, hcase⟩

end Ends

theorem exists_first {p : Observed → Prop} [DecidablePred p] {t : List Observed}
    (h : ∃ x ∈ t, p x) :
    ∃ before x after, t = before ++ x :: after ∧ p x ∧ ∀ y ∈ before, ¬ p y := by
  have hfound : (t.find? fun x => decide (p x)).isSome = true := by
    apply List.find?_isSome.mpr
    simpa using h
  rcases Option.isSome_iff_exists.mp hfound with ⟨x, hx⟩
  rcases List.find?_eq_some_iff_append.mp hx with ⟨hpx, before, after, ht, hbefore⟩
  refine ⟨before, x, after, ht, of_decide_eq_true hpx, ?_⟩
  intro y hy
  simpa using hbefore y hy

/-- Where everything yields to the shutdown, no rebuild is sent after the signal: the only
later command is one {lit}`Disconnect`, after which the supervisor has ended, and it can
always end. -/
theorem shutdown_concludes {policy : RotationPolicy} {s : Timed} {t : List Observed}
    (h : Runs yieldingStep (start policy) t s) :
    ShutsDown t s ∧ (s.supervisor.shutdown = true →
      ∃ o s', Runs yieldingStep s o s' ∧ s'.supervisor.phase = .returned) := by
  have hshuts := shutsDown_of_yielding h
  refine ⟨hshuts, fun hshutdown => ?_⟩
  have hsignalled := (unsignalled_of_runs h.of_guarded).signalled hshutdown
  rcases exists_first hsignalled with ⟨before, x, after, ht, hx, hbefore⟩
  rcases x with ⟨moment, sight⟩
  cases hx
  exact ends_of_concludes (hshuts before after moment ht hbefore)
    (reserved_of_runs h.of_guarded)

/-! ## A report that is heard first -/

/-- A death is reported, the signal is given, and the {lit}`select!` hears the report. -/
def deathBeatsShutdown : List Event :=
  [.died, .supervisor 0 .signal, .supervisor 0 .hear, .supervisor 0 .sent]

def deathBeatsShutdownTrace : List Observed :=
  ([.signalled, .received, .supervisor .heard, .supervisor (.asked .death)] : List Sight).map
    (Observed.mk 0)

/-- A rebuild is sent after the signal. -/
theorem deathBeatsShutdown_rebuilds :
    ∃ s, Runs step (start hourly) deathBeatsShutdownTrace s ∧
      ¬ ShutsDown deathBeatsShutdownTrace s := by
  have hrun : ∃ s, Runs step (start hourly) deathBeatsShutdownTrace s ∧
      s.supervisor.phase = .backingOff 5000000000 :=
    ⟨_, @Runs.of_execute _ _ _ step _ _ _ deathBeatsShutdown rfl, rfl⟩
  rcases hrun with ⟨s, hrun, hphase⟩
  refine ⟨s, hrun, fun hshuts => ?_⟩
  have hconcludes := (hshuts [] _ 0 rfl (by simp)).2
  rw [hphase] at hconcludes
  revert hconcludes
  decide

/-- A shutdown that beats a deferred rotation. -/
theorem shutdown_concludes_deferred :
    ∃ s, Runs yieldingStep (start hourly)
        (([.supervisor (.due 3690000000000), .signalled, .supervisor .stopped,
          .supervisor .returned] : List Sight).map (Observed.mk 3600000000000)) s ∧
      sent [⟨3600000000000, .supervisor .stopped⟩, ⟨3600000000000, .supervisor .returned⟩] =
        [.disconnect] := by
  have hrun : ∃ s, Runs yieldingStep (start hourly)
      (([.supervisor (.due 3690000000000), .signalled, .supervisor .stopped,
        .supervisor .returned] : List Sight).map (Observed.mk 3600000000000)) s ∧
      s.supervisor.phase = .returned :=
    ⟨_, @Runs.of_execute _ _ _ yieldingStep _ _ _ [.pass 3600000000000, .supervisor 1 .wake,
      .supervisor 1 .signal, .supervisor 1 .shutdown, .supervisor 1 .sent] rfl, rfl⟩
  rcases hrun with ⟨s, hrun, hphase⟩
  refine ⟨s, hrun, ?_⟩
  have hconcludes := ((shutdown_concludes hrun).1
    [⟨3600000000000, .supervisor (.due 3690000000000)⟩]
    _ _ rfl (by simp)).2
  rw [hphase] at hconcludes
  cases hconcludes with
  | inl hsent => exact hsent
  | inr hnone => exact absurd hnone.1 (by decide)

end Timed

end Nym
end ZeroShim
