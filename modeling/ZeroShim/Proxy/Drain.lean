import ZeroShim.Library.Budget
import ZeroShim.Proxy.Listener

/-!
# Accepting and draining

The loop of {lit}`serve_with_shutdown` over its listener: a biased {lit}`select!` of the
shutdown signal and {lit}`accept`, the pause when descriptors run out, and the wait for the
connections that are left.

Main results:

- Theorem {lit}`listener_runs`: the connections under the loop are those of a listener.
- Theorem {lit}`drain_exact`: what a shutdown does, and when.
- Theorem {lit}`exhausted_paced`: running out of descriptors does not make the loop spin.
-/

namespace ZeroShim

open Library

/-- {lit}`ACCEPT_BACKOFF`, in milliseconds. -/
def acceptBackoff : Nat := 100

/-- {lit}`DRAIN_TIMEOUT`, in milliseconds. -/
def drainTimeout : Nat := 10000

/-! ## Errors of accept -/

/-- The kinds of error that the loop tells apart. -/
inductive ErrorKind where
  | connectionAborted
  | connectionReset
  | interrupted
  | other
deriving DecidableEq, Repr

structure IoError where
  kind : ErrorKind
  rawOsError : Option Int
deriving DecidableEq, Repr

def isTransientAcceptError (err : IoError) : Bool :=
  match err.kind with
  | .connectionAborted | .connectionReset | .interrupted => true
  | .other => false

/-- {lit}`ENFILE` and {lit}`EMFILE`. -/
def isFdExhaustion (err : IoError) : Bool :=
  err.rawOsError = some 23 || err.rawOsError = some 24

/-! ## State -/

namespace Service

/-- Where the loop is. -/
inductive Phase where
  /-- In the {lit}`select!`. -/
  | selecting
  /-- Out of descriptors, asleep. -/
  | backingOff (wakeAt : Nat)
  /-- Waiting for the last connection. -/
  | draining (deadline : Nat)
  | returned (result : Except IoError Unit)

end Service

/-- The listener, when the shutdown signal fired, and where the loop is. -/
structure Service where
  listener : Listener
  signalled : Option Nat
  phase : Service.Phase

namespace Service

def initial : Service := ⟨.initial, none, .selecting⟩

def now (s : Service) : Nat := s.listener.now

inductive Event where
  | tick (d : Nat)
  /-- The shutdown future resolves. -/
  | signal
  /-- The {lit}`select!` is polled, and {lit}`accept` with it unless shutdown is ready. -/
  | turn (accepted : Option (Except IoError Unit))
  /-- The sleep after an exhaustion ends. -/
  | wake
  /-- The wait for the connections ends. -/
  | conclude
  /-- A connection task or a stream's task goes on. -/
  | task (e : Listener.Event)

inductive Observed where
  | listener (o : Listener.Observed)
  | signalled (moment : Nat)
  /-- It returned, with so many connections open. -/
  | returned (moment : Nat) (result : Except IoError Unit) (left : Nat)

/-- What happens to a listener without its loop. -/
def isTask : Listener.Event → Bool
  | .tick _ | .shutdown | .acceptFailed _ | .accept => false
  | _ => true

section Step

variable (tls : Bool) (maxConcurrentStreams : Nat)

/-- A step of the listener, with what else it changes. -/
def viaListener (s : Service) (e : Listener.Event) (phase : Phase)
    (more : List Observed) : Option (Service × List Observed) :=
  (s.listener.step tls maxConcurrentStreams e).map fun out =>
    (⟨out.1, s.signalled, phase⟩, out.2.map .listener ++ more)

/-- The loop is polled.  The {lit}`select!` is biased, so a signal that fired comes first. -/
def turn (s : Service) (accepted : Option (Except IoError Unit)) :
    Option (Service × List Observed) :=
  if s.signalled.isSome then
    s.viaListener tls maxConcurrentStreams .shutdown (.draining (s.now + drainTimeout)) []
  else
    match accepted with
    | none => none
    | some (.ok ()) => s.viaListener tls maxConcurrentStreams .accept .selecting []
    | some (.error err) =>
      if isTransientAcceptError err then
        s.viaListener tls maxConcurrentStreams (.acceptFailed true) .selecting []
      else if isFdExhaustion err then
        s.viaListener tls maxConcurrentStreams (.acceptFailed true)
          (.backingOff (s.now + acceptBackoff)) []
      else
        s.viaListener tls maxConcurrentStreams (.acceptFailed false) (.returned (.error err))
          [.returned s.now (.error err) s.listener.connections.length]

/-- One step. -/
def step (s : Service) (e : Event) : Option (Service × List Observed) :=
  match s.phase, e with
  | phase, .tick d => s.viaListener tls maxConcurrentStreams (.tick d) phase []
  | _, .signal =>
    if s.signalled = none then
      some ({ s with signalled := some s.now }, [.signalled s.now])
    else none
  | phase, .task e => if isTask e then s.viaListener tls maxConcurrentStreams e phase [] else none
  | .selecting, .turn accepted => s.turn tls maxConcurrentStreams accepted
  | .backingOff wakeAt, .wake =>
    if wakeAt ≤ s.now then some ({ s with phase := .selecting }, []) else none
  | .draining deadline, .conclude =>
    -- every connection task holds a sender, and the loop's own is dropped
    if s.listener.connections = [] ∨ deadline ≤ s.now then
      some ({ s with phase := .returned (.ok ()) },
        [.returned s.now (.ok ()) s.listener.connections.length])
    else none
  | _, _ => none

/-! ## What a step can do -/

/-- The effects of a step. -/
inductive Stepped (s : Service) : Event → Service → List Observed → Prop where
  /-- The listener moves under the loop, and nothing comes in. -/
  | under {e e' listener o} : s.listener.step tls maxConcurrentStreams e' = some (listener, o) →
      (∃ d, e = .tick d ∧ e' = .tick d) ∨ e = .task e' ∧ isTask e' = true →
      Stepped s e ⟨listener, s.signalled, s.phase⟩ (o.map .listener)
  | signal : s.signalled = none →
      Stepped s .signal { s with signalled := some s.now } [.signalled s.now]
  | drain {accepted listener o τ} : s.phase = .selecting → s.signalled = some τ →
      s.listener.step tls maxConcurrentStreams .shutdown = some (listener, o) →
      Stepped s (.turn accepted) ⟨listener, s.signalled, .draining (s.now + drainTimeout)⟩
        (o.map .listener)
  | accept {listener o} : s.phase = .selecting → s.signalled = none →
      s.listener.step tls maxConcurrentStreams .accept = some (listener, o) →
      Stepped s (.turn (some (.ok ()))) ⟨listener, s.signalled, .selecting⟩ (o.map .listener)
  /-- A transient error, or one that is waited out. -/
  | survive {err phase listener o} : s.phase = .selecting → s.signalled = none →
      s.listener.step tls maxConcurrentStreams (.acceptFailed true) = some (listener, o) →
      (isTransientAcceptError err = true ∧ phase = .selecting ∨
        isTransientAcceptError err = false ∧ isFdExhaustion err = true ∧
          phase = .backingOff (s.now + acceptBackoff)) →
      Stepped s (.turn (some (.error err))) ⟨listener, s.signalled, phase⟩ (o.map .listener)
  | fail {err listener o} : s.phase = .selecting → s.signalled = none →
      s.listener.step tls maxConcurrentStreams (.acceptFailed false) = some (listener, o) →
      isTransientAcceptError err = false → isFdExhaustion err = false →
      Stepped s (.turn (some (.error err))) ⟨listener, s.signalled, .returned (.error err)⟩
        (o.map .listener ++
          [.returned s.now (.error err) s.listener.connections.length])
  | wake {wakeAt} : s.phase = .backingOff wakeAt → wakeAt ≤ s.now →
      Stepped s .wake { s with phase := .selecting } []
  | conclude {deadline} : s.phase = .draining deadline →
      s.listener.connections = [] ∨ deadline ≤ s.now →
      Stepped s .conclude { s with phase := .returned (.ok ()) }
        [.returned s.now (.ok ()) s.listener.connections.length]

variable {tls maxConcurrentStreams}

theorem of_viaListener {s s' : Service} {e : Listener.Event} {phase : Phase}
    {more o : List Observed}
    (h : s.viaListener tls maxConcurrentStreams e phase more = some (s', o)) :
    ∃ listener o', s.listener.step tls maxConcurrentStreams e = some (listener, o') ∧
      s' = ⟨listener, s.signalled, phase⟩ ∧ o = o'.map .listener ++ more := by
  rcases Option.map_eq_some_iff.mp h with ⟨⟨listener, o'⟩, hstep, heq⟩
  cases heq
  exact ⟨listener, o', hstep, rfl, rfl⟩

theorem stepped_of_turn {s s' : Service} {accepted : Option (Except IoError Unit)}
    {o : List Observed} (hphase : s.phase = .selecting)
    (h : s.turn tls maxConcurrentStreams accepted = some (s', o)) :
    Stepped tls maxConcurrentStreams s (.turn accepted) s' o := by
  unfold turn at h
  split at h
  · next hsignalled =>
    rcases Option.isSome_iff_exists.mp hsignalled with ⟨τ, hτ⟩
    rcases of_viaListener h with ⟨listener, o', hstep, rfl, rfl⟩
    rw [List.append_nil]
    exact .drain hphase hτ hstep
  · next hsignalled =>
    have hnone : s.signalled = none := Option.not_isSome_iff_eq_none.mp hsignalled
    split at h
    · cases h
    · rcases of_viaListener h with ⟨listener, o', hstep, rfl, rfl⟩
      rw [List.append_nil]
      exact .accept hphase hnone hstep
    · next err =>
      split at h
      · next htransient =>
        rcases of_viaListener h with ⟨listener, o', hstep, rfl, rfl⟩
        rw [List.append_nil]
        exact .survive hphase hnone hstep (.inl ⟨htransient, rfl⟩)
      · next htransient =>
        have htransient : isTransientAcceptError err = false := by simpa using htransient
        split at h
        · next hexhausted =>
          rcases of_viaListener h with ⟨listener, o', hstep, rfl, rfl⟩
          rw [List.append_nil]
          exact .survive hphase hnone hstep (.inr ⟨htransient, hexhausted, rfl⟩)
        · next hexhausted =>
          rcases of_viaListener h with ⟨listener, o', hstep, rfl, rfl⟩
          exact .fail hphase hnone hstep htransient (by simpa using hexhausted)

theorem stepped_of_step {s s' : Service} {e : Event} {o : List Observed}
    (h : s.step tls maxConcurrentStreams e = some (s', o)) :
    Stepped tls maxConcurrentStreams s e s' o := by
  unfold step at h
  split at h
  · next d =>
    rcases of_viaListener h with ⟨listener, o', hstep, rfl, rfl⟩
    rw [List.append_nil]
    exact .under hstep (.inl ⟨d, rfl, rfl⟩)
  · split_ifs at h with hnone
    cases h
    exact .signal hnone
  · split_ifs at h with htask
    rcases of_viaListener h with ⟨listener, o', hstep, rfl, rfl⟩
    rw [List.append_nil]
    exact .under hstep (.inr ⟨rfl, htask⟩)
  · next hphase => exact stepped_of_turn hphase h
  · next hphase =>
    split_ifs at h with hwake
    cases h
    exact .wake hphase hwake
  · next hphase =>
    split_ifs at h with hends
    cases h
    exact .conclude hphase hends
  · cases h

end Step

/-! ## The listener under the loop -/

@[simp] def Observed.listener? : Observed → Option Listener.Observed
  | .listener o => some o
  | _ => none

def listenerTrace (t : List Observed) : List Listener.Observed := t.filterMap Observed.listener?

@[simp] theorem listenerTrace_map (o : List Listener.Observed) :
    listenerTrace (o.map .listener) = o := by
  induction o with
  | nil => rfl
  | cons x o ih => simpa [listenerTrace] using ih

theorem listenerTrace_append (t t' : List Observed) :
    listenerTrace (t ++ t') = listenerTrace t ++ listenerTrace t' :=
  List.filterMap_append

section Runs

variable {tls : Bool} {maxConcurrentStreams : Nat} {s s' : Service} {e : Event}
variable {t o : List Observed}

/-- The connections under the loop are those of a listener. -/
theorem listener_runs (h : Runs (step tls maxConcurrentStreams) initial t s) :
    Runs (Listener.step tls maxConcurrentStreams) .initial (listenerTrace t) s.listener := by
  refine h.invariant (P := fun t s => Runs (Listener.step tls maxConcurrentStreams) .initial
    (listenerTrace t) s.listener) .refl ?_
  intro t s e o s' _ ih hstep
  rw [listenerTrace_append]
  cases stepped_of_step hstep with
  | under hlistener | drain _ _ hlistener | accept _ _ hlistener | survive _ _ hlistener =>
    rw [listenerTrace_map]
    exact ih.snoc hlistener
  | @fail err listener o hphase hnone hlistener =>
    have hrest : listenerTrace [.returned s.now (.error err) s.listener.connections.length] = [] :=
      rfl
    rw [listenerTrace_append, listenerTrace_map, hrest, List.append_nil]
    exact ih.snoc hlistener
  | signal | wake | conclude =>
    have hrest := List.append_nil (listenerTrace t)
    exact hrest.symm ▸ ih

/-! ## Time -/

theorem now_of_listener {listener listener' : Listener} {e : Listener.Event}
    {o : List Listener.Observed}
    (h : listener.step tls maxConcurrentStreams e = some (listener', o))
    (htick : ∀ d, e ≠ .tick d) : listener'.now = listener.now := by
  cases Listener.stepped_of_step h with
  | tick d => exact absurd rfl (htick d)
  | shutdown | survive | acceptFailed | accept | refuse | handshook | release | request | read
  | endRead | left => rfl

/-- The time that an event lets pass. -/
def passes : Event → Nat
  | .tick d => d
  | _ => 0

theorem now_of_step (h : step tls maxConcurrentStreams s e = some (s', o)) :
    s'.now = s.now + passes e := by
  cases stepped_of_step h with
  | under hlistener hwhich =>
    rcases hwhich with ⟨d, rfl, rfl⟩ | ⟨rfl, htask⟩
    · cases hlistener
      rfl
    · refine now_of_listener hlistener ?_
      rintro d rfl
      cases htask
  | drain _ _ hlistener | accept _ _ hlistener | survive _ _ hlistener | fail _ _ hlistener =>
    exact now_of_listener hlistener (by simp)
  | signal | wake | conclude => rfl

/-- The loop is polled as soon as it can go on: the clock does not pass its deadlines, nor move
while something is ready. -/
def punctual (s : Service) : Event → Bool
  | .tick d =>
    match s.phase with
    | .selecting => s.signalled.isNone
    | .backingOff wakeAt => s.now + d ≤ wakeAt
    | .draining deadline => !s.listener.connections.isEmpty && s.now + d ≤ deadline
    | .returned _ => true
  | _ => true

/-! ## Shutting down -/

/-- Where the clock stands against the signal and the deadline of the loop. -/
def Kept (now : Nat) (signalled : Option Nat) : Phase → Prop
  | .selecting => ∀ τ, signalled = some τ → now ≤ τ + acceptBackoff
  | .backingOff wakeAt =>
    now ≤ wakeAt ∧ wakeAt ≤ now + acceptBackoff ∧
      ∀ τ, signalled = some τ → wakeAt ≤ τ + acceptBackoff
  | .draining deadline =>
    ∃ τ, signalled = some τ ∧ now ≤ deadline ∧ τ + drainTimeout ≤ deadline ∧
      deadline ≤ τ + acceptBackoff + drainTimeout
  | .returned _ => True

structure Clocked (s : Service) : Prop where
  past : ∀ τ, s.signalled = some τ → τ ≤ s.now
  kept : Kept s.now s.signalled s.phase

theorem clocked_initial : Clocked initial := by
  refine ⟨nofun, ?_⟩
  intro τ hτ
  cases hτ

/-- Time passes only where nothing is ready, and stops at the deadline. -/
theorem kept_tick {d : Nat} (h : Kept s.now s.signalled s.phase)
    (hpunctual : s.punctual (.tick d) = true) : Kept (s.now + d) s.signalled s.phase := by
  unfold punctual at hpunctual
  cases hphase : s.phase with
  | selecting =>
    simp only [hphase, Option.isNone_iff_eq_none] at hpunctual
    intro τ hτ
    rw [hpunctual] at hτ
    cases hτ
  | backingOff wakeAt =>
    simp only [hphase, Kept, decide_eq_true_eq] at h hpunctual ⊢
    refine ⟨hpunctual, ?_, h.2.2⟩
    exact h.2.1.trans (Nat.add_le_add_right (Nat.le_add_right _ _) _)
  | draining deadline =>
    simp only [hphase, Kept, Bool.and_eq_true, decide_eq_true_eq] at h hpunctual ⊢
    rcases h with ⟨τ, hτ, -, hlow, hhigh⟩
    exact ⟨τ, hτ, hpunctual.2, hlow, hhigh⟩
  | returned result => trivial

/-- Every punctual step keeps to the clock. -/
theorem Clocked.step (h : Clocked s) (hpunctual : s.punctual e = true)
    (hstep : step tls maxConcurrentStreams s e = some (s', o)) : Clocked s' := by
  rcases h with ⟨hpast, hkept⟩
  have hnow := now_of_step hstep
  cases stepped_of_step hstep with
  | @under e e' listener o hlistener hwhich =>
    refine ⟨fun τ hτ => hnow ▸ (hpast τ hτ).trans (Nat.le_add_right _ _), ?_⟩
    rw [hnow]
    rcases hwhich with ⟨d, rfl, -⟩ | ⟨rfl, -⟩
    · exact kept_tick hkept hpunctual
    · exact hkept
  | signal hnone =>
    refine ⟨fun τ hτ => Nat.le_of_eq (Option.some.inj hτ).symm, ?_⟩
    cases hphase : s.phase with
    | selecting =>
      intro τ hτ
      rw [← Option.some.inj hτ]
      exact Nat.le_add_right _ _
    | backingOff wakeAt =>
      rw [hphase] at hkept
      refine ⟨hkept.1, hkept.2.1, ?_⟩
      intro τ hτ
      rw [← Option.some.inj hτ]
      exact hkept.2.1
    | draining deadline =>
      rw [hphase] at hkept
      rcases hkept with ⟨τ, hτ, -⟩
      rw [hnone] at hτ
      cases hτ
    | returned result => trivial
  | @drain accepted listener o τ hselecting hτ hlistener =>
    rw [hselecting] at hkept
    have hsame : listener.now = s.now := hnow
    refine ⟨fun τ' hτ' => (hpast τ' hτ').trans (Nat.le_of_eq hsame.symm), τ, hτ, ?_, ?_, ?_⟩
    · exact (Nat.le_of_eq hsame).trans (Nat.le_add_right _ _)
    · exact Nat.add_le_add_right (hpast τ hτ) _
    · exact Nat.add_le_add_right (hkept τ hτ) _
  | accept hselecting hnone hlistener =>
    refine ⟨fun τ hτ => ?_, fun τ hτ => ?_⟩ <;>
    · rw [hnone] at hτ
      cases hτ
  | @survive err phase listener o hselecting hnone hlistener hwhich =>
    have hsame : listener.now = s.now := hnow
    have hvacuous {p : Nat → Prop} (τ : Nat) (hτ : s.signalled = some τ) : p τ := by
      rw [hnone] at hτ
      cases hτ
    refine ⟨hvacuous, ?_⟩
    rcases hwhich with ⟨-, rfl⟩ | ⟨-, -, rfl⟩
    · exact hvacuous
    · refine ⟨?_, ?_, hvacuous⟩
      · exact (Nat.le_of_eq hsame).trans (Nat.le_add_right _ _)
      · exact Nat.add_le_add_right (Nat.le_of_eq hsame.symm) _
  | fail hselecting hnone hlistener =>
    refine ⟨fun τ hτ => ?_, trivial⟩
    rw [hnone] at hτ
    cases hτ
  | wake hbacking hwake =>
    rw [hbacking] at hkept
    exact ⟨hpast, fun τ hτ => hkept.1.trans (hkept.2.2 τ hτ)⟩
  | conclude hdraining hends => exact ⟨hpast, trivial⟩

/-- A connection was accepted, to be served or refused. -/
def admits : Observed → Bool
  | .listener (.served _) => true
  | .listener .refused => true
  | _ => false

/-- A listener that does not accept shows its end or nothing. -/
theorem shown_of_listener {listener listener' : Listener} {e' : Listener.Event}
    {o' : List Listener.Observed}
    (h : listener.step tls maxConcurrentStreams e' = some (listener', o'))
    (haccept : e' ≠ .accept) {y : Listener.Observed} (hy : y ∈ o') : y = .returned := by
  cases e' with
  | accept => exact absurd rfl haccept
  | tick | left =>
    cases h
    cases hy
  | shutdown =>
    cases h
    exact List.mem_singleton.mp hy
  | acceptFailed survived =>
    cases survived with
    | true =>
      cases h
      cases hy
    | false =>
      cases h
      exact List.mem_singleton.mp hy
  | handshook | disconnected | request | frame | bodyEnded | bodyFailed | bodyTimedOut =>
    simp only [Listener.step] at h
    repeat' split at h
    all_goals cases h
    all_goals cases hy

/-- Only a poll of the loop without a signal admits a connection. -/
theorem admits_of_step (h : step tls maxConcurrentStreams s e = some (s', o)) {x : Observed}
    (hx : x ∈ o) (hadmits : admits x = true) : s.signalled = none := by
  have listened {o' : List Listener.Observed} (hmem : x ∈ o'.map .listener) :
      ∃ y ∈ o', x = .listener y := by
    rcases List.mem_map.mp hmem with ⟨y, hy, rfl⟩
    exact ⟨y, hy, rfl⟩
  cases stepped_of_step h with
  | accept hselecting hnone | survive hselecting hnone | fail hselecting hnone
  | signal hnone => exact hnone
  | @under e e' listener o hlistener hwhich =>
    obtain ⟨y, hy, rfl⟩ := listened hx
    have hother : e' ≠ .accept := by
      rcases hwhich with ⟨d, -, rfl⟩ | ⟨-, htask⟩
      · exact nofun
      · rintro rfl
        cases htask
    rw [shown_of_listener hlistener hother hy] at hadmits
    cases hadmits
  | drain hselecting hτ hlistener =>
    obtain ⟨y, hy, rfl⟩ := listened hx
    rw [shown_of_listener hlistener nofun hy] at hadmits
    cases hadmits
  | wake => cases hx
  | conclude =>
    rw [List.mem_singleton.mp hx] at hadmits
    cases hadmits

/-- Once the signal fired, nothing more is accepted. -/
theorem closed_of_runs (h : Runs (step tls maxConcurrentStreams) initial t s) :
    (s.signalled = none → ∀ τ, .signalled τ ∉ t) ∧
      ∀ pre τ post, t = pre ++ .signalled τ :: post → ∀ x ∈ post, admits x = false := by
  refine h.invariant (P := fun t s => (s.signalled = none → ∀ τ, .signalled τ ∉ t) ∧
    ∀ pre τ post, t = pre ++ .signalled τ :: post → ∀ x ∈ post, admits x = false)
    ⟨by simp, by simp⟩ ?_
  intro t s e o s' _ ih hstep
  rcases ih with ⟨hnone, hclosed⟩
  have hsignals : (∃ τ, .signalled τ ∈ o) → e = .signal ∧ s.signalled = none ∧
      o = [.signalled s.now] ∧ s'.signalled ≠ none := by
    rintro ⟨τ, hτ⟩
    cases stepped_of_step hstep with
    | signal hbefore => exact ⟨rfl, hbefore, rfl, nofun⟩
    | under | drain | accept | survive | fail | wake | conclude => simp at hτ
  have hstays : s'.signalled = none → s.signalled = none := by
    intro hafter
    cases stepped_of_step hstep with
    | signal hbefore => exact hbefore
    | under | drain | accept | survive | fail | wake | conclude => exact hafter
  constructor
  · intro hafter τ hmem
    rcases List.mem_append.mp hmem with hmem | hmem
    · exact hnone (hstays hafter) τ hmem
    · exact (hsignals ⟨τ, hmem⟩).2.2.2 hafter
  · intro pre τ post hsplit x hx
    rcases split_of_append hsplit with ⟨rest, ht, rfl⟩ | ⟨front, -, ho⟩
    · rcases List.mem_append.mp hx with hx | hx
      · exact hclosed pre τ rest ht x hx
      · by_contra hadmits
        have hbefore := admits_of_step hstep hx (by simpa using hadmits)
        exact hnone hbefore τ (by simp [ht])
    · rcases hsignals ⟨τ, by simp [ho]⟩ with ⟨-, -, hsingle, -⟩
      rw [hsingle] at ho
      cases front with
      | nil =>
        cases ho
        cases hx
      | cons y front => simp at ho

/-- The return of the service, as it shows. -/
structure Recorded (t : List Observed) : Prop where
  /-- It ends well only after a signal, and leaves connections open only when they had the
  whole drain to end. -/
  concluded : ∀ moment left, .returned moment (.ok ()) left ∈ t →
    ∃ τ, .signalled τ ∈ t ∧ τ ≤ moment ∧ moment ≤ τ + acceptBackoff + drainTimeout ∧
      (0 < left → τ + drainTimeout ≤ moment)
  /-- It fails only on an error that says the listener is unusable. -/
  failed : ∀ moment err left, .returned moment (.error err) left ∈ t →
    isTransientAcceptError err = false ∧ isFdExhaustion err = false

/-- A step records a return as it should. -/
theorem Recorded.step (h : Recorded t) (hclocked : Clocked s)
    (hshown : ∀ τ, s.signalled = some τ → .signalled τ ∈ t)
    (hstep : step tls maxConcurrentStreams s e = some (s', o)) : Recorded (t ++ o) := by
  constructor
  · intro moment left hmem
    rcases List.mem_append.mp hmem with hmem | hmem
    · rcases h.concluded moment left hmem with ⟨τ, hτ, hrest⟩
      exact ⟨τ, List.mem_append_left _ hτ, hrest⟩
    cases stepped_of_step hstep with
    | conclude hdraining hends =>
      obtain ⟨rfl, rfl⟩ : moment = s.now ∧ left = s.listener.connections.length := by
        simpa using hmem
      have hkept := hclocked.kept
      rw [hdraining] at hkept
      rcases hkept with ⟨τ, hτ, hbefore, hlow, hhigh⟩
      refine ⟨τ, List.mem_append_left _ (hshown τ hτ), hclocked.past τ hτ, hbefore.trans hhigh, ?_⟩
      intro hleft
      rcases hends with hempty | hdeadline
      · rw [hempty] at hleft
        cases hleft
      · exact hlow.trans hdeadline
    | under | signal | drain | accept | survive | fail | wake => simp at hmem
  · intro moment err left hmem
    rcases List.mem_append.mp hmem with hmem | hmem
    · exact h.failed moment err left hmem
    cases stepped_of_step hstep with
    | fail hselecting hnone hlistener htransient hexhausted =>
      obtain ⟨-, rfl, -⟩ : moment = s.now ∧ err = _ ∧ left = _ := by simpa using hmem
      exact ⟨htransient, hexhausted⟩
    | under | signal | drain | accept | survive | wake | conclude => simp at hmem

/-- A signal that fired was seen. -/
theorem shown_step (hshown : ∀ τ, s.signalled = some τ → .signalled τ ∈ t)
    (hstep : step tls maxConcurrentStreams s e = some (s', o)) :
    ∀ τ, s'.signalled = some τ → .signalled τ ∈ t ++ o := by
  intro τ hτ
  cases stepped_of_step hstep with
  | signal hbefore =>
    rw [← Option.some.inj hτ]
    simp
  | under | drain | accept | survive | fail | wake | conclude =>
    exact List.mem_append_left _ (hshown τ hτ)

/-- The clock, the signal and the returns along a punctual run. -/
theorem recorded_of_runs
    (h : Runs (guarded (step tls maxConcurrentStreams) fun s e => s.punctual e = true) initial t s) :
    Clocked s ∧ (∀ τ, s.signalled = some τ → .signalled τ ∈ t) ∧ Recorded t := by
  refine h.invariant (P := fun t s =>
    Clocked s ∧ (∀ τ, s.signalled = some τ → .signalled τ ∈ t) ∧ Recorded t)
    ⟨clocked_initial, nofun, by simp, by simp⟩ ?_
  intro t s e o s' _ ih hguarded
  rcases ih with ⟨hclocked, hshown, hrecorded⟩
  rcases of_guarded hguarded with ⟨hpunctual, hstep⟩
  exact ⟨hclocked.step hpunctual hstep, shown_step hshown hstep,
    hrecorded.step hclocked hshown hstep⟩

/-- What the loop does by itself. -/
def ownEvents : List Event := [.turn none, .wake, .conclude]

/-- Where the clock may not move on, the loop can: it is not the end of the run that keeps it
on time. -/
theorem ready_of_due (hdue : s.punctual (.tick 1) = false) :
    ∃ e ∈ ownEvents, (step tls maxConcurrentStreams s e).isSome = true := by
  cases hphase : s.phase with
  | selecting =>
    have hsignalled : s.signalled.isSome = true := by simpa [punctual, hphase] using hdue
    exact ⟨.turn none, by simp [ownEvents], by
      simp [step, hphase, turn, hsignalled, viaListener, Listener.step]⟩
  | backingOff wakeAt =>
    have hpast : wakeAt ≤ s.now := by
      simp only [punctual, hphase, decide_eq_false_iff_not] at hdue
      omega
    exact ⟨.wake, by simp [ownEvents], by simp [step, hphase, hpast]⟩
  | draining deadline =>
    have hends : s.listener.connections = [] ∨ deadline ≤ s.now := by
      simp only [punctual, hphase, Bool.and_eq_false_iff, decide_eq_false_iff_not] at hdue
      rcases hdue with hempty | hpast
      · exact .inl (by simpa using hempty)
      · exact .inr (by omega)
    exact ⟨.conclude, by simp [ownEvents], by simp [step, hphase, hends]⟩
  | returned result => simp [punctual, hphase] at hdue

/-- What a shutdown does, and when. -/
structure Drained (tls : Bool) (maxConcurrentStreams : Nat) (t : List Observed) (s : Service) :
    Prop extends Recorded t where
  /-- Once the signal fired, nothing more is accepted. -/
  closed : ∀ pre τ post, t = pre ++ .signalled τ :: post → ∀ x ∈ post, admits x = false
  /-- The service is gone a pause and a drain later. -/
  prompt : ∀ τ, s.signalled = some τ → s.now ≤ τ + acceptBackoff + drainTimeout ∨
    ∃ result, s.phase = .returned result
  bounded : s.listener.connections.length ≤ maxInflightConnections
  /-- A loop that holds the clock up can take a step. -/
  ready : s.punctual (.tick 1) = false →
    ∃ e ∈ ownEvents, (step tls maxConcurrentStreams s e).isSome = true

/-- On every run in which the loop is polled on time. -/
theorem drain_exact
    (h : Runs (guarded (step tls maxConcurrentStreams) fun s e => s.punctual e = true) initial t s) :
    Drained tls maxConcurrentStreams t s := by
  rcases recorded_of_runs h with ⟨hclocked, -, hrecorded⟩
  have hpermits := Listener.connections_of_runs (listener_runs h.of_guarded)
  refine ⟨hrecorded, (closed_of_runs h.of_guarded).2, ?_, Nat.le.intro hpermits,
    ready_of_due⟩
  intro τ hτ
  have hkept := hclocked.kept
  cases hphase : s.phase with
  | selecting =>
    rw [hphase] at hkept
    exact .inl ((hkept τ hτ).trans (Nat.le_add_right _ _))
  | backingOff wakeAt =>
    rw [hphase] at hkept
    exact .inl ((hkept.1.trans (hkept.2.2 τ hτ)).trans (Nat.le_add_right _ _))
  | draining deadline =>
    rw [hphase] at hkept
    rcases hkept with ⟨τ', hτ', hbefore, -, hhigh⟩
    obtain rfl : τ' = τ := Option.some.inj (hτ'.symm.trans hτ)
    exact .inl (hbefore.trans hhigh)
  | returned result => exact .inr ⟨result, rfl⟩

/-- A signal during a pause, and two connections of which one outlasts the drain. -/
theorem drain_exact_outlasted :
    ∃ t s, Runs (guarded (step false 200) fun s e => s.punctual e = true) initial t s ∧
      t = [.listener (.served 0), .listener (.served 1), .signalled 40, .listener .returned,
        .returned 10100 (.ok ()) 1] ∧ Drained false 200 t s := by
  have hrun := Runs.of_execute (show
    execute (guarded (step false 200) fun s e => s.punctual e = true) initial
      [.turn (some (.ok ())), .turn (some (.ok ())), .turn (some (.error ⟨.other, some 24⟩)),
        .tick 40, .signal, .tick 60, .wake, .turn (some (.ok ())), .tick 5000,
        .task (.disconnected 0), .tick 5000, .conclude] = some (_, _) from rfl)
  exact ⟨_, _, hrun, rfl, drain_exact hrun⟩

/-! ## Running out of descriptors -/

/-- The poll found no descriptor left. -/
def exhausts : Event → Bool
  | .turn (some (.error err)) => !isTransientAcceptError err && isFdExhaustion err
  | _ => false

def rests (e : Event) : Nat := if exhausts e then acceptBackoff else 0

/-- How long the loop has paused, of the pause it owes. -/
def rested (s : Service) : Nat :=
  match s.phase with
  | .selecting => acceptBackoff
  | .backingOff wakeAt => acceptBackoff - (wakeAt - s.now)
  | _ => 0

/-- A poll that finds no descriptor left is paid for by a pause. -/
theorem restBudget : Budget (step tls maxConcurrentStreams) rests passes rested where
  pays {s e s' o} h := by
    have hnow := now_of_step h
    cases stepped_of_step h with
    | @under e e' listener o hlistener hwhich =>
      have hfree : rests e = 0 := by
        rcases hwhich with ⟨d, rfl, -⟩ | ⟨rfl, -⟩ <;> rfl
      unfold rested
      dsimp only at hnow ⊢
      split <;> omega
    | drain hselecting =>
      have hpause : rested s = acceptBackoff := by simp [rested, hselecting]
      rw [hpause]
      unfold rests rested
      split_ifs <;> simp
    | accept hselecting =>
      have hpause : rested s = acceptBackoff := by simp [rested, hselecting]
      rw [hpause]
      simp [rests, exhausts, rested]
    | @survive err phase listener o hselecting hnone hlistener hwhich =>
      have hpause : rested s = acceptBackoff := by simp [rested, hselecting]
      rw [hpause]
      rcases hwhich with ⟨htransient, rfl⟩ | ⟨htransient, hexhausted, rfl⟩
      · simp [rests, exhausts, rested, htransient]
      · have hsame : listener.now = s.now := hnow
        simp [rests, exhausts, rested, htransient, hexhausted, now, hsame]
    | fail hselecting hnone hlistener htransient hexhausted =>
      simp [rests, exhausts, rested, hexhausted]
    | @wake wakeAt hbacking hwake =>
      have hpause : rested s = acceptBackoff := by
        simp only [rested, hbacking]
        rw [Nat.sub_eq_zero_of_le hwake, Nat.sub_zero]
      rw [hpause]
      exact Nat.le_refl _
    | signal => exact Nat.le_of_eq (Nat.zero_add _)
    | conclude => simp [rests, exhausts, rested]

/-- Between any two moments, and from any state, the loop is polled without a descriptor left
once, and then once a pause at most: it does not spin. -/
theorem exhausted_paced {es : List Event}
    (h : execute (step tls maxConcurrentStreams) s es = some (s', t)) :
    es.countP exhausts ≤ (s'.now - s.now) / acceptBackoff + 1 := by
  have hstart : rested s ≤ acceptBackoff := by
    unfold rested
    split
    · exact Nat.le_refl _
    · exact Nat.sub_le _ _
    · exact Nat.zero_le _
  have hpassed : s'.now - s.now = (es.map passes).sum := by
    rw [measure_of_execute h now_of_step, Nat.add_sub_cancel_left]
  rw [hpassed]
  exact restBudget.paced (by decide) hstart h

/-- Two exhaustions, a pause apart. -/
theorem exhausted_paced_twice :
    ∃ s es t, execute (step false 200) initial es = some (s, t) ∧ s.now - initial.now = 100 ∧
      es.countP exhausts = 2 ∧
      es.countP exhausts ≤ (s.now - initial.now) / acceptBackoff + 1 := by
  have hrun : execute (step false 200) initial
      [.turn (some (.error ⟨.other, some 24⟩)), .tick 100, .wake,
        .turn (some (.error ⟨.other, some 23⟩))] = some (_, _) := rfl
  exact ⟨_, _, _, hrun, rfl, rfl, exhausted_paced hrun⟩

end Runs

end Service

end ZeroShim
