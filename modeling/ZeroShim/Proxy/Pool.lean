import ZeroShim.Library.Transition

/-!
# The pool of upstream connections

{lit}`UpstreamPool::get`, for one inbound connection, as a state machine.  Its lock is held
from the check of the cached connection to the end of the dial, so the only await inside is
that of the dial; a call that waits for the lock does nothing.  A connection may close at
any moment, and a call may be dropped in its dial.

Main results:

- Theorem {lit}`got_of_get`: what a call can do before its dial.
- Theorem {lit}`pool_discipline`: when it dials, and what it leaves behind.
-/

namespace ZeroShim

open Library

namespace UpstreamPool

/-- A connection to the operator's indexer, by its number. -/
abbrev Connection := Nat

/-- {lit}`DIAL_BACKOFF`, in milliseconds. -/
def dialBackoff : Nat := 100

/-- {lit}`DIAL_TIMEOUT`, in milliseconds. -/
def dialTimeout : Nat := 5000

/-- What the lock guards. -/
structure PoolState where
  live : Option Connection
  /-- Set only after a failed dial. -/
  backoffUntil : Option Nat
deriving DecidableEq, Repr

end UpstreamPool

/-- The pool, the connections it has opened, and the call that is in its dial. -/
structure UpstreamPool where
  now : Nat
  opened : Nat
  closed : List UpstreamPool.Connection
  state : UpstreamPool.PoolState
  /-- The call that holds the lock, by the moment its dial began. -/
  dialling : Option Nat
deriving DecidableEq, Repr

namespace UpstreamPool

/-- What the calls show. -/
inductive Observed where
  /-- A dial began. -/
  | dialled (now : Nat)
  /-- A dial failed or timed out. -/
  | failed (now : Nat)
  | returned (result : Except String Connection)
  | cancelled
deriving DecidableEq

/-- What can happen next. -/
inductive Event where
  | tick (d : Nat)
  | close (upstream : Connection)
  /-- A call has the lock. -/
  | get
  /-- The dial succeeds, with a connection that may have closed since. -/
  | connected (closed : Bool)
  | refused (err : String)
  | timedOut
  /-- The call is dropped in its dial. -/
  | cancel
deriving DecidableEq

def initial : UpstreamPool := ⟨0, 0, [], ⟨none, none⟩, none⟩

def isClosed (s : UpstreamPool) (upstream : Connection) : Bool := s.closed.contains upstream

/-- The backoff has not run out. -/
def backsOff (s : UpstreamPool) : Bool :=
  match s.state.backoffUntil with
  | some limit => s.now < limit
  | none => false

/-- Dial, unless the backoff forbids it. -/
def dial (s : UpstreamPool) : UpstreamPool × List Observed :=
  if s.backsOff then (s, [.returned (.error "backing indexer unreachable (dial backoff)")])
  else ({ s with dialling := some s.now }, [.dialled s.now])

/-- A call, up to its dial. -/
def get (s : UpstreamPool) : UpstreamPool × List Observed :=
  let taken := { s with state := { s.state with live := none } }
  match s.state.live with
  | some upstream =>
    if s.isClosed upstream = false then
      ({ taken with state := { taken.state with live := some upstream } },
        [.returned (.ok upstream)])
    else taken.dial
  | none => taken.dial

/-- The dial ended well. -/
def connect (s : UpstreamPool) (closed : Bool) : UpstreamPool × List Observed :=
  ({ s with
     opened := s.opened + 1
     closed := if closed then s.opened :: s.closed else s.closed
     state := ⟨some s.opened, none⟩
     dialling := none },
    [.returned (.ok s.opened)])

/-- The dial failed. -/
def fail (s : UpstreamPool) (err : String) : UpstreamPool × List Observed :=
  ({ s with
     state := { s.state with backoffUntil := some (s.now + dialBackoff) }
     dialling := none },
    [.failed s.now, .returned (.error err)])

/-- One step. -/
def step (s : UpstreamPool) (e : Event) : Option (UpstreamPool × List Observed) :=
  match s.dialling, e with
  | _, .tick d => some ({ s with now := s.now + d }, [])
  | _, .close upstream =>
    if upstream < s.opened then some ({ s with closed := upstream :: s.closed }, []) else none
  | none, .get => some s.get
  | some _, .connected closed => some (s.connect closed)
  | some _, .refused err => some (s.fail err)
  | some since, .timedOut =>
    if since + dialTimeout ≤ s.now then
      some (s.fail ("dialling the backing indexer timed out after " ++
        toString (dialTimeout / 1000) ++ "s"))
    else none
  | some _, .cancel => some ({ s with dialling := none }, [.cancelled])
  | _, _ => none

/-! ## What a step can do -/

/-- A cached connection has closed. -/
def Stale (s : UpstreamPool) : Prop :=
  ∀ upstream, s.state.live = some upstream → s.isClosed upstream = true

/-- The pool without its cached connection. -/
def emptied (s : UpstreamPool) : UpstreamPool := { s with state := { s.state with live := none } }

/-- What a call can do before its dial. -/
inductive Got (s : UpstreamPool) : UpstreamPool → List Observed → Prop where
  | reuse {upstream} : s.state.live = some upstream → s.isClosed upstream = false →
      Got s s [.returned (.ok upstream)]
  | backOff {limit} : Stale s → s.state.backoffUntil = some limit → s.now < limit →
      Got s s.emptied [.returned (.error "backing indexer unreachable (dial backoff)")]
  | dial : Stale s → (∀ limit, s.state.backoffUntil = some limit → limit ≤ s.now) →
      Got s { s.emptied with dialling := some s.now } [.dialled s.now]

theorem got_of_stale {s : UpstreamPool} (h : Stale s) :
    Got s s.emptied.dial.1 s.emptied.dial.2 := by
  have hbacksOff : s.emptied.backsOff = s.backsOff := rfl
  unfold dial
  rw [hbacksOff]
  unfold backsOff
  cases hbackoff : s.state.backoffUntil with
  | none => exact .dial h (by simp [hbackoff])
  | some limit =>
    by_cases hlt : s.now < limit
    · rw [if_pos (by simpa using hlt)]
      exact .backOff h hbackoff hlt
    · rw [if_neg (by simpa using hlt)]
      apply Got.dial h
      intro limit' hlimit'
      rw [hbackoff] at hlimit'
      cases hlimit'
      exact Nat.le_of_not_lt hlt

theorem got_of_get (s : UpstreamPool) : Got s s.get.1 s.get.2 := by
  unfold get
  cases hlive : s.state.live with
  | none =>
    apply got_of_stale
    intro upstream hupstream
    rw [hlive] at hupstream
    contradiction
  | some upstream =>
    by_cases hopen : s.isClosed upstream = false
    · simp only [hopen, if_true]
      have hreuse := Got.reuse hlive hopen
      -- what was taken is put back
      have hback : s = { s with state := { s.state with live := some upstream } } := by
        rw [← hlive]
      rw [← hback]
      exact hreuse
    · simp only [hopen]
      apply got_of_stale
      intro upstream' hupstream'
      rw [hlive] at hupstream'
      cases hupstream'
      simpa using hopen

/-- The effects of a step. -/
inductive Stepped (s : UpstreamPool) : Event → UpstreamPool → List Observed → Prop where
  | tick (d : Nat) : Stepped s (.tick d) { s with now := s.now + d } []
  | close (upstream : Connection) :
      Stepped s (.close upstream) { s with closed := upstream :: s.closed } []
  | get {s' o} : s.dialling = none → Got s s' o → Stepped s .get s' o
  | connect {since} (closed : Bool) : s.dialling = some since →
      Stepped s (.connected closed) (s.connect closed).1 (s.connect closed).2
  | fail {since e} (err : String) : s.dialling = some since → e ≠ .get →
      Stepped s e (s.fail err).1 (s.fail err).2
  | cancel {since} : s.dialling = some since →
      Stepped s .cancel { s with dialling := none } [.cancelled]

theorem stepped_of_step {s s' : UpstreamPool} {e : Event} {o : List Observed}
    (h : s.step e = some (s', o)) : Stepped s e s' o := by
  unfold step at h
  split at h
  · cases h
    exact .tick _
  · split_ifs at h
    cases h
    exact .close _
  · next hfree =>
    have hgot := got_of_get s
    rw [Option.some.inj h] at hgot
    exact .get hfree hgot
  · next hdialling =>
    cases h
    exact .connect _ hdialling
  · next hdialling =>
    cases h
    exact .fail _ hdialling (by simp)
  · next hdialling =>
    split_ifs at h
    cases h
    exact .fail _ hdialling (by simp)
  · next hdialling =>
    cases h
    exact .cancel hdialling
  · contradiction

/-! ## Along a run -/

/-- What every step keeps. -/
structure Kept (t : List Observed) (s : UpstreamPool) : Prop where
  unset : s.state.live ≠ none → s.state.backoffUntil = none
  free : s.state.live ≠ none → s.dialling = none
  /-- The backoff is that of a dial that failed. -/
  backoff : ∀ limit, s.state.backoffUntil = some limit →
    ∃ moment, .failed moment ∈ t ∧ limit = moment + dialBackoff
  /-- A dial that failed is long past, or backed off from. -/
  past : ∀ moment, .failed moment ∈ t → moment + dialBackoff ≤ s.now ∨
    s.dialling = none ∧ ∃ limit, s.state.backoffUntil = some limit ∧ moment + dialBackoff ≤ limit

/-- While a call is in its dial, nothing is cached and every dial that failed is past. -/
theorem Kept.dialling {t : List Observed} {s : UpstreamPool} {since : Nat} (h : Kept t s)
    (hdialling : s.dialling = some since) :
    s.state.live = none ∧ ∀ moment, .failed moment ∈ t → moment + dialBackoff ≤ s.now := by
  constructor
  · by_contra hlive
    rw [h.free hlive] at hdialling
    contradiction
  · intro moment hmem
    rcases h.past moment hmem with hpast | ⟨hfree, -⟩
    · exact hpast
    · rw [hfree] at hdialling
      contradiction

/-- Where a call dials, every dial that failed is past. -/
theorem Kept.before {t : List Observed} {s : UpstreamPool} (h : Kept t s)
    (hbackoff : ∀ limit, s.state.backoffUntil = some limit → limit ≤ s.now) {moment : Nat}
    (hmem : .failed moment ∈ t) : moment + dialBackoff ≤ s.now := by
  rcases h.past moment hmem with hpast | ⟨-, limit, hlimit, hle⟩
  · exact hpast
  · exact Nat.le_trans hle (hbackoff limit hlimit)

theorem Kept.get {t o : List Observed} {s s' : UpstreamPool} (h : Kept t s)
    (hgot : Got s s' o) : Kept (t ++ o) s' := by
  have hsame : ∀ {moment x}, o = [x] → x ≠ .failed moment → .failed moment ∈ t ++ o →
      .failed moment ∈ t := by
    rintro moment x rfl hne hmem
    rcases List.mem_append.mp hmem with hmem | hmem
    · exact hmem
    · exact absurd (List.mem_singleton.mp hmem).symm hne
  have hgrown : ∀ limit, s.state.backoffUntil = some limit →
      ∃ moment, .failed moment ∈ t ++ o ∧ limit = moment + dialBackoff := by
    intro limit hlimit
    rcases h.backoff limit hlimit with ⟨moment, hmem, hlimit⟩
    exact ⟨moment, List.mem_append_left _ hmem, hlimit⟩
  cases hgot with
  | reuse hlive hopen =>
    exact ⟨h.unset, h.free, hgrown, fun moment hmem => h.past moment (hsame rfl (by simp) hmem)⟩
  | backOff hstale hlimit hlt =>
    exact ⟨fun hlive => absurd rfl hlive, fun hlive => absurd rfl hlive, hgrown,
      fun moment hmem => h.past moment (hsame rfl (by simp) hmem)⟩
  | dial hstale hbackoff =>
    exact ⟨fun hlive => absurd rfl hlive, fun hlive => absurd rfl hlive, hgrown,
      fun moment hmem => .inl (h.before hbackoff (hsame rfl (by simp) hmem))⟩

theorem Kept.step {t o : List Observed} {s s' : UpstreamPool} (h : Kept t s)
    {e : Event} (hstep : Stepped s e s' o) : Kept (t ++ o) s' := by
  cases hstep with
  | tick d =>
    rw [List.append_nil]
    refine ⟨h.unset, h.free, h.backoff, ?_⟩
    intro moment hmem
    rcases h.past moment hmem with hpast | hbackoff
    · exact .inl (Nat.le_trans hpast (Nat.le_add_right _ _))
    · exact .inr hbackoff
  | close upstream =>
    rw [List.append_nil]
    exact ⟨h.unset, h.free, h.backoff, h.past⟩
  | get hfree hgot => exact h.get hgot
  | connect closed hdialling =>
    refine ⟨fun _ => rfl, fun _ => rfl, by simp [connect], ?_⟩
    intro moment hmem
    exact .inl ((h.dialling hdialling).2 moment (by simpa [connect] using hmem))
  | fail err hdialling _ =>
    have hlive := (h.dialling hdialling).1
    refine ⟨fun hne => absurd hlive hne, fun _ => rfl, ?_, ?_⟩
    · intro limit hlimit
      exact ⟨s.now, by simp [fail], (Option.some.inj hlimit).symm⟩
    · intro moment hmem
      rcases List.mem_append.mp hmem with hmem | hmem
      · exact .inl ((h.dialling hdialling).2 moment hmem)
      · have hnow : moment = s.now := by simpa [fail] using hmem
        exact .inr ⟨rfl, _, rfl, Nat.le_of_eq (by rw [hnow])⟩
  | cancel hdialling =>
    have hlive := (h.dialling hdialling).1
    refine ⟨h.unset, fun _ => rfl, ?_, ?_⟩
    · intro limit hlimit
      rcases h.backoff limit hlimit with ⟨moment, hmem, hlimit⟩
      exact ⟨moment, List.mem_append_left _ hmem, hlimit⟩
    · intro moment hmem
      exact .inl ((h.dialling hdialling).2 moment (by simpa using hmem))

theorem kept_of_runs {s : UpstreamPool} {t : List Observed} (h : Runs step initial t s) :
    Kept t s := by
  apply h.invariant (P := Kept)
  · exact ⟨fun _ => rfl, fun _ => rfl, by simp [initial], by simp⟩
  · intro t s e o s' _ ih hstep
    exact ih.step (stepped_of_step hstep)

/-! ## Discipline -/

/-- When a call dials, and what the calls leave behind. -/
structure Disciplined (t : List Observed) (s : UpstreamPool) : Prop where
  /-- A dial starts where no open connection is cached and no dial failed of late. -/
  dials : ∀ e s' o moment, s.step e = some (s', o) → .dialled moment ∈ o →
    moment = s.now ∧ Stale s ∧ ∀ earlier, .failed earlier ∈ t → earlier + dialBackoff ≤ s.now
  /-- A cached connection that is open is returned, without a dial. -/
  reuses : ∀ upstream, s.state.live = some upstream → s.isClosed upstream = false →
    s.step .get = some (s, [.returned (.ok upstream)])
  unset : s.state.live ≠ none → s.state.backoffUntil = none
  /-- A connection that a call returns, just dialled or not, is the cached one. -/
  caches : ∀ e s' o upstream, s.step e = some (s', o) → .returned (.ok upstream) ∈ o →
    s'.state.live = some upstream
  /-- A call that fails or is dropped leaves nothing cached, and the lock free. -/
  leaves : ∀ e s' o, s.step e = some (s', o) →
    ((∃ err, .returned (.error err) ∈ o) ∨ .cancelled ∈ o) →
    s'.state.live = none ∧ s'.dialling = none
  /-- A call is turned away only where a dial failed of late. -/
  turnsAway : ∀ s' o err, s.step .get = some (s', o) → .returned (.error err) ∈ o →
    ∃ moment, .failed moment ∈ t ∧ s.now < moment + dialBackoff
  /-- A call that has the lock goes on. -/
  proceeds : s.dialling = none → (s.step .get).isSome
  /-- A dial ends within its time. -/
  ends : ∀ since, s.dialling = some since → since + dialTimeout ≤ s.now →
    (s.step .timedOut).isSome

/-- An open connection is what a call returns. -/
theorem get_of_open {s : UpstreamPool} {upstream : Connection}
    (hlive : s.state.live = some upstream) (hopen : s.isClosed upstream = false) :
    s.get = (s, [.returned (.ok upstream)]) := by
  have hgot := got_of_get s
  generalize s.get = out at hgot ⊢
  rcases out with ⟨s', o⟩
  cases hgot with
  | reuse hlive' hopen' =>
    rw [hlive] at hlive'
    cases hlive'
    rfl
  | backOff hstale | dial hstale =>
    rw [hstale upstream hlive] at hopen
    contradiction

/-- A dial starts where no open connection is cached and no dial failed of late. -/
theorem Kept.dials {t o : List Observed} {s s' : UpstreamPool} {e : Event} {moment : Nat}
    (h : Kept t s) (hstep : Stepped s e s' o) (hmem : .dialled moment ∈ o) :
    moment = s.now ∧ Stale s ∧
      ∀ earlier, .failed earlier ∈ t → earlier + dialBackoff ≤ s.now := by
  cases hstep with
  | get hfree hgot =>
    cases hgot with
    | dial hstale hbackoff =>
      exact ⟨by simpa using hmem, hstale, fun earlier hearlier => h.before hbackoff hearlier⟩
    | reuse | backOff => simp at hmem
  | tick | close | connect | fail | cancel => simp [connect, fail] at hmem

/-- A connection that a call returns is the cached one. -/
theorem live_of_returned {s s' : UpstreamPool} {e : Event} {o : List Observed}
    {upstream : Connection} (hstep : Stepped s e s' o) (hmem : .returned (.ok upstream) ∈ o) :
    s'.state.live = some upstream := by
  cases hstep with
  | get hfree hgot =>
    cases hgot with
    | reuse hlive hopen =>
      obtain rfl : upstream = _ := by simpa using hmem
      exact hlive
    | backOff | dial => simp at hmem
  | connect closed hdialling =>
    obtain rfl : upstream = s.opened := by simpa [connect] using hmem
    rfl
  | tick | close | fail | cancel => simp [fail] at hmem

/-- A call that fails or is dropped leaves nothing cached, and the lock free. -/
theorem Kept.leaves {t o : List Observed} {s s' : UpstreamPool} {e : Event} (h : Kept t s)
    (hstep : Stepped s e s' o)
    (hends : (∃ err, .returned (.error err) ∈ o) ∨ .cancelled ∈ o) :
    s'.state.live = none ∧ s'.dialling = none := by
  cases hstep with
  | get hfree hgot =>
    cases hgot with
    | backOff hstale hlimit hlt => exact ⟨rfl, hfree⟩
    | reuse | dial => simp at hends
  | fail err hdialling _ => exact ⟨(h.dialling hdialling).1, rfl⟩
  | cancel hdialling => exact ⟨(h.dialling hdialling).1, rfl⟩
  | tick | close | connect => simp [connect] at hends

/-- A call is turned away only where a dial failed of late. -/
theorem Kept.turnsAway {t o : List Observed} {s s' : UpstreamPool} {err : String} (h : Kept t s)
    (hstep : Stepped s .get s' o) (hmem : .returned (.error err) ∈ o) :
    ∃ moment, .failed moment ∈ t ∧ s.now < moment + dialBackoff := by
  cases hstep with
  | get hfree hgot =>
    cases hgot with
    | @backOff limit hstale hlimit hlt =>
      rcases h.backoff limit hlimit with ⟨moment, hfailed, rfl⟩
      exact ⟨moment, hfailed, hlt⟩
    | reuse | dial => simp at hmem
  | fail err hdialling hne => contradiction

/-- In every run of calls, dials, failures and closings, the pool is disciplined. -/
theorem pool_discipline {s : UpstreamPool} {t : List Observed} (h : Runs step initial t s) :
    Disciplined t s := by
  have hkept := kept_of_runs h
  constructor
  · exact fun e s' o moment hstep => hkept.dials (stepped_of_step hstep)
  · intro upstream hlive hopen
    have hfree := hkept.free (by simp [hlive])
    simp only [step, hfree]
    exact congrArg some (get_of_open hlive hopen)
  · exact hkept.unset
  · exact fun e s' o upstream hstep => live_of_returned (stepped_of_step hstep)
  · exact fun e s' o hstep => hkept.leaves (stepped_of_step hstep)
  · exact fun s' o err hstep => hkept.turnsAway (stepped_of_step hstep)
  · intro hfree
    simp [step, hfree]
  · intro since hdialling hdue
    simp [step, hdialling, hdue]

/-- The indexer is down at first, comes up, and restarts. -/
theorem pool_discipline_restart :
    ∃ t s, Runs step initial t s ∧ .returned (.ok 1) ∈ t ∧ Disciplined t s := by
  have hrun := Runs.of_execute (show execute step initial
    [.get, .refused "connection refused", .get, .tick 100, .get, .connected false, .get,
      .close 0, .get, .cancel, .get, .connected false] = some (_, _) from rfl)
  exact ⟨_, _, hrun, by decide, pool_discipline hrun⟩

end UpstreamPool

end ZeroShim
