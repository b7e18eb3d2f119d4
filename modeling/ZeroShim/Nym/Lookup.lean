import ZeroShim.Nym.Calls
import ZeroShim.Nym.Safety

/-!
# A lookup is answered by the attempt it waits on

The log of a lookup is a sweep of the addresses: attempts that timed out, then at most
one that ended it.  What it returns was delivered to that one while it waited.

Main results:

- Theorem {lit}`onTime_of_runs`: where calls are polled on time, no attempt outlives its
  deadline.
- Theorem {lit}`deadline_of_minted`: an attempt's deadline is a timeout ahead of its minting.
- Theorem {lit}`lookup_answered`: what a lookup that returned guarantees.
-/

namespace ZeroShim
namespace Nym

open Library Wire Transport

namespace Calls

/-! ## The log of one lookup -/

/-- One attempt that timed out: its nonce and deadline, the request if one was
accepted, and when it was given up. -/
structure Try where
  nonce : Nonce
  deadline : Nat
  request : Option Request
  now : Nat

/-- What the attempt with a number shows. -/
def Try.log (start : UInt64) (targets : Nat) (x : Try) (attempt : Nat) :
    List LookupObserved :=
  .minted attempt x.nonce (LookupCall.targetOf start attempt targets) x.deadline ::
    (x.request.toList.map .handed ++ [.timedOut attempt x.now])

/-- What the attempts show one after the other, from a number on. -/
def triesLog (start : UInt64) (targets : Nat) : List Try → Nat → List LookupObserved
  | [], _ => []
  | x :: xs, attempt => x.log start targets attempt ++ triesLog start targets xs (attempt + 1)

/-- The log up to the attempt after the given ones. -/
def sweepLog (call : LookupCall) (tries : List Try) : List LookupObserved :=
  .began call.targets call.start :: triesLog call.start call.targets tries 0

/-- The attempt after the given ones is minted. -/
def mintLog (call : LookupCall) (tries : List Try) (nonce : Nonce) (deadline : Nat) :
    List LookupObserved :=
  sweepLog call tries ++
    [.minted tries.length nonce (LookupCall.targetOf call.start tries.length call.targets)
      deadline]

/-- Each attempt was given up at its deadline or later. -/
def Expired (tries : List Try) : Prop := ∀ x ∈ tries, x.deadline ≤ x.now

/-- What a lookup that returned has done. -/
inductive LookupOutcome (call : LookupCall) (log : List LookupObserved) :
    Except NymError LookupReply → Prop where
  | noTarget : call.targets = 0 →
      log = [.began call.targets call.start, .returned (.error .transportGone)] →
      LookupOutcome call log (.error .transportGone)
  | refused : 0 < call.targets → maxLookupHashBytes < call.hash.length →
      log = [.began call.targets call.start,
        .returned (.error (.encode (.hashTooLarge call.hash.length)))] →
      LookupOutcome call log (.error (.encode (.hashTooLarge call.hash.length)))
  | replied {tries nonce deadline request reply} : tries.length < call.targets →
      Expired tries → request.nonce = nonce →
      log = mintLog call tries nonce deadline ++
        [.handed request, .replied reply, .returned (.ok reply)] →
      LookupOutcome call log (.ok reply)
  | gone {tries nonce deadline} (handed : Option Request) :
      tries.length < call.targets → Expired tries →
      log = mintLog call tries nonce deadline ++
        (handed.toList.map .handed ++ [.gone, .returned (.error .transportGone)]) →
      LookupOutcome call log (.error .transportGone)
  | silent {tries} : 0 < call.targets → tries.length = call.targets → Expired tries →
      log = sweepLog call tries ++ [.returned (.error .timeout)] →
      LookupOutcome call log (.error .timeout)

/-- The log agrees with where the lookup is. -/
def LookupTells (call : LookupCall) (log : List LookupObserved) : Prop :=
  match call.phase with
  | .building attempt =>
    ∃ tries, tries.length = attempt ∧ attempt < call.targets ∧ Expired tries ∧
      (tries = [] ∨ call.hash.length ≤ maxLookupHashBytes) ∧ log = sweepLog call tries
  | .sending attempt deadline parcel =>
    ∃ tries, tries.length = attempt ∧ attempt < call.targets ∧ Expired tries ∧
      call.hash.length ≤ maxLookupHashBytes ∧ parcel.kind = .lookup ∧
      log = mintLog call tries parcel.nonce deadline
  | .awaiting attempt deadline nonce slot =>
    ∃ tries request, tries.length = attempt ∧ attempt < call.targets ∧ Expired tries ∧
      call.hash.length ≤ maxLookupHashBytes ∧ request.nonce = nonce ∧
      request.waiter = .lookup slot ∧
      log = mintLog call tries nonce deadline ++ [.handed request]
  | .returned result => LookupOutcome call log result
  | .cancelled => True

theorem triesLog_snoc (start : UInt64) (targets : Nat) (tries : List Try) (x : Try)
    (attempt : Nat) :
    triesLog start targets (tries ++ [x]) attempt =
      triesLog start targets tries attempt ++ x.log start targets (attempt + tries.length) := by
  induction tries generalizing attempt with
  | nil => simp [triesLog]
  | cons y tries ih =>
    simp only [List.cons_append, triesLog, ih, List.append_assoc, List.length_cons]
    rw [Nat.add_assoc, Nat.add_comm 1]

theorem sweepLog_snoc (call : LookupCall) (tries : List Try) (x : Try) :
    sweepLog call (tries ++ [x]) =
      mintLog call tries x.nonce x.deadline ++
        (x.request.toList.map .handed ++ [.timedOut tries.length x.now]) := by
  simp [sweepLog, mintLog, triesLog_snoc, Try.log]

theorem Expired.snoc {tries : List Try} {x : Try} (h : Expired tries)
    (hx : x.deadline ≤ x.now) : Expired (tries ++ [x]) := by
  intro y hy
  rcases List.mem_append.mp hy with hy | hy
  · exact h y hy
  · rw [List.mem_singleton] at hy
    exact hy ▸ hx

theorem lookupTells_begin (handle : NymHandle) (hash : Bytes) :
    LookupTells (LookupCall.begin handle hash).2.1 (LookupCall.begin handle hash).2.2 := by
  unfold LookupCall.begin
  by_cases htargets : handle.targets = 0
  · simp only [htargets, if_true]
    exact .noTarget rfl rfl
  · simp only [htargets, if_false]
    exact ⟨[], rfl, Nat.pos_of_ne_zero htargets, by simp [Expired], .inl rfl, rfl⟩

theorem encodeLookup_budget {nonce : Nonce} {hash frame : Bytes}
    (h : encodeLookup nonce hash = .ok frame) : hash.length ≤ maxLookupHashBytes :=
  (lookup_fixedFrame.encode_isOk (nonce, hash)).mp ⟨frame, h⟩

theorem encodeLookup_refuses {nonce : Nonce} {hash : Bytes} {err : WireError}
    (h : encodeLookup nonce hash = .error (.raised err)) :
    err = .hashTooLarge hash.length ∧ maxLookupHashBytes < hash.length := by
  by_cases hbudget : hash.length ≤ maxLookupHashBytes
  · rw [encodeLookup_eq hbudget] at h
    cases h
  · rw [encodeLookup_over hbudget] at h
    cases h
    exact ⟨rfl, Nat.lt_of_not_le hbudget⟩

/-- An attempt that times out is one more try of the sweep. -/
theorem lookupTells_expire {call : LookupCall} {log : List LookupObserved} {attempt now : Nat}
    {tries : List Try} {nonce : Nonce} {deadline : Nat} (handed : Option Request)
    (hattempt : tries.length = attempt) (hlt : attempt < call.targets) (hexpired : Expired tries)
    (hbudget : call.hash.length ≤ maxLookupHashBytes)
    (hlog : log = mintLog call tries nonce deadline ++ handed.toList.map .handed)
    (hdeadline : deadline ≤ now) :
    LookupTells (call.expire attempt now).1 (log ++ (call.expire attempt now).2) := by
  have hsnoc := sweepLog_snoc call tries ⟨nonce, deadline, handed, now⟩
  have hall := hexpired.snoc (x := ⟨nonce, deadline, handed, now⟩) hdeadline
  subst hattempt
  unfold LookupCall.expire
  by_cases hnext : tries.length + 1 < call.targets
  · simp only [hnext, if_true]
    refine ⟨_, by simp, hnext, hall, .inr hbudget, ?_⟩
    exact (by rw [hlog, hsnoc, List.append_assoc] :
      log ++ [.timedOut tries.length now] =
        sweepLog call (tries ++ [⟨nonce, deadline, handed, now⟩]))
  · simp only [hnext, if_false]
    refine .silent (Nat.zero_lt_of_lt hlt) ?_ hall ?_
    · simp only [List.length_append, List.length_singleton]
      exact Nat.le_antisymm hlt (Nat.le_of_not_lt hnext)
    · exact (by rw [hlog, hsnoc]; simp [LookupCall.finish] :
        log ++ .timedOut tries.length now :: (LookupCall.finish { call with last := .timeout }
          (.error .timeout)).2 =
            sweepLog call (tries ++ [⟨nonce, deadline, handed, now⟩]) ++
              [.returned (.error .timeout)])

/-- Every step of a lookup keeps its log in agreement with it. -/
theorem LookupTells.step {handle : NymHandle} {s s' : Transport} {now : Nat}
    {call call' : LookupCall} {log o : List LookupObserved} (h : LookupTells call log)
    (hstep : LookupCall.Stepped handle s now call s' call' o) :
    LookupTells call' (log ++ o) := by
  unfold LookupTells at h
  cases hstep with
  | @build attempt nonce frame hphase hencode =>
    rw [hphase] at h
    rcases h with ⟨tries, rfl, hlt, hexpired, -, rfl⟩
    exact ⟨tries, rfl, hlt, hexpired, encodeLookup_budget hencode, rfl, rfl⟩
  | @refuse attempt nonce err hphase hencode =>
    rw [hphase] at h
    rcases h with ⟨tries, rfl, hlt, hexpired, hbudget, rfl⟩
    rcases encodeLookup_refuses hencode with ⟨rfl, hover⟩
    rcases hbudget with rfl | hbudget
    · exact .refused hlt hover rfl
    · exact absurd hbudget (Nat.not_le_of_lt hover)
  | @dispatch attempt deadline parcel s₁ request hphase haccept =>
    rw [hphase] at h
    rcases h with ⟨tries, rfl, hlt, hexpired, hbudget, hkind, rfl⟩
    rcases of_accept haccept with ⟨hrequest, -⟩
    refine ⟨tries, request, rfl, hlt, hexpired, hbudget, ?_, ?_, rfl⟩
    · rw [hrequest]
      rfl
    · rw [hrequest]
      simp [Parcel.request, hkind, RequestKind.waiter, Waiter.slot]
  | closed hphase hclosed =>
    rw [hphase] at h
    rcases h with ⟨tries, rfl, hlt, hexpired, hbudget, hkind, rfl⟩
    exact LookupOutcome.gone none hlt hexpired rfl
  | full hphase hopen hdeadline =>
    rw [hphase] at h
    rcases h with ⟨tries, hattempt, hlt, hexpired, hbudget, hkind, hlog⟩
    exact lookupTells_expire none hattempt hlt hexpired hbudget (by simpa using hlog)
      hdeadline
  | reply hphase hpoll =>
    rw [hphase] at h
    rcases h with ⟨tries, request, rfl, hlt, hexpired, hbudget, hnonce, hwaiter, rfl⟩
    exact LookupOutcome.replied hlt hexpired hnonce (List.append_assoc _ _ _)
  | gone hphase hpoll =>
    rw [hphase] at h
    rcases h with ⟨tries, request, rfl, hlt, hexpired, hbudget, hnonce, hwaiter, rfl⟩
    exact LookupOutcome.gone (some request) hlt hexpired (List.append_assoc _ _ _)
  | silent hphase hpoll hdeadline =>
    rw [hphase] at h
    rcases h with ⟨tries, request, hattempt, hlt, hexpired, hbudget, hnonce, hwaiter, hlog⟩
    exact lookupTells_expire (some request) hattempt hlt hexpired hbudget
      (by simpa using hlog) hdeadline
  | cancel | cancelAwaiting => trivial

/-! ## Along a run -/

/-- What a step does to one lookup and its log. -/
theorem lookups_step {s s' : Calls} {e : Event} {o : List Observed}
    (h : s.step e = some (s', o)) (i : Nat) :
    (s'.lookups[i]? = s.lookups[i]? ∧ lookupLog i o = []) ∨
      (s.lookups[i]? = none ∧ ∃ hash,
        s'.lookups[i]? = some (LookupCall.begin s.handle hash).2.1 ∧
        lookupLog i o = (LookupCall.begin s.handle hash).2.2) ∨
      ∃ call transport call', s.lookups[i]? = some call ∧ s'.lookups[i]? = some call' ∧
        LookupCall.Stepped s.handle s.transport s.now call transport call' (lookupLog i o) := by
  cases stepped_of_step h with
  | tick | setTargets => exact .inl ⟨rfl, rfl⟩
  | turn | takeFrame | inbound | loseDriver => exact .inl ⟨rfl, lookupLog_map i _⟩
  | startLookup hash =>
    rcases Nat.lt_trichotomy i s.lookups.length with hlt | rfl | hgt
    · refine .inl ⟨List.getElem?_append_left hlt, ?_⟩
      rw [lookupLog_ofLookup, if_neg (Nat.ne_of_gt hlt)]
    · refine .inr (.inl ⟨by simp, hash, by simp, ?_⟩)
      rw [lookupLog_ofLookup, if_pos rfl]
    · refine .inl ⟨?_, ?_⟩
      · rw [List.getElem?_eq_none (Nat.le_of_lt hgt), List.getElem?_eq_none (by simp; omega)]
      · rw [lookupLog_ofLookup, if_neg (Nat.ne_of_lt hgt)]
  | @lookup j e call transport call' o' hcall hlookup =>
    rw [lookupLog_ofLookup]
    by_cases hji : j = i
    · subst hji
      have hlt : j < s.lookups.length := (List.getElem?_eq_some_iff.mp hcall).1
      refine .inr (.inr ⟨call, transport, call', hcall, by simp [hlt], ?_⟩)
      rw [if_pos rfl]
      exact hlookup
    · rw [if_neg hji]
      exact .inl ⟨by simp [hji], rfl⟩
  | startSubmit | submit => exact .inl ⟨rfl, lookupLog_ofSubmit _ _ _⟩

/-- On every run that starts without lookups, each one agrees with its log. -/
theorem lookupTells_of_runs {s₀ s : Calls} {t : List Observed} (hstart : s₀.lookups = [])
    (h : Runs step s₀ t s) (i : Nat) :
    (s.lookups[i]? = none → lookupLog i t = []) ∧
      ∀ call, s.lookups[i]? = some call → LookupTells call (lookupLog i t) := by
  refine h.invariant (P := fun t s => (s.lookups[i]? = none → lookupLog i t = []) ∧
    ∀ call, s.lookups[i]? = some call → LookupTells call (lookupLog i t))
    ⟨fun _ => rfl, by simp [hstart]⟩ ?_
  rintro t s e o s' - ⟨hnone, htells⟩ hstep
  rw [lookupLog_append]
  rcases lookups_step hstep i with ⟨hsame, hlog⟩ | ⟨hnew, hash, hbegin, hlog⟩ |
    ⟨call, transport, call', hcall, hcall', hstepped⟩
  · rw [hsame, hlog, List.append_nil]
    exact ⟨hnone, htells⟩
  · rw [hbegin, hlog, hnone hnew, List.nil_append]
    refine ⟨fun h => absurd h (by simp), ?_⟩
    rintro call ⟨⟩
    exact lookupTells_begin s.handle hash
  · rw [hcall']
    refine ⟨fun h => absurd h (by simp), ?_⟩
    rintro _ ⟨⟩
    exact (htells call hcall).step hstepped

/-! ## The reply channel of a waiting lookup -/

/-- The lookup awaits a reply on a channel. -/
def Awaits (s : Calls) (i : Nat) (deadline : Nat) (nonce : Nonce) (slot : Nat) : Prop :=
  ∃ call attempt, s.lookups[i]? = some call ∧
    call.phase = .awaiting attempt deadline nonce slot

/-- What may have happened to a channel that no step of its own touched. -/
structure SlotKept (o : List Observed) (slot : Nat) (before after : Oneshots Answer) : Prop where
  opened : before.opened ≤ after.opened
  receiver : (after.cell slot).receiver = (before.cell slot).receiver
  value : (after.cell slot).value = (before.cell slot).value ∨
    ∃ firing message, .transport (.fired firing message) ∈ o ∧ firing.waiter.slot = slot ∧
      (after.cell slot).value = some firing.answer

theorem SlotKept.refl (o : List Observed) (slot : Nat) (os : Oneshots Answer) :
    SlotKept o slot os os :=
  ⟨Nat.le_refl _, rfl, .inl rfl⟩

theorem slotKept_of_cell {o : List Observed} {slot : Nat} {before after : Oneshots Answer}
    (hopened : before.opened ≤ after.opened) (hcell : after.cell slot = before.cell slot) :
    SlotKept o slot before after :=
  ⟨hopened, by rw [hcell], .inl (by rw [hcell])⟩

theorem cell_abandon_of_ne {s : Transport} {slot other : Nat} (h : slot ≠ other) :
    (s.abandon other).oneshots.cell slot = s.oneshots.cell slot :=
  Function.update_of_ne h _ _

theorem cell_accept {s s' : Transport} {parcel : Parcel} {request : Request} {slot : Nat}
    (h : s.accept parcel = some (s', request)) (hslot : slot < s.oneshots.opened) :
    s'.oneshots.opened = s.oneshots.opened + 1 ∧
      s'.oneshots.cell slot = s.oneshots.cell slot := by
  rcases of_accept h with ⟨-, -, honeshots, -⟩
  rw [honeshots]
  exact ⟨rfl, Function.update_of_ne (Nat.ne_of_lt hslot) _ _⟩

theorem slot_request (parcel : Parcel) (slot : Nat) :
    (parcel.request slot).waiter.slot = slot := by
  cases hkind : parcel.kind <;> simp [Parcel.request, hkind, RequestKind.waiter, Waiter.slot]

theorem slotKept_transport {s s' : Transport} {e : Transport.Event} {o : List Nym.Observed}
    {slot : Nat} (h : s.step e = some (s', o)) (haccept : ∀ parcel, e ≠ .accept parcel)
    (habandon : ∀ slot, e ≠ .abandon slot) :
    SlotKept (o.map .transport) slot s.oneshots s'.oneshots := by
  cases e with
  | turn a =>
    have htracks := tracks_turn h
    refine ⟨Nat.le_of_eq htracks.opened.symm, htracks.receiver slot, ?_⟩
    rcases htracks.value slot with hsame | ⟨firing, message, hmem, hslot, hvalue⟩
    · exact .inl hsame
    · exact .inr ⟨firing, message, List.mem_map_of_mem hmem, hslot, hvalue⟩
  | accept parcel => exact absurd rfl (haccept parcel)
  | abandon slot => exact absurd rfl (habandon slot)
  | closeRequests | loseDriver =>
    cases h
    exact .refl _ _ _
  | takeFrame =>
    rcases Option.map_eq_some_iff.mp h with ⟨⟨out, s₁⟩, htake, heq⟩
    cases heq
    rcases of_takeFrame htake with ⟨toMixnet, -, rfl⟩
    exact .refl _ _ _
  | inbound message =>
    rcases Option.map_eq_some_iff.mp h with ⟨s₁, hinbound, heq⟩
    cases heq
    rcases of_inbound hinbound with ⟨fromMixnet, -, rfl⟩
    exact .refl _ _ _

theorem slotKept_submit {s s' : Transport} {now : Nat} {call call' : SubmitCall}
    {o : List SubmitObserved} {o' : List Observed} {slot : Nat}
    (h : SubmitCall.Stepped s now call s' call' o) (hslot : slot < s.oneshots.opened) :
    SlotKept o' slot s.oneshots s'.oneshots := by
  cases h with
  | @dispatch target parcel s₁ request hphase haccept =>
    rcases cell_accept haccept hslot with ⟨hopened, hcell⟩
    rcases of_accept haccept with ⟨hrequest, -⟩
    have hne : slot ≠ request.waiter.slot := by
      rw [hrequest, slot_request]
      exact Nat.ne_of_lt hslot
    refine slotKept_of_cell ?_ ((cell_abandon_of_ne hne).trans hcell)
    exact Nat.le_of_lt (hopened ▸ Nat.lt_succ_self _)
  | frame | refuse | closed | elapsed | cancel => exact .refl _ _ _

theorem slotKept_lookup {handle : NymHandle} {s s' : Transport} {now : Nat}
    {call call' : LookupCall} {o : List LookupObserved} {o' : List Observed} {slot : Nat}
    (h : LookupCall.Stepped handle s now call s' call' o) (hslot : slot < s.oneshots.opened)
    (hother : ∀ attempt deadline nonce, call.phase ≠ .awaiting attempt deadline nonce slot) :
    SlotKept o' slot s.oneshots s'.oneshots := by
  have left {attempt deadline nonce other}
      (hphase : call.phase = .awaiting attempt deadline nonce other) :
      SlotKept o' slot s.oneshots (s.abandon other).oneshots := by
    refine slotKept_of_cell (Nat.le_refl _) (cell_abandon_of_ne ?_)
    rintro rfl
    exact hother _ _ _ hphase
  cases h with
  | dispatch hphase haccept =>
    rcases cell_accept haccept hslot with ⟨hopened, hcell⟩
    exact slotKept_of_cell (Nat.le_of_lt (hopened ▸ Nat.lt_succ_self _)) hcell
  | reply hphase | gone hphase | silent hphase | cancelAwaiting hphase => exact left hphase
  | build | refuse | closed | full | cancel => exact .refl _ _ _

/-- A lookup that waits: since its request was handed over it has shown nothing, and what
its channel holds was fired since. -/
structure Waits (t : List Observed) (s : Calls) (i : Nat) (nonce : Nonce) (slot : Nat) :
    Prop where
  opened : slot < s.transport.oneshots.opened
  receiver : (s.transport.oneshots.cell slot).receiver = true
  since : ∃ t₁ t₂ request, t = t₁ ++ .lookup i (.handed request) :: t₂ ∧
    request.nonce = nonce ∧ request.waiter = .lookup slot ∧ lookupLog i t₂ = [] ∧
    ∀ a, (s.transport.oneshots.cell slot).value = some a →
      ∃ firing message, .transport (.fired firing message) ∈ t₂ ∧ firing.waiter.slot = slot ∧
        firing.answer = a

theorem Waits.extend {t o : List Observed} {s s' : Calls} {i : Nat} {nonce : Nonce} {slot : Nat}
    (h : Waits t s i nonce slot)
    (hkept : SlotKept o slot s.transport.oneshots s'.transport.oneshots)
    (hlog : lookupLog i o = []) : Waits (t ++ o) s' i nonce slot where
  opened := Nat.lt_of_lt_of_le h.opened hkept.opened
  receiver := hkept.receiver.trans h.receiver
  since := by
    rcases h.since with ⟨t₁, t₂, request, rfl, hnonce, hwaiter, hsilent, hfired⟩
    refine ⟨t₁, t₂ ++ o, request, by simp, hnonce, hwaiter, by simp [hsilent, hlog], ?_⟩
    intro a hvalue
    rcases hkept.value with hsame | ⟨firing, message, hmem, hslot, hnew⟩
    · rcases hfired a (hsame ▸ hvalue) with ⟨firing, message, hmem, hslot, hanswer⟩
      exact ⟨firing, message, List.mem_append_left _ hmem, hslot, hanswer⟩
    · rw [hnew] at hvalue
      exact ⟨firing, message, List.mem_append_right _ hmem, hslot, Option.some.inj hvalue⟩

theorem not_awaiting_begin (handle : NymHandle) (hash : Bytes) {attempt deadline : Nat}
    {nonce : Nonce} {slot : Nat} :
    (LookupCall.begin handle hash).2.1.phase ≠ .awaiting attempt deadline nonce slot := by
  unfold LookupCall.begin
  by_cases h : handle.targets = 0 <;> simp [h, LookupCall.finish]

theorem not_awaiting_expire (call : LookupCall) (n now : Nat) {attempt deadline : Nat}
    {nonce : Nonce} {slot : Nat} :
    (call.expire n now).1.phase ≠ .awaiting attempt deadline nonce slot := by
  unfold LookupCall.expire
  by_cases h : n + 1 < call.targets <;> simp [h, LookupCall.finish]

/-- A lookup awaits a channel because it did before, undisturbed, or because its request
was just accepted. -/
theorem awaits_step {s s' : Calls} {e : Event} {o : List Observed} {i deadline slot : Nat}
    {nonce : Nonce} (h : s.step e = some (s', o)) (hawaits : Awaits s' i deadline nonce slot) :
    (Awaits s i deadline nonce slot ∧ lookupLog i o = [] ∧ ∀ e', e ≠ .lookup i e') ∨
      ∃ call attempt parcel request, s.lookups[i]? = some call ∧
        call.phase = .sending attempt deadline parcel ∧
        s.transport.accept parcel = some (s'.transport, request) ∧ parcel.nonce = nonce ∧
        request.waiter.slot = slot ∧
        o = [.transport (.accepted request), .lookup i (.handed request)] := by
  rcases hawaits with ⟨call', attempt', hcall', hphase'⟩
  cases stepped_of_step h with
  | tick | setTargets => exact .inl ⟨⟨call', attempt', hcall', hphase'⟩, rfl, by simp⟩
  | turn | takeFrame | inbound | loseDriver =>
    exact .inl ⟨⟨call', attempt', hcall', hphase'⟩, lookupLog_map i _, by simp⟩
  | startSubmit | submit =>
    exact .inl ⟨⟨call', attempt', hcall', hphase'⟩, lookupLog_ofSubmit _ _ _, by simp⟩
  | startLookup hash =>
    have hne : i ≠ s.lookups.length := by
      rintro rfl
      rw [List.getElem?_concat_length] at hcall'
      cases hcall'
      exact not_awaiting_begin _ _ hphase'
    have hlt : i < s.lookups.length := by
      have := (List.getElem?_eq_some_iff.mp hcall').1
      simp only [List.length_append, List.length_singleton] at this
      omega
    rw [List.getElem?_append_left hlt] at hcall'
    refine .inl ⟨⟨call', attempt', hcall', hphase'⟩, ?_, by simp⟩
    rw [lookupLog_ofLookup, if_neg (Ne.symm hne)]
  | @lookup j e call transport next o' hcall hlookup =>
    by_cases hji : j = i
    · subst hji
      have hlt : j < s.lookups.length := (List.getElem?_eq_some_iff.mp hcall).1
      obtain rfl : next = call' := by simpa [hlt] using hcall'
      cases hlookup with
      | @dispatch _ _ parcel _ request hphase haccept =>
        cases hphase'
        exact .inr ⟨call, _, parcel, request, hcall, hphase, haccept, rfl, rfl, rfl⟩
      | full | silent => exact absurd hphase' (not_awaiting_expire _ _ _)
      | build | refuse | closed | reply | gone | cancel | cancelAwaiting => cases hphase'
    · refine .inl ⟨⟨call', attempt', by simpa [hji] using hcall', hphase'⟩, ?_, by simp [hji]⟩
      rw [lookupLog_ofLookup, if_neg hji]

/-- A step leaves a channel alone that no lookup awaits but, maybe, one not stepping. -/
theorem slotKept_step {s s' : Calls} {e : Event} {o : List Observed} {slot : Nat}
    (h : s.step e = some (s', o)) (hslot : slot < s.transport.oneshots.opened)
    (hother : ∀ j e', e = .lookup j e' → ∀ deadline nonce, ¬ Awaits s j deadline nonce slot) :
    SlotKept o slot s.transport.oneshots s'.transport.oneshots := by
  cases stepped_of_step h with
  | tick | setTargets | startSubmit | startLookup => exact .refl _ _ _
  | turn htransport | takeFrame htransport | inbound htransport | loseDriver htransport =>
    exact slotKept_transport htransport (by simp) (by simp)
  | submit hcall hsubmit => exact slotKept_submit hsubmit hslot
  | @lookup j e call transport call' o' hcall hlookup =>
    apply slotKept_lookup hlookup hslot
    intro attempt deadline nonce hphase
    exact hother j e rfl deadline nonce ⟨call, attempt, hcall, hphase⟩

/-- Every waiting lookup waits on a channel of its own. -/
structure Waiting (t : List Observed) (s : Calls) : Prop where
  waits : ∀ i deadline nonce slot, Awaits s i deadline nonce slot → Waits t s i nonce slot
  apart : ∀ i j deadline deadline' nonce nonce' slot, Awaits s i deadline nonce slot →
    Awaits s j deadline' nonce' slot → i = j

theorem waits_accept {t : List Observed} {s' : Calls} {s : Transport} {parcel : Parcel}
    {request : Request} {i attempt deadline : Nat} {call : LookupCall}
    (htells : LookupTells call (lookupLog i t))
    (hphase : call.phase = .sending attempt deadline parcel)
    (haccept : s.accept parcel = some (s'.transport, request)) :
    Waits (t ++ [.transport (.accepted request), .lookup i (.handed request)]) s' i
      parcel.nonce request.waiter.slot := by
  unfold LookupTells at htells
  rw [hphase] at htells
  rcases htells with ⟨tries, -, -, -, -, hkind, -⟩
  rcases of_accept haccept with ⟨hrequest, -, honeshots, -⟩
  have hslot : request.waiter.slot = s.oneshots.opened := by rw [hrequest, slot_request]
  have hfresh : s'.transport.oneshots.cell request.waiter.slot = .fresh := by
    rw [hslot, honeshots]
    exact Function.update_self _ _ _
  constructor
  · rw [honeshots, hslot]
    exact Nat.lt_succ_self _
  · rw [hfresh]
    rfl
  · refine ⟨t ++ [.transport (.accepted request)], [], request, by simp, ?_, ?_, rfl, ?_⟩
    · rw [hrequest]
      rfl
    · rw [hrequest]
      simp [Parcel.request, hkind, RequestKind.waiter, Waiter.slot]
    · rw [hfresh]
      rintro a ⟨⟩

theorem waiting_of_runs {timeout dispatchTimeout : Nat} {s : Calls} {t : List Observed}
    (h : Runs step (initial timeout dispatchTimeout) t s) : Waiting t s := by
  refine h.invariant (P := Waiting) ⟨?_, ?_⟩ ?_
  · rintro i deadline nonce slot ⟨call, attempt, hcall, -⟩
    simp [initial] at hcall
  · rintro i j deadline deadline' nonce nonce' slot ⟨call, attempt, hcall, -⟩
    simp [initial] at hcall
  intro t s e o s' hrun ih hstep
  constructor
  · intro i deadline nonce slot hawaits
    rcases awaits_step hstep hawaits with ⟨hbefore, hlog, hidle⟩ |
      ⟨call, attempt, parcel, request, hcall, hphase, haccept, rfl, rfl, rfl⟩
    · have hwaits := ih.waits i deadline nonce slot hbefore
      refine hwaits.extend (slotKept_step hstep hwaits.opened ?_) hlog
      rintro j e' rfl deadline' nonce' hother
      exact hidle e' (by rw [ih.apart i j _ _ _ _ slot hbefore hother])
    · exact waits_accept ((lookupTells_of_runs rfl hrun i).2 call hcall) hphase haccept
  · intro i j deadline deadline' nonce nonce' slot hi hj
    -- The channel of a request just accepted is awaited by no other lookup.
    have fresh {i deadline nonce} {parcel : Parcel} {request : Request} {s'' : Transport}
        (hbefore : Awaits s i deadline nonce slot)
        (haccept : s.transport.accept parcel = some (s'', request))
        (hslot : request.waiter.slot = slot) : False := by
      have hlt := (ih.waits i deadline nonce slot hbefore).opened
      rcases of_accept haccept with ⟨hrequest, -⟩
      rw [← hslot, hrequest, slot_request] at hlt
      exact Nat.lt_irrefl _ hlt
    rcases awaits_step hstep hi with ⟨hi, -, -⟩ | ⟨_, _, _, _, _, _, haccept, _, hslot, ho⟩
    · rcases awaits_step hstep hj with ⟨hj, -, -⟩ | ⟨_, _, _, _, _, _, haccept, _, hslot, -⟩
      · exact ih.apart i j _ _ _ _ slot hi hj
      · exact (fresh hi haccept hslot).elim
    · rcases awaits_step hstep hj with ⟨hj, -, -⟩ | ⟨_, _, _, _, _, _, -, _, -, ho'⟩
      · exact (fresh hj haccept hslot).elim
      · rw [ho] at ho'
        simp only [List.cons.injEq, Observed.lookup.injEq] at ho'
        exact ho'.2.1.1

/-! ## Where an answer comes from -/

/-- A reply was delivered to a request while the lookup waited for just that one. -/
def Delivered (t : List Observed) (i : Nat) (reply : LookupReply) : Prop :=
  ∃ t₁ t₂ t₃ request message,
    t = t₁ ++ .lookup i (.handed request) :: t₂ ++ .lookup i (.replied reply) :: t₃ ∧
    lookupLog i t₂ = [] ∧
    .transport (.fired ⟨request.nonce, request.waiter, .lookup reply⟩ message) ∈ t₂ ∧
    .transport (.arrived message) ∈ t ∧ message.length = frameBytes ∧
    decodeLookupReply message = .ok (request.nonce, reply)

theorem Delivered.append {t : List Observed} {i : Nat} {reply : LookupReply}
    (h : Delivered t i reply) (o : List Observed) : Delivered (t ++ o) i reply := by
  rcases h with ⟨t₁, t₂, t₃, request, message, rfl, hsilent, hfired, harrived, hcarried⟩
  exact ⟨t₁, t₂, t₃ ++ o, request, message, by simp, hsilent, hfired,
    List.mem_append_left _ harrived, hcarried⟩

/-- Requests accepted on one channel are one request. -/
theorem ticket_unique {s : Transport} {t : List Nym.Observed}
    (h : Runs Transport.step .initial t s) {request other : Request}
    (hrequest : .accepted request ∈ t) (hother : .accepted other ∈ t)
    (hslot : request.waiter.slot = other.waiter.slot) : request.ticket = other.ticket := by
  have hmem {r : Request} (hr : .accepted r ∈ t) :
      r.ticket ∈ total Nym.Observed.acceptedTickets t :=
    (mem_total _ _).mpr ⟨_, hr, by simp⟩
  exact Multiset.inj_on_of_nodup_map (slots_accepted_nodup h) _ (hmem hrequest) _ (hmem hother)
    hslot

/-- A request that a lookup handed over was accepted. -/
theorem accepted_of_lookup_handed {timeout dispatchTimeout : Nat} {s : Calls}
    {t : List Observed} (h : Runs step (initial timeout dispatchTimeout) t s) {i : Nat}
    {request : Request} (hhanded : .lookup i (.handed request) ∈ t) :
    .transport (.accepted request) ∈ t := by
  have here {j : Nat} {o : List LookupObserved}
      (hmem : .lookup i (.handed request) ∈ o.flatMap (ofLookup j)) :
      .transport (.accepted request) ∈ o.flatMap (ofLookup j) := by
    rcases List.mem_flatMap.mp hmem with ⟨x, hx, hmem⟩
    refine List.mem_flatMap.mpr ⟨x, hx, ?_⟩
    cases x <;> simp_all [ofLookup]
  refine h.invariant (P := fun t _ => .lookup i (.handed request) ∈ t →
    .transport (.accepted request) ∈ t) (by simp) ?_ hhanded
  intro t s e o s' _ ih hstep hmem
  rcases List.mem_append.mp hmem with hmem | hmem
  · exact List.mem_append_left _ (ih hmem)
  apply List.mem_append_right
  have hlog : .handed request ∈ lookupLog i o :=
    List.mem_filterMap.mpr ⟨_, hmem, by simp [Observed.lookup?]⟩
  cases stepped_of_step hstep with
  | tick | setTargets => cases hmem
  | turn | takeFrame | inbound | loseDriver => simp at hmem
  | startLookup | lookup => exact here hmem
  | startSubmit | submit =>
    rw [lookupLog_ofSubmit] at hlog
    cases hlog

/-- What a waiting lookup finds in its channel was delivered to it. -/
theorem delivered_of_waits {timeout dispatchTimeout : Nat} {s : Calls} {t : List Observed}
    (h : Runs step (initial timeout dispatchTimeout) t s) {i slot : Nat} {nonce : Nonce}
    (hwaits : Waits t s i nonce slot) {reply : LookupReply}
    (hvalue : (s.transport.oneshots.cell slot).value = some (.lookup reply))
    (o : List Observed) : Delivered (t ++ .lookup i (.replied reply) :: o) i reply := by
  have htransport := transport_runs h
  rcases hwaits.since with ⟨t₁, t₂, request, rfl, -, hwaiter, hsilent, hsince⟩
  rcases hsince _ hvalue with ⟨firing, message, hfired, hslot, hanswer⟩
  have hmem : .transport (.fired firing message) ∈ t₁ ++ .lookup i (.handed request) :: t₂ :=
    List.mem_append_right _ (List.mem_cons_of_mem _ hfired)
  have hfiredT := mem_transportTrace.mpr hmem
  rcases (heard_of_runs htransport).fired firing message hfiredT with ⟨harrived, hcarried⟩
  rcases accepted_of_fired htransport hfiredT with ⟨other, hother, hotherNonce, hotherWaiter⟩
  have haccepted : .accepted request ∈ transportTrace _ :=
    mem_transportTrace.mpr (accepted_of_lookup_handed h (i := i) (by simp))
  have hticket := ticket_unique htransport hother haccepted
    (by rw [hotherWaiter, hslot, hwaiter]; rfl)
  have hsame : firing = ⟨request.nonce, request.waiter, .lookup reply⟩ := by
    have hnonce : other.nonce = request.nonce := congrArg Sigma.fst hticket
    have hwait : other.waiter = request.waiter := by
      simpa [Request.ticket] using congrArg Sigma.snd hticket
    rw [← hanswer, ← hnonce, hotherNonce, ← hwait, hotherWaiter]
  subst hsame
  simp only [Firing.CarriedBy, hwaiter] at hcarried
  exact ⟨t₁, t₂, o, request, message, by simp, hsilent, hfired,
    List.mem_append_left _ (mem_transportTrace.mp harrived), hcarried⟩

/-! ## When the transport is gone -/

/-- A transport loop that has returned stays so. -/
theorem returned_stays {s s' : Calls} {t : List Observed} (h : Runs step s t s')
    (hreturned : s.transport.correlator = none) : s'.transport.correlator = none := by
  refine (transport_runs h).always (P := fun s => s.correlator = none) hreturned ?_
  intro s e o s' hnone hstep
  cases Transport.stepped_of_step hstep with
  | turn hturn =>
    rcases turn_cases hturn with ⟨c, hc, -⟩
    rw [hnone] at hc
    cases hc
  | accept haccept =>
    rcases of_accept haccept with ⟨-, -, -, hcorrelator, -⟩
    exact hcorrelator.trans hnone
  | abandon slot => exact hnone
  | inbound hinbound =>
    rcases of_inbound hinbound with ⟨fromMixnet, -, rfl⟩
    exact hnone
  | quiet hquiet => exact hquiet.correlator.trans hnone

/-- What one step of a run can show of a lookup. -/
theorem lookup_shows {s s' : Calls} {e : Event} {o : List Observed} {i : Nat}
    {x : LookupObserved} (h : s.step e = some (s', o)) (hmem : .lookup i x ∈ o) :
    (∃ hash, x ∈ (LookupCall.begin s.handle hash).2.2) ∨
      ∃ call transport call' log, s.lookups[i]? = some call ∧
        LookupCall.Stepped s.handle s.transport s.now call transport call' log ∧ x ∈ log ∧
        o = log.flatMap (ofLookup i) := by
  have here {j : Nat} {log : List LookupObserved}
      (hmem : .lookup i x ∈ log.flatMap (ofLookup j)) : j = i ∧ x ∈ log := by
    have hlog : x ∈ lookupLog i (log.flatMap (ofLookup j)) :=
      List.mem_filterMap.mpr ⟨_, hmem, by simp [Observed.lookup?]⟩
    rw [lookupLog_ofLookup] at hlog
    split_ifs at hlog with hji
    · exact ⟨hji, hlog⟩
    · cases hlog
  have none_of_submit {j : Nat} {log : List SubmitObserved}
      (hmem : .lookup i x ∈ log.flatMap (ofSubmit j)) : False := by
    have hlog : x ∈ lookupLog i (log.flatMap (ofSubmit j)) :=
      List.mem_filterMap.mpr ⟨_, hmem, by simp [Observed.lookup?]⟩
    rw [lookupLog_ofSubmit] at hlog
    cases hlog
  cases stepped_of_step h with
  | tick | setTargets => cases hmem
  | turn | takeFrame | inbound | loseDriver => simp at hmem
  | startLookup hash => exact .inl ⟨hash, (here hmem).2⟩
  | startSubmit | submit => exact (none_of_submit hmem).elim
  | lookup hcall hlookup =>
    rcases here hmem with ⟨rfl, hx⟩
    exact .inr ⟨_, _, _, _, hcall, hlookup, hx, rfl⟩

theorem not_begin_replied (handle : NymHandle) (hash : Bytes) (reply : LookupReply) :
    .replied reply ∉ (LookupCall.begin handle hash).2.2 := by
  unfold LookupCall.begin
  by_cases h : handle.targets = 0 <;> simp [h, LookupCall.finish]

theorem not_begin_gone (handle : NymHandle) (hash : Bytes) :
    .gone ∉ (LookupCall.begin handle hash).2.2 := by
  unfold LookupCall.begin
  by_cases h : handle.targets = 0 <;> simp [h, LookupCall.finish]

theorem expire_shows {call : LookupCall} {attempt now : Nat} {x : LookupObserved}
    (h : x ∈ (call.expire attempt now).2) :
    x = .timedOut attempt now ∨ x = .returned (.error .timeout) := by
  unfold LookupCall.expire at h
  by_cases hnext : attempt + 1 < call.targets
  · simp only [hnext, if_true, List.mem_singleton] at h
    exact .inl h
  · simpa [hnext, LookupCall.finish] using h

/-- Every reply a lookup shows was delivered to it. -/
theorem delivered_of_runs {timeout dispatchTimeout : Nat} {s : Calls} {t : List Observed}
    (h : Runs step (initial timeout dispatchTimeout) t s) {i : Nat} {reply : LookupReply}
    (hreplied : .lookup i (.replied reply) ∈ t) : Delivered t i reply := by
  refine h.invariant (P := fun t _ => .lookup i (.replied reply) ∈ t → Delivered t i reply)
    (by simp) ?_ hreplied
  intro t s e o s' hrun ih hstep hmem
  rcases List.mem_append.mp hmem with hmem | hmem
  · exact (ih hmem).append o
  rcases lookup_shows hstep hmem with ⟨hash, hbegin⟩ |
    ⟨call, transport, call', log, hcall, hstepped, hlog, rfl⟩
  · exact absurd hbegin (not_begin_replied _ _ _)
  cases hstepped with
  | @reply attempt deadline nonce slot reply' hphase hpoll =>
    obtain rfl : reply = reply' := by simpa using hlog
    have hwaits := (waiting_of_runs hrun).waits i deadline nonce slot
      ⟨call, attempt, hcall, hphase⟩
    have hvalue : (s.transport.oneshots.cell slot).value = some (.lookup reply) :=
      Oneshots.poll_eq_ready.mp hpoll
    exact delivered_of_waits hrun hwaits hvalue _
  | full | silent => simpa using expire_shows hlog
  | build | refuse | dispatch | closed | gone | cancel | cancelAwaiting => simp at hlog

/-- With distinct nonces a lookup finds the transport gone only if its loop returned. -/
theorem returned_of_lookup_gone {timeout dispatchTimeout : Nat} {s : Calls}
    {t : List Observed} (h : Runs step (initial timeout dispatchTimeout) t s)
    (hnonces : (nonces (transportTrace t)).Nodup) {i : Nat} (hgone : .lookup i .gone ∈ t) :
    s.transport.correlator = none := by
  refine h.invariant (P := fun t s => (nonces (transportTrace t)).Nodup →
    .lookup i .gone ∈ t → s.transport.correlator = none) (by simp) ?_ hnonces hgone
  intro t s e o s' hrun ih hstep hnodup hmem
  have hbefore : (nonces (transportTrace t)).Nodup := by
    rw [transportTrace_append, nonces_append] at hnodup
    exact Multiset.nodup_of_le (Multiset.le_add_right _ _) hnodup
  rcases List.mem_append.mp hmem with hmem | hmem
  · exact returned_stays (.single hstep) (ih hbefore hmem)
  rcases lookup_shows hstep hmem with ⟨hash, hbegin⟩ |
    ⟨call, transport, call', log, hcall, hstepped, hlog, rfl⟩
  · exact absurd hbegin (not_begin_gone _ _)
  have htransport := transport_runs hrun
  apply returned_stays (.single hstep)
  cases hstepped with
  | closed hphase hclosed =>
    by_contra hrunning
    rw [(gated_of_runs htransport).receiver.mpr hrunning] at hclosed
    cases hclosed
  | @gone attempt deadline nonce slot hphase hpoll =>
    have hwaits := (waiting_of_runs hrun).waits i deadline nonce slot
      ⟨call, attempt, hcall, hphase⟩
    exact returned_of_gone htransport hbefore hwaits.opened hwaits.receiver hpoll
  | full | silent => simpa using expire_shows hlog
  | build | refuse | dispatch | reply | cancel | cancelAwaiting => simp at hlog

/-- An attempt times out only at its deadline, while the transport runs and with no reply
in its channel. -/
theorem timedOut_only {timeout dispatchTimeout : Nat} {s s' : Calls} {t o : List Observed}
    (h : Runs step (initial timeout dispatchTimeout) t s) {e : Event}
    (hstep : s.step e = some (s', o)) {i attempt now : Nat}
    (hmem : .lookup i (.timedOut attempt now) ∈ o) :
    s.transport.correlator ≠ none ∧ ∀ deadline nonce slot, Awaits s i deadline nonce slot →
      deadline ≤ s.now ∧ (s.transport.oneshots.cell slot).value = none := by
  have htransport := transport_runs h
  rcases lookup_shows hstep hmem with ⟨hash, hbegin⟩ |
    ⟨call, transport, call', log, hcall, hstepped, hlog, rfl⟩
  · unfold LookupCall.begin at hbegin
    by_cases htargets : s.handle.targets = 0 <;> simp [htargets, LookupCall.finish] at hbegin
  have same {deadline nonce slot} (hawaits : Awaits s i deadline nonce slot) :
      ∃ attempt, call.phase = .awaiting attempt deadline nonce slot := by
    rcases hawaits with ⟨other, attempt, hother, hphase⟩
    rw [hcall] at hother
    cases hother
    exact ⟨attempt, hphase⟩
  cases hstepped with
  | full hphase hopen hdeadline =>
    refine ⟨(gated_of_runs htransport).receiver.mp hopen, fun deadline nonce slot hawaits => ?_⟩
    rcases same hawaits with ⟨attempt, hother⟩
    rw [hphase] at hother
    cases hother
  | @silent attempt₁ deadline₁ nonce₁ slot₁ hphase hpoll hdeadline =>
    have hcell : (s.transport.oneshots.cell slot₁).value = none ∧
        (s.transport.oneshots.cell slot₁).sender = true := Oneshots.poll_eq_pending.mp hpoll
    have hwaits := (waiting_of_runs h).waits i deadline₁ nonce₁ slot₁
      ⟨call, attempt₁, hcall, hphase⟩
    constructor
    · intro hreturned
      rw [sender_of_returned htransport hreturned hwaits.opened] at hcell
      cases hcell.2
    · intro deadline nonce slot hawaits
      rcases same hawaits with ⟨attempt, hother⟩
      rw [hphase] at hother
      cases hother
      exact ⟨hdeadline, hcell.1⟩
  | build | refuse | dispatch | closed | reply | gone | cancel | cancelAwaiting => simp at hlog

/-! ## The one deadline of an attempt -/

/-- No attempt under way has seen its deadline pass. -/
def OnTime (s : Calls) : Prop :=
  ∀ (i : Nat) (call : LookupCall) (deadline : Nat), s.lookups[i]? = some call →
    call.phase.deadline? = some deadline → s.now ≤ deadline

theorem deadline?_begin (handle : NymHandle) (hash : Bytes) :
    (LookupCall.begin handle hash).2.1.phase.deadline? = none := by
  unfold LookupCall.begin
  by_cases h : handle.targets = 0 <;> simp [h, LookupCall.finish, LookupPhase.deadline?]

theorem deadline?_expire (call : LookupCall) (attempt now : Nat) :
    (call.expire attempt now).1.phase.deadline? = none := by
  unfold LookupCall.expire
  by_cases h : attempt + 1 < call.targets <;>
    simp [h, LookupCall.finish, LookupPhase.deadline?]

/-- An attempt fixes its deadline when it is built. -/
theorem deadline?_of_stepped {handle : NymHandle} {s s' : Transport} {now deadline : Nat}
    {call call' : LookupCall} {o : List LookupObserved}
    (h : LookupCall.Stepped handle s now call s' call' o)
    (hdeadline : call'.phase.deadline? = some deadline) :
    call.phase.deadline? = some deadline ∨ deadline = now + handle.timeout := by
  cases h with
  | build hphase hencode =>
    cases hdeadline
    exact .inr rfl
  | dispatch hphase haccept =>
    rw [hphase]
    exact .inl hdeadline
  | full | silent => simp [deadline?_expire] at hdeadline
  | refuse | closed | reply | gone | cancel | cancelAwaiting => cases hdeadline

/-- Where every call is polled on time, no attempt outlives its deadline. -/
theorem onTime_of_runs {timeout dispatchTimeout : Nat} {s : Calls} {t : List Observed}
    (h : Runs (guarded step fun s e => s.punctual e = true) (initial timeout dispatchTimeout)
      t s) : OnTime s := by
  have hinitial : OnTime (initial timeout dispatchTimeout) := by
    intro i call deadline hcall
    simp [initial] at hcall
  refine h.always (P := OnTime) hinitial ?_
  intro s e o s' honTime hguarded
  unfold OnTime
  intro i call' deadline hcall' hdeadline
  rcases of_guarded hguarded with ⟨hpunctual, hstep⟩
  rcases now_of_step hstep with ⟨d, rfl, rfl⟩ | hnow
  · exact LookupCall.le_of_allows (lookup_allows hpunctual hcall') hdeadline
  rw [hnow]
  rcases lookups_step hstep i with ⟨hsame, -⟩ | ⟨-, hash, hbegin, -⟩ |
    ⟨call, transport, call'', hcall, hcall'', hstepped⟩
  · exact honTime i call' deadline (hsame ▸ hcall') hdeadline
  · obtain rfl := Option.some.inj (hcall'.symm.trans hbegin)
    rw [deadline?_begin] at hdeadline
    cases hdeadline
  · obtain rfl := Option.some.inj (hcall'.symm.trans hcall'')
    rcases deadline?_of_stepped hstepped hdeadline with hold | rfl
    · exact honTime i call deadline hcall hold
    · exact Nat.le_add_right _ _

/-- The lookup awaits the reply to the attempt it minted last, whose deadline is the one it
was minted with: it covers the acceptance and the reply together. -/
structure AwaitsMinted (timeout dispatchTimeout : Nat) (t : List Observed) (s : Calls)
    (i : Nat) (call : LookupCall) (tries : List Try) (deadline : Nat) (request : Request) :
    Prop where
  awaits : s.lookups[i]? = some call
  log : lookupLog i t = mintLog call tries request.nonce deadline ++ [.handed request]
  expired : Expired tries
  /-- It has not passed where every call is polled on time. -/
  inTime : Runs (guarded step fun s e => s.punctual e = true)
    (initial timeout dispatchTimeout) t s → s.now ≤ deadline

/-- A reply is shown by a lookup that awaits it, before the one deadline of its attempt. -/
theorem awaitsMinted_of_replied {timeout dispatchTimeout : Nat} {s s' : Calls}
    {t o : List Observed} (h : Runs step (initial timeout dispatchTimeout) t s) {e : Event}
    (hstep : s.step e = some (s', o)) {i : Nat} {reply : LookupReply}
    (hmem : .lookup i (.replied reply) ∈ o) :
    ∃ call tries deadline request,
      AwaitsMinted timeout dispatchTimeout t s i call tries deadline request := by
  rcases lookup_shows hstep hmem with ⟨hash, hbegin⟩ |
    ⟨call, transport, call', log, hcall, hstepped, hlog, rfl⟩
  · exact absurd hbegin (not_begin_replied _ _ _)
  have htells := (lookupTells_of_runs rfl h i).2 call hcall
  cases hstepped with
  | @reply attempt deadline nonce slot reply' hphase hpoll =>
    unfold LookupTells at htells
    rw [hphase] at htells
    rcases htells with ⟨tries, request, -, -, hexpired, -, rfl, -, hminted⟩
    refine ⟨call, tries, deadline, request, hcall, hminted, hexpired, fun hpunctual => ?_⟩
    exact onTime_of_runs hpunctual i call deadline hcall
      (by simp [LookupPhase.deadline?, hphase])
  | full | silent => simpa using expire_shows hlog
  | build | refuse | dispatch | closed | gone | cancel | cancelAwaiting => simp at hlog

/-- The deadline that an attempt is minted with is a timeout ahead. -/
theorem deadline_of_minted {timeout dispatchTimeout : Nat} {s s' : Calls} {t o : List Observed}
    (h : Runs step (initial timeout dispatchTimeout) t s) {e : Event}
    (hstep : s.step e = some (s', o)) {i attempt target deadline : Nat} {nonce : Nonce}
    (hmem : .lookup i (.minted attempt nonce target deadline) ∈ o) :
    deadline = s.now + timeout := by
  have htimeout : s.handle.timeout = timeout :=
    h.always (P := fun s => s.handle.timeout = timeout) rfl fun hsame hstep =>
      (timeouts_of_step hstep).1.trans hsame
  rcases lookup_shows hstep hmem with ⟨hash, hbegin⟩ |
    ⟨call, transport, call', log, hcall, hstepped, hlog, rfl⟩
  · unfold LookupCall.begin at hbegin
    by_cases htargets : s.handle.targets = 0 <;> simp [htargets, LookupCall.finish] at hbegin
  cases hstepped with
  | build hphase hencode =>
    obtain ⟨-, -, -, rfl⟩ : attempt = _ ∧ nonce = _ ∧ target = _ ∧ deadline = _ := by
      simpa using hlog
    rw [htimeout]
  | full | silent => simpa using expire_shows hlog
  | refuse | dispatch | closed | reply | gone | cancel | cancelAwaiting => simp at hlog

/-! ## The verdict -/

theorem mem_lookupLog {t : List Observed} {i : Nat} {x : LookupObserved} :
    x ∈ lookupLog i t ↔ .lookup i x ∈ t := by
  unfold lookupLog
  rw [List.mem_filterMap]
  constructor
  · rintro ⟨o, hmem, ho⟩
    cases o with
    | lookup j y =>
      simp only [Observed.lookup?] at ho
      split_ifs at ho with hji
      · cases ho
        exact hji ▸ hmem
    | transport | submit => cases ho
  · intro hmem
    exact ⟨_, hmem, by simp [Observed.lookup?]⟩

/-- The attempts that timed out show neither a reply nor the transport gone. -/
theorem triesLog_shows {start : UInt64} {targets : Nat} {tries : List Try} {attempt : Nat}
    {x : LookupObserved} (h : x ∈ triesLog start targets tries attempt) :
    x ≠ .gone ∧ ∀ result, x ≠ .returned result := by
  induction tries generalizing attempt with
  | nil => cases h
  | cons y tries ih =>
    simp only [triesLog, Try.log, List.cons_append, List.append_assoc, List.mem_cons,
      List.mem_append, List.mem_map] at h
    rcases h with rfl | ⟨request, -, rfl⟩ | rfl | hnil | hrest
    · simp
    · simp
    · simp
    · cases hnil
    · exact ih hrest

theorem gone_not_mem_sweepLog (call : LookupCall) (tries : List Try) :
    .gone ∉ sweepLog call tries := by
  intro hmem
  rcases List.mem_cons.mp hmem with hbegan | htries
  · cases hbegan
  · exact (triesLog_shows htries).1 rfl

/-- What a lookup that returned guarantees of the trace and the state. -/
structure LookupAnswered (t : List Observed) (s : Calls) (i : Nat) (call : LookupCall)
    (result : Except NymError LookupReply) : Prop where
  /-- The log is a sweep that only timeouts carry on. -/
  outcome : LookupOutcome call (lookupLog i t) result
  /-- A reply was delivered to the attempt that was waiting. -/
  delivered : ∀ reply, result = .ok reply → Delivered t i reply
  /-- A timeout is one of every attempt. -/
  timeout : result = .error .timeout → 0 < call.targets ∧
    ∃ tries, tries.length = call.targets ∧ Expired tries ∧
      lookupLog i t = sweepLog call tries ++ [.returned (.error .timeout)]
  /-- The transport is reported gone when there is no address, or it is. -/
  gone_iff : result = .error .transportGone ↔
    call.targets = 0 ∨ .lookup i .gone ∈ t
  goneReturned : .lookup i .gone ∈ t → s.transport.correlator = none

/-- What the steps of a lookup guarantee. -/
structure LookupSteps (timeout dispatchTimeout : Nat) (t : List Observed) (s : Calls) :
    Prop where
  /-- One deadline is minted for an attempt. -/
  minted : ∀ e s' o i attempt nonce target deadline, s.step e = some (s', o) →
    .lookup i (.minted attempt nonce target deadline) ∈ o → deadline = s.now + timeout
  /-- A reply answers the attempt that was minted last, within its deadline. -/
  replied : ∀ e s' o i reply, s.step e = some (s', o) → .lookup i (.replied reply) ∈ o →
    ∃ call tries deadline request,
      AwaitsMinted timeout dispatchTimeout t s i call tries deadline request
  /-- An attempt is given up at its deadline or later, with no reply in its channel. -/
  timedOut : ∀ e s' o i attempt now, s.step e = some (s', o) →
    .lookup i (.timedOut attempt now) ∈ o →
    s.transport.correlator ≠ none ∧ ∀ deadline nonce slot, Awaits s i deadline nonce slot →
      deadline ≤ s.now ∧ (s.transport.oneshots.cell slot).value = none

/-- Given distinct nonces, a lookup is answered only by the attempt it waits on, within the
one deadline of that attempt, and only a timeout moves it to the next address: for any
number of addresses and of concurrent calls, and any timing, order and duplication of
replies. -/
theorem lookup_answered {timeout dispatchTimeout : Nat} {s : Calls} {t : List Observed}
    (h : Runs step (initial timeout dispatchTimeout) t s)
    (hnonces : (nonces (transportTrace t)).Nodup) :
    (∀ i call result, s.lookups[i]? = some call → call.phase = .returned result →
      LookupAnswered t s i call result) ∧ LookupSteps timeout dispatchTimeout t s := by
  refine ⟨?_, fun _ _ _ _ _ _ _ _ hstep hmem => deadline_of_minted h hstep hmem,
    fun _ _ _ _ _ hstep hmem => awaitsMinted_of_replied h hstep hmem,
    fun _ _ _ _ _ _ hstep hmem => timedOut_only h hstep hmem⟩
  intro i call result hcall hreturned
  have htells := (lookupTells_of_runs rfl h i).2 call hcall
  have houtcome : LookupOutcome call (lookupLog i t) result := by
    simpa [LookupTells, hreturned] using htells
  constructor
  · exact houtcome
  · rintro reply rfl
    cases houtcome with
    | replied hlt hexpired hnonce hlog =>
      exact delivered_of_runs h (mem_lookupLog.mp (by simp [hlog]))
  · rintro rfl
    cases houtcome with
    | silent hpos hlength hexpired hlog => exact ⟨hpos, _, hlength, hexpired, hlog⟩
  · rw [← mem_lookupLog]
    cases houtcome with
    | noTarget htargets hlog => simp [htargets]
    | refused hpos hover hlog => simp [hlog, Nat.ne_of_gt hpos]
    | replied hlt hexpired hnonce hlog =>
      simp [hlog, mintLog, gone_not_mem_sweepLog, Nat.ne_of_gt (Nat.zero_lt_of_lt hlt)]
    | gone handed hlt hexpired hlog => simp [hlog]
    | silent hpos hlength hexpired hlog =>
      simp [hlog, gone_not_mem_sweepLog, Nat.ne_of_gt hpos]
  · exact returned_of_lookup_gone h hnonces

/-- A lookup times out at the first of two addresses, and is answered by the second before
the deadline there. -/
theorem lookup_answered_found :
    ∃ t₁ t₂ s₁ s₂ call tries request,
      Runs (guarded step fun s e => s.punctual e = true) (initial 90000 5000) t₁ s₁ ∧
      AwaitsMinted 90000 5000 t₁ s₁ 0 call tries 180000 request ∧ tries.length = 1 ∧
      s₁.now = 90020 ∧ Runs step s₁ t₂ s₂ ∧
      s₂.lookups[0]? = some { call with phase := .returned (.ok (.found 7 [1])) } ∧
      LookupAnswered (t₁ ++ t₂) s₂ 0 { call with phase := .returned (.ok (.found 7 [1])) }
        (.ok (.found 7 [1])) := by
  have hfits : (LookupReply.found 7 [1]).txBytes.length ≤ maxLookupReplyTxBytes := by
    rw [maxLookupReplyTxBytes_eq]
    decide
  obtain ⟨message, -, hdecode⟩ := lookupReply_fixedFrame.exists_frame
    (x := ((.replicate 16 1 : Nonce), .found 7 [1])) hfits
  have harrived := Runs.of_execute (show execute (guarded step fun s e => s.punctual e = true)
    (initial 90000 5000) [.setTargets 2, .startLookup [], .lookup 0 (.build (.replicate 16 0)),
      .lookup 0 .dispatch, .turn .reserve, .turn .receive, .takeFrame, .tick 90000,
      .lookup 0 .elapsed, .lookup 0 (.build (.replicate 16 1)), .lookup 0 .dispatch,
      .turn .reserve, .turn .receive, .takeFrame, .tick 20, .inbound message] =
    some (_, _) from rfl)
  have hfired := runs_fired harrived rfl rfl (Firing.carriedBy_of_reply hdecode 1) rfl
  have hreturned := hfired.of_guarded.snoc
    (show step _ (.lookup 0 .poll) = some (_, _) from rfl)
  have hanswered := lookup_answered hreturned
    (show Multiset.Nodup {List.Vector.replicate 16 0, List.Vector.replicate 16 1} by decide)
  refine ⟨_, _, _, _, ⟨[], 2, 0, .timeout, .awaiting 1 180000 (.replicate 16 1) 1⟩,
    [⟨.replicate 16 0, 90000, some ⟨.replicate 16 0, _, lookupReplySurbs, .lookup 0, 0⟩, 90000⟩],
    ⟨.replicate 16 1, _, lookupReplySurbs, .lookup 1, 1⟩, hfired, ⟨rfl, rfl, ?_, ?_⟩, rfl, rfl,
    .single (e := .lookup 0 .poll) rfl, rfl, hanswered.1 0 _ _ rfl rfl⟩
  · simp [Expired]
  · exact fun _ => show (90020 : Nat) ≤ 180000 by decide

end Calls

end Nym
end ZeroShim
