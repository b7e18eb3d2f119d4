import ZeroShim.Config
import ZeroShim.Library.Cycle
import ZeroShim.Nym.Dispatch

/-!
# The entry gateways over many builds

A build takes the next entry of {lit}`--nym-gateway`, whatever it is.  A blank entry is
taken like any other, where {lit}`--hub-nym` drops it.

Main results:

- Theorem {lit}`requested_of_runs`: what the builds of a driver ask for are the first
  entries its selector gives.
- Theorem {lit}`requested_follows`: a driver whose list has no blank entry follows it.
- Theorem {lit}`gateways_follow_iff`: when the entries given are the configured ones, over
  and over.
-/

namespace ZeroShim
namespace Nym

open Library

namespace GatewaySelector

/-- The gateways of so many builds in a row. -/
def takes (selector : GatewaySelector) : Nat → List (Option String)
  | 0 => []
  | builds + 1 => selector.take.1 :: takes selector.take.2 builds

@[simp] theorem length_takes (selector : GatewaySelector) (builds : Nat) :
    (selector.takes builds).length = builds := by
  induction builds generalizing selector with
  | zero => rfl
  | succ builds ih => rw [takes, List.length_cons, ih]

/-- The selector after so many builds. -/
def after (selector : GatewaySelector) (builds : Nat) : GatewaySelector :=
  (fun s => s.take.2)^[builds] selector

theorem takes_add (selector : GatewaySelector) (builds more : Nat) :
    selector.takes (builds + more) =
      selector.takes builds ++ (selector.after builds).takes more := by
  induction builds generalizing selector with
  | zero => rw [Nat.zero_add]; rfl
  | succ builds ih =>
    rw [Nat.succ_add, takes, ih, takes, List.cons_append]
    rfl

theorem after_add (selector : GatewaySelector) (builds more : Nat) :
    selector.after (builds + more) = (selector.after builds).after more := by
  unfold after
  rw [Nat.add_comm, Function.iterate_add_apply]

theorem takes_nil (next : UInt64) (builds : Nat) :
    (⟨[], next⟩ : GatewaySelector).takes builds = List.replicate builds none := by
  induction builds with
  | zero => rfl
  | succ builds ih =>
    rw [List.replicate_succ, ← ih]
    rfl

theorem take_of_ne_nil {gateways : List String} (hne : gateways ≠ []) (next : UInt64) :
    (⟨gateways, next⟩ : GatewaySelector).take =
      (gateways[next.toNat % gateways.length]?, ⟨gateways, next + 1⟩) := by
  unfold take
  rw [if_neg hne]

/-- The entries are taken by a counter that wraps. -/
theorem getElem?_takes {gateways : List String} (hne : gateways ≠ []) (next : UInt64)
    {builds k : Nat} (hk : k < builds) :
    ((⟨gateways, next⟩ : GatewaySelector).takes builds)[k]? =
      (gateways.map some)[(next.toNat + k) % 2 ^ 64 % gateways.length]? := by
  have hpos := List.length_pos_iff.mpr hne
  induction builds generalizing next k with
  | zero => omega
  | succ builds ih =>
    rw [takes, take_of_ne_nil hne]
    cases k with
    | zero =>
      have hlt := Nat.mod_lt next.toNat hpos
      rw [List.getElem?_cons_zero, Nat.add_zero, Nat.mod_eq_of_lt next.toNat_lt,
        List.getElem?_map, List.getElem?_eq_getElem hlt]
      rfl
    | succ k =>
      rw [List.getElem?_cons_succ, ih (next + 1) (by omega), UInt64.toNat_add, Nat.mod_add_mod]
      congr 3
      simp
      omega

theorem getElem?_takes_new {gateways : List String} (hne : gateways ≠ []) {builds k : Nat}
    (hk : k < builds) :
    ((new gateways).takes builds)[k]? = (gateways.map some)[k % 2 ^ 64 % gateways.length]? := by
  rw [new, getElem?_takes hne 0 hk]
  simp

end GatewaySelector

/-! ## The builds of a driver -/

/-- The gateway a build was requested through. -/
def requested? : Driver.Observed → Option (Option String)
  | .requested gateway => some gateway
  | _ => none

/-- The gateways that builds were requested through, in order. -/
def requestedGateways (t : List Driver.Observed) : List (Option String) :=
  t.filterMap requested?

theorem requestedGateways_append (t t' : List Driver.Observed) :
    requestedGateways (t ++ t') = requestedGateways t ++ requestedGateways t' :=
  List.filterMap_append

theorem requestedGateways_eq_nil {t : List Driver.Observed}
    (h : ∀ x ∈ t, requested? x = none) : requestedGateways t = [] :=
  List.filterMap_eq_nil_iff.mpr h

theorem gateways_forward (d : Driver) (client : Client) (unixNow : Nat) (messages : List Bytes) :
    (d.forward client unixNow messages).gateways = d.gateways := by
  induction messages generalizing d with
  | nil => rfl
  | cons message rest ih =>
    cases message with
    | nil => exact ih _
    | cons b message => rfl

/-- The builds that a step requests take the next entries. -/
theorem requested_of_stepped {ports ports' : Driver.Ports} {d d' : Driver} {e : Driver.Event}
    {o : List Driver.Observed} (h : Driver.Stepped ports d e d' ports' o) :
    ∃ builds, requestedGateways o = d.gateways.takes builds ∧
      d'.gateways = d.gateways.after builds := by
  have hdrop : ∀ x ∈ d.drop, requested? x = none := Driver.forall_drop d fun _ => rfl
  have hleave : ∀ ports x, x ∈ (d.leave ports).2.2 → requested? x = none :=
    fun ports => Driver.forall_leave d ports (fun _ => rfl) fun _ => rfl
  cases h with
  | start | rebuildAgain | disconnected => exact ⟨1, rfl, rfl⟩
  | @tick client hphase hidle =>
    refine ⟨0, rfl, ?_⟩
    unfold Driver.tick
    split_ifs <;> rfl
  | rebuild | die =>
    refine ⟨0, requestedGateways_eq_nil ?_, rfl⟩
    simpa [Driver.rebuild, Driver.die, requested?] using hdrop
  | @sent client accepted inFlight =>
    have hquiet := Driver.forall_endSend d accepted (p := fun x => requested? x = none)
      (fun _ _ => rfl) (fun _ _ => rfl) (fun _ _ => rfl) inFlight
    cases inFlight <;> exact ⟨0, requestedGateways_eq_nil hquiet, rfl⟩
  | receive | passOn => exact ⟨0, rfl, gateways_forward _ _ _ _⟩
  | reportSilence hphase hreport | report hphase hreport =>
    rcases Driver.of_report hreport with ⟨rfl, ⟨events, -, -, rfl, rfl⟩ | ⟨-, rfl, rfl⟩⟩ <;>
      exact ⟨0, rfl, rfl⟩
  | leaveTold | disconnectedLast =>
    refine ⟨0, requestedGateways_eq_nil ?_, rfl⟩
    simpa [requested?] using hleave ports
  | leave => exact ⟨0, requestedGateways_eq_nil (hleave ports), rfl⟩
  | disconnect | stop | takeFrame | connect | fail => exact ⟨0, rfl, rfl⟩

/-- What the builds of a driver ask for are the first entries its selector gives. -/
theorem requested_of_runs {hubAddresses : List Recipient} {gateways : List String}
    {s : Dispatch} {t : List Dispatch.Observed}
    (h : Runs Dispatch.step (.initial hubAddresses gateways) t s) :
    ∃ builds, requestedGateways (Dispatch.driverTrace t) =
      (GatewaySelector.new gateways).takes builds := by
  suffices hall : ∃ builds, requestedGateways (Dispatch.driverTrace t) =
      (GatewaySelector.new gateways).takes builds ∧
      s.driver.gateways = (GatewaySelector.new gateways).after builds by
    rcases hall with ⟨builds, hrequested, -⟩
    exact ⟨builds, hrequested⟩
  refine h.invariant (P := fun t s => ∃ builds, requestedGateways (Dispatch.driverTrace t) =
    (GatewaySelector.new gateways).takes builds ∧
    s.driver.gateways = (GatewaySelector.new gateways).after builds) ⟨0, rfl, rfl⟩ ?_
  intro t s e o s' _ ih hstep
  rcases ih with ⟨builds, hrequested, hgateways⟩
  cases Dispatch.stepped_of_step hstep with
  | transport hcarried => exact ⟨builds, by simpa using hrequested, hgateways⟩
  | driver hdriver =>
    rcases requested_of_stepped hdriver with ⟨more, hmore, hafter⟩
    refine ⟨builds + more, ?_, ?_⟩
    · rw [GatewaySelector.takes_add, ← hgateways, ← hmore, ← hrequested, ← requestedGateways_append]
      simp
    · rw [GatewaySelector.after_add, ← hgateways]
      exact hafter
  | link link => exact ⟨builds, by simpa using hrequested, hgateways⟩

/-! ## The configured entries, over and over -/

/-- The entries that are not blank. -/
def named (gateways : List String) : List String := gateways.filter fun g => !isBlank g

/-- Blank entries let the SDK choose: without another every build is unpinned, else the
builds are pinned to the entries that are not blank, over and over. -/
structure Follows (gateways : List String) (pins : List (Option String)) : Prop where
  unpinned : named gateways = [] → ∀ pin ∈ pins, pin = none
  pinned : named gateways ≠ [] → ∀ pin ∈ pins, ∃ g ∈ named gateways, pin = some g
  covered : named gateways ≠ [] → Cycles ((named gateways).map some) pins

theorem named_eq_self {gateways : List String} (h : ∀ g ∈ gateways, isBlank g = false) :
    named gateways = gateways := by
  apply List.filter_eq_self.mpr
  intro g hg
  rw [h g hg]
  rfl

/-- The entries reached come first among those that are not blank. -/
theorem named_eq_append {gateways : List String} {builds : Nat}
    (h : ∀ g ∈ gateways.take builds, isBlank g = false) :
    named gateways = gateways.take builds ++ named (gateways.drop builds) := by
  conv_lhs => rw [← List.take_append_drop builds gateways]
  unfold named
  rw [List.filter_append, ← named, named_eq_self h]

/-- As far as the entries are reached, going round those that are not blank is going round
them all. -/
theorem getElem?_named {gateways : List String} {builds k : Nat}
    (h : ∀ g ∈ gateways.take builds, isBlank g = false) (hk : k < builds) :
    (named gateways)[k % (named gateways).length]? = gateways[k % gateways.length]? := by
  by_cases hshort : builds ≤ gateways.length
  · have hnamed := named_eq_append h
    have hlength : builds ≤ (named gateways).length := by
      rw [hnamed, List.length_append, List.length_take, Nat.min_eq_left hshort]
      exact Nat.le_add_right _ _
    rw [Nat.mod_eq_of_lt (by omega), Nat.mod_eq_of_lt (by omega), hnamed,
      List.getElem?_append_left (by simp; omega), List.getElem?_take_of_lt hk]
  · rw [List.take_of_length_le (by omega)] at h
    rw [named_eq_self h]

/-- Where the counter wraps the list goes on as if it had not. -/
theorem getElem?_wrapped {gateways : List String} {builds k : Nat}
    (hwrap : ∀ k, 2 ^ 64 + k < builds →
      gateways[k % gateways.length]? = gateways[(2 ^ 64 + k) % gateways.length]?)
    (hk : k < builds) :
    gateways[k % 2 ^ 64 % gateways.length]? = gateways[k % gateways.length]? := by
  induction k using Nat.strongRecOn with
  | ind k ih =>
    by_cases hlt : k < 2 ^ 64
    · rw [Nat.mod_eq_of_lt hlt]
    · have hagain := hwrap (k - 2 ^ 64) (by omega)
      rw [Nat.add_sub_cancel' (Nat.le_of_not_lt hlt)] at hagain
      rw [Nat.mod_eq_sub_mod (Nat.le_of_not_lt hlt), ih (k - 2 ^ 64) (by omega) (by omega),
        hagain]

/-- Without gateways the SDK chooses. -/
theorem follows_nil (builds : Nat) : Follows [] ((GatewaySelector.new []).takes builds) := by
  rw [GatewaySelector.new, GatewaySelector.takes_nil]
  constructor
  · exact fun _ _ hpin => List.eq_of_mem_replicate hpin
  · exact fun h => absurd rfl h
  · exact fun h => absurd rfl h

/-- None of the entries reached is blank, and the wrap of the counter is not noticed: the
builds follow the configured entries. -/
theorem follows_of_reached {gateways : List String} {builds : Nat} (hne : gateways ≠ [])
    (hreached : ∀ g ∈ gateways.take builds, isBlank g = false)
    (hwrap : ∀ k, 2 ^ 64 + k < builds →
      gateways[k % gateways.length]? = gateways[(2 ^ 64 + k) % gateways.length]?) :
    Follows gateways ((GatewaySelector.new gateways).takes builds) := by
  have hreads : ∀ k < builds, ((GatewaySelector.new gateways).takes builds)[k]? =
      ((named gateways)[k % (named gateways).length]?).map some := by
    intro k hk
    rw [GatewaySelector.getElem?_takes_new hne hk, List.getElem?_map,
      getElem?_wrapped hwrap hk, getElem?_named hreached hk]
  have hpinned : ∀ pin ∈ (GatewaySelector.new gateways).takes builds,
      ∃ g ∈ named gateways, pin = some g := by
    intro pin hpin
    rcases List.mem_iff_getElem?.mp hpin with ⟨k, hk⟩
    have hlt := (List.getElem?_eq_some_iff.mp hk).1
    rw [GatewaySelector.length_takes] at hlt
    rw [hreads k hlt, Option.map_eq_some_iff] at hk
    rcases hk with ⟨g, hg, rfl⟩
    exact ⟨g, List.mem_of_getElem? hg, rfl⟩
  constructor
  · intro hnil pin hpin
    rcases hpinned pin hpin with ⟨g, hg, -⟩
    rw [hnil] at hg
    contradiction
  · exact fun _ => hpinned
  · intro _
    apply cycles_of_reads
    intro k hk
    rw [GatewaySelector.length_takes] at hk
    rw [hreads k hk, List.length_map, List.getElem?_map]

/-- Builds that follow the configured entries reach no blank one. -/
theorem Follows.reached {gateways : List String} {builds : Nat} (hne : gateways ≠ [])
    (hlength : gateways.length < 2 ^ 64)
    (h : Follows gateways ((GatewaySelector.new gateways).takes builds)) :
    ∀ g ∈ gateways.take builds, isBlank g = false := by
  intro g hg
  rcases List.mem_iff_getElem?.mp hg with ⟨k, hk⟩
  have hlt := (List.getElem?_eq_some_iff.mp hk).1
  rw [List.length_take] at hlt
  rw [List.getElem?_take_of_lt (by omega)] at hk
  -- the build with its number takes the entry
  have htaken : some g ∈ (GatewaySelector.new gateways).takes builds := by
    apply List.mem_of_getElem? (i := k)
    rw [GatewaySelector.getElem?_takes_new hne (by omega), Nat.mod_eq_of_lt (by omega),
      Nat.mod_eq_of_lt (by omega), List.getElem?_map, hk]
    rfl
  by_cases hnamed : named gateways = []
  · have hnone := h.unpinned hnamed _ htaken
    contradiction
  · rcases h.pinned hnamed _ htaken with ⟨g', hg', heq⟩
    cases heq
    simpa using (List.mem_filter.mp hg').2

/-- Builds that follow the configured entries do not notice the wrap of the counter. -/
theorem Follows.wraps {gateways : List String} {builds : Nat} (hne : gateways ≠ [])
    (hlength : gateways.length < 2 ^ 64)
    (h : Follows gateways ((GatewaySelector.new gateways).takes builds)) {k : Nat}
    (hk : 2 ^ 64 + k < builds) :
    gateways[k % gateways.length]? = gateways[(2 ^ 64 + k) % gateways.length]? := by
  have hreached := h.reached hne hlength
  rw [List.take_of_length_le (by omega)] at hreached
  have hcycles := h.covered (by rw [named_eq_self hreached]; exact hne)
  rw [named_eq_self hreached] at hcycles
  have hstart : ((GatewaySelector.new gateways).takes builds).take (gateways.map some).length =
      (gateways.map some).take ((GatewaySelector.new gateways).takes builds).length := by
    rw [GatewaySelector.length_takes, List.take_of_length_le (i := builds) (by simp; omega)]
    apply List.ext_getElem?
    intro i
    by_cases hi : i < gateways.length
    · rw [List.getElem?_take_of_lt (by simpa using hi),
        GatewaySelector.getElem?_takes_new hne (by omega),
        Nat.mod_eq_of_lt (hi.trans hlength), Nat.mod_eq_of_lt hi]
    · rw [List.getElem?_eq_none (by simp; omega), List.getElem?_eq_none (by simp; omega)]
  have hreads : ∀ i < builds,
      gateways[i % 2 ^ 64 % gateways.length]? = gateways[i % gateways.length]? := by
    intro i hi
    have hat := hcycles.reads (by simpa using hne) hstart (k := i) (by simpa using hi)
    rw [GatewaySelector.getElem?_takes_new hne hi, List.length_map, List.getElem?_map,
      List.getElem?_map] at hat
    exact Option.map_injective (Option.some_injective _) hat
  rw [← hreads k (by omega), ← hreads (2 ^ 64 + k) hk, Nat.add_mod_left]

/-- When the builds follow the configured entries: none of the entries reached is blank,
and where the counter wraps the list goes on as if it had not. -/
theorem gateways_follow_iff (gateways : List String) (builds : Nat)
    (hlength : gateways.length < 2 ^ 64) :
    Follows gateways ((GatewaySelector.new gateways).takes builds) ↔
      gateways = [] ∨ (∀ g ∈ gateways.take builds, isBlank g = false) ∧
        ∀ k, 2 ^ 64 + k < builds →
          gateways[k % gateways.length]? = gateways[(2 ^ 64 + k) % gateways.length]? := by
  by_cases hne : gateways = []
  · constructor
    · exact fun _ => .inl hne
    · intro _
      subst hne
      exact follows_nil builds
  · constructor
    · intro h
      exact .inr ⟨h.reached hne hlength, fun k hk => h.wraps hne hlength hk⟩
    · intro h
      rcases h with hnil | ⟨hreached, hwrap⟩
      · contradiction
      · exact follows_of_reached hne hreached hwrap

/-- A driver whose list has no blank entry follows it, for any number of builds that the
counter can count. -/
theorem requested_follows {hubAddresses : List Recipient} {gateways : List String}
    {s : Dispatch} {t : List Dispatch.Observed}
    (h : Runs Dispatch.step (.initial hubAddresses gateways) t s)
    (hblank : ∀ g ∈ gateways, isBlank g = false)
    (hcount : (requestedGateways (Dispatch.driverTrace t)).length ≤ 2 ^ 64) :
    Follows gateways (requestedGateways (Dispatch.driverTrace t)) := by
  rcases requested_of_runs h with ⟨builds, hrequested⟩
  rw [hrequested, GatewaySelector.length_takes] at hcount
  rw [hrequested]
  by_cases hne : gateways = []
  · subst hne
    exact follows_nil builds
  · apply follows_of_reached hne
    · exact fun g hg => hblank g (List.mem_of_mem_take hg)
    · intro k hk
      omega

/-- Two gateways take turns. -/
theorem gateways_follow_two :
    Follows ["first", "second"] ((GatewaySelector.new ["first", "second"]).takes 5) := by
  apply (gateways_follow_iff ["first", "second"] 5 (by decide)).mpr
  exact .inr ⟨by decide, fun k hk => by omega⟩

/-- The one empty value that an empty variable gives is not dropped: the first build is
pinned to a gateway without a name. -/
theorem gateways_empty_variable :
    ¬ Follows [""] ((GatewaySelector.new [""]).takes 1) := by
  intro h
  have hpin : some "" = none := h.unpinned (by decide) (some "") (by decide)
  contradiction

end Nym
end ZeroShim
