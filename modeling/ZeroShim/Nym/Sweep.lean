import ZeroShim.Library.Cycle
import ZeroShim.Nym.Lookup

/-!
# A sweep that meets silence

A lookup whose attempts all time out goes from address to address by a cursor that wraps.
Every lookup moves the cursor, for the life of the process.

Main results:

- Theorem {lit}`tried_of_silent`: the addresses such a lookup tried.
- Theorem {lit}`silent_sweep`: when these are all the addresses, once each.
-/

namespace ZeroShim
namespace Nym

open Library Wire

/-- The targets of a sweep of so many attempts, where a word has so many bits:
{lit}`start.wrapping_add(attempt) % targets`. -/
def sweep (bits start targets : Nat) : List Nat := places (2 ^ bits) start targets

/-- Every address is tried once, beginning at the cursor. -/
structure TriesAll (start targets : Nat) (tried : List Nat) : Prop where
  once : tried.Perm (List.range targets)
  first : tried.head? = some (start % targets)
  bounded : ∀ target ∈ tried, target < targets

/-- A sweep tries every address once exactly when the cursor does not wrap on its way, or
a wrap is not noticed. -/
theorem sweep_triesAll_iff {bits start targets : Nat} (hpos : 0 < targets)
    (hfits : targets < 2 ^ bits) (hstart : start < 2 ^ bits) :
    TriesAll start targets (sweep bits start targets) ↔
      start + targets ≤ 2 ^ bits ∨ targets ∣ 2 ^ bits := by
  rw [← places_perm_iff (Nat.le_of_lt hfits) hstart]
  constructor
  · exact fun h => h.once
  · exact fun hperm => ⟨hperm, head?_places hpos hstart, fun _ => mem_places_lt⟩

/-! ## What a lookup tried -/

/-- The target of an attempt, where one is shown. -/
def tried? : LookupObserved → Option Nat
  | .minted _ _ target _ => some target
  | _ => none

/-- The targets a lookup tried, in order. -/
def tried (log : List LookupObserved) : List Nat := log.filterMap tried?

theorem targetOf_eq (start : UInt64) (attempt targets : Nat) :
    LookupCall.targetOf start attempt targets =
      (start.toNat + attempt) % 2 ^ 64 % targets := by
  unfold LookupCall.targetOf
  rw [UInt64.toNat_add, UInt64.toNat_ofNat', Nat.add_mod_mod]

theorem tried_log (start : UInt64) (targets : Nat) (x : Calls.Try) (attempt : Nat) :
    tried (x.log start targets attempt) = [LookupCall.targetOf start attempt targets] := by
  unfold tried Calls.Try.log
  cases x.request <;> rfl

/-- Each attempt tries its own target. -/
theorem tried_triesLog (start : UInt64) (targets : Nat) (tries : List Calls.Try)
    (attempt : Nat) :
    tried (Calls.triesLog start targets tries attempt) =
      (List.range' attempt tries.length).map fun k => LookupCall.targetOf start k targets := by
  induction tries generalizing attempt with
  | nil => rfl
  | cons x tries ih =>
    have hfirst := tried_log start targets x attempt
    unfold tried at hfirst ih ⊢
    rw [Calls.triesLog, List.filterMap_append, hfirst, ih, List.length_cons, List.range'_succ,
      List.map_cons, List.singleton_append]

theorem tried_sweepLog (call : LookupCall) (tries : List Calls.Try)
    (hlength : tries.length = call.targets) :
    tried (Calls.sweepLog call tries) = sweep 64 call.start.toNat call.targets := by
  have hbegan : tried (Calls.sweepLog call tries) =
      tried (Calls.triesLog call.start call.targets tries 0) := rfl
  rw [hbegan, tried_triesLog, hlength, ← List.range_eq_range']
  unfold sweep places
  congr 1
  funext k
  exact targetOf_eq call.start k call.targets

/-- A lookup that returns a timeout has tried the targets of its sweep, whatever the cursor
was before it. -/
theorem tried_of_silent {s₀ s : Calls} {t : List Calls.Observed} {i : Nat} {call : LookupCall}
    (hstart : s₀.lookups = []) (h : Runs Calls.step s₀ t s) (hcall : s.lookups[i]? = some call)
    (hphase : call.phase = .returned (.error .timeout)) :
    0 < call.targets ∧
      tried (Calls.lookupLog i t) = sweep 64 call.start.toNat call.targets := by
  have htells := (Calls.lookupTells_of_runs hstart h i).2 call hcall
  unfold Calls.LookupTells at htells
  rw [hphase] at htells
  dsimp only at htells
  generalize Calls.lookupLog i t = log at htells ⊢
  cases htells with
  | silent hpos hlength hexpired hlog =>
    refine ⟨hpos, ?_⟩
    rw [hlog, ← tried_sweepLog call _ hlength]
    unfold tried
    rw [List.filterMap_append]
    simp [tried?]

/-- A lookup all of whose attempts time out tries every address once exactly when the
cursor does not wrap on its way, or a wrap is not noticed. -/
theorem silent_iff (s₀ s : Calls) (t : List Calls.Observed) (i : Nat) (call : LookupCall)
    (hstart : s₀.lookups = []) (h : Runs Calls.step s₀ t s) (hcall : s.lookups[i]? = some call)
    (hphase : call.phase = .returned (.error .timeout)) (hfits : call.targets < 2 ^ 64) :
    TriesAll call.start.toNat call.targets (tried (Calls.lookupLog i t)) ↔
      call.start.toNat + call.targets ≤ 2 ^ 64 ∨ call.targets ∣ 2 ^ 64 := by
  rcases tried_of_silent hstart h hcall hphase with ⟨hpos, htried⟩
  rw [htried]
  exact sweep_triesAll_iff hpos hfits call.start.toNat_lt

/-- A lookup all of whose attempts time out tries every address once, beginning at the
cursor, exactly when the cursor does not wrap on its way or the number of addresses divides
that of the words; and so does a sweep for words of any size. -/
theorem silent_sweep (s₀ s : Calls) (t : List Calls.Observed) (hnone : s₀.lookups = [])
    (hruns : Runs Calls.step s₀ t s) :
    (∀ (i : Nat) (call : LookupCall), s.lookups[i]? = some call →
      call.phase = .returned (.error .timeout) → call.targets < 2 ^ 64 →
      (TriesAll call.start.toNat call.targets (tried (Calls.lookupLog i t)) ↔
        call.start.toNat + call.targets ≤ 2 ^ 64 ∨ call.targets ∣ 2 ^ 64)) ∧
    ∀ bits start targets, 0 < targets → targets < 2 ^ bits → start < 2 ^ bits →
      (TriesAll start targets (sweep bits start targets) ↔
        start + targets ≤ 2 ^ bits ∨ targets ∣ 2 ^ bits) :=
  ⟨fun i call => silent_iff s₀ s t i call hnone hruns, fun _ _ _ => sweep_triesAll_iff⟩

/-- Three addresses and a cursor. -/
def threeAddresses (cursor : UInt64) : Calls :=
  { Calls.initial 90000 5000 with handle := ⟨90000, 5000, 3, cursor⟩ }

/-- A lookup none of whose three requests the transport accepts. -/
def threeSilences : List Calls.Event :=
  [.startLookup [], .lookup 0 (.build (List.Vector.replicate 16 0)), .tick 90000,
    .lookup 0 .elapsed, .lookup 0 (.build (List.Vector.replicate 16 1)), .tick 90000,
    .lookup 0 .elapsed, .lookup 0 (.build (List.Vector.replicate 16 2)), .tick 90000,
    .lookup 0 .elapsed]

/-- From the second address on, all three are tried. -/
theorem silent_sweep_second :
    ∃ t s call, Runs Calls.step (threeAddresses 4) t s ∧ s.lookups[0]? = some call ∧
      TriesAll 4 3 (tried (Calls.lookupLog 0 t)) := by
  have hrun := Runs.of_execute (show execute Calls.step (threeAddresses 4) threeSilences =
    some (_, _) from rfl)
  refine ⟨_, _, _, hrun, rfl, ?_⟩
  exact ((silent_sweep (threeAddresses 4) _ _ rfl hrun).1 0 _ rfl rfl (by decide)).mpr
    (.inl (by decide))

/-- With the cursor at the last word, the first address is tried twice and the last one
never. -/
theorem silent_sweep_wraps :
    ∃ t s call, Runs Calls.step (threeAddresses 18446744073709551615) t s ∧
      s.lookups[0]? = some call ∧ call.phase = .returned (.error .timeout) ∧
      ¬ TriesAll 18446744073709551615 3 (tried (Calls.lookupLog 0 t)) := by
  have hrun := Runs.of_execute (show execute Calls.step (threeAddresses 18446744073709551615)
    threeSilences = some (_, _) from rfl)
  refine ⟨_, _, _, hrun, rfl, rfl, ?_⟩
  intro h
  have hwraps := (silent_iff (threeAddresses 18446744073709551615) _ _ 0 _ rfl hrun rfl rfl
    (by decide)).mp h
  exact absurd hwraps (by decide)

end Nym
end ZeroShim
