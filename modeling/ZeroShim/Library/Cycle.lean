import Mathlib.Data.List.Perm.Subperm
import Mathlib.Data.List.Rotate
import Mathlib.Data.Multiset.AddSub
import Mathlib.Data.Nat.ModEq

/-!
# Going round a list

Main results:

- Theorems {lit}`Cycles.reads`, {lit}`cycles_of_reads`: a sequence that begins as a list
  does shows the list, turned, in every stretch of its length exactly when it reads the
  list over and over.
- Theorem {lit}`places_perm_iff`: when a counter that wraps points to every place once.
-/

namespace ZeroShim
namespace Library

universe u

variable {α : Type u}

/-- Every stretch as long as the list is the list, turned. -/
def Cycles (l t : List α) : Prop :=
  ∀ front window back, t = front ++ window ++ back → window.length = l.length → window ~r l

/-- Two stretches that overlap in all but their ends, and are permutations of each other,
have the same ends. -/
theorem eq_of_cons_perm_concat {a b : α} {middle : List α}
    (h : (a :: middle).Perm (middle ++ [b])) : a = b := by
  have hcons : (a :: middle).Perm (b :: middle) := h.trans (List.perm_append_singleton b middle)
  rw [← Multiset.coe_eq_coe, ← Multiset.cons_coe, ← Multiset.cons_coe,
    Multiset.cons_inj_left] at hcons
  exact hcons

/-- One turn later the same element comes. -/
theorem Cycles.period {l t : List α} (h : Cycles l t) (hl : l ≠ []) {k : Nat}
    (hk : k + l.length < t.length) : t[k]? = t[k + l.length]? := by
  have hpos := List.length_pos_iff.mpr hl
  -- the stretches that start at this position and at the next
  have hsplit : t = t.take k ++ (t.drop k).take l.length ++ (t.drop k).drop l.length := by
    rw [List.append_assoc, List.take_append_drop, List.take_append_drop]
  have hnext : t = t.take (k + 1) ++ (t.drop (k + 1)).take l.length ++
      (t.drop (k + 1)).drop l.length := by
    rw [List.append_assoc, List.take_append_drop, List.take_append_drop]
  have hperm := (h _ _ _ hsplit (by simp; omega)).perm.trans
    (h _ _ _ hnext (by simp; omega)).perm.symm
  have hfirst : (t.drop k).take l.length =
      t[k] :: (t.drop (k + 1)).take (l.length - 1) := by
    rw [List.drop_eq_getElem_cons (by omega), List.take_cons hpos]
  have hlast : (t.drop (k + 1)).take l.length =
      (t.drop (k + 1)).take (l.length - 1) ++ [t[k + l.length]] := by
    have hlt : l.length - 1 < (t.drop (k + 1)).length := by
      rw [List.length_drop]
      omega
    have htake := List.take_concat_get' (t.drop (k + 1)) (l.length - 1) hlt
    rw [Nat.sub_add_cancel hpos, List.getElem_drop] at htake
    rw [← htake]
    congr 3
    omega
  rw [hfirst, hlast] at hperm
  rw [List.getElem?_eq_getElem (by omega), List.getElem?_eq_getElem hk,
    eq_of_cons_perm_concat hperm]

/-- A sequence that begins as a list does and of which every stretch of the list's length
is the list, turned, reads the list over and over. -/
theorem Cycles.reads {l t : List α} (h : Cycles l t) (hl : l ≠ [])
    (hstart : t.take l.length = l.take t.length) {k : Nat} (hk : k < t.length) :
    t[k]? = l[k % l.length]? := by
  induction k using Nat.strongRecOn with
  | ind k ih =>
    have hpos := List.length_pos_iff.mpr hl
    by_cases hlt : k < l.length
    · rw [Nat.mod_eq_of_lt hlt, ← List.getElem?_take_of_lt hlt, hstart,
        List.getElem?_take_of_lt hk]
    · have hperiod := h.period hl (k := k - l.length) (by omega)
      rw [Nat.sub_add_cancel (by omega)] at hperiod
      rw [← hperiod, ih (k - l.length) (by omega) (by omega), ← Nat.mod_eq_sub_mod (by omega)]

/-- What reads a list over and over shows it, turned, in every stretch of its length. -/
theorem cycles_of_reads {l t : List α} (h : ∀ k < t.length, t[k]? = l[k % l.length]?) :
    Cycles l t := by
  intro front window back ht hlength
  refine List.IsRotated.symm ⟨front.length, ?_⟩
  apply List.ext_getElem?
  intro k
  by_cases hk : k < l.length
  · have hat := h (front.length + k) (by rw [ht]; simp; omega)
    rw [ht, List.append_assoc, List.getElem?_append_right (by omega), Nat.add_sub_cancel_left,
      List.getElem?_append_left (by omega)] at hat
    rw [List.getElem?_rotate hk, hat, Nat.add_comm]
  · rw [List.getElem?_eq_none (by simp; omega), List.getElem?_eq_none (by omega)]

/-! ## A counter that wraps -/

/-- The places, out of so many, that a counter which wraps at a modulus points to. -/
def places (modulus start n : Nat) : List Nat :=
  (List.range n).map fun k => (start + k) % modulus % n

@[simp] theorem length_places (modulus start n : Nat) : (places modulus start n).length = n := by
  simp [places]

theorem mem_places_lt {modulus start n place : Nat} (h : place ∈ places modulus start n) :
    place < n := by
  rcases List.mem_map.mp h with ⟨k, hk, rfl⟩
  exact Nat.mod_lt _ (Nat.zero_lt_of_lt (List.mem_range.mp hk))

theorem head?_places {modulus start n : Nat} (hn : 0 < n) (hstart : start < modulus) :
    (places modulus start n).head? = some (start % n) := by
  unfold places
  rw [List.head?_map, List.head?_range, if_neg (by omega), Option.map_some, Nat.add_zero,
    Nat.mod_eq_of_lt hstart]

/-- Places that do not repeat are all of them. -/
theorem places_perm_of_nodup {modulus start n : Nat} (h : (places modulus start n).Nodup) :
    (places modulus start n).Perm (List.range n) := by
  apply (List.subperm_of_subset h ?_).perm_of_length_le
  · simp
  · intro place hplace
    exact List.mem_range.mpr (mem_places_lt hplace)

/-- Without a wrap, or where the wrap is not noticed, the counter goes round the places. -/
theorem places_nodup {modulus start n : Nat}
    (h : ∀ k < n, (start + k) % modulus % n = (start + k) % n) :
    (places modulus start n).Nodup := by
  apply List.Nodup.map_on
  · intro k hk k' hk' heq
    rw [List.mem_range] at hk hk'
    rw [h k hk, h k' hk'] at heq
    have hmod : k ≡ k' [MOD n] := Nat.ModEq.add_left_cancel' start heq
    exact hmod.eq_of_lt_of_lt hk hk'
  · exact List.nodup_range

/-- Before a modulus that is no multiple of the number of places, the place falls short of
the remainder. -/
theorem mod_before {modulus n i : Nat} (hi : i ≤ modulus % n) :
    (modulus - i) % n = modulus % n - i := by
  have hn : modulus % n - i < n ∨ n = 0 := by
    by_cases hzero : n = 0
    · exact .inr hzero
    · exact .inl (Nat.lt_of_le_of_lt (Nat.sub_le _ _) (Nat.mod_lt _ (Nat.pos_of_ne_zero hzero)))
  rcases hn with hlt | rfl
  · have hsplit := Nat.div_add_mod modulus n
    have heq : modulus - i = modulus % n - i + n * (modulus / n) := by omega
    rw [heq, Nat.add_mul_mod_self_left, Nat.mod_eq_of_lt hlt]
  · simp

/-- Where a wrap is noticed, some place comes twice. -/
theorem not_nodup_places {modulus start n : Nat} (hn : n ≤ modulus) (hstart : start < modulus)
    (hwrap : modulus < start + n) (hdvd : ¬ n ∣ modulus) : ¬ (places modulus start n).Nodup := by
  intro hnodup
  have hpos : 0 < n := by omega
  have hrest : 0 < modulus % n := Nat.pos_of_ne_zero fun h => hdvd (Nat.dvd_of_mod_eq_zero h)
  have hrestLt := Nat.mod_lt modulus hpos
  have hinj : ∀ k < n, ∀ k' < n,
      (start + k) % modulus % n = (start + k') % modulus % n → k = k' := by
    intro k hk k' hk'
    exact List.inj_on_of_nodup_map hnodup (List.mem_range.mpr hk) (List.mem_range.mpr hk')
  -- the places before the wrap and after it
  have hbefore : ∀ i, 0 < i → i ≤ modulus - start → i ≤ modulus % n →
      (start + (modulus - start - i)) % modulus % n = modulus % n - i := by
    intro i hi hle hrem
    have heq : start + (modulus - start - i) = modulus - i := by omega
    rw [heq, Nat.mod_eq_of_lt (by omega : modulus - i < modulus), mod_before hrem]
  have hafter : ∀ k, modulus - start + k < n →
      (start + (modulus - start + k)) % modulus % n = k := by
    intro k hk
    have heq : start + (modulus - start + k) = modulus + k := by omega
    rw [heq, Nat.add_mod_left, Nat.mod_eq_of_lt (by omega : k < modulus),
      Nat.mod_eq_of_lt (by omega : k < n)]
  by_cases hshort : modulus % n + (modulus - start) ≤ n
  · -- the last place before the wrap comes again after it
    have hlast := hbefore 1 (by omega) (by omega) (by omega)
    have hagain := hafter (modulus % n - 1) (by omega)
    have hk := hinj _ (by omega) _ (by omega) (hlast.trans hagain.symm)
    omega
  · -- the last place of all came before the wrap
    have hvalue : modulus % n - (modulus % n + (modulus - start) + 1 - n) =
        n - 1 - (modulus - start) := by omega
    have hearlier := hbefore (modulus % n + (modulus - start) + 1 - n) (by omega) (by omega)
      (by omega)
    have hlast := hafter (n - 1 - (modulus - start)) (by omega)
    have hk := hinj _ (by omega) _ (by omega) ((hearlier.trans hvalue).trans hlast.symm)
    omega

/-- A counter that wraps points to every place once exactly when it does not wrap on the
way, or the modulus is a multiple of the number of places. -/
theorem places_perm_iff {modulus start n : Nat} (hn : n ≤ modulus) (hstart : start < modulus) :
    (places modulus start n).Perm (List.range n) ↔ start + n ≤ modulus ∨ n ∣ modulus := by
  constructor
  · intro hperm
    by_contra hnot
    rw [not_or] at hnot
    exact not_nodup_places hn hstart (by omega) hnot.2 (hperm.nodup_iff.mpr List.nodup_range)
  · intro h
    apply places_perm_of_nodup
    apply places_nodup
    intro k hk
    rcases h with hfits | hdvd
    · rw [Nat.mod_eq_of_lt (by omega : start + k < modulus)]
    · exact Nat.mod_mod_of_dvd _ hdvd

end Library
end ZeroShim
