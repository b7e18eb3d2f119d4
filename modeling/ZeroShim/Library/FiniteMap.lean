import Mathlib.Data.Finmap

/-!
# Finite maps as the multisets of their entries

What the operations of a hash map do to the multiset of its entries.

Main results:

- Theorem {lit}`insert_erase_of_lookup`: taking an entry out and putting it back
  leaves the map as it was.
- Theorem {lit}`entries_retain_add`: a map is what is retained of it together with
  what is not.
-/

namespace ZeroShim
namespace Library

universe u v

/-- A map from keys to values of one type. -/
abbrev FiniteMap (κ : Type u) (β : Type v) := Finmap fun _ : κ => β

namespace FiniteMap

variable {κ : Type u} {β : Type v}

section Entries

variable [DecidableEq κ] {m : FiniteMap κ β} {a : κ} {b : β}

/-- Taking an entry out and putting it back changes nothing. -/
theorem insert_erase_of_lookup (h : m.lookup a = some b) : (m.erase a).insert a b = m := by
  apply Finmap.ext_lookup
  intro x
  by_cases hx : x = a
  · subst hx
    rw [Finmap.lookup_insert, h]
  · rw [Finmap.lookup_insert_of_ne _ hx, Finmap.lookup_erase_ne hx]

theorem erase_of_lookup_eq_none (h : m.lookup a = none) : m.erase a = m := by
  apply Finmap.ext_lookup
  intro x
  by_cases hx : x = a
  · subst hx
    rw [Finmap.lookup_erase, h]
  · rw [Finmap.lookup_erase_ne hx]

/-- The entry at a key that is there, and the others. -/
theorem entries_of_lookup (h : m.lookup a = some b) :
    m.entries = ⟨a, b⟩ ::ₘ (m.erase a).entries := by
  have hnew : a ∉ m.erase a := Finmap.notMem_erase_self
  rw [← Finmap.entries_insert_of_notMem hnew, insert_erase_of_lookup h]

/-- Inserting replaces the entry at the key. -/
theorem entries_insert (m : FiniteMap κ β) (a : κ) (b : β) :
    (m.insert a b).entries = ⟨a, b⟩ ::ₘ (m.erase a).entries := by
  have hlookup : (m.insert a b).lookup a = some b := Finmap.lookup_insert m
  have herase : (m.insert a b).erase a = m.erase a := by
    apply Finmap.ext_lookup
    intro x
    by_cases hx : x = a
    · subst hx
      rw [Finmap.lookup_erase, Finmap.lookup_erase]
    · rw [Finmap.lookup_erase_ne hx, Finmap.lookup_erase_ne hx, Finmap.lookup_insert_of_ne _ hx]
  rw [entries_of_lookup hlookup, herase]

end Entries

/-- {lit}`HashMap::retain`, by value. -/
def retain (keep : β → Bool) (m : FiniteMap κ β) : FiniteMap κ β where
  entries := m.entries.filter fun e => keep e.2
  nodupKeys := by
    rcases m with ⟨entries, hnodup⟩
    induction entries using Quotient.inductionOn with
    | h l =>
      exact List.NodupKeys.sublist List.filter_sublist hnodup

/-- What {lit}`retain` removes. -/
def removed (keep : β → Bool) (m : FiniteMap κ β) : Multiset ((_ : κ) × β) :=
  m.entries.filter fun e => ¬ keep e.2

/-- {lit}`HashMap::len`. -/
def size (m : FiniteMap κ β) : Nat := Multiset.card m.entries

variable {keep : β → Bool} {m : FiniteMap κ β}

theorem entries_retain_add (keep : β → Bool) (m : FiniteMap κ β) :
    (m.retain keep).entries + m.removed keep = m.entries :=
  Multiset.filter_add_not _ _

theorem mem_removed {e : (_ : κ) × β} :
    e ∈ m.removed keep ↔ e ∈ m.entries ∧ keep e.2 = false := by
  unfold removed
  simp

@[simp] theorem entries_empty : (∅ : FiniteMap κ β).entries = 0 := rfl

@[simp] theorem removed_empty : (∅ : FiniteMap κ β).removed keep = 0 := rfl

@[simp] theorem retain_empty : (∅ : FiniteMap κ β).retain keep = ∅ := rfl

theorem size_eq_zero : m.size = 0 ↔ m = ∅ := by
  unfold size
  rw [Multiset.card_eq_zero]
  exact ⟨fun h => Finmap.ext h, fun h => h ▸ rfl⟩

end FiniteMap

end Library
end ZeroShim
