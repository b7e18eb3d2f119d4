import Mathlib.Data.List.DropRight
import Mathlib.Data.List.TakeWhile

/-!
# Trimming a list, and cutting it at a separator

Main results:

- Theorem {lit}`trim_pad`: what is put around a list to be trimmed is trimmed off.
- Theorem {lit}`trim_trim`: a trimmed list has nothing left to trim.
- Theorem {lit}`splitOnce_eq_some_iff`: the cut at the first separator.
-/

namespace ZeroShim
namespace Library

universe u

variable {α : Type u}

/-! ## Trimming -/

/-- A list without the elements of a kind at its two ends. -/
def trim (p : α → Bool) (l : List α) : List α := (l.dropWhile p).rdropWhile p

theorem rdropWhile_pad {p : α → Bool} {pad : List α} (hpad : ∀ x ∈ pad, p x = true)
    (l : List α) : (l ++ pad).rdropWhile p = l.rdropWhile p := by
  unfold List.rdropWhile
  rw [List.reverse_append, List.dropWhile_append_of_pos]
  intro x hx
  exact hpad x (List.mem_reverse.mp hx)

/-- A list is trimmed to nothing when it consists of what is trimmed. -/
theorem trim_eq_nil_iff {p : α → Bool} {l : List α} : trim p l = [] ↔ ∀ x ∈ l, p x = true := by
  unfold trim
  rw [List.rdropWhile_eq_nil_iff]
  constructor
  · intro h
    -- what survives the front starts with an element that is kept
    have hnil : l.dropWhile p = [] := by
      by_contra hne
      have hkept := List.head_dropWhile_not p hne
      rw [h _ (List.head_mem hne)] at hkept
      contradiction
    exact List.dropWhile_eq_nil_iff.mp hnil
  · intro h
    rw [List.dropWhile_eq_nil_iff.mpr h]
    simp

/-- What is put around a list to be trimmed is trimmed off. -/
theorem trim_pad {p : α → Bool} {left right : List α} (hleft : ∀ x ∈ left, p x = true)
    (hright : ∀ x ∈ right, p x = true) (l : List α) :
    trim p (left ++ l ++ right) = trim p l := by
  unfold trim
  rw [List.append_assoc, List.dropWhile_append_of_pos hleft, List.dropWhile_append]
  split
  · next hempty =>
    rw [List.isEmpty_iff.mp hempty, List.dropWhile_eq_nil_iff.mpr hright]
  · exact rdropWhile_pad hright _

/-- A trimmed list is what is left between two paddings. -/
theorem exists_trim (p : α → Bool) (l : List α) :
    ∃ left right, (∀ x ∈ left, p x = true) ∧ (∀ x ∈ right, p x = true) ∧
      l = left ++ trim p l ++ right := by
  refine ⟨l.takeWhile p, (l.dropWhile p).rtakeWhile p, ?_, ?_, ?_⟩
  · intro x hx
    exact List.mem_takeWhile_imp hx
  · intro x hx
    exact List.mem_rtakeWhile_imp hx
  · unfold trim
    rw [List.append_assoc, List.rdropWhile_append_rtakeWhile, List.takeWhile_append_dropWhile]

/-- A trimmed list has nothing left to trim. -/
theorem trim_trim (p : α → Bool) (l : List α) : trim p (trim p l) = trim p l := by
  rcases exists_trim p l with ⟨left, right, hleft, hright, hl⟩
  have hagain := trim_pad hleft hright (trim p l)
  rw [← hl] at hagain
  exact hagain.symm

/-! ## Cutting at the first separator -/

section Split

variable [DecidableEq α]

/-- The two sides of the first separator, if there is one. -/
def splitOnce (sep : α) : List α → Option (List α × List α)
  | [] => none
  | x :: rest =>
    if x = sep then some ([], rest)
    else (splitOnce sep rest).map fun sides => (x :: sides.1, sides.2)

theorem splitOnce_of_notMem {sep : α} {l : List α} (h : sep ∉ l) : splitOnce sep l = none := by
  induction l with
  | nil => rfl
  | cons x rest ih =>
    have hne : x ≠ sep := fun heq => h (heq ▸ List.mem_cons_self)
    have hrest : sep ∉ rest := fun hmem => h (List.mem_cons_of_mem _ hmem)
    rw [splitOnce, if_neg hne, ih hrest, Option.map_none]

/-- A separator after a front without one is where a list is cut. -/
theorem splitOnce_append {sep : α} {front : List α} (h : sep ∉ front) (back : List α) :
    splitOnce sep (front ++ sep :: back) = some (front, back) := by
  induction front with
  | nil => rw [List.nil_append, splitOnce, if_pos rfl]
  | cons x front ih =>
    have hne : x ≠ sep := fun heq => h (heq ▸ List.mem_cons_self)
    have hfront : sep ∉ front := fun hmem => h (List.mem_cons_of_mem _ hmem)
    rw [List.cons_append, splitOnce, if_neg hne, ih hfront, Option.map_some]

/-- The cut at the first separator. -/
theorem splitOnce_eq_some_iff {sep : α} {l front back : List α} :
    splitOnce sep l = some (front, back) ↔ l = front ++ sep :: back ∧ sep ∉ front := by
  constructor
  · intro h
    by_cases hmem : sep ∈ l
    · rcases List.eq_append_cons_of_mem hmem with ⟨first, rest, hl, hfirst⟩
      rw [hl, splitOnce_append hfirst] at h
      rcases Prod.mk.inj (Option.some.inj h) with ⟨hfront, hback⟩
      rw [← hfront, ← hback]
      exact ⟨hl, hfirst⟩
    · rw [splitOnce_of_notMem hmem] at h
      contradiction
  · intro h
    rw [h.1, splitOnce_append h.2]

end Split

end Library
end ZeroShim
