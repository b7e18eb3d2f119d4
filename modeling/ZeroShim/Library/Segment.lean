import Mathlib.Data.List.TakeWhile

/-!
# The final segment of a separated list

A list cut by a separator, with any number of separators behind it.

Main results:

- Theorem {lit}`finalSegment_eq_iff`: the lists with a given final segment.
-/

namespace ZeroShim
namespace Library

universe u

variable {α : Type u} [DecidableEq α]

/-- What follows the last separator, once the trailing ones are removed. -/
def finalSegment (sep : α) (l : List α) : List α :=
  ((l.reverse.dropWhile (· = sep)).takeWhile (· ≠ sep)).reverse

/-- The list ends at a separator, or is empty. -/
def EndsAt (sep : α) (front : List α) : Prop := front = [] ∨ front.getLast? = some sep

theorem takeWhile_eq_replicate (sep : α) (l : List α) :
    l.takeWhile (· = sep) = List.replicate (l.takeWhile (· = sep)).length sep := by
  rw [List.eq_replicate_iff]
  refine ⟨rfl, ?_⟩
  intro x hx
  simpa using List.mem_takeWhile_imp hx

/-- What is left after the front of a list ends at a separator, read backwards. -/
theorem endsAt_dropWhile (sep : α) (l : List α) :
    EndsAt sep (l.dropWhile (· ≠ sep)).reverse := by
  unfold EndsAt
  rw [List.reverse_eq_nil_iff, List.getLast?_reverse]
  have hhead := List.head?_dropWhile_not (fun x => decide (x ≠ sep)) l
  cases hrest : l.dropWhile (· ≠ sep) with
  | nil => exact .inl rfl
  | cons x rest =>
    right
    rw [hrest] at hhead
    simpa using hhead

/-- The lists with a given final segment: a front that ends at a separator, the segment, and
any number of separators. -/
theorem finalSegment_eq_iff {sep : α} {l segment : List α} (hsegment : segment ≠ []) :
    finalSegment sep l = segment ↔
      ∃ front n, l = front ++ segment ++ List.replicate n sep ∧ sep ∉ segment ∧
        EndsAt sep front := by
  constructor
  · rintro rfl
    refine ⟨((l.reverse.dropWhile (· = sep)).dropWhile (· ≠ sep)).reverse,
      (l.reverse.takeWhile (· = sep)).length, ?_, ?_, endsAt_dropWhile sep _⟩
    · have hsplit := List.takeWhile_append_dropWhile (p := fun x => decide (x = sep))
        (l := l.reverse)
      have hrest := List.takeWhile_append_dropWhile (p := fun x => decide (x ≠ sep))
        (l := l.reverse.dropWhile (· = sep))
      rw [← hrest, takeWhile_eq_replicate] at hsplit
      have hl := congrArg List.reverse hsplit
      rw [List.reverse_reverse, List.reverse_append, List.reverse_append,
        List.reverse_replicate] at hl
      exact hl.symm
    · intro hmem
      rw [finalSegment, List.mem_reverse] at hmem
      simpa using List.mem_takeWhile_imp hmem
  · rintro ⟨front, n, rfl, hnot, hfront⟩
    have hpos : ∀ x ∈ segment.reverse, decide (x ≠ sep) = true := by
      intro x hx
      rw [List.mem_reverse] at hx
      simpa using fun heq : x = sep => hnot (heq ▸ hx)
    -- past the separators the segment comes first, and it does not start with one
    have hdrop : (segment.reverse ++ front.reverse).dropWhile (· = sep) =
        segment.reverse ++ front.reverse := by
      cases hreverse : segment.reverse with
      | nil => exact absurd (List.reverse_eq_nil_iff.mp hreverse) hsegment
      | cons x rest =>
        rw [hreverse] at hpos
        rw [List.cons_append, List.dropWhile_cons_of_neg]
        simpa using hpos x List.mem_cons_self
    have hstop : front.reverse.takeWhile (· ≠ sep) = [] := by
      rcases hfront with rfl | hlast
      · rfl
      · rw [← List.head?_reverse] at hlast
        cases hreverse : front.reverse with
        | nil => rfl
        | cons x rest =>
          rw [hreverse, List.head?_cons, Option.some.injEq] at hlast
          rw [List.takeWhile_cons_of_neg (by simp [hlast])]
    unfold finalSegment
    rw [List.reverse_append, List.reverse_append, List.reverse_replicate,
      List.dropWhile_append_of_pos (by simp), hdrop, List.takeWhile_append_of_pos hpos, hstop,
      List.append_nil, List.reverse_reverse]

end Library
end ZeroShim
