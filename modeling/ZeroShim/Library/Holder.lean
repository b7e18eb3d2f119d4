import Mathlib.Data.List.Basic

/-!
# One holder at a time

A log of moves on a place that holds one thing at most: a thing is taken where there is none
and released where it is held, and between the two it is the one that is used.

Main results:

- Theorem {lit}`takes_eq`: what was taken was released, or is held.
- Theorem {lit}`holder_at`: at a check the holder passes it.
- Theorem {lit}`free_at`: at a free move nothing is held.
-/

namespace ZeroShim
namespace Library

universe u

inductive Move (α : Type u) where
  | take (a : α)
  | release (a : α)
  /-- Something is held, and passes. -/
  | check (p : α → Bool)
  /-- Nothing is held. -/
  | free
  | quiet

namespace Move

variable {α : Type u} [DecidableEq α]

/-- The holder after a move, where the move is allowed. -/
def apply : Move α → Option α → Option (Option α)
  | .take a, none => some (some a)
  | .release a, some b => if a = b then some none else none
  | .check p, some b => if p b then some (some b) else none
  | .free, none => some none
  | .quiet, holder => some holder
  | _, _ => none

/-- The holder after a log. -/
def follow (holder : Option α) : List (Move α) → Option (Option α)
  | [] => some holder
  | move :: moves => (move.apply holder).bind fun holder => follow holder moves

def takes (a : α) : Move α → Bool
  | .take b => a = b
  | _ => false

def releases (a : α) : Move α → Bool
  | .release b => a = b
  | _ => false

variable {holder holder' : Option α} {moves moves' : List (Move α)} {a : α}

@[simp] theorem follow_nil : follow holder ([] : List (Move α)) = some holder := rfl

@[simp] theorem follow_cons (move : Move α) :
    follow holder (move :: moves) = (move.apply holder).bind fun holder => follow holder moves :=
  rfl

theorem follow_append :
    follow holder (moves ++ moves') =
      (follow holder moves).bind fun holder => follow holder moves' := by
  induction moves generalizing holder with
  | nil => rfl
  | cons move moves ih =>
    rw [List.cons_append, follow_cons, follow_cons, Option.bind_assoc]
    congr 1
    funext next
    exact ih

/-- One move takes or releases what it says. -/
theorem takes_apply {move : Move α} (h : move.apply holder = some holder') (a : α) :
    (if holder = some a then 1 else 0) + (if takes a move then 1 else 0) =
      (if releases a move then 1 else 0) + if holder' = some a then 1 else 0 := by
  cases move with
  | take b =>
    cases holder with
    | none =>
      cases h
      simp [takes, releases, eq_comm]
    | some c => cases h
  | release b =>
    cases holder with
    | none => cases h
    | some c =>
      simp only [apply] at h
      split_ifs at h with hsame
      cases h
      simp [takes, releases, hsame, eq_comm]
  | check p =>
    cases holder with
    | none => cases h
    | some c =>
      simp only [apply] at h
      split_ifs at h
      cases h
      simp [takes, releases]
  | free =>
    cases holder with
    | none =>
      cases h
      simp [takes, releases]
    | some c => cases h
  | quiet =>
    cases h
    simp [takes, releases]

/-- What was taken was released, or is held. -/
theorem takes_eq (h : follow holder moves = some holder') (a : α) :
    (if holder = some a then 1 else 0) + moves.countP (takes a) =
      moves.countP (releases a) + if holder' = some a then 1 else 0 := by
  induction moves generalizing holder with
  | nil =>
    cases h
    simp
  | cons move moves ih =>
    rcases Option.bind_eq_some_iff.mp h with ⟨next, hmove, hrest⟩
    have hfirst := takes_apply hmove a
    have hafter := ih hrest
    rw [List.countP_cons, List.countP_cons]
    omega

theorem of_split {move : Move α} (h : follow holder (moves ++ move :: moves') = some holder') :
    ∃ before after, follow holder moves = some before ∧ move.apply before = some after := by
  rw [follow_append] at h
  rcases Option.bind_eq_some_iff.mp h with ⟨before, hbefore, hrest⟩
  rcases Option.bind_eq_some_iff.mp hrest with ⟨after, hmove, -⟩
  exact ⟨before, after, hbefore, hmove⟩

/-- At a check the holder passes it. -/
theorem holder_at {p : α → Bool} (h : follow holder (moves ++ .check p :: moves') = some holder') :
    ∃ a, follow holder moves = some (some a) ∧ p a = true := by
  rcases of_split h with ⟨before, after, hbefore, hmove⟩
  cases before with
  | none => cases hmove
  | some a =>
    simp only [apply] at hmove
    split_ifs at hmove with hpasses
    exact ⟨a, hbefore, hpasses⟩

/-- At a free move nothing is held. -/
theorem free_at (h : follow holder (moves ++ .free :: moves') = some holder') :
    follow holder moves = some none := by
  rcases of_split h with ⟨before, after, hbefore, hmove⟩
  cases before with
  | none => exact hbefore
  | some a => cases hmove

end Move

end Library
end ZeroShim
