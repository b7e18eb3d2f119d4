import ZeroShim.Library.Transition
import Mathlib.Algebra.BigOperators.Group.List.Basic
import Mathlib.Algebra.Ring.Nat

/-!
# Budgets

What the events of a system cost.  A step is paid for by what its event brings in and by a
potential of the state, so a whole execution costs no more than the potential it starts with
and what all its events bring in.

Main results:

- Theorem {lit}`Budget.total_le`: what an execution costs.
- Theorem {lit}`Budget.paced`: events that cost alike come no more often than that is paid.
-/

namespace ZeroShim
namespace Library

universe u v w

variable {σ : Type u} {ε : Type v} {ο : Type w}

/-- What every step adds to, an execution adds to by the sum. -/
theorem measure_of_execute {step : Transition σ ε ο} {measure : σ → Nat} {gain : ε → Nat}
    {s s' : σ} {es : List ε} {t : List ο} (h : execute step s es = some (s', t))
    (hstep : ∀ {s e s' o}, step s e = some (s', o) → measure s' = measure s + gain e) :
    measure s' = measure s + (es.map gain).sum := by
  induction es generalizing s t with
  | nil =>
    cases h
    rfl
  | cons e es ih =>
    rw [execute] at h
    cases hfirst : step s e with
    | none => simp [hfirst] at h
    | some next =>
      simp only [hfirst] at h
      rcases Option.map_eq_some_iff.mp h with ⟨⟨s₁, t₁⟩, hrest, heq⟩
      obtain rfl : s₁ = s' := (Prod.mk.inj heq).1
      rw [ih hrest, hstep hfirst, List.map_cons, List.sum_cons, Nat.add_assoc]

/-- Events that cost alike. -/
theorem sum_countP (p : ε → Bool) (c : Nat) (es : List ε) :
    (es.map fun e => if p e then c else 0).sum = es.countP p * c := by
  induction es with
  | nil => simp
  | cons e es ih =>
    rw [List.countP_cons, List.map_cons, List.sum_cons, ih, Nat.add_mul]
    split_ifs <;> omega

/-- Every step costs no more than its event brings in and the potential gives. -/
structure Budget (step : Transition σ ε ο) (cost income : ε → Nat) (potential : σ → Nat) :
    Prop where
  pays : ∀ {s e s' o}, step s e = some (s', o) → cost e + potential s' ≤ potential s + income e

namespace Budget

variable {step : Transition σ ε ο} {cost income : ε → Nat} {potential : σ → Nat}

/-- What the events cost, and the potential they leave, was there before or came in. -/
theorem total_le (h : Budget step cost income potential) {s s' : σ} {es : List ε} {t : List ο}
    (hrun : execute step s es = some (s', t)) :
    (es.map cost).sum + potential s' ≤ potential s + (es.map income).sum := by
  induction es generalizing s t with
  | nil =>
    cases hrun
    simp
  | cons e es ih =>
    rw [execute] at hrun
    cases hstep : step s e with
    | none => simp [hstep] at hrun
    | some next =>
      simp only [hstep] at hrun
      rcases Option.map_eq_some_iff.mp hrun with ⟨⟨s₁, t₁⟩, hrest, heq⟩
      obtain rfl : s₁ = s' := (Prod.mk.inj heq).1
      have hfirst := h.pays hstep
      have hafter := ih hrest
      simp only [List.map_cons, List.sum_cons]
      omega

/-- Events that cost alike, and no less than the potential may hold at the start, come once and
then no more often than that is brought in. -/
theorem paced {p : ε → Bool} {c : Nat}
    (h : Budget step (fun e => if p e then c else 0) income potential) (hc : 0 < c) {s s' : σ}
    (hstart : potential s ≤ c) {es : List ε} {t : List ο}
    (hrun : execute step s es = some (s', t)) :
    es.countP p ≤ (es.map income).sum / c + 1 := by
  have htotal := h.total_le hrun
  rw [sum_countP] at htotal
  have hpaid : es.countP p * c ≤ (es.map income).sum + c := by omega
  calc es.countP p ≤ ((es.map income).sum + c) / c := (Nat.le_div_iff_mul_le hc).mpr hpaid
    _ = (es.map income).sum / c + 1 := Nat.add_div_right _ hc

end Budget

end Library
end ZeroShim
