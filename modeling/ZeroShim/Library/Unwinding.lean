import ZeroShim.Library.Transition

/-!
# Unwinding

What an observer may learn from a run whose events are partly hidden.  A view follows the
visible events alone, by a function of its own; where every step keeps the view abreast of the
state, two executions with the same visible events end under the same view, whatever is hidden
in them.

Main results:

- Theorem {lit}`Unwinding.follows`: the view of a whole execution.
- Theorem {lit}`Unwinding.sameView`: noninterference.
-/

namespace ZeroShim
namespace Library

universe u v w x y

variable {σ : Type u} {ε : Type v} {ο : Type w} {ν : Type x} {α : Type y}

/-- Every step keeps the view abreast of the state: it follows the visible events, and hidden
ones do nothing to it. -/
structure Unwinding (step : Transition σ ε ο) (visible : ε → Option α) (react : ν → α → ν)
    (Abreast : ν → σ → Prop) : Prop where
  seen : ∀ {view s e a s' o}, Abreast view s → visible e = some a →
    step s e = some (s', o) → Abreast (react view a) s'
  unseen : ∀ {view s e s' o}, Abreast view s → visible e = none →
    step s e = some (s', o) → Abreast view s'

namespace Unwinding

variable {step : Transition σ ε ο} {visible : ε → Option α} {react : ν → α → ν}
  {Abreast : ν → σ → Prop}

/-- The view of a whole execution. -/
theorem follows (h : Unwinding step visible react Abreast) {view : ν} {s s' : σ} {es : List ε}
    {t : List ο} (habreast : Abreast view s) (hrun : execute step s es = some (s', t)) :
    Abreast ((es.filterMap visible).foldl react view) s' := by
  induction es generalizing view s t with
  | nil =>
    cases hrun
    exact habreast
  | cons e es ih =>
    rw [execute] at hrun
    cases hstep : step s e with
    | none => simp [hstep] at hrun
    | some next =>
      simp only [hstep] at hrun
      rcases Option.map_eq_some_iff.mp hrun with ⟨⟨s₁, t₁⟩, hrest, heq⟩
      cases heq
      cases hvisible : visible e with
      | none =>
        rw [List.filterMap_cons_none hvisible]
        exact ih (h.unseen habreast hvisible hstep) hrest
      | some a =>
        rw [List.filterMap_cons_some hvisible, List.foldl_cons]
        exact ih (h.seen habreast hvisible hstep) hrest

/-- Two executions with the same visible events end under the same view. -/
theorem sameView (h : Unwinding step visible react Abreast) {view : ν} {s₁ s₂ s₁' s₂' : σ}
    {es₁ es₂ : List ε} {t₁ t₂ : List ο} (habreast₁ : Abreast view s₁)
    (habreast₂ : Abreast view s₂) (hrun₁ : execute step s₁ es₁ = some (s₁', t₁))
    (hrun₂ : execute step s₂ es₂ = some (s₂', t₂))
    (hsame : es₁.filterMap visible = es₂.filterMap visible) :
    ∃ view', Abreast view' s₁' ∧ Abreast view' s₂' := by
  have hfirst := h.follows habreast₁ hrun₁
  have hsecond := h.follows habreast₂ hrun₂
  rw [← hsame] at hsecond
  exact ⟨_, hfirst, hsecond⟩

end Unwinding

end Library
end ZeroShim
