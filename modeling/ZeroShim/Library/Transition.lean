import Mathlib.Data.List.Basic

/-!
# Runs of observed transitions

A transition takes a state and what the environment decided, and, where that is
enabled, gives the next state and what was observed.  A run collects the
observations of its steps in order.

Main results:

- Theorem {lit}`Runs.invariant`: a relation between the trace and the state that
  every step preserves holds after every run.
- Theorem {lit}`Runs.simulate`: a system whose steps are runs of a component is,
  seen from the component, one of its runs.
- Theorem {lit}`execute_map`: where one step commutes with a projection, a whole execution
  does.
-/

namespace ZeroShim
namespace Library

universe u v w

/-- A partial transition with observations. -/
abbrev Transition (σ : Type u) (ε : Type v) (ο : Type w) := σ → ε → Option (σ × List ο)

variable {σ σ' : Type u} {ε ε' : Type v} {ο ο' : Type w}

/-- {lit}`Runs step s t s'`: some events lead from {lit}`s` to {lit}`s'` with trace
{lit}`t`. -/
inductive Runs (step : Transition σ ε ο) (s : σ) : List ο → σ → Prop where
  | refl : Runs step s [] s
  | snoc {t o : List ο} {s' s'' : σ} {e : ε} :
      Runs step s t s' → step s' e = some (s'', o) → Runs step s (t ++ o) s''

/-- Execute a list of events. -/
def execute (step : Transition σ ε ο) (s : σ) : List ε → Option (σ × List ο)
  | [] => some (s, [])
  | e :: es =>
    match step s e with
    | none => none
    | some (s', o) => (execute step s' es).map fun out => (out.1, o ++ out.2)

/-- The steps of a transition that meet a condition on the state and the event. -/
def guarded (step : Transition σ ε ο) (meets : σ → ε → Prop) [∀ s e, Decidable (meets s e)] :
    Transition σ ε ο :=
  fun s e => if meets s e then step s e else none

theorem of_guarded {step : Transition σ ε ο} {meets : σ → ε → Prop}
    [∀ s e, Decidable (meets s e)] {s s' : σ} {e : ε} {o : List ο}
    (h : guarded step meets s e = some (s', o)) : meets s e ∧ step s e = some (s', o) := by
  unfold guarded at h
  split_ifs at h with hmeets
  exact ⟨hmeets, h⟩

/-- An execution goes on with a step. -/
theorem execute_snoc {step : Transition σ ε ο} {s s' s'' : σ} {e : ε} {es : List ε}
    {o t : List ο} (h : execute step s es = some (s', t)) (hstep : step s' e = some (s'', o)) :
    execute step s (es ++ [e]) = some (s'', t ++ o) := by
  induction es generalizing s t with
  | nil =>
    cases h
    simp [execute, hstep]
  | cons e' es ih =>
    rw [execute] at h
    cases hfirst : step s e' with
    | none => simp [hfirst] at h
    | some next =>
      simp only [hfirst] at h
      rcases Option.map_eq_some_iff.mp h with ⟨⟨s₁, t₁⟩, hrest, heq⟩
      cases heq
      simp [execute, hfirst, ih hrest]

/-- A projection of the states, the events and the observations that every step commutes
with commutes with a whole execution. -/
theorem execute_map {step : Transition σ ε ο} {step' : Transition σ' ε' ο'} (view : σ → σ')
    (read : ε → ε') (see : ο → ο')
    (hstep : ∀ s e, step' (view s) (read e) =
      (step s e).map fun out => (view out.1, out.2.map see)) (s : σ) (es : List ε) :
    execute step' (view s) (es.map read) =
      (execute step s es).map fun out => (view out.1, out.2.map see) := by
  induction es generalizing s with
  | nil => rfl
  | cons e es ih =>
    rw [List.map_cons, execute, execute, hstep]
    cases step s e with
    | none => rfl
    | some next =>
      simp only [Option.map_some, ih, Option.map_map]
      congr 1
      funext out
      simp

/-- A split of a trace that grew is one of the old trace or of what was added. -/
theorem split_of_append {α : Type u} {t o before after : List α} {x : α}
    (h : t ++ o = before ++ x :: after) :
    (∃ rest, t = before ++ x :: rest ∧ after = rest ++ o) ∨
      ∃ front, before = t ++ front ∧ o = front ++ x :: after := by
  cases List.append_eq_append_iff.mp h with
  | inl hlater =>
    rcases hlater with ⟨front, hbefore, ho⟩
    exact .inr ⟨front, hbefore, ho⟩
  | inr hearlier =>
    rcases hearlier with ⟨rest, ht, hafter⟩
    cases rest with
    | nil => exact .inr ⟨[], by simpa using ht.symm, hafter.symm⟩
    | cons y rest =>
      rcases List.cons.inj hafter with ⟨rfl, hrest⟩
      exact .inl ⟨rest, ht, hrest⟩

namespace Runs

variable {step : Transition σ ε ο} {s s' s'' : σ} {t t' o : List ο} {e : ε}

theorem single (h : step s e = some (s', o)) : Runs step s o s' := by
  simpa using Runs.snoc Runs.refl h

theorem trans (h : Runs step s t s') (h' : Runs step s' t' s'') :
    Runs step s (t ++ t') s'' := by
  induction h' with
  | refl => simpa using h
  | snoc _ hstep ih => simpa [List.append_assoc] using Runs.snoc ih hstep

/-- What executes is a run. -/
theorem of_execute {es : List ε} (h : execute step s es = some (s', t)) :
    Runs step s t s' := by
  induction es generalizing s t with
  | nil =>
      simp only [execute, Option.some.injEq, Prod.mk.injEq] at h
      rcases h with ⟨rfl, rfl⟩
      exact .refl
  | cons e es ih =>
      cases hstep : step s e with
      | none => simp [execute, hstep] at h
      | some next =>
        simp only [execute, hstep] at h
        rcases Option.map_eq_some_iff.mp h with ⟨out, hout, heq⟩
        rcases Prod.mk.inj heq with ⟨rfl, rfl⟩
        exact (single hstep).trans (ih hout)

/-- A relation between trace and state that holds at the start and that every step
preserves holds after every run. -/
theorem invariant {P : List ο → σ → Prop} (hinit : P [] s)
    (hstep : ∀ {t s' e o s''}, Runs step s t s' → P t s' → step s' e = some (s'', o) →
      P (t ++ o) s'') (h : Runs step s t s') : P t s' := by
  induction h with
  | refl => exact hinit
  | snoc hrun hlast ih => exact hstep hrun ih hlast

/-- An invariant of the state alone. -/
theorem always {P : σ → Prop} (hinit : P s)
    (hstep : ∀ {s' e o s''}, P s' → step s' e = some (s'', o) → P s'')
    (h : Runs step s t s') : P s' :=
  h.invariant (P := fun _ => P) hinit fun _ hp hlast => hstep hp hlast

/-- A system each of whose steps is, under {lit}`view` and {lit}`see`, a run of a
component is a run of that component. -/
theorem simulate {part : Transition σ' ε' ο'} (view : σ → σ') (see : ο → Option ο')
    (hstep : ∀ {s e o s'}, step s e = some (s', o) →
      Runs part (view s) (o.filterMap see) (view s')) (h : Runs step s t s') :
    Runs part (view s) (t.filterMap see) (view s') := by
  induction h with
  | refl => exact .refl
  | snoc _ hlast ih => simpa [List.filterMap_append] using ih.trans (hstep hlast)

/-- A run whose steps all meet a condition is a run. -/
theorem of_guarded {meets : σ → ε → Prop} [∀ s e, Decidable (meets s e)]
    (h : Runs (guarded step meets) s t s') : Runs step s t s' := by
  induction h with
  | refl => exact .refl
  | snoc _ hlast ih => exact ih.snoc (Library.of_guarded hlast).2

end Runs

end Library
end ZeroShim
