import ZeroShim.Library.Transition

/-!
# Purging events

What is left of an execution when some of its events are taken out of it.  A second state
follows the events that are kept: it takes each of them as the first does, and shows what the
first shows.  The first takes the others alone, and shows then nothing that is kept, nor
anything that an observer sees.

Main results:

- Theorem {lit}`Purge.execute_filter`: the events that are kept can be executed, and show what
  was shown of them.
- Theorem {lit}`Purge.sameView`: the observer sees no difference.
-/

namespace ZeroShim
namespace Library

universe u v w x

variable {σ : Type u} {ε : Type v} {ο : Type w} {ν : Type x}

/-- The events that are taken out leave no mark on what is kept, as long as all events are
allowed. -/
structure Purge (step : Transition σ ε ο) (Allowed : ε → Prop) (keeps : ε → Bool)
    (shows : ο → Bool) (view : ο → Option ν) (Abreast : σ → σ → Prop) : Prop where
  kept : ∀ {s s₀ e s' o}, Abreast s s₀ → Allowed e → keeps e = true →
    step s e = some (s', o) → ∃ s₀', step s₀ e = some (s₀', o) ∧ Abreast s' s₀' ∧
      ∀ x ∈ o, shows x = true
  purged : ∀ {s s₀ e s' o}, Abreast s s₀ → Allowed e → keeps e = false →
    step s e = some (s', o) → Abreast s' s₀ ∧ ∀ x ∈ o, shows x = false ∧ view x = none

namespace Purge

variable {step : Transition σ ε ο} {Allowed : ε → Prop} {keeps : ε → Bool} {shows : ο → Bool}
variable {view : ο → Option ν} {Abreast : σ → σ → Prop}

/-- The events that are kept can be executed, and show what was shown of them; what was shown
of the others is not seen. -/
theorem execute_filter (h : Purge step Allowed keeps shows view Abreast) {s s₀ s' : σ}
    {es : List ε} {t : List ο} (habreast : Abreast s s₀) (hallowed : ∀ e ∈ es, Allowed e)
    (hrun : execute step s es = some (s', t)) :
    (∃ s₀', execute step s₀ (es.filter keeps) = some (s₀', t.filter shows) ∧
      Abreast s' s₀') ∧ ∀ x ∈ t, shows x = false → view x = none := by
  induction es generalizing s s₀ t with
  | nil =>
    cases hrun
    exact ⟨⟨s₀, rfl, habreast⟩, by simp⟩
  | cons e es ih =>
    have hrest : ∀ e ∈ es, Allowed e := fun e he => hallowed e (List.mem_cons_of_mem _ he)
    have he : Allowed e := hallowed e List.mem_cons_self
    rw [execute] at hrun
    cases hstep : step s e with
    | none => simp [hstep] at hrun
    | some next =>
      rcases next with ⟨s₁, o⟩
      simp only [hstep] at hrun
      rcases Option.map_eq_some_iff.mp hrun with ⟨⟨s₂, t₁⟩, hlater, heq⟩
      cases heq
      cases hkeeps : keeps e with
      | false =>
        rcases h.purged habreast he hkeeps hstep with ⟨habreast', hsilent⟩
        rcases ih habreast' hrest hlater with ⟨hkept, hunseen⟩
        have hnone : o.filter shows = [] := by
          apply List.filter_eq_nil_iff.mpr
          intro x hx
          rw [(hsilent x hx).1]
          exact Bool.false_ne_true
        rw [List.filter_cons_of_neg (by simp [hkeeps]), List.filter_append, hnone,
          List.nil_append]
        refine ⟨hkept, ?_⟩
        intro x hx hshows
        rcases List.mem_append.mp hx with hx | hx
        · exact (hsilent x hx).2
        · exact hunseen x hx hshows
      | true =>
        rcases h.kept habreast he hkeeps hstep with ⟨s₀₁, hstep₀, habreast', hshown⟩
        have hall : o.filter shows = o := List.filter_eq_self.mpr hshown
        rcases ih habreast' hrest hlater with ⟨⟨s₀', hrun₀, hend⟩, hunseen⟩
        rw [List.filter_cons_of_pos hkeeps, List.filter_append, hall, execute, hstep₀]
        refine ⟨⟨s₀', Option.map_eq_some_iff.mpr ⟨_, hrun₀, rfl⟩, hend⟩, ?_⟩
        intro x hx hshows
        rcases List.mem_append.mp hx with hx | hx
        · rw [hshown x hx] at hshows
          cases hshows
        · exact hunseen x hx hshows

/-- The observer sees no difference. -/
theorem sameView (h : Purge step Allowed keeps shows view Abreast) {s s₀ s' : σ}
    {es : List ε} {t : List ο} (habreast : Abreast s s₀) (hallowed : ∀ e ∈ es, Allowed e)
    (hrun : execute step s es = some (s', t)) :
    (t.filter shows).filterMap view = t.filterMap view := by
  rw [List.filterMap_filter]
  apply List.filterMap_congr
  intro x hx
  split_ifs with hshows
  · rfl
  · exact ((h.execute_filter habreast hallowed hrun).2 x hx (by simpa using hshows)).symm

end Purge

end Library
end ZeroShim
