import Mathlib.Data.List.Basic

/-!
# Computations that record their actions

A traced computation performs actions on its environment, may fail, and keeps
the list of what it did.  {lit}`Emits` is the policy logic of such computations:
it says that every action performed, on the success path and on every error
path, is allowed.  {lit}`Alike` is their relational logic: an observer of the actions
cannot tell two computations apart, and their results are related.

Main results:

- Theorem {lit}`Emits.bind`: a policy composes over sequencing, and the second
  part may use what the first part returned.
- Theorem {lit}`Emits.handle`: a policy composes over a handler of failures.
- Theorems {lit}`Alike.bind` and {lit}`Alike.handle`: two computations stay alike over
  sequencing and over handlers.
-/

namespace ZeroShim
namespace Library

universe u v w x

/-- The actions of a computation and its result. -/
structure Traced (A : Type u) (ε : Type v) (α : Type w) where
  trace : List A
  result : Except ε α

namespace Traced

variable {A : Type u} {ε : Type v} {δ : Type x} {α β : Type w}

/-- Do nothing. -/
protected def pure (a : α) : Traced A ε α := ⟨[], .ok a⟩

/-- Stop with an error. -/
def fail (e : ε) : Traced A ε α := ⟨[], .error e⟩

/-- Perform one action, whose answer is known. -/
def act (a : A) (answer : Except ε α) : Traced A ε α := ⟨[a], answer⟩

/-- Use a result computed elsewhere. -/
def ofExcept (r : Except ε α) : Traced A ε α := ⟨[], r⟩

/-- Run one computation and, if it succeeds, another. -/
protected def bind (t : Traced A ε α) (f : α → Traced A ε β) : Traced A ε β :=
  match t.result with
  | .error e => ⟨t.trace, .error e⟩
  | .ok a => ⟨t.trace ++ (f a).trace, (f a).result⟩

/-- Run a computation and decide what to do with its result, failure included. -/
def handle (t : Traced A ε α) (f : Except ε α → Traced A δ β) : Traced A δ β :=
  ⟨t.trace ++ (f t.result).trace, (f t.result).result⟩

instance : Monad (Traced A ε) where
  pure := Traced.pure
  bind := Traced.bind

@[simp] theorem trace_pure (a : α) : (pure a : Traced A ε α).trace = [] := rfl

@[simp] theorem result_pure (a : α) : (pure a : Traced A ε α).result = .ok a := rfl

@[simp] theorem trace_fail (e : ε) : (fail e : Traced A ε α).trace = [] := rfl

@[simp] theorem result_fail (e : ε) : (fail e : Traced A ε α).result = .error e := rfl

@[simp] theorem trace_act (a : A) (r : Except ε α) : (act a r).trace = [a] := rfl

@[simp] theorem result_act (a : A) (r : Except ε α) : (act a r).result = r := rfl

@[simp] theorem trace_ofExcept (r : Except ε α) : (ofExcept r : Traced A ε α).trace = [] := rfl

@[simp] theorem result_ofExcept (r : Except ε α) :
    (ofExcept r : Traced A ε α).result = r := rfl

theorem bind_of_ok {t : Traced A ε α} {a : α} (h : t.result = .ok a)
    (f : α → Traced A ε β) : (t >>= f) = ⟨t.trace ++ (f a).trace, (f a).result⟩ := by
  show Traced.bind t f = _
  simp only [Traced.bind, h]

theorem bind_of_error {t : Traced A ε α} {e : ε} (h : t.result = .error e)
    (f : α → Traced A ε β) : (t >>= f) = ⟨t.trace, .error e⟩ := by
  show Traced.bind t f = _
  simp only [Traced.bind, h]

/-- A sequence succeeds when both parts do. -/
theorem result_bind_eq_ok {t : Traced A ε α} {f : α → Traced A ε β} {b : β} :
    (t >>= f).result = .ok b ↔ ∃ a, t.result = .ok a ∧ (f a).result = .ok b := by
  cases h : t.result with
  | error e => simp [bind_of_error h]
  | ok a => simp [bind_of_ok h]

/-- What a sequence does is done by its first part, or by its second after the first succeeds. -/
theorem mem_trace_bind {t : Traced A ε α} {f : α → Traced A ε β} {x : A} :
    x ∈ (t >>= f).trace ↔ x ∈ t.trace ∨ ∃ a, t.result = .ok a ∧ x ∈ (f a).trace := by
  cases h : t.result with
  | error e => simp [bind_of_error h]
  | ok a => simp [bind_of_ok h]

/-- A sequence that succeeds ends with what its second part ends with. -/
theorem getLast?_bind {t : Traced A ε α} {f : α → Traced A ε β} {a : α} {x : A}
    (h : t.result = .ok a) (hlast : (f a).trace.getLast? = some x) :
    (t >>= f).trace.getLast? = some x := by
  rw [bind_of_ok h, List.getLast?_append, hlast, Option.some_or]

/-! ## Policies -/

/-- Every action performed is allowed. -/
def Emits (P : A → Prop) (t : Traced A ε α) : Prop := ∀ a ∈ t.trace, P a

namespace Emits

variable {P : A → Prop}

theorem mono {Q : A → Prop} {t : Traced A ε α} (h : Emits P t) (hPQ : ∀ a, P a → Q a) :
    Emits Q t := by
  intro a ha
  exact hPQ a (h a ha)

theorem pure (a : α) : Emits P (Pure.pure a : Traced A ε α) := by
  intro b hb
  simp at hb

theorem fail (e : ε) : Emits P (Traced.fail e : Traced A ε α) := by
  intro b hb
  simp at hb

theorem ofExcept (r : Except ε α) : Emits P (Traced.ofExcept r : Traced A ε α) := by
  intro b hb
  simp at hb

theorem act (a : A) (r : Except ε α) (h : P a) : Emits P (Traced.act a r) := by
  intro b hb
  rw [trace_act, List.mem_singleton] at hb
  rw [hb]
  exact h

/-- Sequencing: the second part may use the result of the first. -/
theorem bind {t : Traced A ε α} {f : α → Traced A ε β} (ht : Emits P t)
    (hf : ∀ a, t.result = .ok a → Emits P (f a)) : Emits P (t >>= f) := by
  intro b hb
  cases h : t.result with
  | error e =>
    rw [bind_of_error h] at hb
    exact ht b hb
  | ok a =>
    rw [bind_of_ok h] at hb
    rcases List.mem_append.mp hb with hb | hb
    · exact ht b hb
    · exact hf a h b hb

/-- Handling: the handler sees every result. -/
theorem handle {t : Traced A ε α} {f : Except ε α → Traced A δ β} (ht : Emits P t)
    (hf : ∀ r, t.result = r → Emits P (f r)) : Emits P (t.handle f) := by
  intro b hb
  rcases List.mem_append.mp hb with hb | hb
  · exact ht b hb
  · exact hf _ rfl b hb

theorem ite {c : Prop} [Decidable c] {t s : Traced A ε α} (ht : c → Emits P t)
    (hs : ¬ c → Emits P s) : Emits P (if c then t else s) := by
  by_cases hc : c
  · rw [if_pos hc]
    exact ht hc
  · rw [if_neg hc]
    exact hs hc

end Emits

/-! ## Two computations -/

universe y

variable {α' β' : Type w} {B : Type y}

/-- Two results: related values, or the same error. -/
inductive Related (R : α → α' → Prop) : Except ε α → Except ε α' → Prop where
  | ok {a a'} : R a a' → Related R (.ok a) (.ok a')
  | error (e) : Related R (.error e) (.error e)

theorem Related.refl (r : Except ε α) : Related (· = ·) r r := by
  cases r with
  | ok a => exact .ok rfl
  | error e => exact .error e

/-- An observer of the actions cannot tell two computations apart, and their results are
related. -/
structure Alike (view : A → List B) (R : α → α' → Prop) (t : Traced A ε α)
    (t' : Traced A ε α') : Prop where
  seen : t.trace.flatMap view = t'.trace.flatMap view
  result : Related R t.result t'.result

namespace Alike

variable {view : A → List B} {R : α → α' → Prop} {S : β → β' → Prop}

theorem pure {a : α} {a' : α'} (h : R a a') :
    Alike view R (Pure.pure a : Traced A ε α) (Pure.pure a' : Traced A ε α') :=
  ⟨rfl, .ok h⟩

theorem fail (e : ε) : Alike view R (Traced.fail e) (Traced.fail e) := ⟨rfl, .error e⟩

theorem ofExcept {r : Except ε α} {r' : Except ε α'} (h : Related R r r') :
    Alike view R (Traced.ofExcept r) (Traced.ofExcept r') :=
  ⟨rfl, h⟩

theorem act {a a' : A} {r : Except ε α} {r' : Except ε α'} (hview : view a = view a')
    (h : Related R r r') : Alike view R (Traced.act a r) (Traced.act a' r') := by
  refine ⟨?_, h⟩
  simp only [trace_act, List.flatMap_singleton]
  exact hview

/-- Two alike computations fail with one error or succeed with related results. -/
theorem fails_or_succeeds {t : Traced A ε α} {t' : Traced A ε α'} (h : Alike view R t t') :
    (∃ e, t.result = .error e ∧ t'.result = .error e) ∨
      ∃ a a', R a a' ∧ t.result = .ok a ∧ t'.result = .ok a' := by
  have hresult := h.result
  generalize t.result = r at hresult
  generalize t'.result = r' at hresult
  cases hresult with
  | error e => exact .inl ⟨e, rfl, rfl⟩
  | ok hrelated => exact .inr ⟨_, _, hrelated, rfl, rfl⟩

/-- An observer cannot tell two sequences apart whose second parts look alike at related
results. -/
theorem seen_bind {t : Traced A ε α} {t' : Traced A ε α'} {f : α → Traced A ε β}
    {f' : α' → Traced A ε β'} (ht : Alike view R t t')
    (hf : ∀ a a', R a a' → (f a).trace.flatMap view = (f' a').trace.flatMap view) :
    (t >>= f).trace.flatMap view = (t' >>= f').trace.flatMap view := by
  rcases ht.fails_or_succeeds with ⟨e, herror, herror'⟩ | ⟨a, a', hrelated, hok, hok'⟩
  · rw [bind_of_error herror, bind_of_error herror']
    exact ht.seen
  · rw [bind_of_ok hok, bind_of_ok hok', List.flatMap_append, List.flatMap_append, ht.seen,
      hf a a' hrelated]

/-- Sequencing: the second parts are alike at related results. -/
theorem bind {t : Traced A ε α} {t' : Traced A ε α'} {f : α → Traced A ε β}
    {f' : α' → Traced A ε β'} (ht : Alike view R t t')
    (hf : ∀ a a', R a a' → Alike view S (f a) (f' a')) : Alike view S (t >>= f) (t' >>= f') := by
  refine ⟨ht.seen_bind fun a a' hrelated => (hf a a' hrelated).seen, ?_⟩
  rcases ht.fails_or_succeeds with ⟨e, herror, herror'⟩ | ⟨a, a', hrelated, hok, hok'⟩
  · rw [bind_of_error herror, bind_of_error herror']
    exact .error e
  · rw [bind_of_ok hok, bind_of_ok hok']
    exact (hf a a' hrelated).result

/-- Handling: the handlers are alike at related results, failures included. -/
theorem handle {t : Traced A ε α} {t' : Traced A ε α'} {f : Except ε α → Traced A δ β}
    {f' : Except ε α' → Traced A δ β'} (ht : Alike view R t t')
    (hf : ∀ r r', Related R r r' → Alike view S (f r) (f' r')) :
    Alike view S (t.handle f) (t'.handle f') := by
  have hhandled := hf _ _ ht.result
  refine ⟨?_, hhandled.result⟩
  show List.flatMap view (_ ++ _) = List.flatMap view (_ ++ _)
  rw [List.flatMap_append, List.flatMap_append, ht.seen, hhandled.seen]

theorem ite {c c' : Prop} [Decidable c] [Decidable c'] {t s : Traced A ε α}
    {t' s' : Traced A ε α'} (hc : c ↔ c') (ht : c → c' → Alike view R t t')
    (hs : ¬ c → ¬ c' → Alike view R s s') :
    Alike view R (if c then t else s) (if c' then t' else s') := by
  by_cases h : c
  · rw [if_pos h, if_pos (hc.mp h)]
    exact ht h (hc.mp h)
  · rw [if_neg h, if_neg (mt hc.mpr h)]
    exact hs h (mt hc.mpr h)

end Alike

end Traced

end Library
end ZeroShim
