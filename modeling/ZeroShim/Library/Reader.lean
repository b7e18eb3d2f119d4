import Mathlib.Data.List.Forall2
import Mathlib.Data.Vector.Basic
import ZeroShim.Library.Bytes

/-!
# Binary readers, writers and reading back

A reader consumes a prefix of its input.  Every reader carries the proof that
it is *prefix-local*: what it returns depends on the bytes it consumed and on
nothing behind them.  A writer produces bytes or fails.  {lit}`ReadsBack` says
that whatever a reader accepts of a writer's output, it consumes that output
exactly.

Main results:

- Theorems {lit}`Reader.run_append` and {lit}`Reader.not_complete_of_prefix`:
  what follows a complete input is left over, and no proper prefix of it is
  complete.
- Theorems {lit}`ReadsBack.bind` and {lit}`ReadsBack.readMany`: reading back
  composes over sequencing and over counted lists.
- Theorems {lit}`Ensures.bind` and {lit}`Ensures.readMany`: so do the postconditions of
  a reader.
-/

namespace ZeroShim
namespace Library

universe u v

/-! ## Readers -/

/-- A reader returns a value and the bytes it left, or an error.  Prefix
locality is part of the reader. -/
structure Reader (ε : Type u) (α : Type v) where
  run : Bytes → Except ε (α × Bytes)
  prefixLocal : ∀ {bs : Bytes} {a : α} {rest : Bytes}, run bs = .ok (a, rest) →
    ∃ w, bs = w ++ rest ∧ ∀ rest', run (w ++ rest') = .ok (a, rest')

namespace Reader

variable {ε : Type u} {α β : Type v}

/-- Consume nothing. -/
protected def pure (a : α) : Reader ε α where
  run bs := .ok (a, bs)
  prefixLocal := by
    intro bs a' rest h
    simp only [Except.ok.injEq, Prod.mk.injEq] at h
    rcases h with ⟨rfl, rfl⟩
    exact ⟨[], rfl, fun _ => rfl⟩

/-- Stop with an error. -/
def fail (e : ε) : Reader ε α where
  run _ := .error e
  prefixLocal := by
    intro bs a rest h
    cases h

/-- Consume nothing and return a result computed elsewhere. -/
def ofExcept (r : Except ε α) : Reader ε α :=
  match r with
  | .ok a => Reader.pure a
  | .error e => fail e

/-- Run one reader and then another on what it left. -/
protected def bind (p : Reader ε α) (f : α → Reader ε β) : Reader ε β where
  run bs :=
    match p.run bs with
    | .error e => .error e
    | .ok (a, rest) => (f a).run rest
  prefixLocal := by
    intro bs b rest h
    cases hp : p.run bs with
    | error e =>
      simp only [hp] at h
      cases h
    | ok r =>
      rcases r with ⟨a, mid⟩
      simp only [hp] at h
      rcases p.prefixLocal hp with ⟨w, rfl, hw⟩
      rcases (f a).prefixLocal h with ⟨v, rfl, hv⟩
      refine ⟨w ++ v, by rw [List.append_assoc], ?_⟩
      intro rest'
      simp only [List.append_assoc, hw, hv]

instance : Monad (Reader ε) where
  pure := Reader.pure
  bind := Reader.bind

/-- Consume exactly {lit}`n` bytes. -/
def readExact (eof : ε) (n : Nat) : Reader ε Bytes where
  run bs := if n ≤ bs.length then .ok (bs.take n, bs.drop n) else .error eof
  prefixLocal := by
    intro bs a rest h
    by_cases hn : n ≤ bs.length
    · simp only [if_pos hn, Except.ok.injEq, Prod.mk.injEq] at h
      rcases h with ⟨rfl, rfl⟩
      have hlen : (bs.take n).length = n := by
        rw [List.length_take]
        omega
      refine ⟨bs.take n, (List.take_append_drop n bs).symm, ?_⟩
      intro rest'
      rw [if_pos (by rw [List.length_append]; omega)]
      simp [hlen]
    · simp only [if_neg hn] at h
      cases h

/-- Consume exactly {lit}`n` bytes into an array of that size. -/
def readArray (eof : ε) (n : Nat) : Reader ε (List.Vector UInt8 n) where
  run bs :=
    if h : n ≤ bs.length then .ok (⟨bs.take n, by simp [h]⟩, bs.drop n) else .error eof
  prefixLocal := by
    intro bs a rest h
    by_cases hn : n ≤ bs.length
    · simp only [dif_pos hn, Except.ok.injEq] at h
      rcases h with ⟨rfl, rfl⟩
      have hlen : (bs.take n).length = n := by
        rw [List.length_take]
        omega
      refine ⟨bs.take n, (List.take_append_drop n bs).symm, ?_⟩
      intro rest'
      rw [dif_pos (by rw [List.length_append]; omega)]
      simp [hlen]
    · simp only [dif_neg hn] at h
      cases h

/-- Run a reader a given number of times. -/
def readMany (p : Reader ε α) : (n : Nat) → Reader ε (List.Vector α n)
  | 0 => pure List.Vector.nil
  | n + 1 => do
    let x ← p
    let xs ← readMany p n
    return xs.cons x

@[simp] theorem run_pure (a : α) (bs : Bytes) :
    (pure a : Reader ε α).run bs = .ok (a, bs) := rfl

@[simp] theorem run_fail (e : ε) (bs : Bytes) :
    (fail e : Reader ε α).run bs = .error e := rfl

theorem run_bind (p : Reader ε α) (f : α → Reader ε β) (bs : Bytes) :
    (p >>= f).run bs =
      match p.run bs with
      | .error e => .error e
      | .ok (a, rest) => (f a).run rest := rfl

theorem run_bind_eq_ok {p : Reader ε α} {f : α → Reader ε β} {bs rest : Bytes} {b : β}
    (h : (p >>= f).run bs = .ok (b, rest)) :
    ∃ a mid, p.run bs = .ok (a, mid) ∧ (f a).run mid = .ok (b, rest) := by
  rw [run_bind] at h
  cases hp : p.run bs with
  | error e =>
    simp only [hp] at h
    cases h
  | ok r =>
    rcases r with ⟨a, mid⟩
    simp only [hp] at h
    exact ⟨a, mid, rfl, h⟩

theorem run_readExact_append {eof : ε} {w rest : Bytes} :
    (readExact eof w.length).run (w ++ rest) = .ok (w, rest) := by
  simp [readExact]

theorem run_readArray_append {eof : ε} {n : Nat} (w : List.Vector UInt8 n) (rest : Bytes) :
    (readArray eof n).run (w.toList ++ rest) = .ok (w, rest) := by
  rcases w with ⟨w, rfl⟩
  simp [readArray, List.Vector.toList]

/-- Bytes behind a complete input are left over. -/
theorem run_append {p : Reader ε α} {bs : Bytes} {a : α} (h : p.run bs = .ok (a, []))
    (ext : Bytes) : p.run (bs ++ ext) = .ok (a, ext) := by
  rcases p.prefixLocal h with ⟨w, hw, hlocal⟩
  rw [List.append_nil] at hw
  rw [hw]
  exact hlocal ext

/-- No proper prefix of a complete input is complete. -/
theorem not_complete_of_prefix {p : Reader ε α} {bs cut : Bytes} {a a' : α}
    (h : p.run (bs ++ cut) = .ok (a, [])) (hcut : cut ≠ []) :
    p.run bs ≠ .ok (a', []) := by
  intro hshort
  rw [run_append hshort cut] at h
  simp only [Except.ok.injEq, Prod.mk.injEq] at h
  exact hcut h.2

end Reader

/-! ## Writers -/

/-- The bytes a serializer produced, or nothing when it failed. -/
structure Writer where
  output : Option Bytes
deriving DecidableEq, Repr

namespace Writer

/-- Write a byte string. -/
def bytes (bs : Bytes) : Writer := ⟨some bs⟩

/-- A serializer that fails. -/
def fail : Writer := ⟨none⟩

/-- Write one output after another. -/
protected def append (w v : Writer) : Writer :=
  ⟨match w.output, v.output with
    | some a, some b => some (a ++ b)
    | _, _ => none⟩

instance : Append Writer := ⟨Writer.append⟩

/-- Write a list of items one after another. -/
def each {α : Type u} (f : α → Writer) : List α → Writer
  | [] => bytes []
  | x :: xs => f x ++ each f xs

@[simp] theorem output_bytes (bs : Bytes) : (bytes bs).output = some bs := rfl

@[simp] theorem output_fail : fail.output = none := rfl

theorem output_append_eq_some {w v : Writer} {bs : Bytes} :
    (w ++ v).output = some bs ↔
      ∃ a b, w.output = some a ∧ v.output = some b ∧ bs = a ++ b := by
  show (Writer.append w v).output = some bs ↔ _
  unfold Writer.append
  cases w.output with
  | none => simp
  | some a =>
    cases v.output with
    | none => simp
    | some b => simp [eq_comm]

theorem append_assoc (w v u : Writer) : w ++ v ++ u = w ++ (v ++ u) := by
  rcases w with ⟨w⟩
  rcases v with ⟨v⟩
  rcases u with ⟨u⟩
  show Writer.append (Writer.append _ _) _ = Writer.append _ (Writer.append _ _)
  cases w <;> cases v <;> cases u <;> simp [Writer.append]

@[simp] theorem append_nil (w : Writer) : w ++ bytes [] = w := by
  rcases w with ⟨w⟩
  show Writer.append _ _ = _
  cases w <;> simp [Writer.append, bytes]

@[simp] theorem nil_append (w : Writer) : bytes [] ++ w = w := by
  rcases w with ⟨w⟩
  show Writer.append _ _ = _
  cases w <;> simp [Writer.append, bytes]

/-- A writer that fails makes the whole output fail. -/
@[simp] theorem fail_append (w : Writer) : fail ++ w = fail := by
  show Writer.append _ _ = _
  simp [Writer.append, fail]

@[simp] theorem append_fail (w : Writer) : w ++ fail = fail := by
  show Writer.append _ _ = _
  simp [Writer.append, fail]

end Writer

/-! ## Reading back -/

/-- Whatever the reader accepts of the writer's output, it consumes that output
exactly and its value satisfies {lit}`Q`. -/
def ReadsBack {ε : Type u} {α : Type v} (p : Reader ε α) (w : Writer) (Q : α → Prop) :
    Prop :=
  ∀ bs, w.output = some bs → ∀ rest a rest',
    p.run (bs ++ rest) = .ok (a, rest') → rest' = rest ∧ Q a

namespace ReadsBack

variable {ε : Type u} {α β : Type v}

theorem mono {p : Reader ε α} {w : Writer} {Q R : α → Prop} (h : ReadsBack p w Q)
    (hQR : ∀ a, Q a → R a) : ReadsBack p w R := by
  intro bs hw rest a rest' hrun
  rcases h bs hw rest a rest' hrun with ⟨hrest, hQ⟩
  exact ⟨hrest, hQR a hQ⟩

theorem pure {a : α} {Q : α → Prop} (h : Q a) :
    ReadsBack (pure a : Reader ε α) (.bytes []) Q := by
  intro bs hw rest a' rest' hrun
  simp only [Writer.output_bytes, Option.some.injEq] at hw
  subst hw
  simp only [Reader.run_pure, List.nil_append, Except.ok.injEq, Prod.mk.injEq] at hrun
  rcases hrun with ⟨rfl, rfl⟩
  exact ⟨rfl, h⟩

theorem fail (e : ε) (w : Writer) (Q : α → Prop) :
    ReadsBack (Reader.fail e : Reader ε α) w Q := by
  intro bs _ rest a rest' hrun
  simp at hrun

theorem ofFail (p : Reader ε α) (Q : α → Prop) : ReadsBack p .fail Q := by
  intro bs hw
  simp at hw

theorem ofExcept {r : Except ε α} {Q : α → Prop} (h : ∀ a, r = .ok a → Q a) :
    ReadsBack (Reader.ofExcept r) (.bytes []) Q := by
  cases r with
  | ok a => exact pure (h a rfl)
  | error e => exact fail e _ Q

/-- Sequencing: the second reader may use what the first one established. -/
theorem bind {p : Reader ε α} {f : α → Reader ε β} {w v : Writer} {Q : α → Prop}
    {R : β → Prop} (hp : ReadsBack p w Q) (hf : ∀ a, Q a → ReadsBack (f a) v R) :
    ReadsBack (p >>= f) (w ++ v) R := by
  intro bs hw rest b rest' hrun
  rcases Writer.output_append_eq_some.mp hw with ⟨front, back, hfront, hback, rfl⟩
  rcases Reader.run_bind_eq_ok hrun with ⟨a, mid, hpa, hfb⟩
  rw [List.append_assoc] at hpa
  rcases hp front hfront _ a mid hpa with ⟨rfl, hQ⟩
  exact hf a hQ back hback rest b rest' hfb

/-- Sequencing after a reader that gives back the value written. -/
theorem bind_eq {p : Reader ε α} {f : α → Reader ε β} {w v : Writer} {x : α}
    {R : β → Prop} (hp : ReadsBack p w (· = x)) (hf : ReadsBack (f x) v R) :
    ReadsBack (p >>= f) (w ++ v) R := by
  apply bind hp
  rintro a rfl
  exact hf

/-- A last reader whose value is only repackaged. -/
theorem bind_pure {p : Reader ε α} {g : α → β} {w : Writer} {Q : α → Prop}
    {R : β → Prop} (hp : ReadsBack p w Q) (hg : ∀ a, Q a → R (g a)) :
    ReadsBack (p >>= fun a => Pure.pure (g a)) w R := by
  intro bs hw rest b rest' hrun
  rcases Reader.run_bind_eq_ok hrun with ⟨a, mid, hpa, hpure⟩
  simp only [Reader.run_pure, Except.ok.injEq, Prod.mk.injEq] at hpure
  rcases hpure with ⟨rfl, rfl⟩
  rcases hp bs hw rest a mid hpa with ⟨hrest, hQ⟩
  exact ⟨hrest, hg a hQ⟩

/-- A check that consumes nothing. -/
theorem ite {c : Prop} [Decidable c] {p q : Reader ε α} {w : Writer} {Q : α → Prop}
    (hp : c → ReadsBack p w Q) (hq : ¬ c → ReadsBack q w Q) :
    ReadsBack (if c then p else q) w Q := by
  by_cases hc : c
  · rw [if_pos hc]
    exact hp hc
  · rw [if_neg hc]
    exact hq hc

theorem readExact (eof : ε) (w : Bytes) :
    ReadsBack (Reader.readExact eof w.length) (.bytes w) (· = w) := by
  intro bs hw rest a rest' hrun
  simp only [Writer.output_bytes, Option.some.injEq] at hw
  subst hw
  rw [Reader.run_readExact_append] at hrun
  simp only [Except.ok.injEq, Prod.mk.injEq] at hrun
  exact ⟨hrun.2.symm, hrun.1.symm⟩

theorem readArray (eof : ε) {n : Nat} (w : List.Vector UInt8 n) :
    ReadsBack (Reader.readArray eof n) (.bytes w.toList) (· = w) := by
  intro bs hw rest a rest' hrun
  simp only [Writer.output_bytes, Option.some.injEq] at hw
  subst hw
  rw [Reader.run_readArray_append] at hrun
  simp only [Except.ok.injEq, Prod.mk.injEq] at hrun
  exact ⟨hrun.2.symm, hrun.1.symm⟩

/-- A counted list is read back item by item. -/
theorem readMany {γ : Type*} {p : Reader ε α} {f : γ → Writer} {R : γ → α → Prop}
    (xs : List γ) (h : ∀ x, ReadsBack p (f x) (R x)) :
    ReadsBack (Reader.readMany p xs.length) (Writer.each f xs)
      (fun ys => List.Forall₂ R xs ys.toList) := by
  induction xs with
  | nil => exact pure List.Forall₂.nil
  | cons x xs ih =>
    apply bind (h x)
    intro a ha
    apply bind_pure ih
    intro as has
    rw [List.Vector.toList_cons]
    exact List.Forall₂.cons ha has

/-- A counted list whose items are read back exactly. -/
theorem readMany_eq {p : Reader ε α} {f : α → Writer} (xs : List α)
    (h : ∀ x, ReadsBack p (f x) (· = x)) :
    ReadsBack (Reader.readMany p xs.length) (Writer.each f xs) (·.toList = xs) := by
  refine (readMany xs (R := fun x a => a = x) h).mono ?_
  intro ys hys
  rw [← List.forall₂_eq_eq_eq]
  exact hys.flip

end ReadsBack

/-! ## Postconditions -/

/-- Whatever the reader accepts satisfies {lit}`Q`. -/
def Ensures {ε : Type u} {α : Type v} (p : Reader ε α) (Q : α → Prop) : Prop :=
  ∀ bs a rest, p.run bs = .ok (a, rest) → Q a

namespace Ensures

variable {ε : Type u} {α β : Type v}

theorem trivial (p : Reader ε α) : Ensures p fun _ => True := by
  intro bs a rest _
  exact True.intro

theorem pure {a : α} {Q : α → Prop} (h : Q a) : Ensures (pure a : Reader ε α) Q := by
  intro bs a' rest hrun
  cases hrun
  exact h

theorem fail (e : ε) (Q : α → Prop) : Ensures (Reader.fail e) Q := by
  intro bs a rest hrun
  cases hrun

theorem ofExcept (r : Except ε α) : Ensures (Reader.ofExcept r) (r = .ok ·) := by
  cases r with
  | ok a => exact pure rfl
  | error e => exact fail e _

/-- Sequencing: the second reader may use what the first one established. -/
theorem bind {p : Reader ε α} {f : α → Reader ε β} {Q : α → Prop} {R : β → Prop}
    (hp : Ensures p Q) (hf : ∀ a, Q a → Ensures (f a) R) : Ensures (p >>= f) R := by
  intro bs b rest hrun
  rcases Reader.run_bind_eq_ok hrun with ⟨a, mid, hpa, hfb⟩
  exact hf a (hp bs a mid hpa) mid b rest hfb

/-- Sequencing after a reader whose value does not matter. -/
theorem skip {p : Reader ε α} {f : α → Reader ε β} {R : β → Prop}
    (hf : ∀ a, Ensures (f a) R) : Ensures (p >>= f) R := by
  refine bind (trivial p) ?_
  intro a _
  exact hf a

theorem ite {c : Prop} [Decidable c] {p q : Reader ε α} {Q : α → Prop}
    (hp : c → Ensures p Q) (hq : ¬ c → Ensures q Q) : Ensures (if c then p else q) Q := by
  by_cases hc : c
  · rw [if_pos hc]
    exact hp hc
  · rw [if_neg hc]
    exact hq hc

theorem readExact (eof : ε) (n : Nat) :
    Ensures (Reader.readExact eof n) (List.length · = n) := by
  intro bs w rest hrun
  simp only [Reader.readExact] at hrun
  split_ifs at hrun with hn
  cases hrun
  exact List.length_take_of_le hn

/-- Every item of a counted list is one that its reader accepts. -/
theorem readMany {p : Reader ε α} {Q : α → Prop} (hp : Ensures p Q) (n : Nat) :
    Ensures (Reader.readMany p n) fun xs => ∀ x ∈ xs.toList, Q x := by
  induction n with
  | zero =>
    apply pure
    intro x hx
    cases hx
  | succ n ih =>
    refine bind hp ?_
    intro x hx
    refine bind ih ?_
    intro xs hxs
    refine pure ?_
    intro y hy
    rw [List.Vector.toList_cons, List.mem_cons] at hy
    cases hy with
    | inl heq => exact heq ▸ hx
    | inr hmem => exact hxs y hmem

end Ensures

namespace Writer

/-- The serializer succeeds. -/
def Succeeds (w : Writer) : Prop := ∃ bs, w.output = some bs

theorem succeeds_bytes (bs : Bytes) : (bytes bs).Succeeds := ⟨bs, rfl⟩

theorem Succeeds.append {w v : Writer} (hw : w.Succeeds) (hv : v.Succeeds) :
    (w ++ v).Succeeds := by
  rcases hw with ⟨a, ha⟩
  rcases hv with ⟨b, hb⟩
  exact ⟨a ++ b, output_append_eq_some.mpr ⟨a, b, ha, hb, rfl⟩⟩

theorem succeeds_each {α : Type u} {f : α → Writer} {xs : List α}
    (h : ∀ x ∈ xs, (f x).Succeeds) : (each f xs).Succeeds := by
  induction xs with
  | nil => exact succeeds_bytes []
  | cons x xs ih =>
    apply Succeeds.append (h x List.mem_cons_self)
    apply ih
    intro y hy
    exact h y (List.mem_cons_of_mem x hy)

end Writer

end Library
end ZeroShim
