import ZeroShim.Library.Reader

/-!
# Writing back

What a reader consumed, from what it returned.  {lit}`WritesBack` says that a writer, given the
value that a reader accepted, writes the bytes that the reader consumed: every value has one
encoding, and the reader accepts no other.

Main results:

- Theorems {lit}`WritesBack.bind` and {lit}`WritesBack.readMany`: writing back composes over
  sequencing and over counted lists.
-/

namespace ZeroShim
namespace Library

universe u v

/-- Whatever the reader accepts, the writer writes what was written before, and then what the
reader consumed. -/
def WritesBack {ε : Type u} {α : Type v} (before : Writer) (p : Reader ε α) (f : α → Writer) :
    Prop :=
  ∀ bs a rest, p.run bs = .ok (a, rest) → ∀ front, before.output = some front →
    ∃ w, bs = w ++ rest ∧ (f a).output = some (front ++ w)

namespace WritesBack

variable {ε : Type u} {α β γ : Type v} {before : Writer}

/-- A reader that consumes nothing. -/
theorem pure {a : α} {f : α → Writer} (h : f a = before) :
    WritesBack before (pure a : Reader ε α) f := by
  intro bs a' rest hrun front hfront
  cases hrun
  exact ⟨[], rfl, by rw [h, hfront, List.append_nil]⟩

theorem fail (e : ε) (f : α → Writer) : WritesBack before (Reader.fail e) f := by
  intro bs a rest hrun
  cases hrun

theorem ofExcept {r : Except ε α} {f : α → Writer} (h : ∀ a, r = .ok a → f a = before) :
    WritesBack before (Reader.ofExcept r) f := by
  cases r with
  | ok a => exact pure (h a rfl)
  | error e => exact fail e f

/-- Sequencing: what the second reader consumed is written behind what the first one did. -/
theorem bind_of {p : Reader ε α} {q : α → Reader ε β} {f : α → Writer} {g : β → Writer}
    {Q : α → Prop} (hp : WritesBack (.bytes []) p f) (hQ : Ensures p Q)
    (hq : ∀ a, Q a → WritesBack (before ++ f a) (q a) g) : WritesBack before (p >>= q) g := by
  intro bs b rest hrun front hfront
  rcases Reader.run_bind_eq_ok hrun with ⟨a, mid, hpa, hqb⟩
  rcases hp bs a mid hpa [] rfl with ⟨w, hbs, hw⟩
  have hbefore : (before ++ f a).output = some (front ++ w) :=
    Writer.output_append_eq_some.mpr ⟨front, w, hfront, hw, rfl⟩
  rcases hq a (hQ bs a mid hpa) mid b rest hqb _ hbefore with ⟨v, hmid, hv⟩
  exact ⟨w ++ v, by rw [hbs, hmid, List.append_assoc], by rw [hv, List.append_assoc]⟩

theorem bind {p : Reader ε α} {q : α → Reader ε β} {f : α → Writer} {g : β → Writer}
    (hp : WritesBack (.bytes []) p f) (hq : ∀ a, WritesBack (before ++ f a) (q a) g) :
    WritesBack before (p >>= q) g :=
  hp.bind_of (.trivial p) fun a _ => hq a

/-- A last reader. -/
theorem last {p : Reader ε α} {f g : α → Writer} {Q : α → Prop}
    (hp : WritesBack (.bytes []) p f) (hQ : Ensures p Q)
    (h : ∀ a, Q a → g a = before ++ f a) : WritesBack before p g := by
  intro bs a rest hrun front hfront
  rcases hp bs a rest hrun [] rfl with ⟨w, hbs, hw⟩
  refine ⟨w, hbs, ?_⟩
  rw [h a (hQ bs a rest hrun)]
  exact Writer.output_append_eq_some.mpr ⟨front, w, hfront, hw, rfl⟩

/-- A last reader whose value is repackaged. -/
theorem bind_pure {p : Reader ε α} {g : α → β} {f : α → Writer} {h : β → Writer}
    (hp : WritesBack (.bytes []) p f) (heq : ∀ a, h (g a) = before ++ f a) :
    WritesBack before (p >>= fun a => Pure.pure (g a)) h :=
  hp.bind fun a => pure (heq a)

/-- A result computed elsewhere, which may be used. -/
theorem check {r : Except ε α} {q : α → Reader ε β} {g : β → Writer}
    (hq : ∀ a, r = .ok a → WritesBack before (q a) g) :
    WritesBack before (Reader.ofExcept r >>= q) g := by
  cases r with
  | ok a => exact hq a rfl
  | error e =>
    intro bs b rest hrun
    cases hrun

/-- A check that consumes nothing. -/
theorem ite {c : Prop} [Decidable c] {p q : Reader ε α} {f : α → Writer}
    (hp : c → WritesBack before p f) (hq : ¬ c → WritesBack before q f) :
    WritesBack before (if c then p else q) f := by
  by_cases hc : c
  · rw [if_pos hc]
    exact hp hc
  · rw [if_neg hc]
    exact hq hc

theorem readExact (eof : ε) (n : Nat) :
    WritesBack (.bytes []) (Reader.readExact eof n) Writer.bytes := by
  intro bs w rest hrun front hfront
  cases hfront
  simp only [Reader.readExact] at hrun
  split_ifs at hrun
  cases hrun
  exact ⟨bs.take n, (List.take_append_drop n bs).symm, rfl⟩

theorem readArray (eof : ε) (n : Nat) :
    WritesBack (.bytes []) (Reader.readArray eof n) fun w => .bytes w.toList := by
  intro bs w rest hrun front hfront
  cases hfront
  simp only [Reader.readArray] at hrun
  split_ifs at hrun
  cases hrun
  exact ⟨bs.take n, (List.take_append_drop n bs).symm, rfl⟩

/-- A counted list is written back item by item. -/
theorem readMany {p : Reader ε α} {f : α → Writer} (hp : WritesBack (.bytes []) p f) (n : Nat) :
    WritesBack (.bytes []) (Reader.readMany p n) fun xs => Writer.each f xs.toList := by
  induction n with
  | zero => exact pure rfl
  | succ n ih =>
    refine hp.bind fun x => ih.bind_pure fun xs => ?_
    rw [Writer.nil_append, List.Vector.toList_cons]
    rfl

end WritesBack

end Library
end ZeroShim
