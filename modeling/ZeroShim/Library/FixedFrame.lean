import ZeroShim.Library.Bytes

/-!
# Fixed-size frame codecs

A fixed-size frame writes a value into the leading part of a buffer of one
size and leaves the rest zero; its reader is strict about the leading part and
never looks at the padding.

Main results:

- Theorem {lit}`FixedFrame.of_layout`: a codec described by the bytes it
  writes is exact.
- Theorem {lit}`FixedFrame.exists_frame`: what fits has a frame, which decodes to it.
-/

namespace ZeroShim
namespace Library

universe u v

variable {ε : Type u} {α : Type v}

/-- Exactness of a fixed-size frame codec.  {lit}`declared x` is the number of
leading bytes that carry the value {lit}`x`. -/
structure FixedFrame (encode : α → Checked ε Bytes) (decode : Bytes → Checked ε α)
    (size : Nat) (declared : α → Nat) (inBudget : α → Prop)
    (wellFormed : Bytes → Prop) : Prop where
  encode_isOk : ∀ x, (∃ b, encode x = .ok b) ↔ inBudget x
  encode_inRange : ∀ x, encode x ≠ .error .outOfRange
  length_encode : ∀ x b, encode x = .ok b → b.length = size
  encode_padding : ∀ x b, encode x = .ok b →
    b.drop (declared x) = zeros (size - declared x)
  decode_encode : ∀ x b, encode x = .ok b → decode b = .ok x
  decode_isOk : ∀ b, (∃ x, decode b = .ok x) ↔ wellFormed b
  decode_inRange : ∀ b, decode b ≠ .error .outOfRange
  encode_decode : ∀ b x, decode b = .ok x →
    encode x = .ok (padTo size (b.take (declared x)))

namespace FixedFrame

variable {encode : α → Checked ε Bytes} {decode : Bytes → Checked ε α} {size : Nat}
  {inBudget : α → Prop} {wellFormed : Bytes → Prop}

/-- A codec that writes {lit}`layout x` followed by zeros, and that reads
{lit}`x` exactly from the buffers of the right size that start with
{lit}`layout x`, is an exact fixed-size frame. -/
theorem of_layout {layout : α → Bytes}
    (hfit : ∀ x, inBudget x → (layout x).length ≤ size)
    (hencode : ∀ x, inBudget x → encode x = .ok (padTo size (layout x)))
    (hover : ∀ x, ¬ inBudget x → ∃ e, encode x = .error (.raised e))
    (hdecode : ∀ b x, decode b = .ok x ↔
      b.length = size ∧ inBudget x ∧ layout x <+: b)
    (hdecodeInRange : ∀ b, decode b ≠ .error .outOfRange)
    (hwellFormed : ∀ b, (∃ x, decode b = .ok x) ↔ wellFormed b) :
    FixedFrame encode decode size (fun x => (layout x).length) inBudget wellFormed := by
  have hbudget : ∀ x b, encode x = .ok b → inBudget x := by
    intro x b henc
    by_contra hno
    rcases hover x hno with ⟨e, he⟩
    simp [he] at henc
  have hshape : ∀ x b, encode x = .ok b → b = padTo size (layout x) := by
    intro x b henc
    have hok := hencode x (hbudget x b henc)
    rw [hok] at henc
    exact (Except.ok.inj henc).symm
  constructor
  · intro x
    constructor
    · rintro ⟨b, henc⟩
      exact hbudget x b henc
    · intro hin
      exact ⟨_, hencode x hin⟩
  · intro x htrap
    by_cases hin : inBudget x
    · simp [hencode x hin] at htrap
    · rcases hover x hin with ⟨e, he⟩
      simp [he] at htrap
  · intro x b henc
    rw [hshape x b henc, length_padTo (hfit x (hbudget x b henc))]
  · intro x b henc
    rw [hshape x b henc]
    simp [padTo]
  · intro x b henc
    have hin := hbudget x b henc
    rw [hshape x b henc, hdecode]
    exact ⟨length_padTo (hfit x hin), hin, List.prefix_append _ _⟩
  · exact hwellFormed
  · exact hdecodeInRange
  · intro b x hdec
    rcases (hdecode b x).mp hdec with ⟨-, hin, hprefix⟩
    rw [hencode x hin, ← List.prefix_iff_eq_take.mp hprefix]

/-- What fits comes back from its frame. -/
theorem exists_frame {declared : α → Nat}
    (h : FixedFrame encode decode size declared inBudget wellFormed) {x : α} (hx : inBudget x) :
    ∃ b, encode x = .ok b ∧ decode b = .ok x := by
  rcases (h.encode_isOk x).mpr hx with ⟨b, hb⟩
  exact ⟨b, hb, h.decode_encode x b hb⟩

end FixedFrame

end Library
end ZeroShim
