import Mathlib.Data.List.Basic
import Mathlib.Data.List.TakeDrop
import Mathlib.Data.Vector.Defs
import Mathlib.Tactic.Ring

/-!
# Byte strings, checked slices and fixed-width integers

Byte buffers are lists of octets.  Slicing and copying are *checked*: an
operation outside its buffer traps instead of returning a default, so that a
theorem can say that a routine never leaves its buffer.

Main results:

- Theorems {lit}`beNat_beBytes` and {lit}`beBytes_beNat`: big-endian integers
  round-trip in both directions.
- Theorem {lit}`copyFromSlice_padTo`: filling a zeroed buffer from the left
  appends to the written prefix.
-/

namespace ZeroShim
namespace Library

universe u v

/-- A byte string. -/
abbrev Bytes := List UInt8

/-- A run of zero bytes. -/
def zeros (n : Nat) : Bytes := List.replicate n 0

@[simp] theorem length_zeros (n : Nat) : (zeros n).length = n := by
  simp [zeros]

@[simp] theorem drop_zeros (m n : Nat) : (zeros n).drop m = zeros (n - m) := by
  simp [zeros]

/-- A written prefix in a buffer of {lit}`size` bytes that started out zero. -/
def padTo (size : Nat) (w : Bytes) : Bytes := w ++ zeros (size - w.length)

@[simp] theorem padTo_nil (size : Nat) : padTo size [] = zeros size := rfl

theorem length_padTo {size : Nat} {w : Bytes} (h : w.length ≤ size) :
    (padTo size w).length = size := by
  rw [padTo, List.length_append, length_zeros]
  omega

/-- Zeros written after a prefix are the padding that was there already. -/
theorem padTo_append_zeros {size n : Nat} {w : Bytes} (h : w.length + n ≤ size) :
    padTo size (w ++ zeros n) = padTo size w := by
  have hsplit : size - w.length = n + (size - (w.length + n)) := by omega
  simp only [padTo, List.length_append, length_zeros, List.append_assoc]
  rw [hsplit, zeros, zeros, zeros, List.replicate_append_replicate]

/-! ## Fields of a buffer -/

/-- The {lit}`n` bytes of a buffer that start at offset {lit}`i`. -/
def field (b : Bytes) (i n : Nat) : Bytes := (b.drop i).take n

@[simp] theorem length_field (b : Bytes) (i n : Nat) :
    (field b i n).length = min n (b.length - i) := by
  simp [field]

/-- A field that lies inside its buffer has its nominal width. -/
theorem length_field_of_le {b : Bytes} {i n : Nat} (h : i + n ≤ b.length) :
    (field b i n).length = n := by
  rw [length_field]
  omega

/-- A segment stands at offset {lit}`i` exactly when the field there equals it. -/
theorem prefix_drop_iff (a b : Bytes) (i : Nat) :
    a <+: b.drop i ↔ field b i a.length = a := by
  rw [List.prefix_iff_eq_take, field, eq_comm]

/-- A concatenation stands at offset {lit}`i` exactly when its first segment
does and the rest follows it. -/
theorem append_prefix_drop_iff (a c b : Bytes) (i : Nat) :
    a ++ c <+: b.drop i ↔
      field b i a.length = a ∧ c <+: b.drop (i + a.length) := by
  constructor
  · rintro ⟨rest, hrest⟩
    have hfield : field b i a.length = a := by
      rw [field, ← hrest, List.append_assoc, List.take_left]
    refine ⟨hfield, rest, ?_⟩
    rw [← List.drop_drop, ← hrest, List.append_assoc, List.drop_left]
  · rintro ⟨hfield, rest, hrest⟩
    refine ⟨rest, ?_⟩
    rw [← List.drop_drop] at hrest
    rw [List.append_assoc, hrest]
    calc a ++ (b.drop i).drop a.length
        = (b.drop i).take a.length ++ (b.drop i).drop a.length := by
          rw [← field, hfield]
      _ = b.drop i := List.take_append_drop _ _

/-! ## Checked access -/

/-- Why a checked computation stopped: it left its buffer, or it returned one
of its own errors. -/
inductive Trap (ε : Type u) where
  | outOfRange
  | raised (e : ε)
deriving DecidableEq, Repr

/-- A computation over buffers that may trap. -/
abbrev Checked (ε : Type u) (α : Type v) := Except (Trap ε) α

section Checked

variable {ε : Type u}

/-- Stop with an error of the routine itself. -/
def raise {α : Type v} (e : ε) : Checked ε α := .error (.raised e)

/-- The range {lit}`b[i..j]`. -/
def slice (b : Bytes) (i j : Nat) : Checked ε Bytes :=
  if i ≤ j ∧ j ≤ b.length then .ok (field b i (j - i)) else .error .outOfRange

/-- The byte {lit}`b[i]`. -/
def byteAt (b : Bytes) (i : Nat) : Checked ε UInt8 :=
  match b[i]? with
  | some x => .ok x
  | none => .error .outOfRange

/-- Overwrite the range {lit}`b[i..j]`; the source must have the same length. -/
def copyFromSlice (b : Bytes) (i j : Nat) (src : Bytes) : Checked ε Bytes :=
  if i ≤ j ∧ j ≤ b.length ∧ src.length = j - i then
    .ok (b.take i ++ src ++ b.drop j)
  else
    .error .outOfRange

/-- Overwrite the byte {lit}`b[i]`. -/
def setByte (b : Bytes) (i : Nat) (x : UInt8) : Checked ε Bytes :=
  if i < b.length then .ok (b.set i x) else .error .outOfRange

theorem slice_eq_ok (b : Bytes) {i j : Nat} (hij : i ≤ j) (hj : j ≤ b.length) :
    slice (ε := ε) b i j = .ok (field b i (j - i)) := by
  simp [slice, hij, hj]

theorem byteAt_eq_ok {b : Bytes} {i : Nat} (h : i < b.length) :
    byteAt (ε := ε) b i = .ok b[i] := by
  simp [byteAt, List.getElem?_eq_getElem h]

/-- Writing the next range of a padded buffer appends to the written prefix. -/
theorem copyFromSlice_padTo (w src : Bytes) {i j size : Nat} (hi : w.length = i)
    (hj : i + src.length = j) (hfit : j ≤ size) :
    copyFromSlice (ε := ε) (padTo size w) i j src = .ok (padTo size (w ++ src)) := by
  subst hi hj
  have hlen : (padTo size w).length = size := length_padTo (by omega)
  have hdrop : (padTo size w).drop (w.length + src.length) =
      zeros (size - (w ++ src).length) := by
    simp only [padTo, List.drop_append, drop_zeros, List.length_append]
    rw [List.drop_eq_nil_of_le (by omega), List.nil_append]
    congr 1
    omega
  have htake : (padTo size w).take w.length = w := by
    simp [padTo]
  rw [copyFromSlice, hlen, hdrop, htake, if_pos ⟨by omega, hfit, by omega⟩]
  rfl

/-- Writing the next byte of a padded buffer appends to the written prefix. -/
theorem setByte_padTo (w : Bytes) (x : UInt8) {i size : Nat} (hi : w.length = i)
    (hfit : i < size) :
    setByte (ε := ε) (padTo size w) i x = .ok (padTo size (w ++ [x])) := by
  subst hi
  have hlen : (padTo size w).length = size := length_padTo (by omega)
  have hpad : size - w.length = (size - (w.length + 1)) + 1 := by omega
  rw [setByte, hlen, if_pos hfit, padTo, padTo, List.length_append,
    List.length_singleton, hpad]
  simp [zeros, List.replicate_succ]

/-- A one-byte field is the byte at its offset. -/
theorem field_one {b : Bytes} {i : Nat} (h : i < b.length) : field b i 1 = [b[i]] := by
  rw [field, List.drop_eq_getElem_cons h, List.take_succ_cons, List.take_zero]

end Checked

/-! ## Fixed-width integers -/

/-- The {lit}`k` low-order octets of a natural number, least significant first. -/
def leBytes : Nat → Nat → Bytes
  | 0, _ => []
  | k + 1, n => UInt8.ofNat n :: leBytes k (n / 256)

/-- The number written by a little-endian byte string. -/
def leNat : Bytes → Nat
  | [] => 0
  | x :: xs => x.toNat + 256 * leNat xs

/-- The {lit}`k` low-order octets of a natural number, most significant first. -/
def beBytes (k n : Nat) : Bytes := (leBytes k n).reverse

/-- The number written by a big-endian byte string. -/
def beNat (bs : Bytes) : Nat := leNat bs.reverse

@[simp] theorem length_leBytes (k n : Nat) : (leBytes k n).length = k := by
  induction k generalizing n with
  | zero => rfl
  | succ k ih => simp [leBytes, ih]

@[simp] theorem length_beBytes (k n : Nat) : (beBytes k n).length = k := by
  simp [beBytes]

theorem leNat_lt (bs : Bytes) : leNat bs < 256 ^ bs.length := by
  induction bs with
  | nil => simp [leNat]
  | cons x xs ih =>
    have hx : x.toNat < 256 := x.toNat_lt
    simp only [leNat, List.length_cons, pow_succ]
    omega

theorem leNat_leBytes {k n : Nat} (h : n < 256 ^ k) : leNat (leBytes k n) = n := by
  induction k generalizing n with
  | zero =>
    have hn : n = 0 := by simpa using h
    simp [leBytes, leNat, hn]
  | succ k ih =>
    have hdiv : n / 256 < 256 ^ k := by
      rw [pow_succ] at h
      omega
    simp only [leBytes, leNat, ih hdiv, UInt8.toNat_ofNat']
    omega

theorem leBytes_leNat (bs : Bytes) : leBytes bs.length (leNat bs) = bs := by
  induction bs with
  | nil => rfl
  | cons x xs ih =>
    have hx : x.toNat < 256 := x.toNat_lt
    have hhead : UInt8.ofNat (x.toNat + 256 * leNat xs) = x := by
      apply UInt8.toNat_inj.mp
      rw [UInt8.toNat_ofNat']
      omega
    have htail : (x.toNat + 256 * leNat xs) / 256 = leNat xs := by
      omega
    simp [leBytes, leNat, hhead, htail, ih]

theorem beNat_lt {bs : Bytes} {k : Nat} (h : bs.length = k) : beNat bs < 256 ^ k := by
  have hlt := leNat_lt bs.reverse
  rwa [List.length_reverse, h] at hlt

/-- Reading back a big-endian integer that fits its width. -/
theorem beNat_beBytes {k n : Nat} (h : n < 256 ^ k) : beNat (beBytes k n) = n := by
  simp [beNat, beBytes, leNat_leBytes h]

/-- Rewriting a big-endian field with the number it holds changes nothing. -/
theorem beBytes_beNat {bs : Bytes} {k : Nat} (h : bs.length = k) :
    beBytes k (beNat bs) = bs := by
  have hle := leBytes_leNat bs.reverse
  rw [List.length_reverse, h] at hle
  simp [beBytes, beNat, hle]

end Library
end ZeroShim
