import ZeroShim.Library.Bytes

/-!
# Protocol buffer messages

A message on the wire is a sequence of numbered fields, each a base-128 integer or
a length-delimited byte string.  What a message type makes of its fields is up to
its user.

Main results:

- Theorem {lit}`decodeVarint_encodeVarint`: integers round-trip before any suffix.
- Theorem {lit}`decodeFields_encodeFields`: field sequences round-trip.
-/

namespace ZeroShim
namespace Library
namespace Protobuf

/-! ## Integers -/

/-- Seven bits a byte, least significant first; {lit}`fuel` bounds the digits. -/
def encodeVarintAux : Nat → Nat → Bytes
  | 0, _ => []
  | fuel + 1, n =>
    if n < 128 then [UInt8.ofNat n]
    else UInt8.ofNat (n % 128 + 128) :: encodeVarintAux fuel (n / 128)

def encodeVarint (n : Nat) : Bytes := encodeVarintAux (n + 1) n

/-- Read one integer and leave the rest. -/
def decodeVarint : Bytes → Option (Nat × Bytes)
  | [] => none
  | b :: bs =>
    if b.toNat < 128 then some (b.toNat, bs)
    else
      match decodeVarint bs with
      | some (n, rest) => some (b.toNat - 128 + 128 * n, rest)
      | none => none

theorem decodeVarint_encodeVarintAux {fuel n : Nat} (h : n < fuel) (rest : Bytes) :
    decodeVarint (encodeVarintAux fuel n ++ rest) = some (n, rest) := by
  induction fuel generalizing n with
  | zero => omega
  | succ fuel ih =>
    unfold encodeVarintAux
    by_cases hsmall : n < 128
    · have hbyte : (UInt8.ofNat n).toNat = n := by
        rw [UInt8.toNat_ofNat']
        omega
      rw [if_pos hsmall, List.singleton_append, decodeVarint, hbyte, if_pos hsmall]
    · have hbyte : (UInt8.ofNat (n % 128 + 128)).toNat = n % 128 + 128 := by
        rw [UInt8.toNat_ofNat']
        omega
      rw [if_neg hsmall, List.cons_append, decodeVarint, hbyte, if_neg (by omega),
        ih (by omega)]
      simp only [Option.some.injEq, Prod.mk.injEq, and_true]
      omega

theorem decodeVarint_encodeVarint (n : Nat) (rest : Bytes) :
    decodeVarint (encodeVarint n ++ rest) = some (n, rest) :=
  decodeVarint_encodeVarintAux (Nat.lt_succ_self n) rest

theorem encodeVarint_ne_nil (n : Nat) : encodeVarint n ≠ [] := by
  unfold encodeVarint encodeVarintAux
  split_ifs <;> simp

theorem length_encodeVarintAux (fuel n : Nat) : (encodeVarintAux fuel n).length ≤ fuel := by
  induction fuel generalizing n with
  | zero => simp [encodeVarintAux]
  | succ fuel ih =>
    unfold encodeVarintAux
    split_ifs with hsmall
    · simp
    · rw [List.length_cons]
      exact Nat.succ_le_succ (ih _)

/-- A generous bound. -/
theorem length_encodeVarint (n : Nat) : (encodeVarint n).length ≤ n + 1 :=
  length_encodeVarintAux _ _

/-! ## Fields -/

/-- The value of a field. -/
inductive Value where
  | varint (n : Nat)
  | bytes (bs : Bytes)
deriving DecidableEq, Repr

/-- A numbered field. -/
structure Field where
  number : Nat
  value : Value
deriving DecidableEq, Repr

/-- Write a field: its key and its value. -/
def encodeField (f : Field) : Bytes :=
  match f.value with
  | .varint n => encodeVarint (8 * f.number) ++ encodeVarint n
  | .bytes bs => encodeVarint (8 * f.number + 2) ++ (encodeVarint bs.length ++ bs)

/-- Read a field of either wire type. -/
def decodeField (bs : Bytes) : Option (Field × Bytes) := do
  let (key, bs) ← decodeVarint bs
  let (n, bs) ← decodeVarint bs
  if key % 8 = 0 then
    return (⟨key / 8, .varint n⟩, bs)
  else if key % 8 = 2 ∧ n ≤ bs.length then
    return (⟨key / 8, .bytes (bs.take n)⟩, bs.drop n)
  else
    none

def encodeFields (fs : List Field) : Bytes := fs.flatMap encodeField

/-- Read all fields; every field takes at least one byte. -/
def decodeFieldsAux : Nat → Bytes → Option (List Field)
  | _, [] => some []
  | 0, _ :: _ => none
  | fuel + 1, b :: bs => do
    let (f, rest) ← decodeField (b :: bs)
    let fs ← decodeFieldsAux fuel rest
    return f :: fs

def decodeFields (bs : Bytes) : Option (List Field) := decodeFieldsAux bs.length bs

theorem decodeField_encodeField (f : Field) (rest : Bytes) :
    decodeField (encodeField f ++ rest) = some (f, rest) := by
  rcases f with ⟨number, value⟩
  cases value with
  | varint n =>
    simp only [encodeField, decodeField, List.append_assoc, decodeVarint_encodeVarint,
      Option.bind_eq_bind, Option.bind_some]
    rw [if_pos (by omega), Nat.mul_div_cancel_left _ (by decide)]
    rfl
  | bytes bs =>
    have hkey : (8 * number + 2) / 8 = number := by omega
    simp only [encodeField, decodeField, List.append_assoc, decodeVarint_encodeVarint,
      Option.bind_eq_bind, Option.bind_some]
    rw [if_neg (by omega), if_pos ⟨by omega, by rw [List.length_append]; omega⟩, hkey,
      List.take_left, List.drop_left]
    rfl

theorem encodeField_ne_nil (f : Field) : encodeField f ≠ [] := by
  unfold encodeField
  cases f.value <;> simp [encodeVarint_ne_nil]

theorem length_le_encodeFields (fs : List Field) : fs.length ≤ (encodeFields fs).length := by
  induction fs with
  | nil => simp
  | cons f fs ih =>
    have hfield := List.length_pos_iff.mpr (encodeField_ne_nil f)
    simp only [encodeFields, List.flatMap_cons, List.length_append, List.length_cons] at ih ⊢
    omega

theorem decodeFieldsAux_encodeFields {fuel : Nat} (fs : List Field) (h : fs.length ≤ fuel) :
    decodeFieldsAux fuel (encodeFields fs) = some fs := by
  induction fs generalizing fuel with
  | nil => cases fuel <;> rfl
  | cons f fs ih =>
    cases fuel with
    | zero => simp at h
    | succ fuel =>
      have hread := decodeField_encodeField f (encodeFields fs)
      have hbytes : encodeFields (f :: fs) = encodeField f ++ encodeFields fs := rfl
      rw [hbytes]
      cases hcons : encodeField f ++ encodeFields fs with
      | nil => exact absurd (List.append_eq_nil_iff.mp hcons).1 (encodeField_ne_nil f)
      | cons b bs =>
        rw [hcons] at hread
        rw [decodeFieldsAux, hread]
        simp only [Option.bind_eq_bind, Option.bind_some,
          ih (by simpa using h), Option.pure_def]

theorem decodeFields_encodeFields (fs : List Field) :
    decodeFields (encodeFields fs) = some fs :=
  decodeFieldsAux_encodeFields fs (length_le_encodeFields fs)

/-! ## Messages -/

/-- The byte string of a field; the last one counts, and an absent one is empty. -/
def bytesField (number : Nat) (fs : List Field) : Bytes :=
  fs.foldl (fun found f =>
    match f.value with
    | .bytes bs => if f.number = number then bs else found
    | .varint _ => found) []

/-- The integer of a field; the last one counts, and an absent one is zero. -/
def varintField (number : Nat) (fs : List Field) : Nat :=
  fs.foldl (fun found f =>
    match f.value with
    | .varint n => if f.number = number then n else found
    | .bytes _ => found) 0

/-- A byte string field, which is left out when it is empty. -/
def ofBytes (number : Nat) (bs : Bytes) : List Field :=
  if bs = [] then [] else [⟨number, .bytes bs⟩]

/-- An integer field, which is left out when it is zero. -/
def ofVarint (number n : Nat) : List Field := if n = 0 then [] else [⟨number, .varint n⟩]

/-- A message of one byte string and one integer. -/
theorem bytesField_ofBytes_ofVarint (i j : Nat) (bs : Bytes) (n : Nat) :
    bytesField i (ofBytes i bs ++ ofVarint j n) = bs := by
  unfold bytesField ofBytes ofVarint
  split_ifs with hbs hn hn <;> simp [hbs]

theorem varintField_ofBytes_ofVarint (i j : Nat) (bs : Bytes) (n : Nat) :
    varintField j (ofBytes i bs ++ ofVarint j n) = n := by
  unfold varintField ofBytes ofVarint
  split_ifs with hbs hn hn <;> simp [hn]

end Protobuf
end Library
end ZeroShim
