import Mathlib.Data.List.Basic

/-!
# Bounded channels

A bounded first-in first-out channel with many senders and one receiver, whose
senders may reserve capacity ahead of sending.  The bound is a field, so no
operation can overfill the channel.

Main results:

- Theorems {lit}`queue_of_send`, {lit}`queue_of_sendReserved` and
  {lit}`queue_of_recv`: what each operation does to the queue.
- Theorems {lit}`send_map`, {lit}`sendReserved_map` and {lit}`recv_map`: the operations do
  not look at the items.
-/

namespace ZeroShim
namespace Library

universe u v

/-- A bounded channel: what is queued, the capacity reserved, and which of its ends
are left. -/
@[ext] structure Channel (α : Type u) (capacity : Nat) where
  queue : List α
  reserved : Nat
  /-- Some sender is left. -/
  senders : Bool
  /-- The receiver is left. -/
  receiver : Bool
  bounded : queue.length + reserved ≤ capacity
deriving DecidableEq

/-- What a receiver finds. -/
inductive Received (α : Type u) (β : Type u) where
  | item (a : α) (rest : β)
  | ended
  | pending

namespace Channel

variable {α : Type u} {capacity : Nat}

/-- A new channel. -/
def empty : Channel α capacity := ⟨[], 0, true, true, Nat.zero_le _⟩

@[simp] theorem queue_empty : (empty : Channel α capacity).queue = [] := rfl

@[simp] theorem reserved_empty : (empty : Channel α capacity).reserved = 0 := rfl

/-- Queue an item where there is room. -/
def send (c : Channel α capacity) (a : α) : Option (Channel α capacity) :=
  if h : c.queue.length + c.reserved < capacity then
    some ⟨c.queue ++ [a], c.reserved, c.senders, c.receiver, by simp; omega⟩
  else none

/-- Reserve room for one item. -/
def reserve (c : Channel α capacity) : Option (Channel α capacity) :=
  if h : c.queue.length + c.reserved < capacity then
    some ⟨c.queue, c.reserved + 1, c.senders, c.receiver, by omega⟩
  else none

/-- Queue an item in room reserved for it.  Without a receiver the item is lost. -/
def sendReserved (c : Channel α capacity) (a : α) : Option (Channel α capacity) :=
  match c with
  | ⟨queue, reserved + 1, senders, true, h⟩ =>
    some ⟨queue ++ [a], reserved, senders, true, by simp; omega⟩
  | ⟨queue, reserved + 1, senders, false, h⟩ =>
    some ⟨queue, reserved, senders, false, by omega⟩
  | ⟨_, 0, _, _, _⟩ => none

/-- Take the next item; the end comes after the last item of the last sender. -/
def recv (c : Channel α capacity) : Received α (Channel α capacity) :=
  match c with
  | ⟨a :: queue, reserved, senders, receiver, h⟩ =>
    .item a ⟨queue, reserved, senders, receiver, by simp at h; omega⟩
  | ⟨[], _, false, _, _⟩ => .ended
  | ⟨[], _, true, _, _⟩ => .pending

/-- The last sender goes away. -/
def dropSenders (c : Channel α capacity) : Channel α capacity := { c with senders := false }

/-- The receiver goes away, and what is queued with it. -/
def dropReceiver (c : Channel α capacity) : Channel α capacity :=
  ⟨[], c.reserved, c.senders, false, by have := c.bounded; simp; omega⟩

/-- Reserved room is given back. -/
def release (c : Channel α capacity) : Channel α capacity :=
  ⟨c.queue, 0, c.senders, c.receiver, by have := c.bounded; omega⟩

variable {c c' : Channel α capacity} {a : α}

@[simp] theorem queue_dropSenders : c.dropSenders.queue = c.queue := rfl

@[simp] theorem reserved_dropSenders : c.dropSenders.reserved = c.reserved := rfl

@[simp] theorem receiver_dropSenders : c.dropSenders.receiver = c.receiver := rfl

@[simp] theorem queue_dropReceiver : c.dropReceiver.queue = [] := rfl

@[simp] theorem reserved_dropReceiver : c.dropReceiver.reserved = c.reserved := rfl

@[simp] theorem receiver_dropReceiver : c.dropReceiver.receiver = false := rfl

@[simp] theorem queue_release : c.release.queue = c.queue := rfl

@[simp] theorem reserved_release : c.release.reserved = 0 := rfl

@[simp] theorem receiver_release : c.release.receiver = c.receiver := rfl

/-- A send appends its item and changes nothing else. -/
theorem of_send (h : c.send a = some c') :
    c'.queue = c.queue ++ [a] ∧ c'.reserved = c.reserved ∧ c'.senders = c.senders ∧
      c'.receiver = c.receiver := by
  unfold send at h
  split at h
  · cases h
    exact ⟨rfl, rfl, rfl, rfl⟩
  · cases h

theorem queue_of_send (h : c.send a = some c') : c'.queue = c.queue ++ [a] := (of_send h).1

/-- A reservation takes room and changes nothing else. -/
theorem of_reserve (h : c.reserve = some c') :
    c'.queue = c.queue ∧ c'.reserved = c.reserved + 1 ∧ c'.senders = c.senders ∧
      c'.receiver = c.receiver := by
  unfold reserve at h
  split at h
  · cases h
    exact ⟨rfl, rfl, rfl, rfl⟩
  · cases h

/-- A reserved send appends its item where there is a receiver, and uses up the
reservation. -/
theorem of_sendReserved (h : c.sendReserved a = some c') :
    c'.queue = c.queue ++ (if c.receiver then [a] else []) ∧
      c'.reserved + 1 = c.reserved ∧ c'.senders = c.senders ∧ c'.receiver = c.receiver := by
  unfold sendReserved at h
  split at h
  · cases h
    simp
  · cases h
    simp
  · cases h

theorem queue_of_sendReserved (h : c.sendReserved a = some c') (hr : c.receiver = true) :
    c'.queue = c.queue ++ [a] := by
  simpa [hr] using (of_sendReserved h).1

/-- Receiving takes the head of the queue and changes nothing else. -/
theorem of_recv (h : c.recv = .item a c') :
    c.queue = a :: c'.queue ∧ c'.reserved = c.reserved ∧ c'.senders = c.senders ∧
      c'.receiver = c.receiver := by
  unfold recv at h
  split at h
  · cases h
    exact ⟨rfl, rfl, rfl, rfl⟩
  · cases h
  · cases h

theorem queue_of_recv (h : c.recv = .item a c') : c.queue = a :: c'.queue := (of_recv h).1

/-- The end is only reached with nothing queued. -/
theorem of_recv_ended (h : c.recv = .ended) : c.queue = [] ∧ c.senders = false := by
  unfold recv at h
  split at h
  · cases h
  · exact ⟨rfl, rfl⟩
  · cases h

/-- What is queued first is received. -/
theorem recv_of_queue {queue : List α} (h : c.queue = a :: queue) :
    ∃ rest, c.recv = .item a rest := by
  rcases c with ⟨_ | ⟨b, queue'⟩, reserved, senders, receiver, hbounded⟩
  · cases h
  · cases h
    exact ⟨_, rfl⟩

/-- A send that has to wait finds the channel full. -/
theorem full_of_send (h : c.send a = none) : capacity ≤ c.queue.length + c.reserved := by
  unfold send at h
  split at h
  · cases h
  · omega

/-! ## Renaming the items -/

section Map

variable {β : Type v} (f : α → β)

/-- The channel with each queued item replaced. -/
def map (c : Channel α capacity) : Channel β capacity :=
  ⟨c.queue.map f, c.reserved, c.senders, c.receiver, by simpa using c.bounded⟩

variable (c : Channel α capacity)

@[simp] theorem queue_map : (c.map f).queue = c.queue.map f := rfl

@[simp] theorem reserved_map : (c.map f).reserved = c.reserved := rfl

@[simp] theorem senders_map : (c.map f).senders = c.senders := rfl

@[simp] theorem receiver_map : (c.map f).receiver = c.receiver := rfl

@[simp] theorem dropSenders_map : (c.map f).dropSenders = c.dropSenders.map f := rfl

@[simp] theorem dropReceiver_map : (c.map f).dropReceiver = c.dropReceiver.map f := rfl

@[simp] theorem release_map : (c.map f).release = c.release.map f := rfl

theorem send_map (a : α) : (c.map f).send (f a) = (c.send a).map (map f) := by
  unfold send
  by_cases hroom : c.queue.length + c.reserved < capacity
  · simp [hroom, map]
  · simp [hroom]

theorem reserve_map : (c.map f).reserve = c.reserve.map (map f) := by
  unfold reserve
  by_cases hroom : c.queue.length + c.reserved < capacity
  · simp [hroom, map]
  · simp [hroom]

theorem sendReserved_map (a : α) :
    (c.map f).sendReserved (f a) = (c.sendReserved a).map (map f) := by
  rcases c with ⟨queue, _ | reserved, senders, receiver, hbounded⟩
  · rfl
  · cases receiver <;> simp [map, sendReserved]

/-- What is received, with the items replaced. -/
theorem recv_map : (c.map f).recv =
    match c.recv with
    | .item a rest => .item (f a) (rest.map f)
    | .ended => .ended
    | .pending => .pending := by
  rcases c with ⟨_ | ⟨a, queue⟩, reserved, senders, receiver, hbounded⟩
  · cases senders <;> rfl
  · rfl

end Map

end Channel

end Library
end ZeroShim
