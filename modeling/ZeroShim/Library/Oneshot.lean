import Mathlib.Logic.Function.Basic
import Mathlib.Data.Multiset.Basic

/-!
# One-shot channels

A table of channels that carry one value each, named by the order in which they
were opened.  A value sent to a live receiver is what it polls, whatever happens to the
sender afterwards.

Main results:

- Theorem {lit}`Oneshots.poll_fire`: a live receiver polls the value sent.
- Theorem {lit}`Oneshots.value_dropSenders`: senders that go away take no value back.
- Theorem {lit}`Oneshots.poll_eq_gone`: what a receiver finds when its sender went away
  unused.
-/

namespace ZeroShim
namespace Library

universe u

/-- One channel: the value sent and not yet taken, and which ends are left. -/
structure Oneshot (α : Type u) where
  value : Option α
  sender : Bool
  receiver : Bool
deriving DecidableEq, Repr

/-- What the receiver of a one-shot channel finds. -/
inductive Polled (α : Type u) where
  | ready (a : α)
  | gone
  | pending
deriving DecidableEq, Repr

/-- The channels opened so far. -/
structure Oneshots (α : Type u) where
  opened : Nat
  cell : Nat → Oneshot α

namespace Oneshot

variable {α : Type u}

def fresh : Oneshot α := ⟨none, true, true⟩

/-- Sending uses up the sender; without a receiver the value is lost. -/
def fire (a : α) (o : Oneshot α) : Oneshot α :=
  ⟨if o.receiver then some a else o.value, false, o.receiver⟩

def dropSender (o : Oneshot α) : Oneshot α := { o with sender := false }

def dropReceiver (o : Oneshot α) : Oneshot α := { o with receiver := false }

def poll (o : Oneshot α) : Polled α :=
  match o.value with
  | some a => .ready a
  | none => if o.sender then .pending else .gone

end Oneshot

namespace Oneshots

variable {α : Type u} (os : Oneshots α) (i j : Nat)

def initial : Oneshots α := ⟨0, fun _ => .fresh⟩

/-- Open a channel; its name is the number opened before it. -/
def openNext : Oneshots α := ⟨os.opened + 1, Function.update os.cell os.opened .fresh⟩

/-- Change one channel. -/
def change (f : Oneshot α → Oneshot α) : Oneshots α :=
  ⟨os.opened, Function.update os.cell i (f (os.cell i))⟩

def fire (a : α) : Oneshots α := os.change i (Oneshot.fire a)

def dropReceiver : Oneshots α := os.change i Oneshot.dropReceiver

/-- The senders in a collection go away. -/
def dropSenders (gone : Multiset Nat) : Oneshots α :=
  ⟨os.opened, fun i => if i ∈ gone then (os.cell i).dropSender else os.cell i⟩

/-- {lit}`is_closed`: the receiver is gone. -/
def isClosed : Bool := !(os.cell i).receiver

def poll : Polled α := (os.cell i).poll

/-! ## What a receiver finds -/

variable {os : Oneshots α} {i : Nat}

theorem poll_eq_ready {a : α} : os.poll i = .ready a ↔ (os.cell i).value = some a := by
  unfold poll Oneshot.poll
  cases (os.cell i).value with
  | some b => simp
  | none => cases (os.cell i).sender <;> simp

theorem poll_eq_gone :
    os.poll i = .gone ↔ (os.cell i).value = none ∧ (os.cell i).sender = false := by
  unfold poll Oneshot.poll
  cases (os.cell i).value with
  | some b => simp
  | none => cases (os.cell i).sender <;> simp

theorem poll_eq_pending :
    os.poll i = .pending ↔ (os.cell i).value = none ∧ (os.cell i).sender = true := by
  unfold poll Oneshot.poll
  cases (os.cell i).value with
  | some b => simp
  | none => cases (os.cell i).sender <;> simp

/-- A live receiver polls the value sent. -/
theorem poll_fire {a : α} (h : (os.cell i).receiver = true) :
    (os.fire i a).poll i = .ready a := by
  rw [poll_eq_ready]
  simp [fire, change, Oneshot.fire, h]

/-! ## Senders that go away -/

variable (os i) (gone : Multiset Nat)

@[simp]
theorem value_dropSenders : ((os.dropSenders gone).cell i).value = (os.cell i).value := by
  unfold dropSenders Oneshot.dropSender
  dsimp only
  split_ifs <;> rfl

@[simp]
theorem receiver_dropSenders :
    ((os.dropSenders gone).cell i).receiver = (os.cell i).receiver := by
  unfold dropSenders Oneshot.dropSender
  dsimp only
  split_ifs <;> rfl

end Oneshots

end Library
end ZeroShim
