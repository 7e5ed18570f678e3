/-!
# Broadcasts

A broadcast hands every notification to all who are subscribed to it. Each
subscription has a token of its own, by which it is cancelled, so one listener may
subscribe many times. Tokens are issued in ascending order and never twice, and
the live subscriptions stand in the order in which they were made.
-/
namespace EditorLink

/-- One subscription: the token that cancels it, and who is told. -/
structure Subscription (α : Type) where
  token : Nat
  listener : α
deriving DecidableEq

/-- The live subscriptions, and how many were ever made. -/
structure Broadcast (α : Type) where
  issued : Nat
  live : List (Subscription α)

namespace Broadcast
variable {α : Type}

def empty : Broadcast α := ⟨0, []⟩

instance : Inhabited (Broadcast α) := ⟨empty⟩

def subscribe (b : Broadcast α) (listener : α) : Broadcast α × Nat :=
  (⟨b.issued + 1, b.live ++ [⟨b.issued, listener⟩]⟩, b.issued)

/-- Ends the subscription with a token; there may be none. -/
def cancel (b : Broadcast α) (token : Nat) : Broadcast α :=
  { b with live := b.live.filter (·.token ≠ token) }

/-- The listeners of all live subscriptions, in the order in which they subscribed. -/
def listeners (b : Broadcast α) : List α := b.live.map (·.listener)

def size (b : Broadcast α) : Nat := b.live.length

def holds (b : Broadcast α) (token : Nat) : Bool := b.live.any (·.token = token)

@[simp] theorem listeners_subscribe (b : Broadcast α) (listener : α) :
    (b.subscribe listener).1.listeners = b.listeners ++ [listener] := by
  simp [subscribe, listeners]

@[simp] theorem size_subscribe (b : Broadcast α) (listener : α) :
    (b.subscribe listener).1.size = b.size + 1 := by
  simp [subscribe, size]

theorem cancel_cancel (b : Broadcast α) (token : Nat) :
    (b.cancel token).cancel token = b.cancel token := by
  simp [cancel]

section Equality
variable [DecidableEq α]

def cancelAll (b : Broadcast α) (listener : α) : Broadcast α :=
  { b with live := b.live.filter (·.listener ≠ listener) }

def contains (b : Broadcast α) (listener : α) : Bool := b.live.any (·.listener = listener)

@[simp] theorem contains_cancelAll (b : Broadcast α) (listener : α) :
    (b.cancelAll listener).contains listener = false := by
  simp [cancelAll, contains]

end Equality
end Broadcast
end EditorLink
